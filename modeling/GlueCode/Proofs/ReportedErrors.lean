import GlueCode.Proofs.LongIntegers
import GlueCode.Proofs.SavedSettings
/-! # Settings files that are bad

A settings file may be missing, carry another suffix, be a directory, or hold what is no JSON or no
object: each time loading fails with an error that names the file. Four things go unreported: the
name may be too long to be looked up, the bytes may be no text, an integer may be too long to be
read, and the value under `custom` may not be a dictionary where unknown keys have to join it. -/
namespace GlueCode.Settings

section

variable {ε α β : Type}

def Succeeds (x : Except ε α) : Prop := ∃ a, x = .ok a

theorem succeeds_ok (a : α) : Succeeds (.ok a : Except ε α) := ⟨a, rfl⟩

theorem not_succeeds_error (e : ε) : ¬Succeeds (.error e : Except ε α) := by
  rintro ⟨a, ha⟩
  cases ha

theorem succeeds_bind {x : Except ε α} {f : α → Except ε β} :
    Succeeds (x >>= f) ↔ ∃ a, x = .ok a ∧ Succeeds (f a) := by
  constructor
  · rintro ⟨b, hb⟩
    obtain ⟨a, hx, hf⟩ := ok_of_bind hb
    exact ⟨a, hx, b, hf⟩
  · rintro ⟨a, rfl, hf⟩
    exact hf

theorem succeeds_mapM {f : α → Except ε β} {l : List α} :
    Succeeds (l.mapM f) ↔ ∀ x ∈ l, Succeeds (f x) := by
  induction l with
  | nil => exact iff_of_true ⟨[], rfl⟩ (by simp)
  | cons x l ih =>
    rw [List.mapM_cons, succeeds_bind, List.forall_mem_cons, ← ih]
    constructor
    · rintro ⟨b, hb, hrest⟩
      obtain ⟨bs, hbs, -⟩ := succeeds_bind.1 hrest
      exact ⟨⟨b, hb⟩, bs, hbs⟩
    · rintro ⟨⟨b, hb⟩, bs, hbs⟩
      exact ⟨b, hb, succeeds_bind.2 ⟨bs, hbs, succeeds_ok _⟩⟩

end

inductive SpellsPair : Json → Prop where
  | characters {s : String} {first second : Char} (h : s.toList = [first, second]) :
      SpellsPair (.str s)
  | items {key : Json} {k : Key} (h : Key.ofJson? key = some k) (value : Json) :
      SpellsPair (.arr [key, value])
  | keys (first second : String × Json) : SpellsPair (.obj [first, second])

inductive SpellsDictionary : Json → Prop where
  | fields (fields : Json.Fields) : SpellsDictionary (.obj fields)
  | pairs {items : List Json} (h : ∀ item ∈ items, SpellsPair item) : SpellsDictionary (.arr items)
  | blank : SpellsDictionary (.str "")

theorem pairOf_eq {item : Json} {members : List Json} (h : membersOf item = .ok members) :
    Succeeds (pairOf item) ↔ ∃ key value k, members = [key, value] ∧ Key.ofJson? key = some k := by
  rw [pairOf, h]
  simp only [bind, Except.bind]
  split
  · next key value =>
    cases hkey : Key.ofJson? key with
    | none =>
      refine iff_of_false (not_succeeds_error _) ?_
      rintro ⟨key', value', k, hmembers, hk⟩
      obtain ⟨rfl, -⟩ := List.cons.inj hmembers
      rw [hkey] at hk
      cases hk
    | some k => exact iff_of_true (succeeds_ok _) ⟨key, value, k, rfl, hkey⟩
  · next hnot =>
    refine iff_of_false (not_succeeds_error _) ?_
    rintro ⟨key, value, k, hmembers, -⟩
    exact hnot key value hmembers

theorem pairOf_succeeds_iff {item : Json} : Succeeds (pairOf item) ↔ SpellsPair item := by
  cases item with
  | str s =>
    rw [pairOf_eq rfl]
    constructor
    · rintro ⟨key, value, k, hmembers, -⟩
      obtain ⟨first, rest, hs, -, hrest⟩ := List.map_eq_cons_iff.1 hmembers
      obtain ⟨second, last, rfl, -, hlast⟩ := List.map_eq_cons_iff.1 hrest
      rw [List.map_eq_nil_iff.1 hlast] at hs
      exact .characters hs
    · rintro ⟨hs⟩
      rw [hs]
      exact ⟨_, _, _, rfl, rfl⟩
  | arr items =>
    rw [pairOf_eq rfl]
    constructor
    · rintro ⟨key, value, k, rfl, hk⟩
      exact .items hk value
    · rintro ⟨⟩
      next h value => exact ⟨_, value, _, rfl, h⟩
  | obj fields =>
    rw [pairOf_eq rfl]
    constructor
    · rintro ⟨key, value, k, hmembers, -⟩
      obtain ⟨first, rest, rfl, -, hrest⟩ := List.map_eq_cons_iff.1 hmembers
      obtain ⟨second, last, rfl, -, hlast⟩ := List.map_eq_cons_iff.1 hrest
      rw [List.map_eq_nil_iff.1 hlast]
      exact .keys first second
    · rintro ⟨⟩
      exact ⟨_, _, _, rfl, rfl⟩
  | null | bool | int | float =>
    refine iff_of_false (not_succeeds_error _) ?_
    rintro ⟨⟩

theorem not_spellsPair_singleton (c : Char) : ¬SpellsPair (.str (String.singleton c)) := by
  rintro ⟨h⟩
  simp at h

theorem dictionaryOf_other {value : Json} {members : List Json}
    (h : membersOf value = .ok members) :
    Succeeds (dictionaryOf (.other value)) ↔ ∀ member ∈ members, SpellsPair member := by
  rw [dictionaryOf, h]
  change Succeeds (members.mapM pairOf >>= fun pairs => _) ↔ _
  simp only [← pairOf_succeeds_iff]
  rw [← succeeds_mapM, succeeds_bind]
  constructor
  · rintro ⟨pairs, hpairs, -⟩
    exact ⟨pairs, hpairs⟩
  · rintro ⟨pairs, hpairs⟩
    exact ⟨pairs, hpairs, succeeds_ok _⟩

theorem dictionaryOf_succeeds_iff {value : Json} :
    Succeeds (dictionaryOf (.ofJson value)) ↔ SpellsDictionary value := by
  cases value with
  | obj fields => exact iff_of_true (succeeds_ok _) (.fields fields)
  | arr items =>
    rw [Custom.ofJson, dictionaryOf_other rfl]
    · constructor
      · exact .pairs
      · rintro ⟨⟩
        assumption
    · rintro fields ⟨⟩
  | str s =>
    rw [Custom.ofJson, dictionaryOf_other rfl]
    · constructor
      · intro h
        have hblank : s.toList = [] := by
          cases hs : s.toList with
          | nil => rfl
          | cons c cs =>
            rw [hs] at h
            exact absurd (h _ List.mem_cons_self) (not_spellsPair_singleton c)
        rw [String.toList_eq_nil_iff.1 hblank]
        exact .blank
      · rintro ⟨⟩
        simp
    · rintro fields ⟨⟩
  | null | bool | int | float =>
    refine iff_of_false (not_succeeds_error _) ?_
    rintro ⟨⟩

theorem holds_ofJson (value : Json) : (Custom.ofJson value).holds = value.holds := by
  cases value with
  | obj fields => cases fields <;> rfl
  | _ => rfl

/-- There are unknown keys, and a value under `custom` that holds but is no dictionary. -/
def Muddled (fields : Json.Fields) : Prop :=
  (∃ key ∉ fieldNames, Ledger.has key fields = true) ∧
    ∃ value, Ledger.get? "custom" fields = some value ∧ value.holds = true ∧
      ¬SpellsDictionary value

theorem isEmpty_unknownOf {fields : Json.Fields} :
    (unknownOf fields).isEmpty = true ↔ ¬∃ key ∉ fieldNames, Ledger.has key fields = true := by
  rw [List.isEmpty_iff, unknownOf, List.filter_eq_nil_iff]
  constructor
  · rintro hknown ⟨key, hkey, hhas⟩
    obtain ⟨entry, hentry, rfl⟩ := List.mem_map.1 (Ledger.mem_keys_iff.2 hhas)
    exact hknown entry hentry (by simpa using hkey)
  · intro hnone entry hentry hunknown
    have hkey : entry.1 ∉ fieldNames := by simpa using hunknown
    exact hnone ⟨entry.1, hkey, Ledger.mem_keys_iff.1 (List.mem_map_of_mem hentry)⟩

theorem ofMerged_succeeds_iff {fields : Json.Fields} :
    Succeeds (ofMerged fields) ↔ ¬Muddled fields := by
  have hunknown : (fields.filter fun entry => !fieldNames.contains entry.1) = unknownOf fields :=
    rfl
  by_cases hempty : (unknownOf fields).isEmpty = true
  · refine iff_of_true ?_ fun h => isEmpty_unknownOf.1 hempty h.1
    simp only [ofMerged, hunknown, hempty, ↓reduceIte]
    exact succeeds_ok _
  · have hsome := not_not.1 (mt isEmpty_unknownOf.2 hempty)
    have hread : Succeeds (ofMerged fields) ↔ ((ofKnown fields).custom.holds = true →
        Succeeds (dictionaryOf (ofKnown fields).custom)) := by
      simp only [ofMerged, hunknown, hempty]
      by_cases hholds : (ofKnown fields).custom.holds = true
      · simp only [hholds, ↓reduceIte, Bool.false_eq_true, forall_const]
        rw [succeeds_bind]
        constructor
        · rintro ⟨custom, hcustom, -⟩
          exact ⟨custom, hcustom⟩
        · rintro ⟨custom, hcustom⟩
          exact ⟨custom, hcustom, succeeds_ok _⟩
      · simp only [hholds]
        exact iff_of_true (succeeds_ok _) (by simp)
    rw [hread, Muddled]
    cases hvalue : Ledger.get? "custom" fields with
    | none =>
      have hcustom : (ofKnown fields).custom = .dictionary [] := by
        rw [ofKnown, hvalue]
        rfl
      rw [hcustom]
      exact iff_of_true (fun _ => succeeds_ok _) (by simp)
    | some value =>
      have hcustom : (ofKnown fields).custom = .ofJson value := by
        rw [ofKnown, hvalue]
        rfl
      rw [hcustom, holds_ofJson, dictionaryOf_succeeds_iff]
      simp [hsome]

theorem muddled_reread {fields : Json.Fields} (hkeys : (Ledger.keys fields).Nodup) :
    Muddled (mergedLayers fields []) ↔ Muddled fields := by
  have hunknown : ∀ key ∉ fieldNames,
      Ledger.has key (mergedLayers fields []) = Ledger.has key fields := by
    intro key hkey
    have hdefault : Ledger.get? key ({} : Settings).toFields = none :=
      Ledger.get?_eq_none_iff.2 hkey
    rw [Ledger.has, Ledger.has, get?_reread hkeys, hdefault, Option.or_none]
  have hdefault : Ledger.get? "custom" ({} : Settings).toFields = some (.obj []) := rfl
  have hcustom := get?_reread hkeys "custom"
  rw [hdefault] at hcustom
  rw [Muddled, Muddled, hcustom]
  refine and_congr ?_ ?_
  · exact exists_congr fun key => and_congr_right fun hkey => by rw [hunknown key hkey]
  · cases Ledger.get? "custom" fields with
    | some value => simp
    | none =>
      refine iff_of_false ?_ (by simp)
      rintro ⟨value, hvalue, -, hnot⟩
      obtain rfl := Option.some.inj hvalue
      exact hnot (.fields [])

/-- No error that the work may come to has a text. -/
def Silent {α : Type} (work : Except SettingsError α) : Prop :=
  ∀ e, work = .error e → e.message? = none

section

variable {α β : Type}

theorem silent_ok (a : α) : Silent (.ok a) := by
  intro e he
  cases he

theorem silent_error {e : SettingsError} (h : e.message? = none) :
    Silent (.error e : Except SettingsError α) := by
  intro e' he
  obtain rfl := Except.error.inj he
  exact h

theorem Silent.bind {x : Except SettingsError α} {f : α → Except SettingsError β} (hx : Silent x)
    (hf : ∀ a, Silent (f a)) : Silent (x >>= f) := by
  cases x with
  | error e => exact silent_error (hx e rfl)
  | ok a => exact hf a

theorem Silent.mapM {f : α → Except SettingsError β} (hf : ∀ a, Silent (f a)) (l : List α) :
    Silent (l.mapM f) := by
  induction l with
  | nil => exact silent_ok []
  | cons a l ih =>
    rw [List.mapM_cons]
    exact (hf a).bind fun b => ih.bind fun bs => silent_ok (b :: bs)

end

theorem silent_membersOf (value : Json) : Silent (membersOf value) := by
  cases value with
  | str | arr | obj => exact silent_ok _
  | null | bool | int | float => exact silent_error rfl

theorem silent_pairOf (item : Json) : Silent (pairOf item) := by
  refine (silent_membersOf item).bind fun members => ?_
  split
  · split
    · exact silent_ok _
    · exact silent_error rfl
  · exact silent_error rfl

theorem silent_dictionaryOf (custom : Custom) : Silent (dictionaryOf custom) := by
  cases custom with
  | dictionary entries => exact silent_ok entries
  | other value =>
    refine (silent_membersOf value).bind fun members => ?_
    exact (Silent.mapM silent_pairOf members).bind fun pairs => silent_ok _

theorem silent_ofMerged (fields : Json.Fields) : Silent (ofMerged fields) := by
  rw [ofMerged]
  dsimp only
  split
  · exact silent_ok _
  · split
    · exact (silent_dictionaryOf _).bind fun custom => silent_ok _
    · exact silent_ok _

/-- The work comes to a result, or to an error that is reported with the name of the file. -/
def IsReported {α : Type} (work : Except SettingsError α) (shown : String) : Prop :=
  Succeeds work ∨ ∃ e opening, work = .error e ∧ e.message? = some (opening ++ shown)

theorem Silent.isReported_iff {α : Type} {work : Except SettingsError α} {shown : String}
    (h : Silent work) : IsReported work shown ↔ Succeeds work := by
  refine ⟨fun hreported => hreported.resolve_right ?_, .inl⟩
  rintro ⟨e, opening, he, hmessage⟩
  rw [h e he] at hmessage
  cases hmessage

structure IsOpened (disk : Disk) (path : Path) (bytes : ByteArray) : Prop where
  isThere : disk.has path = .ok true
  suffix : Text.lower path.suffix = ".json"
  bytes : disk.read path = .ok bytes

def fieldsIn (shown : String) (bytes : ByteArray) : Except SettingsError Json.Fields :=
  match String.fromUTF8? bytes with
  | none => .error .notText
  | some text =>
    match Json.read text with
    | .error .malformed => .error (.invalidJson shown)
    | .error .integerTooLong => .error .integerTooLong
    | .ok (.obj fields) => .ok fields
    | .ok _ => .error (.notObject shown)

/-- What keeps a file from being read, and goes unreported. -/
inductive SlipsReading (disk : Disk) (path : Path) : Prop where
  | longName (h : disk.has path = .error .tooLong)
  | notText {bytes : ByteArray} (hopened : IsOpened disk path bytes)
      (h : String.fromUTF8? bytes = none)
  | longInteger {bytes : ByteArray} {text : String} (hopened : IsOpened disk path bytes)
      (htext : String.fromUTF8? bytes = some text) (h : Json.read text = .error .integerTooLong)

inductive Slips (disk : Disk) (path : Path) : Prop where
  | reading (h : SlipsReading disk path)
  | custom {fields : Json.Fields} (hread : readFile disk path = .ok fields) (h : Muddled fields)

section

variable {disk : Disk} {path : Path}

theorem readFile_opened {bytes : ByteArray} (h : IsOpened disk path bytes) :
    readFile disk path = fieldsIn path.text bytes := by
  simp only [readFile, h.isThere, h.suffix, h.bytes, ne_eq, not_true_eq_false, ↓reduceIte]
  rfl

theorem SlipsReading.readFile_error (h : SlipsReading disk path) :
    ∃ e, readFile disk path = .error e ∧ e.message? = none := by
  cases h with
  | longName h =>
    refine ⟨.unnameable .tooLong, ?_, rfl⟩
    simp only [readFile, h]
  | notText hopened h =>
    refine ⟨.notText, ?_, rfl⟩
    rw [readFile_opened hopened, fieldsIn, h]
  | longInteger hopened htext h =>
    refine ⟨.integerTooLong, ?_, rfl⟩
    rw [readFile_opened hopened, fieldsIn, htext]
    simp only [h]

theorem tooLong_of_has {e : Unnameable} (h : disk.has path = .error e) : e = .tooLong := by
  rw [Disk.has] at h
  split at h
  · cases h
  · split at h
    · cases h
    · cases h
      rfl
    · cases h

theorem readFile_reported (h : ¬SlipsReading disk path) :
    IsReported (readFile disk path) path.text := by
  cases hhas : disk.has path with
  | error e =>
    obtain rfl := tooLong_of_has hhas
    exact absurd (.longName hhas) h
  | ok isThere =>
    cases isThere with
    | false =>
      refine .inr ⟨.notFound path.text, _, ?_, rfl⟩
      simp only [readFile, hhas]
    | true =>
      by_cases hsuffix : Text.lower path.suffix = ".json"
      · cases hread : disk.read path with
        | error e =>
          refine .inr ⟨.unreadable path.text, _, ?_, rfl⟩
          simp only [readFile, hhas, hsuffix, hread, ne_eq, not_true_eq_false, ↓reduceIte]
        | ok bytes =>
          have hopened : IsOpened disk path bytes := ⟨hhas, hsuffix, hread⟩
          rw [readFile_opened hopened, fieldsIn]
          cases htext : String.fromUTF8? bytes with
          | none => exact absurd (.notText hopened htext) h
          | some text =>
            dsimp only
            cases hjson : Json.read text with
            | error e =>
              cases e with
              | malformed => exact .inr ⟨.invalidJson path.text, _, rfl, rfl⟩
              | integerTooLong => exact absurd (.longInteger hopened htext hjson) h
            | ok value =>
              cases value with
              | obj fields => exact .inl (succeeds_ok fields)
              | _ => exact .inr ⟨.notObject path.text, _, rfl, rfl⟩
      · refine .inr ⟨.notJsonFile path.text, _, ?_, rfl⟩
        simp only [readFile, hhas, hsuffix, ne_eq, not_false_eq_true, ↓reduceIte]

end

theorem load_error {disk : Disk} {overrides : Json.Fields} {file : String} {e : SettingsError}
    (hfile : file ≠ "") (hread : readFile disk (Path.ofString file) = .error e) :
    (load disk overrides file).value = .error e := by
  simp only [load, hfile, ↓reduceIte, hread]
  rfl

/-- Without overrides, loading comes to settings or to an error that is reported with the name of
the file, except for the four kinds of files that slip. Of these, integers that are too long show as
long runs of digits in the text. -/
theorem load_reported_iff (disk : Disk) (file : String) :
    (IsReported (load disk [] file).value (Path.ofString file).text ↔
      ¬(file ≠ "" ∧ Slips disk (Path.ofString file))) ∧
    ∀ text, Json.read text = .error .integerTooLong → Json.HasLongRun text.toList := by
  refine ⟨?_, fun _ => Json.hasLongRun_of_read⟩
  by_cases hfile : file = ""
  · subst hfile
    exact iff_of_true (.inl ⟨_, rfl⟩) fun h => h.1 rfl
  · simp only [ne_eq, hfile, not_false_eq_true, true_and]
    by_cases hslips : SlipsReading disk (Path.ofString file)
    · refine iff_of_false ?_ (not_not.2 (.reading hslips))
      obtain ⟨e, hread, hsilent⟩ := hslips.readFile_error
      rw [load_error hfile hread, (silent_error hsilent).isReported_iff]
      exact not_succeeds_error e
    · rcases readFile_reported hslips with ⟨fields, hread⟩ | ⟨e, opening, hread, hmessage⟩
      · have hkeys := (keyedOnce_of_readFile hread).keys
        rw [load_value hfile hread, (silent_ofMerged _).isReported_iff, ofMerged_succeeds_iff,
          muddled_reread hkeys]
        refine not_congr ⟨fun hmuddled => .custom hread hmuddled, ?_⟩
        rintro (hslip | ⟨hok, hmuddled⟩)
        · exact absurd hslip hslips
        · obtain rfl := Except.ok.inj (hread.symm.trans hok)
          exact hmuddled
      · rw [load_error hfile hread]
        refine iff_of_true (.inr ⟨e, opening, rfl, hmessage⟩) ?_
        rintro (hslip | ⟨hok, -⟩)
        · exact hslips hslip
        · rw [hread] at hok
          cases hok

def oneByteDisk : Disk := (Disk.blank ["home"]).put ["home", "c.json"] (.file ⟨#[0xff]⟩)

/-- A file that is no text, and one whose unknown key cannot join the number five. -/
theorem files_unreported :
    ((load oneByteDisk [] "c.json").value = .error .notText ∧
        ¬IsReported (load oneByteDisk [] "c.json").value "c.json") ∧
      readFile (settingsDisk "\x7b\"k\": 1, \"custom\": 5\x7d") (Path.ofString "c.json") =
          .ok [("k", .int 1), ("custom", .int 5)] ∧
        ¬IsReported (load (settingsDisk "\x7b\"k\": 1, \"custom\": 5\x7d") [] "c.json").value
          "c.json" := by
  have hopened : IsOpened oneByteDisk (Path.ofString "c.json") ⟨#[0xff]⟩ :=
    ⟨rfl, by decide +kernel, rfl⟩
  have hread : readFile oneByteDisk (Path.ofString "c.json") = .error .notText := by
    rw [readFile_opened hopened]
    rfl
  have hload : (load oneByteDisk [] "c.json").value = .error .notText :=
    load_error (by decide) hread
  have htext : "\x7b\"k\": 1, \"custom\": 5\x7d".toList =
      ['\x7b', '"', 'k', '"', ':', ' ', '1', ',', ' ', '"', 'c', 'u', 's', 't', 'o', 'm', '"',
        ':', ' ', '5', '\x7d'] := by decide +kernel
  have hfields : readFile (settingsDisk "\x7b\"k\": 1, \"custom\": 5\x7d")
      (Path.ofString "c.json") = .ok [("k", .int 1), ("custom", .int 5)] :=
    readFile_settingsDisk htext rfl
  have hmuddled : Muddled [("k", .int 1), ("custom", .int 5)] :=
    ⟨⟨"k", by decide, rfl⟩, .int 5, rfl, rfl, by rintro ⟨⟩⟩
  refine ⟨⟨hload, ?_⟩, hfields, ?_⟩
  · rw [hload, (silent_error rfl).isReported_iff]
    exact not_succeeds_error _
  · rw [load_value (by decide) hfields, (silent_ofMerged _).isReported_iff, ofMerged_succeeds_iff,
      muddled_reread (by decide), not_not]
    exact hmuddled

end GlueCode.Settings
