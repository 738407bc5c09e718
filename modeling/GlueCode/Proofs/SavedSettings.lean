import GlueCode.Proofs.Precedence
import GlueCode.Proofs.SameJson
/-! # Settings that are saved and loaded again

Saving puts the custom settings beside the fields, and loading parts them again by the names of the
fields. So the settings come back just when no custom setting has the name of a field. A custom
setting named like a plain field is read as that field and is missing among the custom settings. One
named `custom` is read as all the custom settings, and those do not have it back: what it holds lies
deeper than itself. -/
namespace GlueCode

structure Customs.Same (entries others : Customs) : Prop where
  keys : ∀ key, (∃ entry ∈ entries, entry.1.isSame key = true) ↔
    ∃ other ∈ others, other.1.isSame key = true
  values : ∀ entry ∈ entries, ∀ other ∈ others, entry.1.isSame other.1 = true →
    entry.2.Same other.2

def Custom.Same : Custom → Custom → Prop
  | .dictionary entries, .dictionary others => Customs.Same entries others
  | .other value, .other value' => value.Same value'
  | _, _ => False

structure Settings.Same (s t : Settings) : Prop where
  outputDirectory : s.outputDirectory.Same t.outputDirectory
  packageName : s.packageName.Same t.packageName
  licenseComment : s.licenseComment.Same t.licenseComment
  maxWorkers : s.maxWorkers.Same t.maxWorkers
  custom : s.custom.Same t.custom

/-- The text of the value is read as the value again. -/
def Json.ReadsBack (value : Json) : Prop :=
  ∃ back, Json.read value.pretty = .ok back ∧ back.Same value

structure Disk.TakesFile (d : Disk) (p : Path) : Prop where
  nameable : p.isNameable = true
  free : ∃ loc, d.locate p = .ok loc ∧ d.get? loc ≠ some .directory

theorem Disk.TakesFile.write {d : Disk} {p : Path} (h : d.TakesFile p) (bytes : ByteArray) :
    ∃ after, d.write p bytes = .ok after ∧ after.has p = .ok true ∧ after.read p = .ok bytes := by
  obtain ⟨loc, hloc, hfree⟩ := h.free
  have hreplaced : d.Replaced loc (d.put loc (.file bytes)) := replaced_put hfree
  have hlocate := hreplaced.locate hloc
  have hfile : (d.put loc (.file bytes)).get? loc = some (.file bytes) := by
    rw [get?_put, if_pos rfl]
  refine ⟨d.put loc (.file bytes), ?_, ?_, read_ok_iff.2 ⟨loc, hlocate, hfile⟩⟩
  · rw [Disk.write, hloc]
    cases hnode : d.get? loc with
    | none => simp [hnode, bind, Except.bind]
    | some node =>
      cases node with
      | file old => simp [hnode, bind, Except.bind]
      | directory => exact absurd hnode hfree
  · simp [Disk.has, h.nameable, hlocate, hfile]

theorem Customs.same_ofFields {fields others : Json.Fields}
    (h : Json.Same (.obj fields) (.obj others)) :
    Customs.Same (.ofFields fields) (.ofFields others) := by
  have hkeys : ∀ (l : Json.Fields) (key : Key),
      (∃ entry ∈ Customs.ofFields l, entry.1.isSame key = true) ↔
        ∃ k ∈ Ledger.keys l, (Key.text k).isSame key = true := by
    intro l key
    constructor
    · rintro ⟨entry, hentry, hkey⟩
      obtain ⟨k, v, hv, rfl⟩ := mem_ofFields.1 hentry
      exact ⟨k, List.mem_map.2 ⟨(k, v), hv, rfl⟩, hkey⟩
    · rintro ⟨k, hk, hkey⟩
      obtain ⟨⟨_, v⟩, hv, rfl⟩ := List.mem_map.1 hk
      exact ⟨_, text_mem_ofFields.2 hv, hkey⟩
  cases h with
  | number left => cases left
  | obj keys values =>
    refine ⟨fun key => ?_, fun entry hentry other hother hsame => ?_⟩
    · simp only [hkeys, keys]
    · obtain ⟨k, v, hv, rfl⟩ := mem_ofFields.1 hentry
      obtain ⟨k', w, hw, rfl⟩ := mem_ofFields.1 hother
      obtain rfl := Key.isSame_text_iff.1 hsame
      exact values k v w hv hw

namespace Settings

theorem mem_keys_plainFields {s : Settings} {key : String} :
    key ∈ Ledger.keys s.plainFields ↔ key ∈ fieldNames ∧ key ≠ "custom" := by
  have hnames : fieldNames = Ledger.keys s.plainFields ++ ["custom"] := rfl
  have hcustom : "custom" ∉ Ledger.keys s.plainFields := by simp [Ledger.keys, plainFields]
  rw [hnames, List.mem_append, List.mem_singleton]
  constructor
  · intro hmem
    refine ⟨.inl hmem, ?_⟩
    rintro rfl
    exact hcustom hmem
  · rintro ⟨hmem | rfl, hne⟩
    · exact hmem
    · exact absurd rfl hne

theorem same_of_plainFields {s t : Settings}
    (hplain : ∀ key ∈ fieldNames, key ≠ "custom" →
      Option.Rel Json.Same (Ledger.get? key s.plainFields) (Ledger.get? key t.plainFields))
    (hcustom : s.custom.Same t.custom) : s.Same t := by
  have hsame : ∀ {a b : Json}, Option.Rel Json.Same (some a) (some b) → a.Same b := by
    intro a b h
    cases h with
    | some h => exact h
  exact
    { outputDirectory := hsame (hplain "output_directory" (by decide) (by decide))
      packageName := hsame (hplain "package_name" (by decide) (by decide))
      licenseComment := hsame (hplain "license_comment" (by decide) (by decide))
      maxWorkers := hsame (hplain "max_workers" (by decide) (by decide))
      custom := hcustom }

theorem flattened_eq {s : Settings} {given : Json.Fields}
    (hcustom : s.custom = .dictionary (.ofFields given)) :
    s.flattened = .ok (.ofFields (Ledger.merge s.plainFields given)) := by
  rw [flattened, hcustom, ← Customs.ofFields_merge]
  rfl

theorem save_ok {s : Settings} {given : Json.Fields} {disk : Disk} {file : String}
    (hcustom : s.custom = .dictionary (.ofFields given))
    (htakes : disk.TakesFile (Path.ofString file)) :
    ∃ after, save s disk file = .ok after ∧ after.has (Path.ofString file) = .ok true ∧
      after.read (Path.ofString file) =
        .ok (Json.pretty (.obj (Ledger.merge s.plainFields given))).toUTF8 := by
  obtain ⟨after, hwrite, hread⟩ := htakes.write
    (Json.pretty (.obj (Ledger.merge s.plainFields given))).toUTF8
  refine ⟨after, ?_, hread⟩
  simp only [save, flattened_eq hcustom, htakes.nameable, Customs.toFields_ofFields, hwrite,
    bind, Except.bind, Bool.not_true, Bool.false_eq_true, ↓reduceIte]
  rfl

theorem get?_reread {back : Json.Fields} (hback : (Ledger.keys back).Nodup) (key : String) :
    Ledger.get? key (mergedLayers back []) =
      (Ledger.get? key back).or (Ledger.get? key ({} : Settings).toFields) := by
  have hnone : (Ledger.keys ([] : Json.Fields)).Nodup := List.nodup_nil
  rw [get?_mergedLayers hback hnone, Ledger.get?_nil, Option.none_or]

theorem get?_unknownOf_field (fields : Json.Fields) {key : String} (hkey : key ∈ fieldNames) :
    Ledger.get? key (unknownOf fields) = none := by
  rw [Ledger.get?_eq_none_iff]
  intro hmem
  obtain ⟨entry, hentry, rfl⟩ := List.mem_map.1 hmem
  simp [unknownOf, hkey] at hentry

/-- With no custom dictionary of its own, a layer has its unknown keys for custom settings. -/
theorem ofMerged_fresh {fields : Json.Fields} (hkeys : (Ledger.keys fields).Nodup)
    (hcustom : Ledger.get? "custom" fields = some (.obj [])) :
    ofMerged fields =
      .ok { ofKnown fields with custom := .dictionary (.ofFields (unknownOf fields)) } := by
  have hdictionary : HasCustomDictionary fields := by
    intro value hvalue
    exact ⟨[], Option.some.inj (hvalue.symm.trans hcustom)⟩
  have hnone : customOf fields = [] := by rw [customOf, hcustom]
  have hnodup := nodup_unknownOf hkeys
  have hknown : (ofKnown fields).custom = .dictionary (.ofFields []) := by
    rw [custom_ofKnown hdictionary, hnone]
  rw [ofMerged_eq hdictionary, hnone]
  split
  · next hempty =>
    rw [List.isEmpty_iff.1 hempty, ← hknown]
  · rw [Customs.ofFields_merge, Ledger.merge_eq_append (by simpa using hnodup), List.nil_append]

section

variable {s : Settings} {given back : Json.Fields}

def Agrees (back : Json.Fields) (s : Settings) (given : Json.Fields) : Prop :=
  ∀ key, Option.Rel Json.Same (Ledger.get? key back)
    ((Ledger.get? key given).or (Ledger.get? key s.plainFields))

theorem agrees_of_same (hback : (Ledger.keys back).Nodup) (hgiven : (Ledger.keys given).Nodup)
    (h : Json.Same (.obj back) (.obj (Ledger.merge s.plainFields given))) :
    Agrees back s given := by
  have hplain : (Ledger.keys s.plainFields).Nodup := by
    simp [Ledger.keys, plainFields]
  intro key
  rw [← Ledger.get?_merge _ hgiven]
  exact (Json.same_obj_iff hback (Ledger.nodup_merge hplain given)).1 h key

theorem Agrees.read (h : Agrees back s given) {key : String} {value : Json}
    (hvalue : (Ledger.get? key given).or (Ledger.get? key s.plainFields) = some value) :
    ∃ read, Ledger.get? key back = some read ∧ read.Same value := by
  have hagree := h key
  rw [hvalue] at hagree
  cases hread : Ledger.get? key back with
  | none =>
    rw [hread] at hagree
    cases hagree
  | some read =>
    rw [hread] at hagree
    cases hagree with
    | some hsame => exact ⟨read, rfl, hsame⟩

theorem Agrees.lacks (h : Agrees back s given) {key : String}
    (hvalue : (Ledger.get? key given).or (Ledger.get? key s.plainFields) = none) :
    Ledger.get? key back = none := by
  have hagree := h key
  rw [hvalue] at hagree
  cases hread : Ledger.get? key back with
  | none => rfl
  | some read =>
    rw [hread] at hagree
    cases hagree

theorem Agrees.fresh (h : Agrees back s given) (hback : (Ledger.keys back).Nodup)
    (hcustom : "custom" ∉ Ledger.keys given) :
    Ledger.get? "custom" (mergedLayers back []) = some (.obj []) := by
  have hplain : Ledger.get? "custom" s.plainFields = none :=
    Ledger.get?_eq_none_iff.2 fun hmem => (mem_keys_plainFields.1 hmem).2 rfl
  have hlacks : Ledger.get? "custom" back = none :=
    h.lacks (by rw [Ledger.get?_eq_none_iff.2 hcustom, hplain, Option.none_or])
  rw [get?_reread hback, hlacks]
  rfl

theorem Agrees.plainFields (h : Agrees back s given) (hback : (Ledger.keys back).Nodup)
    (hfree : ∀ key ∈ Ledger.keys given, key ∉ fieldNames) {key : String} (hkey : key ∈ fieldNames)
    (hne : key ≠ "custom") :
    Option.Rel Json.Same (Ledger.get? key (ofKnown (mergedLayers back [])).plainFields)
      (Ledger.get? key s.plainFields) := by
  have hgiven : Ledger.get? key given = none :=
    Ledger.get?_eq_none_iff.2 fun hmem => hfree key hmem hkey
  obtain ⟨value, hvalue⟩ : ∃ value, Ledger.get? key s.plainFields = some value := by
    rw [← Option.isSome_iff_exists, ← Ledger.has, ← Ledger.mem_keys_iff]
    exact mem_keys_plainFields.2 ⟨hkey, hne⟩
  obtain ⟨read, hread, hsame⟩ := h.read (by rw [hgiven, hvalue, Option.none_or])
  rw [get?_plainFields_ofKnown _ hkey hne, get?_reread hback, hread, hvalue]
  exact .some hsame

theorem Agrees.unknown (h : Agrees back s given) (hback : (Ledger.keys back).Nodup)
    (hfree : ∀ key ∈ Ledger.keys given, key ∉ fieldNames) (key : String) :
    Option.Rel Json.Same (Ledger.get? key (unknownOf (mergedLayers back [])))
      (Ledger.get? key given) := by
  by_cases hkey : key ∈ fieldNames
  · have hgiven : Ledger.get? key given = none :=
      Ledger.get?_eq_none_iff.2 fun hmem => hfree key hmem hkey
    rw [get?_unknownOf_field _ hkey, hgiven]
    exact .none
  · have hagree := h key
    have hplain : Ledger.get? key s.plainFields = none :=
      Ledger.get?_eq_none_iff.2 fun hmem => hkey (mem_keys_plainFields.1 hmem).1
    have hdefault : Ledger.get? key ({} : Settings).toFields = none :=
      Ledger.get?_eq_none_iff.2 hkey
    rw [hplain, Option.or_none] at hagree
    rw [get?_unknownOf _ hkey, get?_reread hback, hdefault, Option.or_none]
    exact hagree

theorem Agrees.comes_back (h : Agrees back s given) (hback : (Ledger.keys back).Nodup)
    (hgiven : (Ledger.keys given).Nodup) (hcustom : s.custom = .dictionary (.ofFields given))
    (hfree : ∀ key ∈ Ledger.keys given, key ∉ fieldNames) :
    ∃ reloaded, ofMerged (mergedLayers back []) = .ok reloaded ∧ reloaded.Same s := by
  have hkeys := nodup_mergedLayers back []
  have hfresh := h.fresh hback fun hmem => hfree "custom" hmem (by decide)
  refine ⟨_, ofMerged_fresh hkeys hfresh, same_of_plainFields
    (fun key hkey hne => h.plainFields hback hfree hkey hne) ?_⟩
  rw [hcustom]
  show Customs.Same _ _
  exact Customs.same_ofFields
    ((Json.same_obj_iff (nodup_unknownOf hkeys) hgiven).2 (h.unknown hback hfree))

/-! ## Settings that do not come back -/

theorem ok_of_bind {ε α β : Type} {x : Except ε α} {f : α → Except ε β} {b : β}
    (h : (x >>= f) = .ok b) : ∃ a, x = .ok a ∧ f a = .ok b := by
  cases x with
  | error e => cases h
  | ok a => exact ⟨a, rfl, h⟩

theorem depth_le_of_membersOf {value : Json} {members : List Json}
    (h : membersOf value = .ok members) : ∀ member ∈ members, member.depth ≤ value.depth := by
  intro member hmember
  cases value with
  | str text =>
    obtain rfl := Except.ok.inj h
    obtain ⟨c, -, rfl⟩ := List.mem_map.1 hmember
    exact Nat.le_refl _
  | arr items =>
    obtain rfl := Except.ok.inj h
    exact Nat.le_of_lt (Json.depth_lt_of_mem_items hmember)
  | obj fields =>
    obtain rfl := Except.ok.inj h
    obtain ⟨entry, -, rfl⟩ := List.mem_map.1 hmember
    exact Nat.zero_le _
  | null | bool | int | float => cases h

theorem membersOf_of_pairOf {item : Json} {pair : Key × Json} (h : pairOf item = .ok pair) :
    ∃ first, membersOf item = .ok [first, pair.2] := by
  obtain ⟨members, hmembers, hpair⟩ := ok_of_bind h
  split at hpair
  · next first second =>
    split at hpair
    · obtain rfl := Except.ok.inj hpair
      exact ⟨first, hmembers⟩
    · cases hpair
  · cases hpair

theorem exists_of_mapM {ε α β : Type} {f : α → Except ε β} {l : List α} {results : List β}
    (h : l.mapM f = .ok results) : ∀ b ∈ results, ∃ a ∈ l, f a = .ok b := by
  induction l generalizing results with
  | nil =>
    obtain rfl := Except.ok.inj h
    simp
  | cons a rest ih =>
    rw [List.mapM_cons] at h
    obtain ⟨first, hfirst, h⟩ := ok_of_bind h
    obtain ⟨others, hothers, h⟩ := ok_of_bind h
    obtain rfl := Except.ok.inj h
    intro b hb
    rcases List.mem_cons.1 hb with rfl | hb
    · exact ⟨a, List.mem_cons_self, hfirst⟩
    · obtain ⟨a', ha', hok⟩ := ih hothers b hb
      exact ⟨a', List.mem_cons_of_mem _ ha', hok⟩

theorem depth_lt_of_pairs {value : Json} {members : List Json} {pairs : Customs}
    (hmembers : membersOf value = .ok members) (hpairs : members.mapM pairOf = .ok pairs) :
    ∀ pair ∈ pairs, pair.2.depth < value.depth := by
  intro pair hpair
  obtain ⟨item, hitem, hok⟩ := exists_of_mapM hpairs pair hpair
  obtain ⟨first, hinner⟩ := membersOf_of_pairOf hok
  have hle : pair.2.depth ≤ item.depth := depth_le_of_membersOf hinner _ (by simp)
  cases value with
  | str text =>
    -- One character is not a pair.
    obtain rfl := Except.ok.inj hmembers
    obtain ⟨c, -, rfl⟩ := List.mem_map.1 hitem
    simp [membersOf] at hinner
  | arr items =>
    obtain rfl := Except.ok.inj hmembers
    exact Nat.lt_of_le_of_lt hle (Json.depth_lt_of_mem_items hitem)
  | obj fields =>
    obtain rfl := Except.ok.inj hmembers
    obtain ⟨entry, -, rfl⟩ := List.mem_map.1 hitem
    exact Nat.lt_of_le_of_lt hle (Nat.succ_pos _)
  | null | bool | int | float => cases hmembers

theorem depth_lt_of_dictionaryOf {value : Json} {entries : Customs}
    (h : dictionaryOf (.ofJson value) = .ok entries) :
    ∀ entry ∈ entries, entry.2.depth < value.depth := by
  intro entry hentry
  by_cases hobj : ∃ fields, value = .obj fields
  · obtain ⟨fields, rfl⟩ := hobj
    obtain rfl := Except.ok.inj h
    obtain ⟨key, held, hmem, rfl⟩ := Customs.mem_ofFields.1 hentry
    exact Json.depth_lt_of_mem_fields hmem
  · have hother : Custom.ofJson value = .other value := by
      cases value with
      | obj fields => exact absurd ⟨fields, rfl⟩ hobj
      | _ => rfl
    rw [hother] at h
    obtain ⟨members, hmembers, h⟩ := ok_of_bind h
    obtain ⟨pairs, hpairs, h⟩ := ok_of_bind h
    obtain rfl := Except.ok.inj h
    rcases Customs.mem_merge hentry with ⟨pair, hpair, hvalue⟩ | hnone
    · rw [hvalue]
      exact depth_lt_of_pairs hmembers hpairs pair hpair
    · cases hnone

/-- What loading finds under `custom` among the custom settings lies deeper than what was given
under it. -/
theorem depth_lt_of_custom {fields : Json.Fields} {t : Settings} {entries : Customs}
    {value inner : Json} (hvalue : Ledger.get? "custom" fields = some value)
    (ht : ofMerged fields = .ok t) (hentries : t.custom = .dictionary entries)
    (hinner : (Key.text "custom", inner) ∈ entries) : inner.depth < value.depth := by
  have hknown : (ofKnown fields).custom = .ofJson value := by
    rw [ofKnown, hvalue]
    rfl
  simp only [ofMerged] at ht
  split at ht
  · obtain rfl := Except.ok.inj ht
    have hread : dictionaryOf (.ofJson value) = .ok entries := by
      rw [← hknown, hentries]
      rfl
    exact depth_lt_of_dictionaryOf hread _ hinner
  · obtain ⟨custom, hcustom, hdepth⟩ : ∃ custom : Customs,
        t.custom = .dictionary (custom.merge (.ofFields (unknownOf fields))) ∧
        ∀ entry ∈ custom, entry.2.depth < value.depth := by
      split at ht
      · obtain ⟨custom, hcustom, ht⟩ := ok_of_bind ht
        obtain rfl := Except.ok.inj ht
        rw [hknown] at hcustom
        exact ⟨custom, rfl, depth_lt_of_dictionaryOf hcustom⟩
      · obtain rfl := Except.ok.inj ht
        exact ⟨[], rfl, by simp⟩
    obtain rfl := Custom.dictionary.inj (hentries.symm.trans hcustom)
    rw [Customs.merge_ofFields] at hinner
    rcases Ledger.mem_merge hinner with hunknown | hheld
    · have hmem := Customs.text_mem_ofFields.1 hunknown
      simp [unknownOf, fieldNames] at hmem
    · exact hdepth _ hheld

theorem Agrees.custom_not_given (h : Agrees back s given) (hback : (Ledger.keys back).Nodup)
    {t : Settings} {entries : Customs}
    (ht : ofMerged (mergedLayers back []) = .ok t) (hentries : t.custom = .dictionary entries)
    (hsame : Customs.Same entries (.ofFields given)) : "custom" ∉ Ledger.keys given := by
  intro hmem
  obtain ⟨value, hvalue⟩ : ∃ value, Ledger.get? "custom" given = some value := by
    rwa [← Option.isSome_iff_exists, ← Ledger.has, ← Ledger.mem_keys_iff]
  have hgiven : (Key.text "custom", value) ∈ Customs.ofFields given :=
    Customs.text_mem_ofFields.2 (Ledger.mem_of_get? hvalue)
  -- Read back, the value is the same; its entry for `custom` would be the same as well.
  obtain ⟨read, hread, hreadSame⟩ := h.read (by rw [hvalue, Option.some_or])
  obtain ⟨⟨key, inner⟩, hinner, hkey⟩ :=
    (hsame.keys (.text "custom")).2 ⟨_, hgiven, Key.isSame_text_iff.2 rfl⟩
  have hinnerSame : inner.Same value := hsame.values _ hinner _ hgiven hkey
  obtain rfl : key = .text "custom" := Key.eq_of_isSame_text hkey
  have hmerged : Ledger.get? "custom" (mergedLayers back []) = some read := by
    rw [get?_reread hback, hread, Option.some_or]
  have hlt := depth_lt_of_custom hmerged ht hentries hinner
  rw [hreadSame.depth_eq, hinnerSame.depth_eq] at hlt
  exact Nat.lt_irrefl _ hlt

theorem Agrees.no_field_given (h : Agrees back s given) (hback : (Ledger.keys back).Nodup)
    (hcustom : s.custom = .dictionary (.ofFields given)) {t : Settings}
    (ht : ofMerged (mergedLayers back []) = .ok t) (hsame : t.Same s) :
    ∀ key ∈ Ledger.keys given, key ∉ fieldNames := by
  have hcustomSame := hsame.custom
  rw [hcustom] at hcustomSame
  cases hentries : t.custom with
  | other value =>
    rw [hentries] at hcustomSame
    cases hcustomSame
  | dictionary entries =>
    rw [hentries] at hcustomSame
    have habsent := h.custom_not_given hback ht hentries hcustomSame
    rw [ofMerged_fresh (nodup_mergedLayers back []) (h.fresh hback habsent)] at ht
    obtain rfl := Except.ok.inj ht
    obtain rfl := Custom.dictionary.inj hentries
    intro key hkey
    obtain ⟨⟨_, value⟩, hmem, rfl⟩ := List.mem_map.1 hkey
    obtain ⟨entry, hentry, hkey⟩ := (hcustomSame.keys (.text _)).2
      ⟨_, Customs.text_mem_ofFields.2 hmem, Key.isSame_text_iff.2 rfl⟩
    obtain ⟨k, v, hunknown, rfl⟩ := Customs.mem_ofFields.1 hentry
    obtain rfl := Key.isSame_text_iff.1 hkey
    simpa using (List.mem_filter.1 hunknown).2

end

/-- Settings with a dictionary of custom settings come back from the file they are saved to just
when no custom setting has the name of a field. -/
theorem saved_comes_back_iff {s : Settings} {given : Json.Fields} {disk : Disk} {file : String}
    (hcustom : s.custom = .dictionary (.ofFields given)) (hgiven : (Ledger.keys given).Nodup)
    (htakes : disk.TakesFile (Path.ofString file))
    (hsuffix : Text.lower (Path.ofString file).suffix = ".json")
    (hreads : (Json.obj (Ledger.merge s.plainFields given)).ReadsBack) :
    ∃ after, save s disk file = .ok after ∧
      ((∃ reloaded, (load after [] file).value = .ok reloaded ∧ reloaded.Same s) ↔
        ∀ key ∈ Ledger.keys given, key ∉ fieldNames) := by
  obtain ⟨read, hread, hsame⟩ := hreads
  obtain ⟨back, rfl⟩ := hsame.eq_obj
  obtain ⟨after, hsave, hhas, hbytes⟩ := save_ok hcustom htakes
  have hfile : file ≠ "" := by
    rintro rfl
    revert hsuffix
    decide +kernel
  have hback := (Json.keyedOnce_of_read hread).keys
  have hagree := agrees_of_same hback hgiven hsame
  have hload : (load after [] file).value = ofMerged (mergedLayers back []) :=
    load_value hfile (readFile_ok hhas hsuffix hbytes hread)
  refine ⟨after, hsave, ?_⟩
  rw [hload]
  constructor
  · rintro ⟨reloaded, hreloaded, hreloadedSame⟩
    exact hagree.no_field_given hback hcustom hreloaded hreloadedSame
  · exact hagree.comes_back hback hgiven hcustom

def genWithLevel : Settings :=
  { outputDirectory := .str "gen", maxWorkers := .int 2,
    custom := .dictionary (.ofFields [("level", .obj [("on", .bool true)])]) }

set_option maxRecDepth 4000 in
theorem gen_with_level_comes_back :
    ∃ after reloaded, save genWithLevel (Disk.blank ["home"]) "c.json" = .ok after ∧
      (load after [] "c.json").value = .ok reloaded ∧ reloaded.Same genWithLevel := by
  have htakes : (Disk.blank ["home"]).TakesFile (Path.ofString "c.json") := by
    refine ⟨by decide +kernel, ["home", "c.json"], rfl, ?_⟩
    rw [Disk.get?_blank]
    simp
  have hlevel : Json.Same (.obj [("on", .bool true)]) (.obj [("on", .bool true)]) :=
    Json.same_obj_self (by decide) (by simpa using .number rfl rfl)
  have hreads : (Json.obj [("output_directory", .str "gen"), ("package_name", .str ""),
      ("license_comment", .str ""), ("max_workers", .int 2),
      ("level", .obj [("on", .bool true)])]).ReadsBack := by
    refine ⟨_, ?_, Json.same_obj_self (by decide) ?_⟩
    · rw [Json.read, Json.pretty, String.toList_ofList]
      rfl
    · simp only [List.mem_cons, List.not_mem_nil, or_false]
      rintro entry (rfl | rfl | rfl | rfl | rfl)
      · exact .str _
      · exact .str _
      · exact .str _
      · exact .number rfl rfl
      · exact hlevel
  have hcustom : genWithLevel.custom =
      .dictionary (.ofFields [("level", .obj [("on", .bool true)])]) := rfl
  obtain ⟨after, hsave, hback⟩ :=
    saved_comes_back_iff hcustom (by decide) htakes (by decide +kernel) hreads
  obtain ⟨reloaded, hload, hsame⟩ := hback.2 (by decide)
  exact ⟨after, reloaded, hsave, hload, hsame⟩

end Settings

end GlueCode
