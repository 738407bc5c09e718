import GlueCode.Proofs.KeyedOnce
import GlueCode.Proofs.FileTexts
import GlueCode.Settings.File
/-! # Which layer a setting comes from

The defaults, a settings file and the overrides are merged key by key before unknown keys are moved
into the custom settings. So a field comes from the strongest layer that gives it. A custom setting
can be given in two ways, at the top of a layer or inside its custom dictionary, and there the order
is another one: what stands at the top of either layer counts before what stands inside, and of the
two custom dictionaries only one is seen, that of the overrides if they have one. A custom setting
comes from the strongest layer that gives it just when neither of these gets in the way. -/
namespace GlueCode

namespace Settings

/-- The custom field of a layer holds a dictionary, if the layer has one. -/
def HasCustomDictionary (layer : Json.Fields) : Prop :=
  ∀ value, Ledger.get? "custom" layer = some value → ∃ entries, value = .obj entries

def customOf (layer : Json.Fields) : Json.Fields :=
  match Ledger.get? "custom" layer with
  | some (.obj entries) => entries
  | _ => []

def setting? (s : Settings) (key : String) : Option Json :=
  match s.custom with
  | .dictionary entries => Ledger.get? (.text key) entries
  | .other _ => none

def Gives (layer : Json.Fields) (key : String) (value : Json) : Prop :=
  Ledger.get? key layer = some value ∨ Ledger.get? key (customOf layer) = some value

def FromFirst (s : Settings) (key : String) : List Json.Fields → Prop
  | [] => s.setting? key = none
  | layer :: weaker =>
    (∃ value, s.setting? key = some value ∧ Gives layer key value) ∨
      (∀ value, ¬Gives layer key value) ∧ FromFirst s key weaker

theorem get?_plainFields_ofKnown (fields : Json.Fields) {key : String} (hkey : key ∈ fieldNames)
    (hcustom : key ≠ "custom") :
    Ledger.get? key (ofKnown fields).plainFields =
      (Ledger.get? key fields).or (Ledger.get? key ({} : Settings).plainFields) := by
  simp only [fieldNames, List.mem_cons, List.not_mem_nil, or_false] at hkey
  rcases hkey with rfl | rfl | rfl | rfl | rfl
  · cases h : Ledger.get? "output_directory" fields <;> simp [plainFields, ofKnown, Ledger.get?, h]
  · cases h : Ledger.get? "package_name" fields <;> simp [plainFields, ofKnown, Ledger.get?, h]
  · cases h : Ledger.get? "license_comment" fields <;> simp [plainFields, ofKnown, Ledger.get?, h]
  · cases h : Ledger.get? "max_workers" fields <;> simp [plainFields, ofKnown, Ledger.get?, h]
  · exact absurd rfl hcustom

theorem get?_toFields (s : Settings) {key : String} (h : key ≠ "custom") :
    Ledger.get? key s.toFields = Ledger.get? key s.plainFields := by
  rw [toFields, Ledger.get?_append, Ledger.get?, if_neg (Ne.symm h), Ledger.get?_nil,
    Option.or_none]

theorem custom_ofKnown {fields : Json.Fields} (h : HasCustomDictionary fields) :
    (ofKnown fields).custom = .dictionary (.ofFields (customOf fields)) := by
  unfold ofKnown customOf
  cases hvalue : Ledger.get? "custom" fields with
  | none => rfl
  | some value =>
    obtain ⟨entries, rfl⟩ := h value hvalue
    rfl

def unknownOf (fields : Json.Fields) : Json.Fields :=
  fields.filter fun entry => !fieldNames.contains entry.1

theorem get?_unknownOf (fields : Json.Fields) {key : String} (hkey : key ∉ fieldNames) :
    Ledger.get? key (unknownOf fields) = Ledger.get? key fields :=
  Ledger.get?_filter (p := fun key => !fieldNames.contains key) fields (by simpa using hkey)

theorem nodup_unknownOf {fields : Json.Fields} (h : (Ledger.keys fields).Nodup) :
    (Ledger.keys (unknownOf fields)).Nodup :=
  h.sublist (List.filter_sublist.map Prod.fst)

theorem ofMerged_eq {fields : Json.Fields} (h : HasCustomDictionary fields) :
    ofMerged fields = .ok (if (unknownOf fields).isEmpty then ofKnown fields else
      { ofKnown fields with
        custom := .dictionary
          ((Customs.ofFields (customOf fields)).merge (.ofFields (unknownOf fields))) }) := by
  have hcustom := custom_ofKnown h
  have hunknown : (fields.filter fun entry => !fieldNames.contains entry.1) = unknownOf fields :=
    rfl
  simp only [ofMerged, hunknown, hcustom]
  split
  · rfl
  · cases customOf fields <;> rfl

theorem ofMerged_ok {fields : Json.Fields} (hkeys : (Ledger.keys fields).Nodup)
    (hcustom : HasCustomDictionary fields) :
    ∃ s, ofMerged fields = .ok s ∧ s.plainFields = (ofKnown fields).plainFields ∧
      ∀ key ∉ fieldNames, s.setting? key =
        (Ledger.get? key fields).or (Ledger.get? key (customOf fields)) := by
  refine ⟨_, ofMerged_eq hcustom, by split <;> rfl, fun key hkey => ?_⟩
  rw [← get?_unknownOf fields hkey]
  split
  · next hempty =>
    rw [List.isEmpty_iff.1 hempty, setting?, custom_ofKnown hcustom]
    exact Customs.get?_ofFields _ _
  · have hnodup := Customs.nodup_ofFields (nodup_unknownOf hkeys)
    simp only [setting?, Customs.merge_ofFields, Ledger.get?_merge _ hnodup, Customs.get?_ofFields]

section

variable {fields overrides : Json.Fields}

def mergedLayers (fields overrides : Json.Fields) : Json.Fields :=
  [fields, overrides].foldl Ledger.merge ({} : Settings).toFields

theorem get?_mergedLayers (hfields : (Ledger.keys fields).Nodup)
    (hoverrides : (Ledger.keys overrides).Nodup) (key : String) :
    Ledger.get? key (mergedLayers fields overrides) =
      ((Ledger.get? key overrides).or (Ledger.get? key fields)).or
        (Ledger.get? key ({} : Settings).toFields) := by
  rw [mergedLayers, List.foldl_cons, List.foldl_cons, List.foldl_nil,
    Ledger.get?_merge _ hoverrides, Ledger.get?_merge _ hfields, Option.or_assoc]

theorem nodup_mergedLayers (fields overrides : Json.Fields) :
    (Ledger.keys (mergedLayers fields overrides)).Nodup := by
  have hdefaults : (Ledger.keys ({} : Settings).toFields).Nodup := by decide
  exact Ledger.nodup_merge (Ledger.nodup_merge hdefaults fields) overrides

theorem customOf_mergedLayers (hfields : (Ledger.keys fields).Nodup)
    (hoverrides : (Ledger.keys overrides).Nodup) :
    customOf (mergedLayers fields overrides) =
      customOf (if Ledger.has "custom" overrides then overrides else fields) := by
  have hdefault : Ledger.get? "custom" ({} : Settings).toFields = some (.obj []) := rfl
  unfold customOf
  rw [get?_mergedLayers hfields hoverrides, hdefault]
  cases hcustom : Ledger.get? "custom" overrides with
  | some value => simp [Ledger.has, hcustom]
  | none => cases hvalue : Ledger.get? "custom" fields <;> simp [Ledger.has, hcustom, hvalue]

theorem hasCustomDictionary_mergedLayers (hfields : (Ledger.keys fields).Nodup)
    (hoverrides : (Ledger.keys overrides).Nodup) (h : HasCustomDictionary fields)
    (h' : HasCustomDictionary overrides) :
    HasCustomDictionary (mergedLayers fields overrides) := by
  intro value hvalue
  have hdefault : Ledger.get? "custom" ({} : Settings).toFields = some (.obj []) := rfl
  rw [get?_mergedLayers hfields hoverrides, hdefault] at hvalue
  cases hcustom : Ledger.get? "custom" overrides with
  | some given => exact h' value (by simpa [hcustom] using hvalue)
  | none =>
    cases hgiven : Ledger.get? "custom" fields with
    | some given => exact h value (by simpa [hcustom, hgiven] using hvalue)
    | none => exact ⟨[], by simpa [hcustom, hgiven, eq_comm] using hvalue⟩

end

/-- Nothing gets in the way of the layers' order: no entry of the overrides' custom dictionary has
another value at the top of the file alone, and no entry of the file's custom dictionary is given up
for that of the overrides. -/
def Unmasked (fields overrides : Json.Fields) (key : String) : Prop :=
  (Ledger.get? key overrides = none → ∀ value, Ledger.get? key (customOf overrides) = some value →
    ∀ other, Ledger.get? key fields = some other → other = value) ∧
  (Ledger.has "custom" overrides = true → (∀ value, ¬Gives overrides key value) →
    ∀ value, Ledger.get? key (customOf fields) = some value → Ledger.get? key fields ≠ none)

theorem customOf_of_lacks {layer : Json.Fields} (h : Ledger.has "custom" layer = false) :
    customOf layer = [] := by
  rw [Ledger.has, Option.isSome_eq_false_iff, Option.isNone_iff_eq_none] at h
  rw [customOf, h]

section

variable {s : Settings} {fields overrides : Json.Fields} {key : String}

theorem fromFirst_of_top {value : Json} (hs : s.setting? key = some value)
    (htop : Ledger.get? key overrides = some value) :
    s.FromFirst key [overrides, fields] ↔ Unmasked fields overrides key := by
  have hgives : Gives overrides key value := .inl htop
  constructor
  · exact fun _ => ⟨fun h => by simp [htop] at h, fun _ hnot => absurd hgives (hnot value)⟩
  · exact fun _ => .inl ⟨value, hs, hgives⟩

theorem fromFirst_of_inner {value : Json}
    (hs : s.setting? key = (Ledger.get? key fields).or (some value))
    (htop : Ledger.get? key overrides = none)
    (hinner : Ledger.get? key (customOf overrides) = some value) :
    s.FromFirst key [overrides, fields] ↔ Unmasked fields overrides key := by
  have hgives : Gives overrides key value := .inr hinner
  have hfirst : s.FromFirst key [overrides, fields] ↔ s.setting? key = some value := by
    simp [FromFirst, Gives, htop, hinner]
  rw [hfirst, hs]
  constructor
  · intro h
    refine ⟨fun _ given hgiven other hother => ?_, fun _ hnot => absurd hgives (hnot value)⟩
    rw [hinner] at hgiven
    rw [hother] at h
    exact (Option.some.inj h).trans (Option.some.inj hgiven)
  · intro h
    cases hf : Ledger.get? key fields with
    | none => rfl
    | some other => rw [h.1 htop value hinner other hf]; rfl

theorem fromFirst_of_silent
    (hs : s.setting? key = (Ledger.get? key fields).or
      (if Ledger.has "custom" overrides then none else Ledger.get? key (customOf fields)))
    (hsilent : ∀ value, ¬Gives overrides key value) :
    s.FromFirst key [overrides, fields] ↔ Unmasked fields overrides key := by
  have hfirst : s.FromFirst key [overrides, fields] ↔ s.FromFirst key [fields] := by
    simp [FromFirst, hsilent]
  have hunmasked : Unmasked fields overrides key ↔ (Ledger.has "custom" overrides = true →
      Ledger.get? key (customOf fields) ≠ none → Ledger.get? key fields ≠ none) := by
    have hinner : ∀ value, Ledger.get? key (customOf overrides) ≠ some value :=
      fun value h => hsilent value (.inr h)
    simp [Unmasked, hsilent, hinner, Option.ne_none_iff_exists']
  rw [hfirst, hunmasked]
  cases hf : Ledger.get? key fields with
  | some value => simp [FromFirst, Gives, hs, hf]
  | none =>
    rw [hf, Option.none_or] at hs
    cases hhas : Ledger.has "custom" overrides with
    | true => simp [FromFirst, Gives, hs, hf, hhas, Option.eq_none_iff_forall_ne_some]
    | false =>
      cases hc : Ledger.get? key (customOf fields) <;> simp [FromFirst, Gives, hs, hf, hc, hhas]

theorem fromFirst_iff
    (hs : s.setting? key = ((Ledger.get? key overrides).or (Ledger.get? key fields)).or
      (Ledger.get? key (customOf (if Ledger.has "custom" overrides then overrides else fields)))) :
    s.FromFirst key [overrides, fields] ↔ Unmasked fields overrides key := by
  cases htop : Ledger.get? key overrides with
  | some value => exact fromFirst_of_top (by simp [hs, htop]) htop
  | none =>
    rw [htop, Option.none_or] at hs
    cases hinner : Ledger.get? key (customOf overrides) with
    | some value =>
      have hhas : Ledger.has "custom" overrides = true := by
        rw [← Bool.not_eq_false]
        intro hlacks
        rw [customOf_of_lacks hlacks] at hinner
        cases hinner
      exact fromFirst_of_inner (by simp [hs, hhas, hinner]) htop hinner
    | none =>
      refine fromFirst_of_silent ?_ (by simp [Gives, htop, hinner])
      rw [hs]
      split <;> simp [hinner]

end

theorem keyedOnce_of_readFile {disk : Disk} {path : Path} {fields : Json.Fields}
    (h : readFile disk path = .ok fields) : Json.KeyedOnce (.obj fields) := by
  unfold readFile at h
  extract_lets shown at h
  split at h
  · cases h
  · cases h
  · split at h
    · cases h
    · split at h
      · cases h
      · split at h
        · cases h
        · split at h
          · cases h
          · cases h
          · next hread =>
            obtain rfl := Except.ok.inj h
            exact Json.keyedOnce_of_read hread
          · cases h

theorem readFile_ok {disk : Disk} {path : Path} {text : String} {fields : Json.Fields}
    (hhas : disk.has path = .ok true) (hsuffix : Text.lower path.suffix = ".json")
    (hread : disk.read path = .ok text.toUTF8) (hjson : Json.read text = .ok (.obj fields)) :
    readFile disk path = .ok fields := by
  simp only [readFile, hhas, hsuffix, ne_eq, not_true_eq_false, ↓reduceIte, hread,
    Text.fromUTF8?_toUTF8, hjson]

theorem load_value {disk : Disk} {fields overrides : Json.Fields} {file : String}
    (hfile : file ≠ "") (hread : readFile disk (Path.ofString file) = .ok fields) :
    (load disk overrides file).value = ofMerged (mergedLayers fields overrides) := by
  simp only [load, hfile, ↓reduceIte, hread]
  rfl

/-- Where each setting comes from when a file is loaded and overridden. -/
theorem load_precedence {disk : Disk} {fields overrides : Json.Fields} {file : String}
    (hfile : file ≠ "") (hread : readFile disk (Path.ofString file) = .ok fields)
    (hkeyed : Json.KeyedOnce (.obj overrides)) (hfields : HasCustomDictionary fields)
    (hoverrides : HasCustomDictionary overrides) :
    ∃ s, (load disk overrides file).value = .ok s ∧
      (∀ key ∈ fieldNames, key ≠ "custom" → Ledger.get? key s.plainFields =
        ((Ledger.get? key overrides).or (Ledger.get? key fields)).or
          (Ledger.get? key ({} : Settings).plainFields)) ∧
      ∀ key ∉ fieldNames,
        s.setting? key = ((Ledger.get? key overrides).or (Ledger.get? key fields)).or
          (Ledger.get? key
            (customOf (if Ledger.has "custom" overrides then overrides else fields))) ∧
        (s.FromFirst key [overrides, fields] ↔ Unmasked fields overrides key) := by
  have hkeys := (keyedOnce_of_readFile hread).keys
  have hkeys' := hkeyed.keys
  obtain ⟨s, hs, hplain, hcustom⟩ := ofMerged_ok (nodup_mergedLayers fields overrides)
    (hasCustomDictionary_mergedLayers hkeys hkeys' hfields hoverrides)
  refine ⟨s, (load_value hfile hread).trans hs, fun key hkey hne => ?_, fun key hkey => ?_⟩
  · rw [hplain, get?_plainFields_ofKnown _ hkey hne, get?_mergedLayers hkeys hkeys',
      get?_toFields _ hne, Option.or_assoc, Option.or_self]
  · have hsetting := hcustom key hkey
    have hdefault : Ledger.get? key ({} : Settings).toFields = none := by
      rw [Ledger.get?_eq_none_iff]
      exact hkey
    rw [get?_mergedLayers hkeys hkeys', customOf_mergedLayers hkeys hkeys', hdefault,
      Option.or_none] at hsetting
    exact ⟨hsetting, fromFirst_iff hsetting⟩

def settingsDisk (text : String) : Disk :=
  (Disk.blank ["home"]).put ["home", "c.json"] (.file text.toUTF8)

theorem readFile_settingsDisk {text : String} {cs : List Char} {fields : Json.Fields}
    (htext : text.toList = cs) (hjson : Json.readChars cs = .ok (.obj fields)) :
    readFile (settingsDisk text) (Path.ofString "c.json") = .ok fields := by
  refine readFile_ok rfl (by decide +kernel) rfl ?_
  rw [Json.read, htext, hjson]

theorem file_then_overrides :
    ∃ s, (load (settingsDisk "\x7b\"max_workers\": 3, \"k\": 1\x7d")
        [("max_workers", .int 4)] "c.json").value = .ok s ∧
      Ledger.get? "max_workers" s.plainFields = some (.int 4) ∧
      s.setting? "k" = some (.int 1) := by
  have htext : "\x7b\"max_workers\": 3, \"k\": 1\x7d".toList =
      ['\x7b', '"', 'm', 'a', 'x', '_', 'w', 'o', 'r', 'k', 'e', 'r', 's', '"', ':', ' ', '3', ',',
        ' ', '"', 'k', '"', ':', ' ', '1', '\x7d'] := by decide +kernel
  have hread : readFile (settingsDisk "\x7b\"max_workers\": 3, \"k\": 1\x7d")
      (Path.ofString "c.json") = .ok [("max_workers", .int 3), ("k", .int 1)] :=
    readFile_settingsDisk htext rfl
  have hkeyed : Json.KeyedOnce (.obj [("max_workers", .int 4)]) :=
    .obj (by decide) (by simpa using Json.KeyedOnce.int 4)
  obtain ⟨s, hs, hplain, hcustom⟩ := load_precedence (by decide) hread hkeyed
    (fun _ h => by cases h) (fun _ h => by cases h)
  exact ⟨s, hs, hplain _ (by decide) (by decide), (hcustom "k" (by decide)).1⟩

/-- An override inside the custom dictionary is hidden by an unknown key of the file. -/
theorem override_hidden :
    readFile (settingsDisk "\x7b\"k\": 1\x7d") (Path.ofString "c.json") = .ok [("k", .int 1)] ∧
      ∃ s, (load (settingsDisk "\x7b\"k\": 1\x7d") [("custom", .obj [("k", .int 2)])]
          "c.json").value = .ok s ∧
        s.setting? "k" = some (.int 1) ∧
        ¬s.FromFirst "k" [[("custom", .obj [("k", .int 2)])], [("k", .int 1)]] := by
  have htext : "\x7b\"k\": 1\x7d".toList = ['\x7b', '"', 'k', '"', ':', ' ', '1', '\x7d'] := by
    decide +kernel
  have hread : readFile (settingsDisk "\x7b\"k\": 1\x7d") (Path.ofString "c.json") =
      .ok [("k", .int 1)] := readFile_settingsDisk htext rfl
  refine ⟨hread, { custom := .dictionary [(.text "k", .int 1)] }, load_value (by decide) hread, rfl,
    fun h => ?_⟩
  have hmasked := ((fromFirst_iff rfl).1 h).1 rfl (.int 2) rfl (.int 1) rfl
  exact absurd (Json.int.inj hmasked) (by decide)

end Settings

end GlueCode
