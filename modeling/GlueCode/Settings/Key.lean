import GlueCode.Json.Writer
/-! # Keys of custom settings

Custom settings are a dictionary whose keys are texts, numbers, truth values or null. Numbers that
are equal are the same key, however they are written, and a truth value is the number one or zero.
The dictionary keeps the key that came in first, and is written with the text of each key, so two
keys may be written alike.
-/
namespace GlueCode

inductive Key where
  | text (s : String)
  | integer (n : Int)
  | float (x : Number.Binary64)
  | truth (b : Bool)
  | null
deriving DecidableEq, Repr, Inhabited

namespace Key

def canonical : Key → Key
  | .truth b => .integer b.toInt
  | .float x =>
    match x.toInt? with
    | some n => .integer n
    | none => .float x
  | key => key

def isSame (a b : Key) : Bool := a.canonical = b.canonical

/-- The text of a key: a text stands for itself, and everything else for what it is in JSON. -/
def spelling : Key → String
  | .text s => s
  | .integer n => ofScalar (.int n)
  | .float x => ofScalar (.float x)
  | .truth b => ofScalar (.bool b)
  | .null => ofScalar .null
where
  ofScalar (value : Json) : String := String.ofList (Json.scalar value)

def ofJson? : Json → Option Key
  | .str s => some (.text s)
  | .int n => some (.integer n)
  | .float x => some (.float x)
  | .bool b => some (.truth b)
  | .null => some .null
  | _ => none

theorem isSame_text_iff {s t : String} : (text s).isSame (text t) = true ↔ s = t := by
  simp [isSame, canonical]

/-- A text is the same key as no other kind of key. -/
theorem eq_of_isSame_text {key : Key} {s : String} (h : key.isSame (text s) = true) :
    key = text s := by
  cases key with
  | text t => rw [isSame_text_iff.1 h]
  | float x =>
    rw [isSame, canonical] at h
    split at h <;> simp [canonical] at h
  | integer | truth | null => simp [isSame, canonical] at h

end Key

abbrev Customs := Ledger Key Json

namespace Customs

def ofFields (fields : Json.Fields) : Customs := fields.map fun (key, value) => (.text key, value)

def toFields (l : Customs) : Json.Fields := l.map fun (key, value) => (key.spelling, value)

def put (key : Key) (value : Json) (l : Customs) : Customs :=
  Ledger.put ((l.keys.find? (·.isSame key)).getD key) value l

def merge (l overrides : Customs) : Customs :=
  overrides.foldl (fun acc (key, value) => put key value acc) l

theorem get?_ofFields (fields : Json.Fields) (key : String) :
    Ledger.get? (.text key) (ofFields fields) = Ledger.get? key fields := by
  induction fields with
  | nil => rfl
  | cons entry rest ih =>
    obtain ⟨k, v⟩ := entry
    have hcons : ofFields ((k, v) :: rest) = (Key.text k, v) :: ofFields rest := rfl
    simp only [hcons, Ledger.get?, Key.text.injEq, ih]

theorem nodup_ofFields {fields : Json.Fields} (h : (Ledger.keys fields).Nodup) :
    (Ledger.keys (ofFields fields)).Nodup := by
  have hkeys : Ledger.keys (ofFields fields) = (Ledger.keys fields).map Key.text := by
    simp [Ledger.keys, ofFields]
  rw [hkeys]
  exact List.Pairwise.map _ (fun a b hne heq => hne (Key.text.inj heq)) h

theorem put_text (key : String) (value : Json) (l : Customs) :
    put (.text key) value l = Ledger.put (.text key) value l := by
  have hkey : (l.keys.find? (·.isSame (.text key))).getD (.text key) = .text key := by
    cases hfind : l.keys.find? (·.isSame (.text key)) with
    | none => rfl
    | some found => exact Key.eq_of_isSame_text (by simpa using List.find?_some hfind)
  rw [put, hkey]

theorem merge_ofFields (l : Customs) (fields : Json.Fields) :
    merge l (ofFields fields) = Ledger.merge l (ofFields fields) := by
  induction fields generalizing l with
  | nil => rfl
  | cons entry rest ih =>
    obtain ⟨k, v⟩ := entry
    calc merge l (ofFields ((k, v) :: rest))
        = merge (put (.text k) v l) (ofFields rest) := rfl
      _ = Ledger.merge (Ledger.put (.text k) v l) (ofFields rest) := by rw [put_text, ih]
      _ = Ledger.merge l (ofFields ((k, v) :: rest)) := rfl

theorem toFields_ofFields (fields : Json.Fields) : toFields (ofFields fields) = fields := by
  rw [toFields, ofFields, List.map_map]
  exact List.map_id fields

theorem mem_ofFields {fields : Json.Fields} {entry : Key × Json} :
    entry ∈ ofFields fields ↔ ∃ key value, (key, value) ∈ fields ∧ entry = (.text key, value) := by
  simp [ofFields, eq_comm]

theorem text_mem_ofFields {fields : Json.Fields} {key : String} {value : Json} :
    (Key.text key, value) ∈ ofFields fields ↔ (key, value) ∈ fields := by
  simp [mem_ofFields]

theorem ofFields_put (fields : Json.Fields) (key : String) (value : Json) :
    Ledger.put (.text key) value (ofFields fields) = ofFields (Ledger.put key value fields) := by
  induction fields with
  | nil => rfl
  | cons entry rest ih =>
    obtain ⟨k, v⟩ := entry
    have hcons : ofFields ((k, v) :: rest) = (Key.text k, v) :: ofFields rest := rfl
    by_cases hk : k = key
    · rw [hcons, Ledger.put, if_pos (congrArg Key.text hk), Ledger.put, if_pos hk]
      rfl
    · rw [hcons, Ledger.put, if_neg (hk ∘ Key.text.inj), Ledger.put, if_neg hk, ih]
      rfl

theorem ofFields_merge (fields overrides : Json.Fields) :
    merge (ofFields fields) (ofFields overrides) = ofFields (Ledger.merge fields overrides) := by
  rw [merge_ofFields]
  induction overrides generalizing fields with
  | nil => rfl
  | cons entry rest ih =>
    obtain ⟨k, v⟩ := entry
    calc Ledger.merge (ofFields fields) (ofFields ((k, v) :: rest))
        = Ledger.merge (Ledger.put (.text k) v (ofFields fields)) (ofFields rest) := rfl
      _ = ofFields (Ledger.merge fields ((k, v) :: rest)) := by
        rw [ofFields_put, ih, Ledger.merge_cons]

theorem mem_merge {l overrides : Customs} {entry : Key × Json} (h : entry ∈ merge l overrides) :
    (∃ given ∈ overrides, entry.2 = given.2) ∨ entry ∈ l := by
  induction overrides generalizing l with
  | nil => exact .inr h
  | cons first rest ih =>
    rcases ih h with ⟨given, hgiven, hvalue⟩ | hput
    · exact .inl ⟨given, List.mem_cons_of_mem _ hgiven, hvalue⟩
    · rcases Ledger.mem_put hput with rfl | hold
      · exact .inl ⟨first, List.mem_cons_self, rfl⟩
      · exact .inr hold

end Customs

example : Customs.toFields (Customs.merge []
    [(.integer 1, .int 1), (.truth true, .int 2), (.text "1", .int 3)])
    = [("1", .int 2), ("1", .int 3)] := by rfl

end GlueCode
