/-! # Splitting and joining

A text splits at a separator character into one more piece than it has separators, and joining
the pieces gives the text back. Lines are the pieces between line feeds; a reader of files takes
a carriage return, alone or before a line feed, for a line feed too.
-/
namespace GlueCode.Text

/-- The pieces between the occurrences of `sep`; there is always at least one. -/
def splitAt (sep : Char) : List Char → List (List Char)
  | [] => [[]]
  | c :: cs =>
    if c = sep then [] :: splitAt sep cs
    else match splitAt sep cs with
      | [] => [[c]]
      | piece :: rest => (c :: piece) :: rest

def joinWith (sep : List Char) : List (List Char) → List Char
  | [] => []
  | [piece] => piece
  | piece :: rest => piece ++ sep ++ joinWith sep rest

def lines (cs : List Char) : List (List Char) := splitAt '\n' cs

def unlines (ls : List (List Char)) : List Char := joinWith ['\n'] ls

def unifyNewlines : List Char → List Char
  | [] => []
  | '\r' :: '\n' :: cs => '\n' :: unifyNewlines cs
  | '\r' :: cs => '\n' :: unifyNewlines cs
  | c :: cs => c :: unifyNewlines cs

def commaList (items : List String) : String :=
  String.ofList (joinWith [',', ' '] (items.map String.toList))

theorem splitAt_ne_nil (sep : Char) (cs : List Char) : splitAt sep cs ≠ [] := by
  cases cs with
  | nil => simp [splitAt]
  | cons c cs =>
    rw [splitAt]
    split
    · simp
    · split <;> simp

theorem joinWith_cons {sep piece : List Char} {rest : List (List Char)} (h : rest ≠ []) :
    joinWith sep (piece :: rest) = piece ++ sep ++ joinWith sep rest := by
  cases rest with
  | nil => exact absurd rfl h
  | cons => rfl

theorem joinWith_splitAt (sep : Char) (cs : List Char) :
    joinWith [sep] (splitAt sep cs) = cs := by
  induction cs with
  | nil => rfl
  | cons c cs ih =>
    rw [splitAt]
    split
    · next h => rw [joinWith_cons (splitAt_ne_nil sep cs), ih, h]; rfl
    · cases hs : splitAt sep cs with
      | nil => exact absurd hs (splitAt_ne_nil sep cs)
      | cons piece rest =>
        rw [hs] at ih
        cases rest with
        | nil => simpa [joinWith] using ih
        | cons => simpa [joinWith] using ih

theorem not_mem_of_mem_splitAt {sep : Char} {cs piece : List Char} (h : piece ∈ splitAt sep cs) :
    sep ∉ piece := by
  induction cs generalizing piece with
  | nil => simp_all [splitAt]
  | cons c cs ih =>
    rw [splitAt] at h
    split at h
    · rcases List.mem_cons.1 h with rfl | h
      · simp
      · exact ih h
    · next hc =>
      cases hs : splitAt sep cs with
      | nil => exact absurd hs (splitAt_ne_nil sep cs)
      | cons first rest =>
        rw [hs] at h ih
        rcases List.mem_cons.1 h with rfl | h
        · have := ih (List.mem_cons_self)
          simp_all [eq_comm]
        · exact ih (List.mem_cons_of_mem _ h)

theorem mem_of_mem_splitAt {sep ch : Char} {cs piece : List Char} (h : piece ∈ splitAt sep cs)
    (hch : ch ∈ piece) : ch ∈ cs := by
  induction cs generalizing piece with
  | nil =>
    obtain rfl := List.mem_singleton.1 h
    exact hch
  | cons c cs ih =>
    rw [splitAt] at h
    split at h
    · rcases List.mem_cons.1 h with rfl | h
      · cases hch
      · exact List.mem_cons_of_mem _ (ih h hch)
    · cases hrest : splitAt sep cs with
      | nil => exact absurd hrest (splitAt_ne_nil sep cs)
      | cons first rest =>
        rw [hrest] at h ih
        rcases List.mem_cons.1 h with rfl | h
        · rcases List.mem_cons.1 hch with rfl | hch
          · exact List.mem_cons_self
          · exact List.mem_cons_of_mem _ (ih List.mem_cons_self hch)
        · exact List.mem_cons_of_mem _ (ih (List.mem_cons_of_mem _ h) hch)

theorem splitAt_of_not_mem {sep : Char} {cs : List Char} (h : sep ∉ cs) :
    splitAt sep cs = [cs] := by
  induction cs with
  | nil => rfl
  | cons c cs ih =>
    simp only [List.mem_cons, not_or] at h
    rw [splitAt, if_neg (Ne.symm h.1), ih h.2]

theorem splitAt_append (sep : Char) (first rest : List Char) :
    splitAt sep (first ++ sep :: rest) = splitAt sep first ++ splitAt sep rest := by
  induction first with
  | nil => simp [splitAt]
  | cons c first ih =>
    by_cases hc : c = sep
    · simp [splitAt, hc, ih]
    · rw [List.cons_append, splitAt, if_neg hc, splitAt, if_neg hc, ih]
      cases hfirst : splitAt sep first with
      | nil => exact absurd hfirst (splitAt_ne_nil sep first)
      | cons piece pieces => rfl

theorem splitAt_joinWith {sep : Char} {pieces : List (List Char)} (h : pieces ≠ []) :
    splitAt sep (joinWith [sep] pieces) = pieces.flatMap (splitAt sep) := by
  induction pieces with
  | nil => exact absurd rfl h
  | cons piece rest ih =>
    by_cases hrest : rest = []
    · simp [hrest, joinWith]
    · rw [joinWith_cons hrest, List.append_assoc, List.singleton_append, splitAt_append, ih hrest,
        List.flatMap_cons]

theorem map_joinWith (f : Char → Char) (sep : List Char) (pieces : List (List Char)) :
    (joinWith sep pieces).map f = joinWith (sep.map f) (pieces.map (List.map f)) := by
  induction pieces with
  | nil => rfl
  | cons piece rest ih =>
    by_cases hrest : rest = []
    · simp [hrest, joinWith]
    · rw [joinWith_cons hrest, List.map_cons, joinWith_cons (by simpa using hrest), ← ih]
      simp

theorem joinWith_of_append {P : List Char → Prop} {sep : List Char} {items : List (List Char)}
    (hnil : P []) (happend : ∀ item joined, P item → P joined → P (item ++ sep ++ joined))
    (h : ∀ item ∈ items, P item) : P (joinWith sep items) := by
  induction items with
  | nil => exact hnil
  | cons item rest ih =>
    have hitem := h item List.mem_cons_self
    by_cases hrest : rest = []
    · rw [hrest]
      exact hitem
    · rw [joinWith_cons hrest]
      exact happend _ _ hitem (ih fun other hother => h other (List.mem_cons_of_mem _ hother))

theorem not_mem_joinWith {sep : List Char} {ch : Char} (hsep : ch ∉ sep) {items : List (List Char)}
    (h : ∀ item ∈ items, ch ∉ item) : ch ∉ joinWith sep items := by
  refine joinWith_of_append List.not_mem_nil (fun item joined hitem hjoined => ?_) h
  simp only [List.mem_append, not_or]
  exact ⟨⟨hitem, hsep⟩, hjoined⟩

theorem count_joinWith {sep : List Char} {ch : Char} (hsep : ch ∉ sep) (items : List (List Char)) :
    (joinWith sep items).count ch = items.flatten.count ch := by
  induction items with
  | nil => rfl
  | cons item rest ih =>
    by_cases hrest : rest = []
    · simp [hrest, joinWith]
    · rw [joinWith_cons hrest, List.count_append, List.count_append, List.count_eq_zero.2 hsep, ih,
        List.flatten_cons, List.count_append, Nat.add_zero]

end GlueCode.Text
