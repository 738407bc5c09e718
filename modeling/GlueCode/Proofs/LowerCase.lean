import GlueCode.Text.LowerCase
/-! # Lower case is reached in one step

No row of the table leads to a letter that another row lowers again, which is checked row against
row. A text in lower case is therefore its own lower case, the dotted I and the sigma included. Nor
does a row lead to a slash, so the lower case of a name is a name in the same directory. -/
namespace GlueCode.Text

abbrev Row := Nat × Nat × Nat × Int

def InRow (n : Nat) (row : Row) : Prop :=
  row.1 ≤ n ∧ n ≤ row.2.1 ∧ (n - row.1) % row.2.2.1 = 0

instance (n : Nat) (row : Row) : Decidable (InRow n row) :=
  inferInstanceAs (Decidable (_ ∧ _ ∧ _))

/-- The rows of the table, and the dotted I as a row of its own. -/
def capitalRows : List Row := (0x130, 0x130, 1, 0) :: lowerRuns

/-- The letters from `first` to `last`, `step` apart, meet no letter of the row: they lie before or
after it, or all fall between its letters. -/
def misses (first last step : Nat) (row : Row) : Bool :=
  Nat.blt last row.1 || Nat.blt row.2.1 first ||
    (Nat.beq row.2.2.1 2 && (Nat.beq step 2 || Nat.beq first last) &&
      Nat.beq ((first + row.1) % 2) 1)

def settles (row : Row) : Bool :=
  Nat.ble 1 row.1 && Nat.ble 1 (row.1 + row.2.2.2).toNat &&
    capitalRows.all (misses (row.1 + row.2.2.2).toNat (row.2.1 + row.2.2.2).toNat row.2.2.1)

theorem rows_settle : lowerRuns.all settles = true := by decide +kernel

theorem misses_sound {first last step n : Nat} {row : Row} (h : misses first last step row = true)
    (hfirst : first ≤ n) (hlast : n ≤ last) (hstep : (n - first) % step = 0) : ¬ InRow n row := by
  obtain ⟨f, l, s, shift⟩ := row
  simp only [misses, Bool.or_eq_true, Bool.and_eq_true, Nat.blt_eq, Nat.beq_eq] at h
  rintro ⟨hf, hl, hs⟩
  dsimp only at h hf hl hs
  rcases h with (h | h) | ⟨⟨rfl, h⟩, hodd⟩
  · omega
  · omega
  · rcases h with rfl | rfl
    · omega
    · omega

theorem image_settled {row other : Row} (hrow : row ∈ lowerRuns) (hother : other ∈ capitalRows)
    {n : Nat} (hn : InRow n row) : ¬ InRow (n + row.2.2.2).toNat other := by
  have h := List.all_eq_true.1 rows_settle row hrow
  simp only [settles, Bool.and_eq_true, Nat.ble_eq] at h
  obtain ⟨⟨_, hpos⟩, hall⟩ := h
  have hmiss := List.all_eq_true.1 hall other hother
  obtain ⟨hf, hl, hs⟩ := hn
  have hshift : (n + row.2.2.2).toNat - (row.1 + row.2.2.2).toNat = n - row.1 := by omega
  exact misses_sound hmiss (by omega) (by omega) (by rw [hshift]; exact hs)

theorem zero_settled {row : Row} (h : row ∈ capitalRows) : ¬ InRow 0 row := by
  rcases List.mem_cons.1 h with rfl | h
  · simp [InRow]
  · have hs := List.all_eq_true.1 rows_settle row h
    simp only [settles, Bool.and_eq_true, Nat.ble_eq] at hs
    intro hz
    have := hz.1
    omega

def IsSettled (c : Char) : Prop := ∀ row ∈ capitalRows, ¬ InRow c.toNat row

theorem toNat_ofNat (n : Nat) : (Char.ofNat n).toNat = n ∨ (Char.ofNat n).toNat = 0 := by
  rw [Char.ofNat]
  by_cases h : n.isValidChar
  · exact .inl (by rw [dif_pos h]; rfl)
  · exact .inr (by rw [dif_neg h]; rfl)

theorem lowerChar_settled_or_same (c : Char) : IsSettled (lowerChar c) ∨
    (lowerChar c = c ∧ ∀ row ∈ lowerRuns, ¬ InRow c.toNat row) := by
  unfold lowerChar
  split
  · next f l s shift h =>
    have hmem := List.mem_of_find?_eq_some h
    have hin := List.find?_some h
    simp only [Bool.and_eq_true, decide_eq_true_eq, beq_iff_eq] at hin
    left
    intro other hother
    rcases toNat_ofNat (Int.toNat (c.toNat + shift)) with hn | hn
    · rw [hn]
      exact image_settled hmem hother ⟨hin.1.1, hin.1.2, hin.2⟩
    · rw [hn]
      exact zero_settled hother
  · next h =>
    right
    refine ⟨rfl, fun row hrow hin => ?_⟩
    have hnot := List.find?_eq_none.1 h row hrow
    obtain ⟨f, l, s, shift⟩ := row
    simp only [Bool.and_eq_true, decide_eq_true_eq, beq_iff_eq, not_and] at hnot
    exact hnot ⟨hin.1, hin.2.1⟩ hin.2.2

theorem lowerChar_of_settled {c : Char} (h : IsSettled c) : lowerChar c = c := by
  unfold lowerChar
  split
  · next f l s shift hrow =>
    have hin := List.find?_some hrow
    simp only [Bool.and_eq_true, decide_eq_true_eq, beq_iff_eq] at hin
    have hmem := List.mem_of_find?_eq_some hrow
    exact absurd ⟨hin.1.1, hin.1.2, hin.2⟩ (h _ (List.mem_cons_of_mem _ hmem))
  · rfl

theorem sigma_row : (0x3A3, 0x3AB, 1, 32) ∈ lowerRuns := by decide +kernel

theorem small_settled : ∀ c ∈ ['σ', 'ς', 'i', '\u0307'], IsSettled c := by
  have hmiss : (['σ', 'ς', 'i', '\u0307'].all fun c =>
      capitalRows.all (misses c.toNat c.toNat 1)) = true := by decide +kernel
  intro c hc row hrow
  have hrows := List.all_eq_true.1 (List.all_eq_true.1 hmiss c hc) row hrow
  exact misses_sound hrows (Nat.le_refl _) (Nat.le_refl _) (Nat.mod_one _)

theorem settled_of_mem_lowerAfter {before cs : List Char} {c : Char}
    (h : c ∈ lowerAfter before cs) : IsSettled c := by
  induction cs generalizing before with
  | nil => simp [lowerAfter] at h
  | cons d cs ih =>
    rw [lowerAfter, List.mem_append] at h
    rcases h with h | h
    · split at h
      · exact small_settled c (by split at h <;> simp_all)
      · split at h
        · exact small_settled c (by simp_all)
        · next hdotted =>
          rw [List.mem_singleton.1 h]
          rcases lowerChar_settled_or_same d with hd | ⟨hd, hrows⟩
          · exact hd
          · rw [hd]
            intro row hrow
            rcases List.mem_cons.1 hrow with rfl | hrow
            · rintro ⟨hf, hl, _⟩
              exact hdotted (Char.toNat_inj.1 (Nat.le_antisymm hl hf))
            · exact hrows row hrow
    · exact ih h

theorem lowerAfter_of_settled {before cs : List Char} (h : ∀ c ∈ cs, IsSettled c) :
    lowerAfter before cs = cs := by
  induction cs generalizing before with
  | nil => rfl
  | cons c cs ih =>
    rw [List.forall_mem_cons] at h
    have hsigma : c ≠ 'Σ' := by
      rintro rfl
      exact h.1 _ (List.mem_cons_of_mem _ sigma_row) ⟨by decide, by decide, by decide⟩
    have hdotted : c ≠ 'İ' := by
      rintro rfl
      exact h.1 _ List.mem_cons_self ⟨by decide, by decide, by decide⟩
    rw [lowerAfter]
    simp only [hsigma, hdotted, if_false, lowerChar_of_settled h.1, ih h.2]
    rfl

/-- A text in lower case is its own lower case. -/
theorem lower_lower (s : String) : lower (lower s) = lower s := by
  have h : lowerChars (lowerChars s.toList) = lowerChars s.toList :=
    lowerAfter_of_settled fun _ hc => settled_of_mem_lowerAfter hc
  simp [lower, h]

theorem rows_miss_slash :
    lowerRuns.all (fun row => Nat.blt 0x2F (row.1 + row.2.2.2).toNat) = true := by decide +kernel

theorem lowerChar_eq_slash {c : Char} (h : lowerChar c = '/') : c = '/' := by
  unfold lowerChar at h
  split at h
  · next first last step shift hrow =>
    have hmem := List.mem_of_find?_eq_some hrow
    have hin := List.find?_some hrow
    simp only [Bool.and_eq_true, decide_eq_true_eq, beq_iff_eq] at hin
    have hbeyond := List.all_eq_true.1 rows_miss_slash _ hmem
    rw [Nat.blt_eq] at hbeyond
    have hcode : (Char.ofNat (Int.toNat (c.toNat + shift))).toNat = 0x2F := by rw [h]; rfl
    rcases toNat_ofNat (Int.toNat (c.toNat + shift)) with hn | hn
    · dsimp only at hbeyond
      omega
    · omega
  · exact h

theorem slash_mem_of_lowerAfter {before cs : List Char} (h : '/' ∈ lowerAfter before cs) :
    '/' ∈ cs := by
  induction cs generalizing before with
  | nil => exact h
  | cons c cs ih =>
    rw [lowerAfter, List.mem_append] at h
    rcases h with h | h
    · split at h
      · split at h <;> simp at h
      · split at h
        · simp at h
        · rw [lowerChar_eq_slash (List.mem_singleton.1 h).symm]
          exact List.mem_cons_self
    · exact List.mem_cons_of_mem _ (ih h)

theorem slash_not_mem_lower {name : String} (h : '/' ∉ name.toList) :
    '/' ∉ (lower name).toList := by
  rw [lower, String.toList_ofList]
  exact mt slash_mem_of_lowerAfter h

end GlueCode.Text
