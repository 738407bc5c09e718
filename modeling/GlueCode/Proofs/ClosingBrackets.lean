import GlueCode.Proofs.Spelling
import Mathlib.Data.List.Chain
/-! # Brackets in spellings

Brackets come into a spelling with the lists of template arguments, one pair for each list, when the
names have none of their own. So they are balanced. A list ends with its last argument, and that can
end with a bracket: then a blank goes in between, and all else that stands in front of a closing
bracket is the end of a name, a star, an ampersand, or the bracket that opens the list. Two closing
brackets are never next to each other, however deep the lists are. -/
namespace GlueCode

namespace Text

variable {cs first second inner : List Char}

def Unbracketed (cs : List Char) : Prop := '<' ∉ cs ∧ '>' ∉ cs

instance (cs : List Char) : Decidable (Unbracketed cs) := inferInstanceAs (Decidable (_ ∧ _))

/-- Every bracket that is closed was opened before, and every bracket that is opened is closed. -/
structure IsBalanced (cs : List Char) : Prop where
  opened : ∀ front, front <+: cs → front.count '>' ≤ front.count '<'
  closed : cs.count '>' = cs.count '<'

def ClosesApart (cs : List Char) : Prop := cs.IsChain fun c d => ¬(c = '>' ∧ d = '>')

theorem Unbracketed.append (h : Unbracketed first) (h' : Unbracketed second) :
    Unbracketed (first ++ second) := by
  simp only [Unbracketed, List.mem_append, not_or]
  exact ⟨⟨h.1, h'.1⟩, h.2, h'.2⟩

theorem Unbracketed.isBalanced (h : Unbracketed cs) : IsBalanced cs where
  opened := by
    intro front hfront
    have hclosing : '>' ∉ front := fun hmem => h.2 (hfront.subset hmem)
    rw [List.count_eq_zero.2 hclosing]
    exact Nat.zero_le _
  closed := by rw [List.count_eq_zero.2 h.1, List.count_eq_zero.2 h.2]

theorem IsBalanced.append (h : IsBalanced first) (h' : IsBalanced second) :
    IsBalanced (first ++ second) where
  opened := by
    intro front hfront
    have hall := h.closed
    rcases List.prefix_or_prefix_of_prefix hfront (List.prefix_append first second) with
      hshort | ⟨rest, rfl⟩
    · exact h.opened front hshort
    · have hrest := h'.opened rest ((List.prefix_append_right_inj first).1 hfront)
      rw [List.count_append, List.count_append]
      omega
  closed := by rw [List.count_append, List.count_append, h.closed, h'.closed]

theorem IsBalanced.enclose (h : IsBalanced inner) : IsBalanced ('<' :: (inner ++ ['>'])) where
  opened := by
    intro front hfront
    rcases List.prefix_cons_iff.1 hfront with rfl | ⟨rest, rfl, hrest⟩
    · simp
    rcases List.prefix_concat_iff.1 hrest with rfl | hshort
    · simp [h.closed]
    · have hopen := h.opened rest hshort
      rw [List.count_cons_self, List.count_cons_of_ne (by decide)]
      omega
  closed := by simp [h.closed]

theorem ClosesApart.append (h : ClosesApart first) (h' : ClosesApart second)
    (hmeet : first.getLast? = some '>' → second.head? ≠ some '>') :
    ClosesApart (first ++ second) := by
  refine List.IsChain.append h h' ?_
  rintro c hc d hd ⟨rfl, rfl⟩
  exact hmeet hc hd

theorem closesApart_of_not_mem (h : '>' ∉ cs) : ClosesApart cs := by
  apply List.Pairwise.isChain
  refine List.pairwise_of_forall_mem_list ?_
  rintro c hc d - ⟨rfl, -⟩
  exact h hc

theorem ClosesApart.not_contains_pair (h : ClosesApart cs) : ¬['>', '>'] <:+: cs := by
  rintro ⟨front, rest, hcs⟩
  have hpair : cs = front ++ '>' :: '>' :: rest := by rw [← hcs, List.append_assoc]; rfl
  exact List.isChain_iff_forall_rel_of_append_cons_cons.1 h hpair ⟨rfl, rfl⟩

end Text

open Text

namespace TypeUse

variable {t : TypeUse} {pieces : List (List Char)}

/-- The names in the type use, those of its template arguments included, hold no angle bracket. -/
inductive UnbracketedNames : TypeUse → Prop where
  | intro {t : TypeUse} (name : Unbracketed t.entry.qualifiedName.toList)
      (arguments : ∀ a ∈ t.arguments, UnbracketedNames a) : UnbracketedNames t

mutual

/-- How many lists of template arguments a type use has, at all depths. -/
def argumentLists : TypeUse → Nat
  | ⟨_, _, _, _, _, _, _, arguments, _, _⟩ =>
    (if arguments.isEmpty then 0 else 1) + argumentListsOfAll arguments

def argumentListsOfAll : List TypeUse → Nat
  | [] => 0
  | t :: ts => argumentLists t + argumentListsOfAll ts

end

theorem argumentLists_eq (t : TypeUse) : t.argumentLists =
    (if t.arguments.isEmpty then 0 else 1) + argumentListsOfAll t.arguments := by
  cases t
  rw [argumentLists]

theorem unbracketed_front (h : Unbracketed t.entry.qualifiedName.toList) :
    Unbracketed t.front := by
  refine Unbracketed.append ?_ h
  split <;> decide

theorem unbracketed_back (t : TypeUse) : Unbracketed t.back := by
  have hstars : ∀ c ∈ List.replicate t.indirections '*', c = '*' :=
    fun c hc => List.eq_of_mem_replicate hc
  refine Unbracketed.append ⟨fun hopen => ?_, fun hclose => ?_⟩ ?_
  · exact absurd (hstars '<' hopen) (by decide)
  · exact absurd (hstars '>' hclose) (by decide)
  · split <;> decide

theorem isBalanced_bracketed (h : ∀ piece ∈ pieces, IsBalanced piece) :
    IsBalanced (bracketed pieces) := by
  cases pieces with
  | nil => exact Unbracketed.isBalanced (by decide)
  | cons piece rest =>
    have hcomma : IsBalanced [',', ' '] := Unbracketed.isBalanced (by decide)
    have hinner : IsBalanced (joinWith [',', ' '] (piece :: rest)) := by
      refine joinWith_of_append (Unbracketed.isBalanced (by decide)) ?_ h
      exact fun item joined hitem hjoined => (hitem.append hcomma).append hjoined
    rw [bracketed_cons, closing, ← List.append_assoc]
    refine IsBalanced.enclose (hinner.append ?_)
    split <;> exact Unbracketed.isBalanced (by decide)

theorem closesApart_closing {inner : List Char} (h : ClosesApart inner) :
    ClosesApart (inner ++ closing inner) := by
  unfold closing
  split
  · exact h.append (by simp [ClosesApart]) (by simp)
  · next hlast => exact h.append (by simp [ClosesApart]) (fun hend => absurd hend hlast)

theorem closesApart_bracketed (h : ∀ piece ∈ pieces, ClosesApart piece) :
    ClosesApart (bracketed pieces) := by
  cases pieces with
  | nil => exact List.isChain_nil
  | cons piece rest =>
    have hcomma : ClosesApart [',', ' '] := closesApart_of_not_mem (by decide)
    have hinner : ClosesApart (joinWith [',', ' '] (piece :: rest)) := by
      refine joinWith_of_append List.isChain_nil (fun item joined hitem hjoined => ?_) h
      exact (hitem.append hcomma (by simp)).append hjoined (by simp)
    rw [bracketed_cons, ← List.singleton_append]
    exact (closesApart_of_not_mem (by decide)).append (closesApart_closing hinner) (by simp)

theorem count_bracketed (pieces : List (List Char)) : (bracketed pieces).count '<' =
    (if pieces.isEmpty then 0 else 1) + pieces.flatten.count '<' := by
  cases pieces with
  | nil => rfl
  | cons piece rest =>
    have hclosing : ∀ inner : List Char, (closing inner).count '<' = 0 := by
      intro inner
      unfold closing
      split <;> decide
    rw [bracketed_cons, List.count_cons_self, List.count_append, hclosing,
      count_joinWith (by decide)]
    simp only [List.isEmpty_cons, Bool.false_eq_true, if_false]
    omega

theorem count_flatten_spell {ts : List TypeUse}
    (h : ∀ a ∈ ts, a.spell.count '<' = a.argumentLists) :
    (ts.map spell).flatten.count '<' = argumentListsOfAll ts := by
  induction ts with
  | nil => rfl
  | cons a ts ih =>
    rw [List.map_cons, List.flatten_cons, List.count_append, h a List.mem_cons_self,
      ih fun b hb => h b (List.mem_cons_of_mem _ hb), argumentListsOfAll]

theorem UnbracketedNames.isBalanced (h : UnbracketedNames t) : IsBalanced t.spell := by
  induction h with
  | @intro t hname _ ih =>
    rw [spell_eq]
    have harguments : IsBalanced (bracketed (t.arguments.map spell)) :=
      isBalanced_bracketed (List.forall_mem_map.2 ih)
    exact (unbracketed_front hname).isBalanced.append
      (harguments.append t.unbracketed_back.isBalanced)

theorem UnbracketedNames.closesApart (h : UnbracketedNames t) : ClosesApart t.spell := by
  induction h with
  | @intro t hname _ ih =>
    have hfront := (unbracketed_front hname).2
    have hback := t.unbracketed_back.2
    have harguments : ClosesApart (bracketed (t.arguments.map spell)) :=
      closesApart_bracketed (List.forall_mem_map.2 ih)
    rw [spell_eq]
    -- what comes behind the lists does not start with a bracket, and the name does not end with one
    refine (closesApart_of_not_mem hfront).append
      (harguments.append (closesApart_of_not_mem hback) ?_) ?_
    · exact fun _ hhead => hback (List.mem_of_head? hhead)
    · exact fun hlast => absurd (List.mem_of_getLast? hlast) hfront

theorem UnbracketedNames.count_opening (h : UnbracketedNames t) :
    t.spell.count '<' = t.argumentLists := by
  induction h with
  | @intro t hname _ ih =>
    rw [spell_eq, List.count_append, List.count_append, count_bracketed, count_flatten_spell ih,
      List.count_eq_zero.2 (unbracketed_front hname).1,
      List.count_eq_zero.2 t.unbracketed_back.1, argumentLists_eq, List.isEmpty_map]
    omega

/-- When the names hold no angle bracket, a spelling never has two closing brackets in a row, and its
brackets are balanced, with a pair for each list of template arguments at any depth. -/
theorem closing_brackets_apart (h : UnbracketedNames t) :
    ¬['>', '>'] <:+: t.spelling.toList ∧ IsBalanced t.spelling.toList ∧
      t.spelling.toList.count '<' = t.argumentLists := by
  rw [spelling, String.toList_ofList]
  exact ⟨h.closesApart.not_contains_pair, h.isBalanced, h.count_opening⟩

theorem PlainlyNamed.unbracketedNames (h : PlainlyNamed t) : UnbracketedNames t := by
  induction h with
  | intro hname _ ih =>
    refine .intro ⟨fun hopen => ?_, fun hclose => ?_⟩ ih
    · exact absurd (hname.unmarked '<' hopen) (by decide)
    · exact absurd (hname.unmarked '>' hclose) (by decide)

def mapsUse : TypeUse where
  entry := { handle := 5, kind := .container, name := "vector" }
  reference := true
  arguments := [{ mapUse 1 with indirections := 0, reference := false }]

theorem three_lists_apart : mapsUse.UnbracketedNames ∧
    mapsUse.spelling = "vector<const ns::Map<const char*, vector<unsigned int> > >&" ∧
    ¬['>', '>'] <:+: mapsUse.spelling.toList ∧ IsBalanced mapsUse.spelling.toList ∧
    mapsUse.spelling.toList.count '<' = 3 := by
  have hnames : mapsUse.UnbracketedNames := by
    refine .intro (by decide +kernel) fun a ha => ?_
    obtain ⟨hname, harguments⟩ := (mapUse_plain 1).unbracketedNames
    rw [List.mem_singleton.1 ha]
    exact .intro hname harguments
  obtain ⟨hapart, hbalanced, hcount⟩ := closing_brackets_apart hnames
  exact ⟨hnames, by decide +kernel, hapart, hbalanced, by rw [hcount]; decide +kernel⟩

/-- A name brings its own brackets along. -/
example : ({ entry := { handle := 1, kind := .object, name := "A<B<int>>" } } : TypeUse).spelling =
    "A<B<int>>" := by
  decide +kernel

end TypeUse

end GlueCode
