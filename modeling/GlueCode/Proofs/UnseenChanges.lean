import GlueCode.Proofs.SampleSearch
import Mathlib.Logic.Relation
import Mathlib.Order.Nat
/-! # Changes that no search for samples sees

A search reads the classes of an interface, and of a class its candidates, fewest arguments first.
So other functions can come and go, and candidates can change places as long as those with equally
many arguments keep their order. The classes themselves can change places when each entry belongs to
one class only. All of this together leaves every search as it is, step by step: what is found for
each class on the way is the same, and so is the list of the classes in progress, told apart by
their handles. -/
namespace GlueCode

def choices (fs : List Callable) : List Callable :=
  (fs.filter (·.isConstructor)).filter (·.isCandidate)

def choicesWith (n : Nat) (fs : List Callable) : List Callable :=
  (choices fs).filter (·.arguments.length = n)

/-- No constructor, or one that is private, added by the user or for copies. -/
def Callable.IsBystander (f : Callable) : Prop :=
  f.isConstructor = false ∨ f.isPrivate = true ∨ f.isUserAdded = true ∨
    f.isCopyConstructor = true

/-- A change to the functions of a class: one that takes no part in the search is added or removed,
or all change places, but for the order of those that take part and have equally many arguments. -/
inductive Unseen : List Callable → List Callable → Prop where
  | added (front back : List Callable) {f : Callable} (hf : f.IsBystander) :
      Unseen (front ++ back) (front ++ f :: back)
  | removed (front back : List Callable) {f : Callable} (hf : f.IsBystander) :
      Unseen (front ++ f :: back) (front ++ back)
  | reordered {fs gs : List Callable} (hperm : fs.Perm gs)
      (hsame : ∀ n, choicesWith n fs = choicesWith n gs) : Unseen fs gs

variable {fs gs front back : List Callable} {f : Callable}

theorem choices_bystander (hf : f.IsBystander) :
    choices (front ++ f :: back) = choices (front ++ back) := by
  have hnone : choices [f] = [] := by
    unfold choices Callable.isCandidate
    rcases hf with h | h | h | h <;> simp [h, List.filter_cons]
  have happend : ∀ xs ys, choices (xs ++ ys) = choices xs ++ choices ys := by simp [choices]
  rw [happend, ← List.singleton_append, happend, hnone, List.nil_append, ← happend]

theorem Unseen.choicesWith_eq (h : Unseen fs gs) (n : Nat) :
    choicesWith n fs = choicesWith n gs := by
  cases h with
  | added front back hf => rw [choicesWith, choicesWith, choices_bystander hf]
  | removed front back hf => rw [choicesWith, choicesWith, choices_bystander hf]
  | reordered _ hsame => exact hsame n

theorem choicesWith_eq_of_unseen (h : Relation.ReflTransGen Unseen fs gs) (n : Nat) :
    choicesWith n fs = choicesWith n gs := by
  induction h with
  | refl => rfl
  | tail _ hlast ih => exact ih.trans (hlast.choicesWith_eq n)

theorem byArity_congr (h : ∀ n, fs.filter (·.arguments.length = n) =
    gs.filter (·.arguments.length = n)) : byArity fs = byArity gs := by
  have hmem : ∀ f, f ∈ fs ↔ f ∈ gs := by
    intro f
    have hboth := congrArg (f ∈ ·) (h f.arguments.length)
    simpa using hboth
  have hmost : fs.foldl (fun n f => max n f.arguments.length) 0 =
      gs.foldl (fun n f => max n f.arguments.length) 0 :=
    eq_of_forall_ge_iff fun bound => by simp only [foldl_max_le_iff, hmem]
  simp only [byArity, hmost, h]

/-- Classes that differ in nothing that a search for samples sees. -/
structure ClassDecl.Alike (c d : ClassDecl) : Prop where
  head : d.toClassHead = c.toClassHead
  functions : Relation.ReflTransGen Unseen c.functions d.functions

variable {c d : ClassDecl}

theorem ClassDecl.Alike.entry_eq (h : c.Alike d) : d.entry = c.entry := by rw [h.head]

theorem ClassDecl.Alike.handle_eq (h : c.Alike d) : d.handle = c.handle := by rw [h.head]

theorem ClassDecl.Alike.sampleWith_eq (h : c.Alike d)
    (ofType : TypeUse → Traced (Option Sample)) : d.sampleWith ofType = c.sampleWith ofType := by
  have hfilter : ∀ n, d.candidates.filter (·.arguments.length = n) =
      c.candidates.filter (·.arguments.length = n) :=
    fun n => (choicesWith_eq_of_unseen h.functions n).symm
  have horder : byArity d.candidates = byArity c.candidates := byArity_congr hfilter
  have hmem : ∀ f, f ∈ d.candidates ↔ f ∈ c.candidates := by
    intro f
    rw [← mem_byArity, horder, mem_byArity]
  have hempty : d.candidates.isEmpty = c.candidates.isEmpty := by
    rw [Bool.eq_iff_iff, List.isEmpty_iff, List.isEmpty_iff, List.eq_nil_iff_forall_not_mem,
      List.eq_nil_iff_forall_not_mem]
    simp only [hmem]
  have hany : d.candidates.any (·.arguments.isEmpty) = c.candidates.any (·.arguments.isEmpty) := by
    rw [Bool.eq_iff_iff, List.any_eq_true, List.any_eq_true]
    simp only [hmem]
  have hname : d.qualifiedName = c.qualifiedName := by
    rw [ClassDecl.qualifiedName, ClassDecl.qualifiedName, h.entry_eq]
  have hcall : d.call? = c.call? := by
    funext values
    simp only [ClassDecl.call?, hname]
  simp only [ClassDecl.sampleWith, horder, hempty, hany, hname, hcall, h.entry_eq]

def Api.EntriesDiffer (api : Api) : Prop :=
  ∀ c ∈ api.classes, ∀ d ∈ api.classes, c.entry = d.entry → c = d

def Target.Knows (api : Api) (target : Target) (c : ClassDecl) : Prop :=
  c ∈ api.classes ∨ target = .cls c

def Target.HandlesDiffer (api : Api) (target : Target) : Prop :=
  ∀ c d, target.Knows api c → target.Knows api d → c.handle = d.handle → c = d

/-- The classes of the second interface are the edited ones of the first. They stand in another
order only when no two of them share an entry. -/
def Api.EditedTo (edit : ClassDecl → ClassDecl) (api edited : Api) : Prop :=
  edited.classes = api.classes.map edit ∨
    edited.classes.Perm (api.classes.map edit) ∧ api.EntriesDiffer

def Target.edited (edit : ClassDecl → ClassDecl) : Target → Target
  | .cls c => .cls (edit c)
  | target => target

theorem find?_entry_of_perm {l l' : List ClassDecl} (hperm : l.Perm l')
    (hunique : ∀ c ∈ l', ∀ d ∈ l', c.entry = d.entry → c = d) (e : Entry) :
    (l.find? fun c => c.entry = e) = l'.find? fun c => c.entry = e := by
  cases hfound : l'.find? fun c => c.entry = e with
  | none =>
    rw [List.find?_eq_none] at hfound ⊢
    exact fun c hc => hfound c (hperm.subset hc)
  | some c =>
    have hc : c ∈ l' := List.mem_of_find?_eq_some hfound
    have hentry : c.entry = e := by simpa using List.find?_some hfound
    cases hother : l.find? fun c => c.entry = e with
    | none =>
      have hnone := List.find?_eq_none.1 hother c (hperm.symm.subset hc)
      exact absurd (by simpa using hentry) hnone
    | some d =>
      have hd : d ∈ l' := hperm.subset (List.mem_of_find?_eq_some hother)
      have hentry' : d.entry = e := by simpa using List.find?_some hother
      rw [hunique d hd c hc (hentry'.trans hentry.symm)]

section Edited

variable {api api' : Api} {edit : ClassDecl → ClassDecl} {target : Target}
  (hedit : ∀ c : ClassDecl, c.Alike (edit c))

include hedit

theorem entriesDiffer_map (h : api.EntriesDiffer) :
    ∀ c ∈ api.classes.map edit, ∀ d ∈ api.classes.map edit, c.entry = d.entry → c = d := by
  simp only [List.forall_mem_map, (hedit _).entry_eq]
  exact fun c hc d hd hsame => congrArg edit (h c hc d hd hsame)

theorem findClass_edited (hclasses : api.EditedTo edit api') (e : Entry) :
    api'.findClass e = (api.findClass e).map edit := by
  have hmap : ((api.classes.map edit).find? fun c => c.entry = e) =
      (api.findClass e).map edit := by
    rw [List.find?_map, Api.findClass]
    congr 2
    funext c
    simp [(hedit c).entry_eq]
  rcases hclasses with hsame | ⟨hperm, hentries⟩
  · rw [← hmap, ← hsame, Api.findClass]
  · rw [← hmap, ← find?_entry_of_perm hperm (entriesDiffer_map hedit hentries), Api.findClass]

theorem sampleTypeWith_edited (hclasses : api.EditedTo edit api')
    {found found' : ClassDecl → Traced (Option Sample)}
    (h : ∀ d ∈ api.classes, found' (edit d) = found d) :
    api'.sampleTypeWith found' = api.sampleTypeWith found := by
  funext t
  unfold Api.sampleTypeWith
  rw [findClass_edited hedit hclasses]
  cases hc : api.findClass t.entry with
  | none => rfl
  | some c => simp only [Option.map_some, h c (Api.mem_classes_of_findClass hc).1]

theorem mem_edited_iff (hhandles : target.HandlesDiffer api) {busy : List ClassDecl}
    (hbusy : ∀ b ∈ busy, target.Knows api b) (hc : target.Knows api c) :
    edit c ∈ busy.map edit ↔ c ∈ busy := by
  constructor
  · intro hmem
    obtain ⟨b, hb, hsame⟩ := List.mem_map.1 hmem
    have hhandle : b.handle = c.handle := by
      rw [← (hedit b).handle_eq, hsame, (hedit c).handle_eq]
    rwa [← hhandles b c (hbusy b hb) hc hhandle]
  · exact List.mem_map_of_mem

/-- The search goes on alike from the classes in progress, whatever they are. -/
theorem sampleClassAt_edited (hclasses : api.EditedTo edit api')
    (hhandles : target.HandlesDiffer api) {depth : Nat} : ∀ {busy : List ClassDecl} {c : ClassDecl},
    (∀ b ∈ busy, target.Knows api b) → target.Knows api c →
    api'.sampleClassAt depth (busy.map edit) (edit c) = api.sampleClassAt depth busy c := by
  induction depth with
  | zero => exact fun _ _ => rfl
  | succ depth ih =>
    intro busy c hbusy hc
    have hlater : ∀ b ∈ c :: busy, target.Knows api b := List.forall_mem_cons.2 ⟨hc, hbusy⟩
    have htypes : api'.sampleTypeWith (api'.sampleClassAt depth ((c :: busy).map edit)) =
        api.sampleTypeWith (api.sampleClassAt depth (c :: busy)) :=
      sampleTypeWith_edited hedit hclasses fun d hd => ih hlater (.inl hd)
    rw [Api.sampleClassAt, Api.sampleClassAt, (hedit c).entry_eq, ← List.map_cons, htypes,
      (hedit c).sampleWith_eq]
    simp only [mem_edited_iff hedit hhandles hbusy hc]

end Edited

/-- What a search finds and reports does not change when bystanders among the functions of classes
come and go, candidates are reordered among those with other numbers of arguments, and classes that
have entries of their own change places. -/
theorem sample_edited (api api' : Api) (target : Target) (edit : ClassDecl → ClassDecl)
    (hedit : ∀ c : ClassDecl, c.Alike (edit c)) (hclasses : api.EditedTo edit api')
    (hhandles : target.HandlesDiffer api) :
    api'.sample (target.edited edit) = api.sample target := by
  have hdepth : api'.searchDepth = api.searchDepth := by
    have hlength : api'.classes.length = api.classes.length := by
      rcases hclasses with hsame | ⟨hperm, -⟩
      · rw [hsame, List.length_map]
      · rw [hperm.length_eq, List.length_map]
    rw [Api.searchDepth, Api.searchDepth, hlength]
  have hclass : ∀ c, target.Knows api c → api'.sampleClass (edit c) = api.sampleClass c := by
    intro c hc
    rw [Api.sampleClass, Api.sampleClass, hdepth]
    exact sampleClassAt_edited hedit hclasses hhandles (List.forall_mem_nil _) hc
  cases target with
  | type t =>
    have htypes := sampleTypeWith_edited hedit hclasses fun d hd => hclass d (.inl hd)
    exact congrFun htypes t
  | cls c => exact hclass c (.inr rfl)
  | entry | enum | nothing => rfl

def chestClass : ClassDecl :=
  let label (name : String) : Argument := { name, type := { entry := labelEntry } }
  { handle := 4, name := "Chest", entry := { handle := 4, kind := .value, name := "Chest" }
    functions :=
      [{ handle := 0, name := "", isConstructor := true, arguments := [label "a", label "b"] },
        constructorFrom lockEntry] }

def chestEdit (c : ClassDecl) : ClassDecl :=
  if c = chestClass then
    { c with
      functions :=
        [{ handle := 5, name := "", isConstructor := true, isPrivate := true },
          constructorFrom lockEntry, { handle := 6, name := "open" }] ++ c.functions.take 1 }
  else c

theorem alike_chestEdit (c : ClassDecl) : c.Alike (chestEdit c) := by
  unfold chestEdit
  split
  · next hc =>
    subst hc
    have hsame : ∀ n, choicesWith n chestClass.functions =
        choicesWith n ([constructorFrom lockEntry] ++ chestClass.functions.take 1) := by
      intro n
      match n with
      | 0 | 1 | 2 => rfl
      | n + 3 => simp [choicesWith, choices, chestClass, constructorFrom, Callable.isCandidate]
    refine ⟨rfl, ((Relation.ReflTransGen.single (.reordered ?_ hsame)).tail
      (.added [constructorFrom lockEntry] _ (.inl rfl))).tail (.added [] _ (.inr (.inl rfl)))⟩
    exact List.Perm.swap _ _ _
  · exact ⟨rfl, .refl⟩

def chests : Api := { classes := [keyClass, lockClass, chestClass] }

def editedChests : Api := { classes := [chestEdit chestClass, keyClass, lockClass] }

theorem chest_sample_kept : (∀ c : ClassDecl, c.Alike (chestEdit c)) ∧
    chests.EditedTo chestEdit editedChests ∧ (Target.cls chestClass).HandlesDiffer chests ∧
    editedChests.sample (.cls (chestEdit chestClass)) = chests.sample (.cls chestClass) ∧
    (chests.sample (.cls chestClass)).value.map Sample.text =
      some "::Chest(::Lock(::Label()))" := by
  have hclasses : chests.EditedTo chestEdit editedChests := by
    have hmap : chests.classes.map chestEdit = [keyClass, lockClass, chestEdit chestClass] := by
      decide +kernel
    have hperm : [chestEdit chestClass, keyClass, lockClass].Perm
        [keyClass, lockClass, chestEdit chestClass] := List.perm_append_comm_assoc [_] [_, _] []
    exact .inr ⟨hmap ▸ hperm, by unfold Api.EntriesDiffer; decide +kernel⟩
  have hhandles : (Target.cls chestClass).HandlesDiffer chests := by
    have hknown : ∀ c, (Target.cls chestClass).Knows chests c → c ∈ chests.classes := by
      rintro c (hc | ⟨⟨⟩⟩)
      · exact hc
      · simp [chests]
    have hapart : ∀ c ∈ chests.classes, ∀ d ∈ chests.classes, c.handle = d.handle → c = d := by
      decide +kernel
    exact fun c d hc hd => hapart c (hknown c hc) d (hknown d hd)
  exact ⟨alike_chestEdit, hclasses, hhandles,
    sample_edited chests editedChests (.cls chestClass) chestEdit alike_chestEdit hclasses hhandles,
    by decide +kernel⟩

end GlueCode
