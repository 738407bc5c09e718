import GlueCode.Template.Collection
/-! # Rendering templates of plain data

The parts of a template for plain data leave the loops around them as they are, so the text of a
template is put together from the texts of its parts. A loop over a list repeats the text of its
parts once for each item, and its counter tells the position of the item, counted from one.

Reading a source cannot be followed in proofs, only computed, so what was read is compared with what
is expected. The comparison knows names, fields and filters without arguments; everything else
counts as different. -/
namespace GlueCode.Template

def Expr.isSame : Expr Reference → Expr Reference → Bool
  | .name r, .name r' => r = r'
  | .field e key, .field e' key' => e.isSame e' && key = key'
  | .filtered e filter [] names, .filtered e' filter' [] names' =>
    e.isSame e' && filter = filter' && names = names'
  | _, _ => false

theorem Expr.eq_of_isSame {e e' : Expr Reference} (h : e.isSame e' = true) : e = e' := by
  fun_induction Expr.isSame e e' <;> simp_all

mutual

def Part.isSame : Part Reference → Part Reference → Bool
  | .text cs, .text cs' => cs = cs'
  | .print e, .print e' => e.isSame e'
  | .branch test body otherwise, .branch test' body' otherwise' =>
    test.isSame test' && isSameAll body body' && isSameAll otherwise otherwise'
  | .loop item items body otherwise, .loop item' items' body' otherwise' =>
    item = item' && items.isSame items' && isSameAll body body' && isSameAll otherwise otherwise'
  | _, _ => false

def isSameAll : List (Part Reference) → List (Part Reference) → Bool
  | [], [] => true
  | part :: rest, part' :: rest' => part.isSame part' && isSameAll rest rest'
  | _, _ => false

end

mutual

theorem Part.eq_of_isSame : ∀ {p q : Part Reference}, p.isSame q = true → p = q
  | .text _, q, h => by cases q <;> simp_all [Part.isSame]
  | .print e, q, h => by
    cases q with
    | print e' => rw [Expr.eq_of_isSame h]
    | _ => simp [Part.isSame] at h
  | .branch test body otherwise, q, h => by
    cases q with
    | branch test' body' otherwise' =>
      simp only [Part.isSame, Bool.and_eq_true] at h
      rw [Expr.eq_of_isSame h.1.1, eq_of_isSameAll h.1.2, eq_of_isSameAll h.2]
    | _ => simp [Part.isSame] at h
  | .loop item items body otherwise, q, h => by
    cases q with
    | loop item' items' body' otherwise' =>
      simp only [Part.isSame, Bool.and_eq_true, decide_eq_true_eq] at h
      rw [h.1.1.1, Expr.eq_of_isSame h.1.1.2, eq_of_isSameAll h.1.2, eq_of_isSameAll h.2]
    | _ => simp [Part.isSame] at h

theorem eq_of_isSameAll : ∀ {ps qs : List (Part Reference)}, isSameAll ps qs = true → ps = qs
  | [], qs, h => by cases qs <;> simp_all [isSameAll]
  | p :: ps, qs, h => by
    cases qs with
    | nil => simp [isSameAll] at h
    | cons q qs =>
      simp only [isSameAll, Bool.and_eq_true] at h
      rw [Part.eq_of_isSame h.1, eq_of_isSameAll h.2]

end

def readsAs (source : List Char) (parts : List (Part Reference)) : Bool :=
  match Template.read source with
  | .ok template => isSameAll template.parts parts
  | .error _ => false

theorem read_of_readsAs {source : List Char} {parts : List (Part Reference)}
    (h : readsAs source parts = true) : Template.read source = .ok ⟨parts⟩ := by
  unfold readsAs at h
  split at h
  · next template hread => rw [hread, ← eq_of_isSameAll h]
  · cases h

variable {context : Context} {loops : List Loop}

/-- Parts have this text, and the loops around them stay as they are. -/
def Renders (context : Context) (loops : List Loop) (parts : List (Part Reference))
    (text : List Char) : Prop :=
  renderAll context parts loops = .ok ⟨text, loops⟩

theorem renders_nil : Renders context loops [] [] := by rw [Renders, renderAll]

theorem Renders.of_eq {parts : List (Part Reference)} {text text' : List Char}
    (h : Renders context loops parts text) (heq : text = text') :
    Renders context loops parts text' := heq ▸ h

theorem renderAll_append (parts rest : List (Part Reference)) (loops : List Loop) :
    renderAll context (parts ++ rest) loops = (do
      let first ← renderAll context parts loops
      let later ← renderAll context rest first.loops
      return ⟨first.text ++ later.text, later.loops⟩) := by
  induction parts generalizing loops with
  | nil =>
    simp only [List.nil_append, renderAll, bind, Except.bind]
    cases renderAll context rest loops <;> rfl
  | cons part parts ih =>
    simp only [List.cons_append, renderAll, ih, bind, Except.bind]
    cases part.render context loops with
    | error e => rfl
    | ok first =>
      simp only
      cases renderAll context parts first.loops with
      | error e => rfl
      | ok second =>
        simp only [pure, Except.pure]
        cases renderAll context rest second.loops with
        | error e => rfl
        | ok later => simp only [List.append_assoc]

theorem Renders.append {parts rest : List (Part Reference)} {first later : List Char}
    (hfirst : Renders context loops parts first) (hlater : Renders context loops rest later) :
    Renders context loops (parts ++ rest) (first ++ later) := by
  unfold Renders at hfirst hlater ⊢
  rw [renderAll_append, hfirst]
  show (renderAll context rest loops >>= _) = _
  rw [hlater]
  rfl

theorem renders_single {part : Part Reference} {text : List Char}
    (h : part.render context loops = .ok ⟨text, loops⟩) : Renders context loops [part] text := by
  simp [Renders, renderAll, h, bind, Except.bind, pure, Except.pure]

variable {rest : List (Part Reference)} {later : List Char}

theorem Renders.text (cs : List Char) (h : Renders context loops rest later) :
    Renders context loops (.text cs :: rest) (cs ++ later) :=
  (renders_single (by rw [Part.render])).append h

theorem Renders.print {e : Expr Reference} {v : Value} (he : e.eval context loops = .ok v)
    (h : Renders context loops rest later) :
    Renders context loops (.print e :: rest) (v.text loops ++ later) :=
  (renders_single (by rw [Part.render, he]; rfl)).append h

theorem Renders.branch {test : Expr Reference} {v : Value} {body otherwise : List (Part Reference)}
    {inner : List Char} (htest : test.eval context loops = .ok v)
    (hinner : Renders context loops (if v.holds then body else otherwise) inner)
    (h : Renders context loops rest later) :
    Renders context loops (.branch test body otherwise :: rest) (inner ++ later) := by
  have hpart : (Part.branch test body otherwise).render context loops = .ok ⟨inner, loops⟩ := by
    rw [Part.render, htest]
    show (if v.holds then _ else _) = _
    split
    · next hv => rwa [if_pos hv] at hinner
    · next hv => rwa [if_neg hv] at hinner
  exact (renders_single hpart).append h

theorem Renders.taken {test : Expr Reference} {v : Value} {body otherwise : List (Part Reference)}
    {inner : List Char} (htest : test.eval context loops = .ok v) (hv : v.holds = true)
    (hinner : Renders context loops body inner) (h : Renders context loops rest later) :
    Renders context loops (.branch test body otherwise :: rest) (inner ++ later) :=
  .branch htest (by rwa [if_pos hv]) h

theorem Renders.otherwise {test : Expr Reference} {v : Value}
    {body otherwise : List (Part Reference)} {inner : List Char}
    (htest : test.eval context loops = .ok v) (hv : v.holds = false)
    (hinner : Renders context loops otherwise inner) (h : Renders context loops rest later) :
    Renders context loops (.branch test body otherwise :: rest) (inner ++ later) :=
  .branch htest (by rwa [hv, if_neg Bool.false_ne_true]) h

theorem eval_given {name : String} {value : Json} (h : context.fields.get? name = some value) :
    (Expr.name (.given name)).eval context loops = .ok (.data value) := by
  rw [Expr.eval, Context.value, Context.given, h]

theorem eval_comment {e : Expr Reference} {v : Value} (he : e.eval context loops = .ok v) :
    (Expr.filtered e .comment [] []).eval context loops =
      .ok (.data (.str (String.ofList (Text.commentOut defaultStyle (v.text loops))))) := by
  rw [Expr.eval, he]
  rfl

theorem eval_indent {e : Expr Reference} {v : Value} (he : e.eval context loops = .ok v) :
    (Expr.filtered e .indent [] []).eval context loops =
      .ok (.data (.str (String.ofList
        (Text.reindentText (List.replicate defaultWidth ' ') (v.text loops))))) := by
  rw [Expr.eval, he]
  rfl

/-- The field of an object, unless every object has an attribute of that name. -/
theorem field_obj {fields : Json.Fields} {key : String} {value : Json}
    (hplain : (Attribute.value (.obj fields)).get? key = none)
    (h : Ledger.get? key fields = some value) :
    (Value.data (.obj fields)).field loops key = .ok (.data value) := by
  simp [Value.field, Value.attribute?, hplain, Value.entry?, Value.row?, h]

section

variable {pass : Loop}

theorem eval_item {v : Value} (h : pass.item = v) :
    (Expr.name (.item 0)).eval context [pass] = .ok v := by
  rw [Expr.eval, Context.value, ← h]
  rfl

theorem eval_itemField {fields : Json.Fields} {key : String} {value : Json}
    (hitem : pass.item = .data (.obj fields))
    (hplain : (Attribute.value (.obj fields)).get? key = none)
    (h : Ledger.get? key fields = some value) :
    (Expr.field (.name (.item 0)) key).eval context [pass] = .ok (.data value) := by
  rw [Expr.eval, eval_item hitem]
  exact field_obj hplain h

theorem eval_position :
    (Expr.field (.name (.counter 0)) "index").eval context [pass] = .ok (.ofCount pass.index) := by
  rw [Expr.eval, Expr.eval]
  rfl

end

@[simp] theorem holds_data (v : Json) : (Value.data v).holds = v.holds := rfl

@[simp] theorem text_data (v : Json) : (Value.data v).text loops = v.display := rfl

@[simp] theorem display_str (s : String) : (Json.str s).display = s.toList := rfl

@[simp] theorem text_ofCount (n : Nat) : (Value.ofCount n).text loops = n.repr.toList := by
  simp [Value.ofCount, Value.text, Attribute.text, Json.display, Json.quoted, Json.intDigits,
    Number.natDigits]

def Loop.pass (l : Loop) (v : Value) (rest : List Value) : Loop :=
  { l.take v (.items rest) with item := v }

theorem nextPass?_items {l : Loop} {v : Value} {rest : List Value}
    (h : l.ahead = .items (v :: rest)) :
    nextPass? (l :: loops) = some (l.pass v rest :: loops) := by
  simp [nextPass?, takeNext?, h, Loop.pass]

theorem nextPass?_none {l : Loop} (h : l.ahead = .items []) : nextPass? (l :: loops) = none := by
  simp [nextPass?, takeNext?, h]

theorem nextPass?_isNone {l : Loop} {values : List Value} (h : l.ahead = .items values) :
    (nextPass? (l :: loops)).isNone = values.isEmpty := by
  cases values with
  | nil => rw [nextPass?_none h]; rfl
  | cons v rest => rw [nextPass?_items h]; rfl

section

variable {α : Type} {as : List α}

theorem renderPasses_items (toData : α → Json) (text : Nat → α → List Char)
    (body : List Loop → Except RenderError Rendered) {l : Loop} {fuel : Nat}
    (hbody : ∀ (pass : Loop) (a : α), a ∈ as → pass.item = .data (toData a) →
      body (pass :: loops) = .ok ⟨text pass.index a, pass :: loops⟩)
    (hahead : l.ahead = .items (as.map fun a => .data (toData a))) (hfuel : as.length ≤ fuel) :
    ∃ last, renderPasses body fuel (l :: loops) =
      .ok ⟨(as.zipIdx (l.index + 1)).flatMap fun (a, i) => text i a, last :: loops⟩ := by
  induction as generalizing l fuel with
  | nil =>
    refine ⟨l, ?_⟩
    cases fuel with
    | zero => rfl
    | succ fuel => rw [renderPasses, nextPass?_none hahead]; rfl
  | cons a rest ih =>
    cases fuel with
    | zero => simp at hfuel
    | succ fuel =>
      let pass := l.pass (.data (toData a)) (rest.map fun a => .data (toData a))
      have hfirst := hbody pass a List.mem_cons_self rfl
      obtain ⟨last, hlast⟩ := ih (l := pass)
        (fun pass b hb => hbody pass b (List.mem_cons_of_mem a hb)) rfl (by simpa using hfuel)
      refine ⟨last, ?_⟩
      rw [renderPasses, nextPass?_items hahead]
      simp only [bind, Except.bind]
      rw [hfirst]
      simp only
      rw [hlast]
      rfl

theorem renders_loop (toData : α → Json) (text : Nat → α → List Char) {item : String}
    {items : Expr Reference} {parts : List (Part Reference)}
    (hitems : items.eval context loops = .ok (.data (.arr (as.map toData))))
    (hbody : ∀ (pass : Loop) (a : α), a ∈ as → pass.item = .data (toData a) →
      Renders context (pass :: loops) parts (text pass.index a)) :
    Renders context loops [.loop item items parts []]
      ((as.zipIdx 1).flatMap fun (a, i) => text i a) := by
  have hsource : (Value.data (.arr (as.map toData))).source =
      .ok (.items (as.map fun a => .data (toData a))) := by simp [Value.source, Value.row?]
  obtain ⟨last, hlast⟩ := renderPasses_items toData text (renderAll context parts)
    (l := .start (.items (as.map fun a => .data (toData a))) as.length) hbody rfl (Nat.le_refl _)
  refine renders_single ?_
  rw [Part.render, hitems]
  simp only [bind, Except.bind, hsource, Source.count, List.length_map]
  rw [nextPass?_isNone rfl]
  by_cases hempty : as = []
  · subst hempty
    rfl
  · rw [if_neg (by simpa using hempty), hlast]
    rfl

theorem renders_each (toData : α → Json) (text : α → List Char) {item : String}
    {items : Expr Reference} {parts : List (Part Reference)}
    (hitems : items.eval context loops = .ok (.data (.arr (as.map toData))))
    (hbody : ∀ (pass : Loop) (a : α), a ∈ as → pass.item = .data (toData a) →
      Renders context (pass :: loops) parts (text a)) :
    Renders context loops [.loop item items parts []] (as.flatMap text) := by
  refine .of_eq (renders_loop toData (fun _ => text) hitems hbody) ?_
  calc (as.zipIdx 1).flatMap (fun x => text x.1)
      = ((as.zipIdx 1).map Prod.fst).flatMap text := (List.flatMap_map ..).symm
    _ = as.flatMap text := by rw [List.zipIdx_map_fst]

end

theorem render_of_renders {collection : Collection} {name : String} {source : List Char}
    {parts : List (Part Reference)} {fields : Json.Fields} {text : List Char}
    (hsource : collection.source name = .ok (String.ofList source))
    (hread : Template.read source = .ok ⟨parts⟩) (hself : Ledger.has selfName fields = false)
    (hparts : Renders ⟨name, fields⟩ [] parts text) :
    collection.render name fields = .ok (String.ofList text) := by
  have hload : plain.load (collection.source name) = .ok ⟨parts⟩ := by
    rw [hsource]
    exact load_plain hread
  rw [Collection.render, Renderer.renderAmong, hload]
  simp only [plain, Rendering.run, Template.render, hself, Bool.false_eq_true, ↓reduceIte]
  rw [hparts]
  rfl

end GlueCode.Template
