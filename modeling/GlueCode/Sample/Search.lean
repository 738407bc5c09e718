import GlueCode.Log
import GlueCode.Sample.Basic
/-! # The search for samples

A class is built by its first candidate constructor, fewest arguments first, whose arguments all
have samples. A first pass takes built-in types, enums, pointers and default values only; a second
one searches for samples of all arguments. A class whose search is in progress has no sample, so
classes that can only be built from each other have none. The search reports the classes it gives
up on. It is stopped by an argument of unknown type, and by a container that has no spelling.
-/
namespace GlueCode

/-- Constructors that are public and declared in the wrapped library, copies left out. -/
def Callable.isCandidate (f : Callable) : Bool :=
  !(f.isUserAdded || f.isPrivate || f.isCopyConstructor)

def ClassDecl.candidates (c : ClassDecl) : List Callable := c.constructors.filter (·.isCandidate)

/-- Fewer arguments first; constructors with equally many stay in their order. -/
def byArity (fs : List Callable) : List Callable :=
  let most := fs.foldl (fun n f => max n f.arguments.length) 0
  (List.range (most + 1)).flatMap fun n => fs.filter (·.arguments.length = n)

def Argument.overridden? (a : Argument) : Option Sample :=
  if a.default ≠ "" && a.default ≠ a.libraryDefault then some (.declared a.default) else none

def Api.sampleTypeWith (api : Api) (ofClass : ClassDecl → Traced (Option Sample)) (t : TypeUse) :
    Traced (Option Sample) :=
  if t.reference && t.isObject then pure none
  else if t.isContainer then { value := some t.containerSample, stopped := !t.isSpellable }
  else if t.nativePointer then pure (some (.cast t.entry false true))
  else if t.isPointer then pure (some (.cast t.entry true true))
  else if t.entry.isComplex then
    match t.entry.declaredSample? with
    | some text => pure (some (.declared text))
    | none =>
      match api.findClass t.entry with
      | some c => ofClass c
      | none => pure none
  else pure t.entry.sample?

/-- The samples of all arguments; nothing when one has none or is of the class itself. -/
def samplesOfAll (self : Entry) (ofType : TypeUse → Traced (Option Sample)) :
    List Argument → Traced (Option (List Sample))
  | [] => pure (some [])
  | a :: rest =>
    if !a.type.isKnown then Traced.stop none
    else if a.type.entry = self then pure none
    else do
      match ← ofType a.type with
      | none => pure none
      | some s => return (← samplesOfAll self ofType rest).map (s :: ·)

/-- The samples of the arguments before the first one with a default value. That argument adds its
own sample only when its default value was replaced. -/
def simpleSamples (self : Entry) (ofType : TypeUse → Traced (Option Sample)) :
    List Argument → Traced (Option (List Sample))
  | [] => pure (some [])
  | a :: rest =>
    if !a.type.isKnown then Traced.stop none
    else if a.type.entry = self then pure none
    else if a.libraryDefault ≠ "" then pure (some a.overridden?.toList)
    else if a.type.entry.isBuiltin || a.type.entry.isEnum || a.type.isPointer then do
      match ← ofType a.type with
      | none => pure none
      | some s => return (← simpleSamples self ofType rest).map (s :: ·)
    else pure none

/-- A call needs at least one value; without any the constructor was not usable. -/
def ClassDecl.call? (c : ClassDecl) (values : Option (List Sample)) : Option Sample :=
  match values with
  | some (v :: rest) => some (.build c.qualifiedName (v :: rest))
  | _ => none

def ClassDecl.sampleWith (c : ClassDecl) (ofType : TypeUse → Traced (Option Sample)) :
    Traced (Option Sample) := do
  let candidates := c.candidates
  if candidates.isEmpty then
    Traced.note (debug ("No public constructor for " ++ c.qualifiedName))
    return none
  if candidates.any (·.arguments.isEmpty) then return some (.build c.qualifiedName [])
  let ordered := byArity candidates
  let bySimple (f : Callable) := c.call? <$> simpleSamples c.entry ofType f.arguments
  let byAll (f : Callable) := c.call? <$> samplesOfAll c.entry ofType f.arguments
  match ← Traced.firstSome bySimple ordered with
  | some s => return some s
  | none =>
    match ← Traced.firstSome byAll ordered with
    | some s => return some s
    | none =>
      Traced.note (debug ("No minimal constructor for " ++ c.qualifiedName))
      return none

namespace Api

/-- The sample of a class while the classes of `busy` are in progress. Each step down adds a class
to them, so no search goes deeper than there are classes. -/
def sampleClassAt (api : Api) : Nat → List ClassDecl → ClassDecl → Traced (Option Sample)
  | 0, _, _ => pure none
  | depth + 1, busy, c =>
    match c.entry.declaredSample? with
    | some text => pure (some (.declared text))
    | none =>
      if c ∈ busy then pure none
      else c.sampleWith (api.sampleTypeWith (api.sampleClassAt depth (c :: busy)))

/-- The classes of the interface and one more, which need not be among them, can be in progress. -/
def searchDepth (api : Api) : Nat := api.classes.length + 2

def sampleClass (api : Api) (c : ClassDecl) : Traced (Option Sample) :=
  api.sampleClassAt api.searchDepth [] c

def sampleType (api : Api) (t : TypeUse) : Traced (Option Sample) :=
  api.sampleTypeWith (api.sampleClassAt api.searchDepth []) t

end Api

inductive Target where
  | type (t : TypeUse)
  | entry (e : Entry)
  | cls (c : ClassDecl)
  | enum (e : EnumDecl)
  | nothing
deriving Inhabited

namespace Target

def entryOf? : Target → Option Entry
  | .type t => some t.entry
  | .entry e => some e
  | _ => none

/-- Whether the target is of an object type; an enum and nothing have no answer. -/
def isObject? : Target → Option Bool
  | .type t => some t.isObject
  | .entry e => some e.isObject
  | .cls c => some c.entry.isObject
  | _ => none

end Target

namespace Api

def sample (api : Api) : Target → Traced (Option Sample)
  | .type t => api.sampleType t
  | .entry e => pure e.sample?
  | .cls c => api.sampleClass c
  | _ => pure none

/-- The sample of a target that stands for a class: the one declared for its entry, or the one that
is searched for. Only a class can be searched, and an entry stands for none. -/
def sampleAsClass? (api : Api) : Target → Option (Traced (Option Sample))
  | .cls c => some (api.sampleClass c)
  | .type t => t.entry.declaredSample?.map fun text => pure (some (.declared text))
  | .enum e => e.entry.declaredSample?.map fun text => pure (some (.declared text))
  | .entry _ => none
  | .nothing => some (pure none)

def classOf (api : Api) : Target → Option ClassDecl
  | .entry e => api.findClass e
  | _ => none

/-- The enum of a target. A class or an enum cannot be compared with an enum's entry. -/
def enumOf? (api : Api) : Target → Option (Option EnumDecl)
  | .type t => some (api.findEnum t.entry)
  | .entry e => some (api.findEnum e)
  | .nothing => some none
  | _ => if api.allEnums.isEmpty then some none else none

def conversionsOf? (api : Api) (target : Target) : Option (List Callable) :=
  target.entryOf?.map api.implicitConversions

end Api

end GlueCode
