import GlueCode.Api.Declaration
import GlueCode.Text.Blank
/-! # Sample values

A sample is an expression that makes some value of a type, for places where generated code needs
one. Zeros are cast to the type, classes are built by calling a constructor with samples, and text
that was declared for the purpose stands as it is.
-/
namespace GlueCode

inductive Sample where
  | null
  /-- Zero cast to a type, or to a pointer to it. -/
  | cast (entry : Entry) (isGlobal isPointer : Bool)
  | build (name : String) (values : List Sample)
  | declared (text : String)
deriving Repr, Inhabited

namespace Sample

mutual

def chars : Sample → List Char
  | .null => ['0']
  | .cast entry isGlobal isPointer =>
    '(' :: '(' :: ((if isGlobal then [':', ':'] else []) ++ entry.qualifiedName.toList
      ++ (if isPointer then ['*'] else []) ++ [')', '0', ')'])
  | .build name values =>
    ':' :: ':' :: (name.toList ++ '(' :: (Text.joinWith [',', ' '] (charsAll values) ++ [')']))
  | .declared text => text.toList

def charsAll : List Sample → List (List Char)
  | [] => []
  | s :: rest => chars s :: charsAll rest

end

def text (s : Sample) : String := String.ofList s.chars

theorem charsAll_eq_map (l : List Sample) : charsAll l = l.map chars := by
  induction l with
  | nil => rfl
  | cons s rest ih => simp [charsAll, ih]

theorem text_build (name : String) (values : List Sample) :
    (Sample.build name values).text =
      "::" ++ name ++ "(" ++ Text.commaList (values.map Sample.text) ++ ")" := by
  apply String.toList_inj.1
  have hmap : (values.map Sample.text).map String.toList = values.map Sample.chars := by
    simp [Sample.text]
  simp [Sample.text, Sample.chars, Text.commaList, hmap, Sample.charsAll_eq_map]

end Sample

def Entry.sample? (e : Entry) : Option Sample :=
  if e.isBuiltin then some (.cast e false false)
  else if e.isEnum || e.isFlags then some (.cast e true false)
  else if e.isPrimitive then
    match e.declaredSample? with
    | some text => some (.declared text)
    | none => some (.build e.qualifiedName [])
  else none

namespace TypeUse

def dropLeadingConst (cs : List Char) : List Char :=
  if (constWord ++ [' ']).isPrefixOf cs then cs.drop 6 else cs
where
  constWord := ['c', 'o', 'n', 's', 't']

/-- The spelling of a container without its own constness and reference. -/
def containerName (t : TypeUse) : List Char :=
  let cs := dropLeadingConst t.spell
  if cs.getLast? = some '&' then Text.trim cs.dropLast else cs

/-- An empty container, or the null pointer when the spelling ends as a pointer. -/
def containerSample (t : TypeUse) : Sample :=
  let name := t.containerName
  if name.getLast? = some '*' then .null else .build (String.ofList name) []

end TypeUse

end GlueCode
