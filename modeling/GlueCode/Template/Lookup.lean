import GlueCode.Template.Loop
/-! # Looking into values

A field is an attribute of the value, or else an entry of it; an item is an entry, or else an
attribute. Where there is neither, the result is undefined, but what is undefined itself cannot be
looked into.
-/
namespace GlueCode.Template

inductive RenderError where
  | insideUndefined
  | noItems
  | badArgument
  | badOperand
  | unknownFilter
  /-- A field is given under the name that is the template's own. -/
  | takenName
deriving DecidableEq, Repr

namespace SeriesKind

def valueClass : SeriesKind → ValueClass
  | list => .list
  | tuple => .tuple

end SeriesKind

namespace Value

def runtimePlace : String := "jinja2.runtime"

def className? : Value → Option String
  | undefined => some "Undefined"
  | counter _ => some "LoopContext"
  | template _ => some "TemplateReference"
  | _ => none

def attribute? (loops : List Loop) (key : String) : Value → Option Value
  | plain a => (a.get? key).map plain
  | series kind _ =>
    let c := kind.valueClass
    if key = "__class__" then some (plain (.cls c))
    else if key = "__doc__" then some (data c.documentation)
    else if c.hasOperation key || c.hasWrapped key then some (fixed key.toList)
    else none
  | otherClass place name =>
    if key = "__name__" || key = "__qualname__" then some (data (.str name))
    else if key = "__module__" then some (data (.str place))
    else if key = "__class__" then some (plain (.cls .classes))
    else none
  | v =>
    if key = "__class__" then v.className?.map (otherClass runtimePlace)
    else
      match v with
      | counter level => counterField? loops level key
      | _ => none

/-- The classes that take the classes of their entries in brackets. -/
def takesEntryClass : ValueClass → Bool
  | .list => true
  | .tuple => true
  | .dictionary => true
  | .classes => true
  | _ => false

def index? : Value → Option Int
  | data (.int n) => some n
  | data (.bool b) => some b.toInt
  | _ => none

/-- The value at an index of a row; below zero it counts from the end. -/
def inRow? (row : List Value) (index : Int) : Option Value :=
  let n := if index < 0 then index + row.length else index
  if n < 0 then none else row[n.toNat]?

def row? : Value → Option (List Value)
  | series _ items => some items
  | data (.arr items) => some (items.map .data)
  | plain (.classes cs) => some (cs.map fun c => plain (.cls c))
  | data (.str s) => some (s.toList.map fun c => .data (.str (String.singleton c)))
  | _ => none

def entry? (loops : List Loop) (v index : Value) : Option Value :=
  match v.row? with
  | some row => index.index?.bind (inRow? row)
  | none =>
    match v, index with
    | data (.obj fields), data (.str key) => (Ledger.get? key fields).map data
    | plain (.cls c), index =>
      if takesEntryClass c then some (fixed (c.name.toList ++ '[' :: index.quoted loops ++ [']']))
      else none
    | _, _ => none

def field (loops : List Loop) (key : String) (v : Value) : Except RenderError Value :=
  match v.attribute? loops key with
  | some found => .ok found
  | none =>
    match v with
    | undefined => .error .insideUndefined
    | v => .ok ((v.entry? loops (data (.str key))).getD undefined)

def item (loops : List Loop) (v index : Value) : Except RenderError Value :=
  match v with
  | undefined => .error .insideUndefined
  | v =>
    match v.entry? loops index with
    | some found => .ok found
    | none =>
      match index with
      | data (.str key) => .ok ((v.attribute? loops key).getD undefined)
      | _ => .ok undefined

/-- What a loop goes over: a row of values, the keys of an object, or what another loop has still
ahead. -/
def source (v : Value) : Except RenderError Source :=
  match v.row? with
  | some row => .ok (.items row)
  | none =>
    match v with
    | undefined => .ok (.items [])
    | data (.obj fields) => .ok (.items (fields.map fun (key, _) => .data (.str key)))
    | counter level => .ok (.loop level)
    | _ => .error .noItems

def signed (negative : Bool) : Value → Except RenderError Value
  | data (.int n) => .ok (.data (.int (if negative then -n else n)))
  | data (.bool b) => .ok (.data (.int (if negative then -b.toInt else b.toInt)))
  | data (.float x) => .ok (.data (.float (if negative then x.neg else x)))
  | _ => .error .badOperand

def allData? (values : List Value) : Option (List Json) :=
  values.mapM fun v =>
    match v with
    | data v => some v
    | _ => none

/-- A series of values; a list of data is data. -/
def ofItems (kind : SeriesKind) (values : List Value) : Value :=
  match kind, allData? values with
  | .list, some items => .data (.arr items)
  | kind, _ => .series kind values

end Value

end GlueCode.Template
