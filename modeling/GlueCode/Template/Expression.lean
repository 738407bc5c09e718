import GlueCode.Json.Basic
import GlueCode.Template.Token
import GlueCode.Text.Composed
/-! # Expressions

An expression is a name or a literal, or it is built from others: lists and tuples, fields and
items, signs, filters, and the three words `not`, `and` and `or`. Fields and items bind tightest,
then signs, then filters, which are applied from left to right; `or` binds loosest. Names may be
anything that tells what a name stands for: a reader finds strings.

Every reader takes tokens and gives what it has read with the tokens after it. Where it cannot go
on, the fault is that of the next token, if that could not be read itself.

Of the language that this is a part of, comparisons, arithmetic, joined texts, conditions, tests,
calls, slices, dictionaries and all filters but two are left out. What is left out is an error when
it is read.
-/
namespace GlueCode.Template

inductive Filter where
  | comment
  | indent
  | unknown (name : String)
deriving DecidableEq, Repr

def Filter.ofName (name : String) : Filter :=
  if name = "comment" then .comment
  else if name = "indent_code" then .indent
  else .unknown name

inductive SeriesKind where
  | list
  | tuple
deriving DecidableEq, Repr

inductive Expr (α : Type) where
  | name (n : α)
  | literal (value : Json)
  | series (kind : SeriesKind) (items : List (Expr α))
  | field (of : Expr α) (key : String)
  | item (of index : Expr α)
  /-- The last arguments are given by name. -/
  | filtered (of : Expr α) (filter : Filter) (args : List (Expr α)) (names : List String)
  | signed (negative : Bool) (of : Expr α)
  | negated (of : Expr α)
  | both (a b : Expr α)
  | either (a b : Expr α)
deriving Repr, Inhabited

def literalWord? (word : String) : Option Json :=
  if word = "true" || word = "True" then some (.bool true)
  else if word = "false" || word = "False" then some (.bool false)
  else if word = "none" || word = "None" then some .null
  else none

def Expr.ofWord (word : String) : Expr String :=
  match literalWord? word with
  | some value => .literal value
  | none => .name word

def fault : List Token → SyntaxError
  | .unreadable e :: _ => e
  | _ => .malformed

abbrev Found (α : Type) := α × List Token

/-- Quoted texts that follow each other are one. -/
def readAdjacent (text : List Char) : List Token → List Char × List Token
  | .quoted more :: rest => readAdjacent (text ++ more) rest
  | rest => (text, rest)

def readFilterName (name : String) : List Token → Except SyntaxError (Found String)
  | .mark '.' :: .word w :: rest => readFilterName (name ++ "." ++ w) rest
  | .mark '.' :: rest => .error (fault rest)
  | rest => .ok (name, rest)

mutual

def readExpr : Nat → List Token → Except SyntaxError (Found (Expr String))
  | 0, tokens => .error (fault tokens)
  | fuel + 1, tokens => do
    let (e, rest) ← readBoth fuel tokens
    readOr fuel e rest

def readOr : Nat → Expr String → List Token → Except SyntaxError (Found (Expr String))
  | fuel + 1, e, .word "or" :: rest => do
    let (other, rest) ← readBoth fuel rest
    readOr fuel (.either e other) rest
  | _, e, rest => .ok (e, rest)

def readBoth : Nat → List Token → Except SyntaxError (Found (Expr String))
  | 0, tokens => .error (fault tokens)
  | fuel + 1, tokens => do
    let (e, rest) ← readNegated fuel tokens
    readAnd fuel e rest

def readAnd : Nat → Expr String → List Token → Except SyntaxError (Found (Expr String))
  | fuel + 1, e, .word "and" :: rest => do
    let (other, rest) ← readNegated fuel rest
    readAnd fuel (.both e other) rest
  | _, e, rest => .ok (e, rest)

def readNegated : Nat → List Token → Except SyntaxError (Found (Expr String))
  | 0, tokens => .error (fault tokens)
  | fuel + 1, .word "not" :: rest => do
    let (e, rest) ← readNegated fuel rest
    pure (.negated e, rest)
  | fuel + 1, tokens => do
    let (e, rest) ← readSigned fuel tokens
    readFilters fuel e rest

def readSigned : Nat → List Token → Except SyntaxError (Found (Expr String))
  | 0, tokens => .error (fault tokens)
  | fuel + 1, .mark '-' :: rest => do
    let (e, rest) ← readSigned fuel rest
    pure (.signed true e, rest)
  | fuel + 1, .mark '+' :: rest => do
    let (e, rest) ← readSigned fuel rest
    pure (.signed false e, rest)
  | fuel + 1, tokens => do
    let (e, rest) ← readPrimary fuel tokens
    readMembers fuel e rest

def readPrimary : Nat → List Token → Except SyntaxError (Found (Expr String))
  | _, .word w :: rest => .ok (.ofWord w, rest)
  | _, .number n :: rest => .ok (.literal (.int n), rest)
  | _, .decimal x :: rest => .ok (.literal (.float x), rest)
  | _, .quoted text :: rest =>
    let (text, rest) := readAdjacent text rest
    .ok (.literal (.str (String.ofList text)), rest)
  | fuel + 1, .mark '(' :: rest => do
    let ((items, isTuple), rest) ← readTuple fuel rest
    match rest with
    | .mark ')' :: rest =>
      match isTuple, items with
      | false, [e] => pure (e, rest)
      | _, _ => pure (.series .tuple items, rest)
    | rest => throw (fault rest)
  | fuel + 1, .mark '[' :: rest => do
    let (items, rest) ← readItems fuel rest
    pure (.series .list items, rest)
  | _, tokens => .error (fault tokens)

def readMembers : Nat → Expr String → List Token → Except SyntaxError (Found (Expr String))
  | fuel + 1, e, .mark '.' :: .word w :: rest => readMembers fuel (.field e w) rest
  | fuel + 1, e, .mark '.' :: .number n :: rest =>
    readMembers fuel (.item e (.literal (.int n))) rest
  | _, _, .mark '.' :: rest => .error (fault rest)
  | fuel + 1, e, .mark '[' :: .mark ']' :: rest =>
    readMembers fuel (.item e (.series .tuple [])) rest
  | fuel + 1, e, .mark '[' :: rest => do
    let (indexes, rest) ← readIndexes fuel rest
    match indexes with
    | [index] => readMembers fuel (.item e index) rest
    | _ => readMembers fuel (.item e (.series .tuple indexes)) rest
  | _, e, rest => .ok (e, rest)

def readTuple : Nat → List Token → Except SyntaxError (Found (List (Expr String) × Bool))
  | 0, tokens => .error (fault tokens)
  | _, [] => .ok (([], false), [])
  | _, .mark ')' :: rest => .ok (([], false), .mark ')' :: rest)
  | fuel + 1, tokens => do
    match ← readExpr fuel tokens with
    | (e, .mark ',' :: rest) =>
      let ((items, _), rest) ← readTuple fuel rest
      pure ((e :: items, true), rest)
    | (e, rest) => pure (([e], false), rest)

def readItems : Nat → List Token → Except SyntaxError (Found (List (Expr String)))
  | 0, tokens => .error (fault tokens)
  | _, .mark ']' :: rest => .ok ([], rest)
  | fuel + 1, tokens => do
    match ← readExpr fuel tokens with
    | (e, .mark ']' :: rest) => pure ([e], rest)
    | (e, .mark ',' :: rest) =>
      let (items, rest) ← readItems fuel rest
      pure (e :: items, rest)
    | (_, rest) => throw (fault rest)

def readIndexes : Nat → List Token → Except SyntaxError (Found (List (Expr String)))
  | 0, tokens => .error (fault tokens)
  | fuel + 1, tokens => do
    match ← readExpr fuel tokens with
    | (e, .mark ']' :: rest) => pure ([e], rest)
    | (e, .mark ',' :: rest) =>
      let (indexes, rest) ← readIndexes fuel rest
      pure (e :: indexes, rest)
    | (_, rest) => throw (fault rest)

def readFilters : Nat → Expr String → List Token → Except SyntaxError (Found (Expr String))
  | fuel + 1, e, .mark '|' :: .word w :: rest => do
    let (name, rest) ← readFilterName w rest
    match rest with
    | .mark '(' :: rest =>
      let ((args, names), rest) ← readArguments fuel false rest
      readFilters fuel (.filtered e (.ofName name) args names) rest
    | rest => readFilters fuel (.filtered e (.ofName name) [] []) rest
  | _, _, .mark '|' :: rest => .error (fault rest)
  | _, e, rest => .ok (e, rest)

/-- Arguments up to the closing bracket, and the names of those at the end that have one. After a
`named` argument all have. -/
def readArguments : Nat → Bool → List Token →
    Except SyntaxError (Found (List (Expr String) × List String))
  | 0, _, tokens => .error (fault tokens)
  | _, _, .mark ')' :: rest => .ok (([], []), rest)
  | fuel + 1, named, tokens => do
    let (names, tokens) ← match tokens with
      | .word key :: .mark '=' :: rest =>
        pure ([String.ofList (Text.compatibleForm key.toList)], rest)
      | tokens => if named then throw .malformed else pure ([], tokens)
    match ← readExpr fuel tokens with
    | (e, .mark ')' :: rest) => pure (([e], names), rest)
    | (e, .mark ',' :: rest) =>
      let ((args, others), rest) ← readArguments fuel (!names.isEmpty) rest
      pure ((e :: args, names ++ others), rest)
    | (_, rest) => throw (fault rest)

end

namespace Expr

/-- The expression that tokens start with: several between commas are a tuple. -/
def ofTokens (tokens : List Token) : Except SyntaxError (Found (Expr String)) := do
  let ((items, isTuple), rest) ← readTuple (8 * tokens.length + 8) tokens
  match isTuple, items with
  | _, [] => throw (fault rest)
  | false, e :: _ => return (e, rest)
  | true, items => return (.series .tuple items, rest)

variable {α β : Type}

mutual

def names : Expr α → List α
  | .name n => [n]
  | .literal _ => []
  | .series _ items => namesOfAll items
  | .field of _ => of.names
  | .item of index => of.names ++ index.names
  | .filtered of _ args _ => of.names ++ namesOfAll args
  | .signed _ of => of.names
  | .negated of => of.names
  | .both a b => a.names ++ b.names
  | .either a b => a.names ++ b.names

def namesOfAll : List (Expr α) → List α
  | [] => []
  | e :: rest => e.names ++ namesOfAll rest

end

mutual

def map (f : α → β) : Expr α → Expr β
  | .name n => .name (f n)
  | .literal value => .literal value
  | .series kind items => .series kind (mapAll f items)
  | .field of key => .field (of.map f) key
  | .item of index => .item (of.map f) (index.map f)
  | .filtered of filter args names => .filtered (of.map f) filter (mapAll f args) names
  | .signed negative of => .signed negative (of.map f)
  | .negated of => .negated (of.map f)
  | .both a b => .both (a.map f) (b.map f)
  | .either a b => .either (a.map f) (b.map f)

def mapAll (f : α → β) : List (Expr α) → List (Expr β)
  | [] => []
  | e :: rest => e.map f :: mapAll f rest

end

mutual

def allFilters (accepts : Filter → List String → Bool) : Expr α → Bool
  | .name _ => true
  | .literal _ => true
  | .series _ items => allFiltersOfAll accepts items
  | .field of _ => of.allFilters accepts
  | .item of index => of.allFilters accepts && index.allFilters accepts
  | .filtered of filter args names =>
    of.allFilters accepts && allFiltersOfAll accepts args && accepts filter names
  | .signed _ of => of.allFilters accepts
  | .negated of => of.allFilters accepts
  | .both a b => a.allFilters accepts && b.allFilters accepts
  | .either a b => a.allFilters accepts && b.allFilters accepts

def allFiltersOfAll (accepts : Filter → List String → Bool) : List (Expr α) → Bool
  | [] => true
  | e :: rest => e.allFilters accepts && allFiltersOfAll accepts rest

end

end Expr

end GlueCode.Template
