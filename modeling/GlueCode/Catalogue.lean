import GlueCode.Ledger
import GlueCode.Text.LowerCase
import GlueCode.Text.Lines
/-! # Catalogues

A catalogue offers things by name, in any case. Aliases stand for names. Registering a name that is
there changes nothing, unless it is to be replaced; an alias must not stand in the way of another
name or alias, unless it is to replace them. Unregistering a name takes its aliases with it.
-/
namespace GlueCode

structure Catalogue (α : Type) where
  offers : Ledger String α := []
  aliases : Ledger String String := []
deriving Repr, Inhabited

inductive CatalogueError where
  | notAnOffer
  | aliasTaken (key : String)
  | aliasUsed (key target : String)
  | unknown (name : String) (available : List String)
deriving DecidableEq, Repr

def CatalogueError.message : CatalogueError → String
  | .notAnOffer => "Generator class must inherit from Generator"
  | .aliasTaken key => "Alias '" ++ key ++ "' conflicts with an existing generator"
  | .aliasUsed key target => "Alias '" ++ key ++ "' already points to '" ++ target ++ "'"
  | .unknown name available =>
    "No generator registered as: " ++ name ++ ". Available: " ++ Text.commaList available

namespace Catalogue

variable {α : Type}

def sorted (names : List String) : List String := names.mergeSort fun a b => decide (a ≤ b)

def aliasKeys (key : String) (aliases : List String) : List String :=
  (aliases.map Text.lower).filter (· ≠ key)

/-- Why an alias cannot stand for the name of `key`: it is a name itself, or stands for another. -/
def conflict? (c : Catalogue α) (key other : String) : Option CatalogueError :=
  if c.offers.has other then some (.aliasTaken other)
  else
    match c.aliases.get? other with
    | some target => if target = key then none else some (.aliasUsed other target)
    | none => none

def store (c : Catalogue α) (key : String) (offer : α) (keys : List String) : Catalogue α :=
  ⟨c.offers.put key offer, keys.foldl (fun l other => l.put other key) c.aliases⟩

/-- Registers an offer; nothing is no offer. -/
def register (c : Catalogue α) (name : String) (offer : Option α) (aliases : List String)
    (replace : Bool) : Except CatalogueError (Catalogue α) :=
  match offer with
  | none => .error .notAnOffer
  | some offer =>
    let key := Text.lower name
    let keys := aliasKeys key aliases
    if replace then .ok (c.store key offer keys)
    else if c.offers.has key then .ok c
    else
      match keys.findSome? (c.conflict? key) with
      | some e => .error e
      | none => .ok (c.store key offer keys)

def unregister (c : Catalogue α) (name : String) : Catalogue α :=
  let key := Text.lower name
  ⟨c.offers.erase key, c.aliases.filter (·.2 ≠ key)⟩

def names (c : Catalogue α) : List String := sorted c.offers.keys

def aliasesOf (c : Catalogue α) (name : String) : List String :=
  sorted (Ledger.keys (c.aliases.filter (·.2 = Text.lower name)))

def find (c : Catalogue α) (name : String) : Except CatalogueError α :=
  let key := Text.lower name
  match c.offers.get? ((c.aliases.get? key).getD key) with
  | some offer => .ok offer
  | none => .error (.unknown name c.names)

def isSupported (c : Catalogue α) (name : String) : Bool :=
  let key := Text.lower name
  c.offers.has key || c.aliases.has key

end Catalogue

end GlueCode
