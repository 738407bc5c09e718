import GlueCode.Ledger
import GlueCode.Path
/-! # Disks

A disk maps locations, given by their components from the root, to files and directories. Relative
paths start at the directory `home`. A path is walked component by component through directories
that exist, and a double dot goes up from where the walk has come to. Failures are those that the
contents of the disk cause: a missing directory, a file in the place of a directory, or a directory
in the place of a file; and names that are too long. Links and permissions are left out.
-/
namespace GlueCode

abbrev Location := List String

inductive Node where
  | file (bytes : ByteArray)
  | directory
deriving Inhabited

structure Disk where
  home : Location
  nodes : Ledger Location Node
deriving Inhabited

inductive DiskFailure where
  | missing
  | notDirectory
  | isDirectory
  | occupied
  | tooLong
deriving DecidableEq, Repr

inductive Unnameable where
  | nullCharacter
  | tooLong
deriving DecidableEq, Repr

namespace Disk

/-- The disk that holds the directories from the root to `home` and nothing else. -/
def blank (home : Location) : Disk :=
  ⟨home, (List.range (home.length + 1)).map fun n => (home.take n, .directory)⟩

def get? (d : Disk) (loc : Location) : Option Node := Ledger.get? loc d.nodes

def put (d : Disk) (loc : Location) (node : Node) : Disk :=
  { d with nodes := Ledger.put loc node d.nodes }

@[simp] theorem get?_put (d : Disk) (loc other : Location) (node : Node) :
    (d.put loc node).get? other = if loc = other then some node else d.get? other :=
  Ledger.get?_put d.nodes loc other node

def walk (d : Disk) (loc : Location) : List String → Except DiskFailure Location
  | [] => .ok loc
  | c :: rest =>
    match d.get? loc with
    | some .directory =>
      if Path.fitsComponent c then d.walk (if c = ".." then loc.dropLast else loc ++ [c]) rest
      else .error .tooLong
    | some (.file _) => .error .notDirectory
    | none => .error .missing

def absolute (d : Disk) (p : Path) : Path := Path.mk .slash d.home / p

def locate (d : Disk) (p : Path) : Except DiskFailure Location :=
  if p.fits then d.walk (if p.root = .relative then d.home else []) p.components
  else .error .tooLong

def node? (d : Disk) (p : Path) : Option Node :=
  match d.locate p with
  | .ok loc => d.get? loc
  | .error _ => none

/-- Whether something is at a path. Nothing is at a name with a null character; a name that is too
long is refused once its turn comes. -/
def has (d : Disk) (p : Path) : Except Unnameable Bool :=
  if !p.isNameable then .ok false
  else
    match d.locate p with
    | .ok loc => .ok (d.get? loc).isSome
    | .error .tooLong => .error .tooLong
    | .error _ => .ok false

def isDirectory (d : Disk) (p : Path) : Bool :=
  match d.node? p with
  | some .directory => true
  | _ => false

def isFile (d : Disk) (p : Path) : Bool :=
  match d.node? p with
  | some (.file _) => true
  | _ => false

def read (d : Disk) (p : Path) : Except DiskFailure ByteArray := do
  match d.get? (← d.locate p) with
  | some (.file bytes) => .ok bytes
  | some .directory => .error .isDirectory
  | none => .error .missing

def write (d : Disk) (p : Path) (bytes : ByteArray) : Except DiskFailure Disk := do
  let loc ← d.locate p
  match d.get? loc with
  | some .directory => .error .isDirectory
  | _ => .ok (d.put loc (.file bytes))

def makeDirectory (d : Disk) (p : Path) : Except DiskFailure Disk := do
  let loc ← d.locate p
  match d.get? loc with
  | some _ => .error .occupied
  | none => .ok (d.put loc .directory)

def ensureDirectory (d : Disk) (p : Path) : Disk × Bool :=
  match d.makeDirectory p with
  | .ok d => (d, true)
  | .error _ => (d, d.isDirectory p)

/-- Creates the directory with the components `rev`, last one first, and those it stands in. The
directories that were made stay when a later one fails. -/
def ensureDirectories (d : Disk) (root : Root) : List String → Disk × Bool
  | [] => d.ensureDirectory ⟨root, []⟩
  | c :: rev =>
    let p : Path := ⟨root, (c :: rev).reverse⟩
    match d.makeDirectory p with
    | .ok d => (d, true)
    | .error .missing =>
      match d.ensureDirectories root rev with
      | (d, true) => d.ensureDirectory p
      | (d, false) => (d, false)
    | .error _ => (d, d.isDirectory p)

def makeDirectories (d : Disk) (p : Path) : Disk × Bool :=
  d.ensureDirectories p.root p.components.reverse

def remove (d : Disk) (p : Path) : Disk :=
  match d.locate p with
  | .ok loc => { d with nodes := d.nodes.filter fun (other, _) => !loc.isPrefixOf other }
  | .error _ => d

def listing (d : Disk) : List (Location × Node) :=
  d.nodes.filterMap fun (loc, node) =>
    if d.home.isPrefixOf loc && loc.length > d.home.length then
      match node with
      | .file _ => some (loc.drop d.home.length, node)
      | .directory =>
        if d.nodes.any fun (other, _) => other.length > loc.length && loc.isPrefixOf other then none
        else some (loc.drop d.home.length, node)
    else none

end Disk

end GlueCode
