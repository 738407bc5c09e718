/-! # Log records

What a step reports on the way stands in a list of records, oldest first. `Traced` is a value with
the records that came up while it was worked out. Work that meets something it cannot go on with is
stopped: its value no longer counts, and nothing that comes later is reported.
-/
namespace GlueCode

inductive Level where
  | debug
  | info
  | warning
deriving DecidableEq, Repr, Inhabited

structure Record where
  level : Level
  text : String
  /-- Whether the disk refused something; what it said goes after the text. -/
  refused : Bool := false
deriving DecidableEq, Repr, Inhabited

abbrev Log := List Record

def debug (text : String) : Record := { level := .debug, text }
def info (text : String) : Record := { level := .info, text }
def warning (text : String) : Record := { level := .warning, text }

def Record.onRefusal (r : Record) : Record := { r with refused := true }

structure Traced (α : Type) where
  value : α
  log : Log := []
  stopped : Bool := false
deriving Repr

namespace Traced

variable {α β : Type}

instance : Monad Traced where
  pure a := ⟨a, [], false⟩
  bind x f :=
    let y := f x.value
    ⟨y.value, if x.stopped then x.log else x.log ++ y.log, x.stopped || y.stopped⟩

def note (record : Record) : Traced Unit := ⟨(), [record], false⟩

def stop (value : α) : Traced α := ⟨value, [], true⟩

@[simp] theorem value_pure (a : α) : (pure a : Traced α).value = a := rfl

@[simp] theorem log_pure (a : α) : (pure a : Traced α).log = [] := rfl

@[simp] theorem value_bind (x : Traced α) (f : α → Traced β) :
    (x >>= f).value = (f x.value).value := rfl

@[simp] theorem log_bind (x : Traced α) (f : α → Traced β) :
    (x >>= f).log = if x.stopped then x.log else x.log ++ (f x.value).log := rfl

@[simp] theorem stopped_pure (a : α) : (pure a : Traced α).stopped = false := rfl

@[simp] theorem stopped_bind (x : Traced α) (f : α → Traced β) :
    (x >>= f).stopped = (x.stopped || (f x.value).stopped) := rfl

/-- The first result that is there; what comes after it is not worked out. -/
def firstSome (f : α → Traced (Option β)) : List α → Traced (Option β)
  | [] => pure none
  | a :: rest => do
    match ← f a with
    | some b => pure (some b)
    | none => firstSome f rest

theorem value_firstSome (f : α → Traced (Option β)) (l : List α) :
    (firstSome f l).value = l.findSome? fun a => (f a).value := by
  induction l with
  | nil => rfl
  | cons a rest ih =>
    rw [firstSome, value_bind, List.findSome?_cons]
    split <;> simp_all

end Traced

def rootChannel : String := "bindgen"

def channelName (name : String) : String :=
  if name = "" || name = rootChannel then rootChannel
  else if (rootChannel ++ ".").isPrefixOf name then name
  else rootChannel ++ "." ++ name

inductive Threshold where
  | number (n : Int)
  | named (name : String)
deriving DecidableEq, Repr

def thresholdNames : List (String × Int) :=
  [("CRITICAL", 50), ("FATAL", 50), ("ERROR", 40), ("WARN", 30), ("WARNING", 30), ("INFO", 20),
    ("DEBUG", 10), ("NOTSET", 0)]

def Threshold.value? : Threshold → Option Int
  | .number n => some n
  | .named name => thresholdNames.lookup name

structure Channel where
  threshold : Int := 0
  outlets : Nat := 0
deriving DecidableEq, Repr

/-- Sets the threshold. The first call that succeeds opens the outlet. -/
def Channel.open? (channel : Channel) (threshold : Threshold) : Option Channel :=
  threshold.value?.map fun n => ⟨n, max 1 channel.outlets⟩

end GlueCode
