import Concord.Decimal.Format
import Concord.NameTree.Basic
import Concord.Concordance.Pairing

/-!
# Events

What a recovery reports while it runs. Events are values: a computation that reports is a
`Logged` value, which carries its events in order beside its result.
-/

namespace Concord

/-- How much an event matters, most important first. -/
inductive Level where
  | error
  | warn
  | info
  | debug
  | trace
deriving Repr, DecidableEq

namespace Level

/-- Place in the order from most to least important. -/
def rank : Level → Nat
  | error => 1
  | warn => 2
  | info => 3
  | debug => 4
  | trace => 5

/-- The name that a level is chosen by. -/
def name : Level → String
  | error => "error"
  | warn => "warn"
  | info => "info"
  | debug => "debug"
  | trace => "trace"

/-- The label in front of an event. -/
def label : Level → String
  | error => "ERROR"
  | warn => "WARN"
  | info => "INFO"
  | debug => "DEBUG"
  | trace => "TRACE"

/-- All levels, most important first. -/
def all : List Level := [error, warn, info, debug, trace]

/-- The level of a name. -/
def ofName? (s : String) : Option Level := all.find? (·.name = s)

end Level

/-- Something worth reporting. -/
inductive Event where
  | loaded (path moduleName : String) (types : Nat)
  | scoreTooLow (renamed reference : String) (score : Float)
  | seedRefused (reason : Refusal)
  | bound (pairing : PairingNumber) (renamed reference : String)
  | nestedCountsDiffer (renamed reference : String) (renamedCount referenceCount : Nat)
  | seeded (renamed reference : String) (score : Float) (pairings : Nat)
  | pairedByName (count : Nat)
  | seedingDone (roots pairings : Nat)
  | fieldCountsDiffer (renamed reference : String)
  | fieldRecovered (renamed recovered : String)
  | propertyCountsDiffer (renamed reference : String)
  | methodRecovered (renamed recovered : String)
  | methodAmbiguous (type method : String)
  | nothingRecovered (type : String)
  | finished (tally : Tally)
deriving Repr

/-- A value that an event carries. -/
inductive EventValue where
  | text (s : String)
  | count (n : Nat)
  | score (x : Float)
deriving Repr

/-- Doubles in reports: written out in positions from `10 ^ -4` up to `10 ^ 16`, a bare exponent
beyond. -/
def reportFloat : FloatFormat :=
  { lowest := -3, highest := 16, plusSign := false, exponentWidth := 1, tieToEven := false }

/-- The value as it stands in a report. -/
def EventValue.render : EventValue → String
  | text s => s
  | count n => toString n
  | score x => reportFloat.render x

namespace Event

/-- How much the event matters. -/
def level : Event → Level
  | seedRefused .. => .warn
  | loaded .. | pairedByName .. | seedingDone .. | finished .. => .info
  | scoreTooLow .. | nestedCountsDiffer .. | seeded .. | fieldCountsDiffer ..
  | propertyCountsDiffer .. | methodAmbiguous .. | nothingRecovered .. => .debug
  | bound .. | fieldRecovered .. | methodRecovered .. => .trace

/-- What happened, in words. -/
def message : Event → String
  | loaded path .. => s!"loaded {path}"
  | scoreTooLow .. => "seed below minimum score, skipping"
  | seedRefused reason => reason.message
  | bound .. => "registered correspondence"
  | nestedCountsDiffer .. => "nested type counts differ, skipping nested pairing"
  | seeded .. => "seeded correspondence"
  | pairedByName .. => "paired top-level types with unchanged names"
  | seedingDone .. => "seeding done"
  | fieldCountsDiffer .. => "field counts differ, skipping fields"
  | fieldRecovered .. => "field"
  | propertyCountsDiffer .. => "property counts differ, skipping properties"
  | methodRecovered .. => "method"
  | methodAmbiguous .. => "ambiguous method candidates, not recovering"
  | nothingRecovered .. => "nothing recovered for untouched type"
  | finished .. => "recovery finished"

/-- The values of an event under their names, in order. -/
def values : Event → List (String × EventValue)
  | loaded _ moduleName types => [("module", .text moduleName), ("types", .count types)]
  | scoreTooLow renamed reference score =>
    [("renamed", .text renamed), ("reference", .text reference), ("score", .score score)]
  | seedRefused _ => []
  | bound pairing renamed reference =>
    [("node", .text pairing.render), ("renamed", .text renamed), ("reference", .text reference)]
  | nestedCountsDiffer renamed reference renamedCount referenceCount =>
    [("renamed", .text renamed), ("reference", .text reference),
      ("renamed_count", .count renamedCount), ("reference_count", .count referenceCount)]
  | seeded renamed reference score pairings =>
    [("renamed", .text renamed), ("reference", .text reference), ("score", .score score),
      ("nodes", .count pairings)]
  | pairedByName count => [("paired", .count count)]
  | seedingDone roots pairings =>
    [("roots", .count roots), ("correspondences", .count pairings)]
  | fieldCountsDiffer renamed reference | propertyCountsDiffer renamed reference =>
    [("renamed", .text renamed), ("reference", .text reference)]
  | fieldRecovered renamed recovered | methodRecovered renamed recovered =>
    [("from", .text renamed), ("to", .text recovered)]
  | methodAmbiguous type method => [("ty", .text type), ("method", .text method)]
  | nothingRecovered type => [("ty", .text type)]
  | finished s =>
    [("types", .count s.types), ("renamed_types", .count s.renamedTypes),
      ("fields", .count s.fields), ("properties", .count s.properties),
      ("methods", .count s.methods)]

/-- The controls of seven bits that terminals act on, other than the ends of lines and tabs. -/
def isTerminalControl (c : Char) : Bool :=
  c = '\x07' || c = '\x08' || c = '\x0c' || c = '\x1b' || c = '\x7f'

/-- A character of a message in a report. Controls that terminals act on are written by their code
points, so that no name can act on the terminal. -/
def messageChar (c : Char) : List Char :=
  if isTerminalControl c then
    ['\\', 'x', Nat.digitChar (c.toNat / 16), Nat.digitChar (c.toNat % 16)]
  else if 0x80 ≤ c.toNat && c.toNat ≤ 0x9f then
    ['\\', 'u', '\x7b'] ++ Nat.toDigits 16 c.toNat ++ ['\x7d']
  else [c]

/-- The line that reports an event. -/
def line (e : Event) : String :=
  let message := String.ofList (e.message.toList.flatMap messageChar)
  e.values.foldl (fun s (name, value) => s ++ " " ++ name ++ "=" ++ value.render)
    (e.level.label ++ " " ++ message) ++ "\n"

end Event

/-- A result and the events that were reported on the way to it. -/
structure Logged (α : Type) where
  value : α
  events : List Event := []
deriving Repr

namespace Logged

/-- Reports one event. -/
def report (e : Event) : Logged Unit := { value := (), events := [e] }

/-- One computation after another: the events of both, in order. -/
def bind {α β : Type} (x : Logged α) (f : α → Logged β) : Logged β :=
  let y := f x.value
  { value := y.value, events := x.events ++ y.events }

instance : Monad Logged where
  pure a := { value := a }
  bind := bind

@[simp] theorem value_pure {α : Type} (a : α) : (pure a : Logged α).value = a := rfl

@[simp] theorem events_pure {α : Type} (a : α) : (pure a : Logged α).events = [] := rfl

@[simp] theorem value_bind {α β : Type} (x : Logged α) (f : α → Logged β) :
    (x >>= f).value = (f x.value).value := rfl

@[simp] theorem events_bind {α β : Type} (x : Logged α) (f : α → Logged β) :
    (x >>= f).events = x.events ++ (f x.value).events := rfl

@[simp] theorem value_map {α β : Type} (f : α → β) (x : Logged α) :
    (f <$> x).value = f x.value := rfl

@[simp] theorem events_map {α β : Type} (f : α → β) (x : Logged α) :
    (f <$> x).events = x.events := List.append_nil _

instance : LawfulMonad Logged := LawfulMonad.mk' Logged
  (fun _ => by simp [Functor.map, bind])
  (fun _ _ => by simp [Bind.bind, Pure.pure, bind])
  (fun _ _ _ => by simp [Bind.bind, bind])

/-- Events do not interfere with the results. -/
@[simp] theorem value_mapM {α β : Type} (f : α → Logged β) (as : List α) :
    (as.mapM f).value = as.map fun a => (f a).value := by
  induction as with
  | nil => rfl
  | cons a as ih => simp [List.mapM_cons, ih]

end Logged

end Concord
