import Concord.Event

/-!
# Concordances

A concordance holds the pairings between two modules. Every renamed type has at most one, no
matter how often it is asked for, and pairings are never removed or bound anew. Two indices lead
from a renamed type, by number or by full name, to its pairing.

`Concordance.ensure` is the only operation that adds a pairing. It is put together from the
check that may refuse a request (`refusal?`) and the two changes that it makes (`add`, `nest`).
-/

namespace Concord

/-- The pairings between two modules. -/
structure Concordance where
  reference : Catalog
  renamed : Catalog
  pairings : Array Pairing := #[]
  byType : List (TypeNumber × PairingNumber) := []
  byName : List (String × PairingNumber) := []
  /-- The pairings that are nested in no other, in order of creation. -/
  roots : List PairingNumber := []
deriving Repr

/-- What a request to a concordance comes to: its answer, the concordance after it, and the
events reported on the way. -/
structure Reply (α : Type) where
  answer : Except Refusal α
  concordance : Concordance
  events : List Event := []

namespace Concordance

/-- No pairings yet. -/
def empty (reference renamed : Catalog) : Concordance := { reference, renamed }

/-- The number of pairings. -/
def size (g : Concordance) : Nat := g.pairings.size

/-- A pairing by its number. -/
def pairing? (g : Concordance) (id : PairingNumber) : Option Pairing := g.pairings[id.index]?

/-- The pairing of a renamed type. -/
def ofType? (g : Concordance) (renamed : TypeNumber) : Option PairingNumber :=
  g.byType.lookup renamed

/-- The pairing of the renamed type of a full name. -/
def ofName? (g : Concordance) (fullName : String) : Option Pairing :=
  (g.byName.lookup fullName).bind g.pairing?

/-- The number of the next pairing. -/
def nextNumber (g : Concordance) : PairingNumber := ⟨g.size⟩

/-- The score that a pairing nested in `declaring` takes over. -/
def inheritedScore (g : Concordance) (declaring : Option PairingNumber) : Float :=
  ((declaring.bind g.pairing?).map (·.score)).getD 0.0

/-! ## Adding a pairing -/

/-- Why a renamed type cannot be bound to a reference type. One that is bound already asks
nothing of the reference type. -/
def bindRefusal? (g : Concordance) (renamed reference : TypeNumber) : Option Refusal :=
  if (g.ofType? renamed).isSome then none
  else if !g.renamed.contains renamed then some (.noRenamedType renamed)
  else if !g.reference.contains reference then some (.noReferenceType reference)
  else none

/-- Why a request for a pairing is refused. -/
def refusal? (g : Concordance) (renamed reference : TypeNumber) :
    Option PairingNumber → Option Refusal
  | some parent =>
    if parent.index < g.size then g.bindRefusal? renamed reference else some (.noPairing parent)
  | none => g.bindRefusal? renamed reference

/-- Binds a renamed type that has no pairing yet. -/
def add (g : Concordance) (renamed reference : TypeNumber) (declaring : Option PairingNumber) :
    Concordance :=
  { g with
    pairings := g.pairings.push
      { reference, renamed, score := g.inheritedScore declaring, declaring }
    byType := (renamed, g.nextNumber) :: g.byType
    byName := (g.renamed.fullName renamed, g.nextNumber) :: g.byName
    roots := if declaring.isNone then g.roots ++ [g.nextNumber] else g.roots }

/-- Puts a pairing among those nested in another, unless it is there already. Nothing is
nested in itself. -/
def nest (g : Concordance) (id : PairingNumber) : Option PairingNumber → Concordance
  | none => g
  | some parent =>
    { g with
      pairings := g.pairings.modify parent.index fun n =>
        if parent = id || n.nested.contains id then n else { n with nested := n.nested ++ [id] } }

/-- The pairing of a renamed type. If it has none, one with `reference` is created. Either
way it is nested in `declaring` afterwards. -/
def ensure (g : Concordance) (renamed reference : TypeNumber) (declaring : Option PairingNumber) :
    Reply PairingNumber :=
  match g.refusal? renamed reference declaring with
  | some e => { answer := .error e, concordance := g }
  | none =>
    match g.ofType? renamed with
    | some id => { answer := .ok id, concordance := g.nest id declaring }
    | none =>
      { answer := .ok g.nextNumber
        concordance := (g.add renamed reference declaring).nest g.nextNumber declaring
        events := [.bound g.nextNumber (g.renamed.fullName renamed)
          (g.reference.fullName reference)] }

end Concordance

end Concord
