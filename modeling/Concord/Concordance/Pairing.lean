import Concord.Module.Catalog

/-!
# Pairings

A pairing binds a type of the renamed module to its counterpart in the reference module.
Pairings refer to each other by number: each one knows the one it is nested in and those
nested in it.
-/

namespace Concord

/-- The number of a pairing in its concordance. -/
structure PairingNumber where
  index : Nat
deriving Repr, DecidableEq, Inhabited

/-- How a pairing is cited. -/
def PairingNumber.render (id : PairingNumber) : String := s!"node#{id.index}"

/-- One of the two modules that are compared. -/
inductive Side where
  | reference
  | renamed
deriving Repr, DecidableEq

/-- How a side is cited. -/
def Side.name : Side → String
  | .reference => "reference"
  | .renamed => "renamed"

/-- Why a request to a concordance is refused. -/
inductive Refusal where
  | noReferenceType (id : TypeNumber)
  | noRenamedType (id : TypeNumber)
  | noPairing (id : PairingNumber)
  | noSeedType (side : Side) (name : String)
  | nestedSeed (side : Side) (name : String)
deriving Repr, DecidableEq

/-- The refusal in words. -/
def Refusal.message : Refusal → String
  | .noReferenceType id => s!"{id.render} is not a type of the reference module"
  | .noRenamedType id => s!"{id.render} is not a type of the renamed module"
  | .noPairing id => s!"correspondence node {id.render} does not exist"
  | .noSeedType side name => s!"seed type `{name}` not found in the {side.name} module"
  | .nestedSeed side name =>
    s!"seed type `{name}` is nested in the {side.name} module; seeds must be top-level types"

/-- A renamed type bound to its counterpart. -/
structure Pairing where
  reference : TypeNumber
  renamed : TypeNumber
  /-- How sure the pair is that this pairing descends from. -/
  score : Float
  declaring : Option PairingNumber
  /-- The pairings of nested types, in the order of pairing. -/
  nested : List PairingNumber := []
deriving Repr

/-- A pairing with a type of the reference module, which has to exist. -/
def Pairing.make (catalog : Catalog) (reference renamed : TypeNumber)
    (declaring : Option PairingNumber) (score : Float) : Except Refusal Pairing :=
  if catalog.contains reference then .ok { reference, renamed, score, declaring }
  else .error (.noReferenceType reference)

end Concord
