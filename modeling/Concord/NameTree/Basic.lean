/-!
# Recovered names

What a recovery finds out: for each renamed type a tree with the name of the type and those of
its members. A part for which nothing was found is left empty.
-/

namespace Concord

/-- A renamed field or property and the name recovered for it. -/
structure MemberName where
  renamed : String
  recovered : String
deriving Repr, DecidableEq

/-- A renamed method and the name recovered for it. The parameter types of the renamed method
tell apart overloads that share one renamed name. -/
structure MethodName where
  renamed : String
  recovered : String
  signature : List String := []
deriving Repr, DecidableEq

/-- A renamed type, by its full name, and all that was recovered for it. -/
structure NameTree where
  renamed : String
  /-- The name recovered for the type itself, if it is not the one that it has. -/
  recovered : Option String := none
  fields : List MemberName := []
  properties : List MemberName := []
  methods : List MethodName := []
  nested : List NameTree := []
deriving Repr

/-- Nothing was recovered for the members of the type or for types nested in it. -/
def NameTree.isEmpty (t : NameTree) : Bool :=
  t.fields.isEmpty && t.properties.isEmpty && t.methods.isEmpty && t.nested.isEmpty

/-- The trees of a recovery, one for each pair that it started from. -/
structure NameForest where
  types : List NameTree
deriving Repr

/-- Nothing was recovered. -/
def NameForest.isEmpty (m : NameForest) : Bool := m.types.isEmpty

/-! ## Counts -/

/-- How much was recovered, nested types included. -/
structure Tally where
  types : Nat := 0
  renamedTypes : Nat := 0
  fields : Nat := 0
  properties : Nat := 0
  methods : Nat := 0
deriving Repr, DecidableEq

/-- Counts of two parts together. -/
def Tally.add (a b : Tally) : Tally where
  types := a.types + b.types
  renamedTypes := a.renamedTypes + b.renamedTypes
  fields := a.fields + b.fields
  properties := a.properties + b.properties
  methods := a.methods + b.methods

mutual

/-- Counts of a tree. -/
def NameTree.tally : NameTree → Tally
  | ⟨_, recovered, fields, properties, methods, nested⟩ =>
    Tally.add
      { types := 1
        renamedTypes := if recovered.isSome then 1 else 0
        fields := fields.length
        properties := properties.length
        methods := methods.length }
      (tallyOf nested)

/-- Counts of several trees. -/
def tallyOf : List NameTree → Tally
  | [] => {}
  | t :: ts => t.tally.add (tallyOf ts)

end

/-- Counts of all trees. -/
def NameForest.tally (m : NameForest) : Tally := tallyOf m.types

end Concord
