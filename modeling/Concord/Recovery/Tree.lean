import Concord.Recovery.Members

/-!
# Trees of recovered names

Each pairing gives a tree: the name of its type, the recovered members, and the trees of
the pairings nested in it. A type whose name does not look renamed and for which nothing
was recovered gives none.
-/

namespace Concord.Recovery

/-- The name recovered for a type: from the convention that its name or that of its counterpart
follows, else the counterpart's name. -/
def recoveredName (m : Recovery) (reference renamed : CatalogEntry) : String :=
  ((m.conventions.typeNameOf? reference.name).or (m.conventions.typeNameOf? renamed.name)).getD
    (withoutEmptyBrackets reference.name)

/-- The tree of one pairing, given the trees nested in it. -/
def assemble (m : Recovery) (reference renamed : CatalogEntry)
    (fields properties : List MemberName) (methods : List MethodName)
    (nested : List NameTree) : NameTree :=
  let name := m.recoveredName reference renamed
  { renamed := renamed.fullName
    recovered := if name = renamed.name then none else some name
    fields, properties, methods, nested }

/-- The tree of a pairing, given a tree for each pairing nested in it. -/
def treeStep (m : Recovery) (below : PairingNumber → Logged (Option NameTree))
    (id : PairingNumber) : Logged (Option NameTree) :=
  match m.concordance.pairing? id with
  | none => pure none
  | some pairing =>
    match m.concordance.reference.entry? pairing.reference,
      m.concordance.renamed.entry? pairing.renamed with
    | some reference, some renamed => do
      let fields ← m.fields reference renamed
      let properties ← m.properties reference renamed
      let methods ← m.methods reference renamed
      let nested ← pairing.nested.mapM below
      let tree :=
        m.assemble reference renamed fields properties methods (nested.filterMap fun t => t)
      if !m.looksRenamed renamed.name && tree.isEmpty then do
        Logged.report (.nothingRecovered renamed.fullName)
        return none
      else return some tree
    | _, _ => pure none

/-- The tree of a pairing in which others are nested less than `depth` deep. -/
def treeWithin (m : Recovery) : Nat → PairingNumber → Logged (Option NameTree)
  | 0, _ => pure none
  | depth + 1, id => m.treeStep (m.treeWithin depth) id

/-- The tree of a pairing, if there is one. Pairings are nested at most as deep as
there are any. -/
def tree (m : Recovery) (id : PairingNumber) : Logged (Option NameTree) :=
  m.treeWithin m.concordance.size id

/-- The trees of all pairings that are nested in no other, in the order of seeding. -/
def forest (m : Recovery) : Logged NameForest := do
  let trees ← m.concordance.roots.mapM m.tree
  return { types := trees.filterMap fun t => t }

end Concord.Recovery
