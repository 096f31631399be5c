import Concord.Module.Basic

/-!
# Catalogs

A catalog lists the types of a module in depth-first order, each one under its number and its
full name and with the numbers of its declaring type and of the types nested in it. An index leads
from a full name to the type. Full names are unique: `Catalog.ofModule` refuses a module in which
two types share one.

`Catalog.insert` enters a type behind those that are there, then the types nested in it, and
notes the number of each of these in the entry of the outer one as soon as it is known.
-/

namespace Concord

/-- The number of a type in its catalog, counted from zero. -/
structure TypeNumber where
  index : Nat
deriving Repr, DecidableEq, Inhabited

/-- How a type is cited. -/
def TypeNumber.render (id : TypeNumber) : String := s!"type#{id.index}"

/-- A type of a catalog. -/
structure CatalogEntry where
  number : TypeNumber
  fullName : String
  declaring : Option TypeNumber
  nested : List TypeNumber
  decl : TypeDecl
deriving Repr, DecidableEq

namespace CatalogEntry

/-- The name of the type on its own. -/
def name (e : CatalogEntry) : String := e.decl.name

/-- The type is declared inside another. -/
def isNested (e : CatalogEntry) : Bool := e.declaring.isSome

/-- The fields of the type, in order. -/
def fields (e : CatalogEntry) : List FieldDecl := e.decl.fields

/-- The properties of the type, in order. -/
def properties (e : CatalogEntry) : List PropertyDecl := e.decl.properties

/-- The methods of the type, in order. -/
def methods (e : CatalogEntry) : List MethodDecl := e.decl.methods

/-- The methods of the type that are no constructors, in order. -/
def ordinaryMethods (e : CatalogEntry) : List MethodDecl := e.decl.ordinaryMethods

end CatalogEntry

/-- The full name of a type nested in another. -/
def nestedName (outer name : String) : String := outer ++ "/" ++ name

/-! ## The catalog -/

/-- The types of a module. -/
structure Catalog where
  name : String
  entries : Array CatalogEntry := #[]
  /-- The types that are not nested in others, in order. -/
  roots : List TypeNumber := []
  byName : List (String × TypeNumber) := []
deriving Repr, DecidableEq

/-- Two types of a module share a full name. -/
structure DuplicateName where
  moduleName : String
  fullName : String
deriving Repr, DecidableEq

/-- The complaint in words. -/
def DuplicateName.message (e : DuplicateName) : String :=
  s!"duplicate type `{e.fullName}` in module `{e.moduleName}`"

namespace Catalog

/-- The number of types. -/
def size (g : Catalog) : Nat := g.entries.size

/-- The entry of a type, if the catalog has it. -/
def entry? (g : Catalog) (id : TypeNumber) : Option CatalogEntry := g.entries[id.index]?

/-- The full name of a type; empty if the catalog does not have it. -/
def fullName (g : Catalog) (id : TypeNumber) : String := ((g.entry? id).map (·.fullName)).getD ""

/-- The catalog has the type. -/
def contains (g : Catalog) (id : TypeNumber) : Bool := id.index < g.size

/-- The catalog has the type, and it is declared inside another. -/
def isNested (g : Catalog) (id : TypeNumber) : Bool := (g.entry? id).any (·.isNested)

/-- The type of a full name. -/
def find? (g : Catalog) (fullName : String) : Option TypeNumber := g.byName.lookup fullName

/-! ## Entering types -/

/-- The number of the next type. -/
def nextNumber (g : Catalog) : TypeNumber := ⟨g.size⟩

/-- The full name of a type that is declared there. -/
def nameUnder (g : Catalog) (declaring : Option TypeNumber) (decl : TypeDecl) : String :=
  match declaring with
  | some outer => nestedName (g.fullName outer) decl.name
  | none => decl.topLevelName

/-- Enters a type behind the others. Nothing is known yet of the types nested in it. -/
def push (g : Catalog) (fullName : String) (declaring : Option TypeNumber) (decl : TypeDecl) :
    Catalog :=
  { g with
    entries := g.entries.push { number := g.nextNumber, fullName, declaring, nested := [], decl }
    byName := (fullName, g.nextNumber) :: g.byName }

/-- Notes a type behind those that are nested in another. -/
def nest (g : Catalog) (outer inner : TypeNumber) : Catalog :=
  { g with
    entries := g.entries.modify outer.index fun e => { e with nested := e.nested ++ [inner] } }

mutual

/-- Enters a type and all that is nested in it, unless one of the full names is taken. -/
def insert (g : Catalog) (declaring : Option TypeNumber) :
    TypeTree → Except DuplicateName (Catalog × TypeNumber)
  | .node decl nested =>
    let fullName := g.nameUnder declaring decl
    if (g.find? fullName).isSome then .error { moduleName := g.name, fullName }
    else do
      let entered ← (g.push fullName declaring decl).insertNested g.nextNumber nested
      return (entered, g.nextNumber)

/-- Enters types that are nested in another, one after another. -/
def insertNested (g : Catalog) (outer : TypeNumber) :
    List TypeTree → Except DuplicateName Catalog
  | [] => .ok g
  | t :: ts => do
    let (entered, inner) ← g.insert (some outer) t
    (entered.nest outer inner).insertNested outer ts

end

/-- Enters types that are not nested in others, one after another. -/
def insertRoots (g : Catalog) : List TypeTree → Except DuplicateName Catalog
  | [] => .ok g
  | t :: ts => do
    let (entered, root) ← g.insert none t
    insertRoots { entered with roots := entered.roots ++ [root] } ts

/-- Lists the types of a module. -/
def ofModule (m : Module) : Except DuplicateName Catalog := insertRoots { name := m.name } m.types

end Catalog

end Concord
