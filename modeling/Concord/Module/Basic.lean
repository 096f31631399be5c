import Concord.MethodFlags

/-!
# Module descriptions

A module is a forest of types. Each type declares fields, properties and methods, and may have
further types nested in it.
-/

namespace Concord

/-- A field and the full name of its type. -/
structure FieldDecl where
  name : String
  type : String
deriving Repr, DecidableEq

/-- A property and the full name of its type. -/
structure PropertyDecl where
  name : String
  type : String
deriving Repr, DecidableEq

/-- A parameter and the full name of its type. -/
structure ParameterDecl where
  name : String := ""
  type : String
deriving Repr, DecidableEq

/-- A method and its signature. -/
structure MethodDecl where
  name : String
  returnType : String
  flags : MethodFlags := .none
  parameters : List ParameterDecl := []
deriving Repr, DecidableEq

namespace MethodDecl

/-- Constructors of instances and of the type itself have fixed names. -/
def isConstructor (m : MethodDecl) : Bool := m.name = ".ctor" || m.name = ".cctor"

/-- The full names of the parameter types, in order. -/
def parameterTypes (m : MethodDecl) : List String := m.parameters.map (·.type)

end MethodDecl

/-- A type apart from the types nested in it. -/
structure TypeDecl where
  namespaceName : String := ""
  name : String
  fields : List FieldDecl := []
  properties : List PropertyDecl := []
  methods : List MethodDecl := []
deriving Repr, DecidableEq

namespace TypeDecl

/-- The methods that are no constructors, in order. -/
def ordinaryMethods (t : TypeDecl) : List MethodDecl := t.methods.filter (!·.isConstructor)

/-- The full name of the type when it is not nested in another. -/
def topLevelName (t : TypeDecl) : String :=
  if t.namespaceName = "" then t.name else t.namespaceName ++ "." ++ t.name

end TypeDecl

/-- A type with the types nested in it. -/
inductive TypeTree where
  | node (decl : TypeDecl) (nested : List TypeTree)
deriving Repr

namespace TypeTree

/-- The type at the root. -/
def decl : TypeTree → TypeDecl
  | node decl _ => decl

/-- The types nested directly in the root. -/
def nested : TypeTree → List TypeTree
  | node _ nested => nested

end TypeTree

/-- A module: a name and the types that are not nested in others. -/
structure Module where
  name : String
  types : List TypeTree := []
deriving Repr

end Concord
