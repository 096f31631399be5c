import Concord.Convention
import Concord.Concordance.Planting

/-!
# Matching members

Fields and properties of two corresponding types are paired by order of declaration, when both
sides declare equally many. Methods are paired by signature: a reference method is recovered
only if exactly one renamed method can be its counterpart.
-/

namespace Concord

/-- What the members of two types are compared by. -/
structure Recovery where
  concordance : Concordance
  looksRenamed : RenameTest
  conventions : Conventions := .csharp
  /-- Reduces the flags of a method to those that belong to its signature. -/
  signatureFlags : MethodFlags → MethodFlags := MethodFlags.withoutAccess

namespace Recovery

/-! ## Fields and properties -/

/-- The name that a convention gives to a field of a nested type. -/
def generatedField? (m : Recovery) (renamed : CatalogEntry) (name : String) : Option String :=
  if renamed.isNested then (m.conventions.fixedField? name).or (m.conventions.hostOf? name)
  else none

/-- The entry of one pair of fields, if there is one. -/
def field (m : Recovery) (renamed : CatalogEntry) (clean field : FieldDecl) :
    Logged (List MemberName) :=
  match m.generatedField? renamed field.name with
  | some recovered => pure [⟨field.name, recovered⟩]
  | none =>
    if m.looksRenamed field.name then do
      Logged.report (.fieldRecovered field.name clean.name)
      return [⟨field.name, clean.name⟩]
    else pure []

/-- The recovered fields of a type. -/
def fields (m : Recovery) (reference renamed : CatalogEntry) : Logged (List MemberName) :=
  if renamed.fields.length = reference.fields.length then do
    let entries ← (reference.fields.zip renamed.fields).mapM fun (clean, field) =>
      m.field renamed clean field
    return entries.flatten
  else do
    Logged.report (.fieldCountsDiffer renamed.fullName reference.fullName)
    return []

/-- The recovered properties of a type. -/
def properties (m : Recovery) (reference renamed : CatalogEntry) : Logged (List MemberName) :=
  if renamed.properties.length = reference.properties.length then
    pure <| (reference.properties.zip renamed.properties).filterMap fun (clean, property) =>
      if m.looksRenamed property.name then some ⟨property.name, clean.name⟩ else none
  else do
    Logged.report (.propertyCountsDiffer renamed.fullName reference.fullName)
    return []

/-! ## Methods -/

/-- The full name on the reference side of a parameter type of the renamed side, if the type has
a pairing; else the name itself. -/
def resolve (m : Recovery) (renamedType : String) : String :=
  match m.concordance.ofName? renamedType with
  | some pairing => m.concordance.reference.fullName pairing.reference
  | none => renamedType

/-- A renamed method has the signature of a reference method. -/
def compatible (m : Recovery) (clean candidate : MethodDecl) : Bool :=
  clean.returnType = candidate.returnType &&
    m.signatureFlags clean.flags = m.signatureFlags candidate.flags &&
    clean.parameterTypes = candidate.parameterTypes.map m.resolve

/-- The entry that gives a renamed method a name. -/
def methodName (method : MethodDecl) (recovered : String) : MethodName :=
  { renamed := method.name, recovered, signature := method.parameterTypes }

/-- The renamed methods that can be the counterpart of a reference method. -/
def candidates (m : Recovery) (renamed : CatalogEntry) (clean : MethodDecl) : List MethodDecl :=
  renamed.ordinaryMethods.filter fun method =>
    m.looksRenamed method.name && m.compatible clean method

/-- The entry for one reference method, if exactly one renamed method can be its counterpart. A
method whose name the renamed type still has needs none. -/
def method (m : Recovery) (renamed : CatalogEntry) (clean : MethodDecl) :
    Logged (List MethodName) :=
  if renamed.ordinaryMethods.any (·.name = clean.name) then pure []
  else
    match m.candidates renamed clean with
    | [] => pure []
    | [only] => do
      Logged.report (.methodRecovered only.name clean.name)
      return [methodName only clean.name]
    | _ => do
      Logged.report (.methodAmbiguous renamed.fullName clean.name)
      return []

/-- The entries that conventions give to methods of a nested type. -/
def generatedMethods (m : Recovery) (renamed : CatalogEntry) : List MethodName :=
  if renamed.isNested then
    renamed.methods.filterMap fun method =>
      (m.conventions.hostOf? method.name).map (methodName method)
  else []

/-- Adds entries behind others, each one once. -/
def addNew : List MethodName → List MethodName → List MethodName
  | entries, [] => entries
  | entries, e :: rest => addNew (if entries.contains e then entries else entries ++ [e]) rest

/-- The recovered methods of a type. -/
def methods (m : Recovery) (reference renamed : CatalogEntry) : Logged (List MethodName) := do
  let bySignature ← reference.ordinaryMethods.mapM (m.method renamed)
  return addNew bySignature.flatten (m.generatedMethods renamed)

end Recovery

end Concord
