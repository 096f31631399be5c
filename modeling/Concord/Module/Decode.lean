import Concord.Json.Decode
import Concord.Module.Basic

/-!
# Module descriptions as JSON

The records of a module description and their fields, in the order in which a record written as
a list gives them. Each decoder takes the number of lists and records that may still open.
-/

namespace Concord

open Json

namespace FieldDecl

/-- Reads a field. -/
def decode (depth : Nat) : Decoder FieldDecl :=
  (Fields.required "name" text <| .required "field_type" text <|
    .done fun type name => { name, type }).decode "FieldDef" depth

end FieldDecl

namespace PropertyDecl

/-- Reads a property. -/
def decode (depth : Nat) : Decoder PropertyDecl :=
  (Fields.required "name" text <| .required "property_type" text <|
    .done fun type name => { name, type }).decode "PropertyDef" depth

end PropertyDecl

namespace ParameterDecl

/-- Reads a parameter, whose name may be left out. -/
def decode (depth : Nat) : Decoder ParameterDecl :=
  (Fields.optional "name" text "" <| .required "parameter_type" text <|
    .done fun type name => { name, type }).decode "ParameterDef" depth

end ParameterDecl

/-- Reads the flags of a method. -/
def MethodFlags.decode : Decoder MethodFlags := fun d => (word16 d).map MethodFlags.mk

namespace MethodDecl

/-- Reads a method. -/
def decode (depth : Nat) : Decoder MethodDecl :=
  (Fields.required "name" text <| .required "return_type" text <|
    .optional "attributes" MethodFlags.decode .none <|
    .optional "parameters" (list (depth - 1) (ParameterDecl.decode (depth - 2))) [] <|
    .done fun parameters flags returnType name =>
      { name, returnType, flags, parameters }).decode "MethodDef" depth

end MethodDecl

namespace TypeTree

/-- The fields of a type whose nested types are read by `nested`. -/
def fields (depth : Nat) (nested : Decoder (List TypeTree)) : Fields TypeTree :=
  .optional "namespace" text "" <| .required "name" text <|
  .optional "fields" (list (depth - 1) (FieldDecl.decode (depth - 2))) [] <|
  .optional "properties" (list (depth - 1) (PropertyDecl.decode (depth - 2))) [] <|
  .optional "methods" (list (depth - 1) (MethodDecl.decode (depth - 2))) [] <|
  .optional "nested_types" nested [] <|
  .done fun nested methods properties fields name namespaceName =>
    .node { namespaceName, name, fields, properties, methods } nested

/-- Reads a type with the types nested in it, each of which opens a list and a record more. -/
def decode : Nat → Decoder TypeTree
  | 0 => (fields 0 (list 0 fun _ => .error (.malformed .tooDeep))).decode "TypeDef" 0
  | 1 => (fields 1 (list 0 fun _ => .error (.malformed .tooDeep))).decode "TypeDef" 1
  | depth + 2 => (fields (depth + 2) (list (depth + 1) (decode depth))).decode "TypeDef" (depth + 2)

end TypeTree

namespace Module

/-- Reads a module. -/
def decode (depth : Nat) : Decoder Module :=
  (Fields.required "name" text <|
    .optional "types" (list (depth - 1) (TypeTree.decode (depth - 2))) [] <|
    .done fun types name => { name, types }).decode "ModuleDef" depth

/-- Reads the text of a module description. -/
def ofText (s : String) : Except Fault Module := decodeText (decode maxDepth) s

end Module

end Concord
