import Concord.Json.Decode
import Concord.NameTree.Basic

/-!
# Recovered names read from JSON

The reader of what `NameForest.render` writes. Parts that are left out are empty.
-/

namespace Concord

open Json

namespace MemberName

/-- Reads the entry of a field or property. -/
def decode (depth : Nat) : Decoder MemberName :=
  (Fields.required "original" text <| .required "mapped" text <|
    .done fun recovered renamed => { renamed, recovered }).decode "RecoveredMember" depth

end MemberName

namespace MethodName

/-- Reads the entry of a method. -/
def decode (depth : Nat) : Decoder MethodName :=
  (Fields.required "original" text <| .required "mapped" text <|
    .optional "signature" (list (depth - 1) text) [] <|
    .done fun signature recovered renamed =>
      { renamed, recovered, signature }).decode "RecoveredMethod" depth

end MethodName

namespace NameTree

/-- The fields of a tree whose nested trees are read by `nested`. -/
def fieldList (depth : Nat) (nested : Decoder (List NameTree)) : Fields NameTree :=
  .required "original" text <| .optional "mapped" text? none <|
  .optional "fields" (list (depth - 1) (MemberName.decode (depth - 2))) [] <|
  .optional "properties" (list (depth - 1) (MemberName.decode (depth - 2))) [] <|
  .optional "methods" (list (depth - 1) (MethodName.decode (depth - 2))) [] <|
  .optional "nested" nested [] <|
  .done fun nested methods properties fields recovered renamed =>
    { renamed, recovered, fields, properties, methods, nested }

/-- Reads a tree, in which each nested tree opens a list and a record more. -/
def decode : Nat → Decoder NameTree
  | 0 => (fieldList 0 (list 0 fun _ => .error (.malformed .tooDeep))).decode "RecoveredType" 0
  | 1 => (fieldList 1 (list 0 fun _ => .error (.malformed .tooDeep))).decode "RecoveredType" 1
  | depth + 2 =>
    (fieldList (depth + 2) (list (depth + 1) (decode depth))).decode "RecoveredType" (depth + 2)

end NameTree

namespace NameForest

/-- Reads all trees. -/
def decode (depth : Nat) : Decoder NameForest :=
  (Fields.required "types" (list (depth - 1) (NameTree.decode (depth - 2))) <|
    .done fun types => { types }).decode "RecoveryMap" depth

/-- Reads the text of recovered names. -/
def ofText (s : String) : Except Fault NameForest := decodeText (decode maxDepth) s

end NameForest

end Concord
