import Concord.Json.Pretty
import Concord.NameTree.Basic

/-!
# Recovered names as JSON

The written form of recovered names: indented text with a final new line, in which empty parts
are left out.
-/

namespace Concord

open Json

/-- A member that is left out when its list is empty. -/
def listMember (key : String) (items : List Value) : List (String × Value) :=
  if items.isEmpty then [] else [(key, .list items)]

/-- The entry of a field or property. -/
def MemberName.toValue (m : MemberName) : Value :=
  .record [("original", .text m.renamed), ("mapped", .text m.recovered)]

/-- The entry of a method. -/
def MethodName.toValue (m : MethodName) : Value :=
  .record ([("original", .text m.renamed), ("mapped", .text m.recovered)] ++
    listMember "signature" (m.signature.map .text))

/-- A member that is left out when there is no text. -/
def textMember (key : String) : Option String → List (String × Value)
  | none => []
  | some s => [(key, .text s)]

mutual

/-- The value of a tree. -/
def NameTree.toValue : NameTree → Value
  | ⟨renamed, recovered, fields, properties, methods, nested⟩ =>
    .record ([("original", .text renamed)] ++ textMember "mapped" recovered ++
      listMember "fields" (fields.map MemberName.toValue) ++
      listMember "properties" (properties.map MemberName.toValue) ++
      listMember "methods" (methods.map MethodName.toValue) ++
      listMember "nested" (treeValues nested))

/-- The values of several trees. -/
def treeValues : List NameTree → List Value
  | [] => []
  | t :: ts => t.toValue :: treeValues ts

end

namespace NameForest

/-- The value of all trees. -/
def toValue (m : NameForest) : Value := .record [("types", .list (treeValues m.types))]

/-- The text that is written for recovered names. -/
def render (m : NameForest) : String := m.toValue.pretty ++ "\n"

end NameForest

end Concord
