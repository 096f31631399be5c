import Concord.Json.Doc
import Concord.Json.Number

/-!
# Decoding documents

A decoder walks a document from left to right and stops at the first fault. Lists and records
that are asked for may be nested `maxDepth` deep; values that are passed over are not limited.

A record is described by its `Fields`, in order of declaration. It can be written with keys, in
any order and with keys that nobody asks for in between, or as the list of its fields, of which
the last ones may be left out when they have defaults.
-/

namespace Concord.Json

/-- Reads a value from a document. -/
abbrev Decoder (α : Type) := Doc → Except Fault α

/-- How many lists and records may be open at once around a value that is asked for. -/
def maxDepth : Nat := 127

/-! ## Single values -/

/-- What kind of value a document is. -/
def Doc.kind : Doc → Except Fault Found
  | .absent s => .error s.used
  | .null => .ok .null
  | .bool b => .ok (.bool b)
  | .number n =>
    n.value.map fun
      | .integer i => .integer i
      | .float x => .float x
  | .text l => l.text.map .text
  | .list .. => .ok .list
  | .record .. => .ok .record

/-- Fails because the document is not of the kind that is asked for. -/
def mismatch {α : Type} (expected : Expected) (d : Doc) : Except Fault α :=
  match d.kind with
  | .error fault => .error fault
  | .ok found => .error (.misfit (.wrongType found expected))

/-- Reads a text. -/
def text : Decoder String
  | .text l => l.text
  | d => mismatch .text d

/-- Reads a text, or nothing for `null`. -/
def text? : Decoder (Option String)
  | .null => .ok none
  | d => (text d).map some

/-- Reads a word of sixteen bits. -/
def word16 : Decoder UInt16
  | .number n =>
    match n.value with
    | .error fault => .error fault
    | .ok (.float x) => .error (.misfit (.wrongType (.float x) .word16))
    | .ok (.integer i) =>
      if 0 ≤ i && i < UInt16.size then .ok i.toNat.toUInt16
      else .error (.misfit (.outOfRange i .word16))
  | d => mismatch .word16 d

/-- Reads a double. -/
def double : Decoder Float
  | .number n =>
    match n.value with
    | .error fault => .error fault
    | .ok (.integer i) => .ok (if i < 0 then -Float.ofNat i.natAbs else Float.ofNat i.natAbs)
    | .ok (.float x) => .ok x
  | d => mismatch .double d

/-! ## Lists -/

/-- Reads every item of a list that may open at depth `depth`. -/
def list {α : Type} (depth : Nat) (item : Decoder α) : Decoder (List α)
  | .list items ending =>
    match depth with
    | 0 => .error (.malformed .tooDeep)
    | _ + 1 => do
      let values ← items.mapM item
      ending.check Snag.used
      return values
  | d => mismatch .list d

/-! ## Records -/

/-- The fields of a record, in order of declaration, and what has been found of them. The value
of the record is a function of its fields, the last one first. -/
inductive Fields : Type → Type 1 where
  | done {α : Type} (value : α) : Fields α
  | field {α β : Type} (name : String) (decode : Decoder β) (default : Option β)
      (found : Option β) (rest : Fields (β → α)) : Fields α

namespace Fields

/-- A field that has to be there. -/
def required {α β : Type} (name : String) (decode : Decoder β) (rest : Fields (β → α)) :
    Fields α :=
  .field name decode none none rest

/-- A field that may be left out. -/
def optional {α β : Type} (name : String) (decode : Decoder β) (default : β)
    (rest : Fields (β → α)) : Fields α :=
  .field name decode (some default) none rest

/-- The number of fields. -/
def size {α : Type} : Fields α → Nat
  | done _ => 0
  | field _ _ _ _ rest => rest.size + 1

/-- Reads the member `name` of a record. Gives nothing if there is no such field. -/
def supply {α : Type} (key : String) (d : Doc) : Fields α → Except Fault (Option (Fields α))
  | done _ => .ok none
  | field name decode default found rest =>
    if name = key then
      match found with
      | some _ => .error (.misfit (.repeated name))
      | none => (decode d).map fun value => some (field name decode default (some value) rest)
    else
      (rest.supply key d).map fun
        | some rest => some (field name decode default found rest)
        | none => none

/-- The value of the record. The first field that is missing is the one reported. -/
def finish {α : Type} : Fields α → Except Fault α
  | done value => .ok value
  | field name _ default found rest =>
    match found, default with
    | some value, _ | none, some value => rest.finish.map fun f => f value
    | none, none => .error (.misfit (.missing name))

/-- Reads members in the order in which they are written. -/
def members {α : Type} (fields : Fields α) :
    List (Literal × Doc) → Except Fault (Fields α)
  | [] => .ok fields
  | (key, d) :: rest =>
    match key.text with
    | .error fault => .error fault
    | .ok name =>
      match fields.supply name d with
      | .error fault => .error fault
      | .ok (some fields) => fields.members rest
      | .ok none =>
        match d.skip with
        | .error fault => .error fault
        | .ok () => fields.members rest

/-- Reads the fields from a list, in order of declaration. `index` and `size` tell the place of
the first of them and the number of all. -/
def items {α : Type} (record : String) (index size : Nat) :
    Fields α → List Doc → Ending → Except Fault α
  | done value, [], ending => (ending.check Snag.pastEnd).map fun () => value
  | done _, _ :: _, _ => .error (.malformed .trailingText)
  | field _ decode _ _ rest, d :: ds, ending =>
    match decode d with
    | .error fault => .error fault
    | .ok value => (rest.items record (index + 1) size ds ending).map fun f => f value
  | field _ _ default _ rest, [], ending =>
    match ending.check Snag.used, default with
    | .error fault, _ => .error fault
    | .ok (), some value => (rest.items record (index + 1) size [] ending).map fun f => f value
    | .ok (), none => .error (.misfit (.tooShort index record size))

/-- Reads a record that may open at depth `depth`. -/
def decode {α : Type} (fields : Fields α) (record : String) (depth : Nat) : Decoder α
  | .record members ending =>
    match depth with
    | 0 => .error (.malformed .tooDeep)
    | _ + 1 =>
      match fields.members members with
      | .error fault => .error fault
      | .ok fields =>
        match ending.check Snag.used with
        | .error fault => .error fault
        | .ok () => fields.finish
  | .list items ending =>
    match depth with
    | 0 => .error (.malformed .tooDeep)
    | _ + 1 => fields.items record 0 fields.size items ending
  | d => mismatch (.record record) d

end Fields

/-! ## Whole texts -/

/-- Reads a text that holds one value and nothing else. -/
def decodeTokens {α : Type} (decode : Decoder α) (ts : List Token) : Except Fault α :=
  match Doc.ofTokens ts with
  | (d, rest) =>
    match decode d with
    | .error fault => .error fault
    | .ok value => if rest.isEmpty then .ok value else .error (.malformed .trailingText)

/-- Reads a text that holds one value and nothing else. -/
def decodeText {α : Type} (decode : Decoder α) (s : String) : Except Fault α :=
  decodeTokens decode (tokens s.toList)

end Concord.Json
