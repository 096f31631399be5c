import Concord.Json.Decode

/-!
# Seeds

A seed is a pair of types that are known to correspond, by their full names, with a score that
tells how sure that is.
-/

namespace Concord

/-- A pair of corresponding types. -/
structure Seed where
  renamed : String
  reference : String
  score : Float := 0.0
deriving Repr

namespace Seed

open Json

/-- Reads a seed, whose score may be left out. -/
def decode (depth : Nat) : Decoder Seed :=
  (Fields.required "renamed" text <| .required "reference" text <|
    .optional "score" double 0.0 <|
    .done fun score reference renamed => { renamed, reference, score }).decode "Seed" depth

/-- Reads the text of a list of seeds. -/
def listOfText (s : String) : Except Fault (List Seed) :=
  decodeText (list maxDepth (decode (maxDepth - 1))) s

end Seed

end Concord
