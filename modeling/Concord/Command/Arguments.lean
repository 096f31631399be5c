import Concord.Decimal.Read
import Concord.Event

/-!
# Arguments of the command

Options are written `--name value` or `--name=value`. A value that stands on its own is judged
only when the next option comes or the words end, so a word that makes no sense at all is
reported before a bad value in front of it.
-/

namespace Concord.Command

/-- Why a list of words does not start a recovery. -/
inductive UsageError where
  /-- A word that is neither an option nor the value of one. -/
  | unknownArgument
  /-- An option without its value, or with one that is not among those allowed. -/
  | invalidValue
  /-- A value that is not a number. -/
  | notANumber
  /-- An option that is given twice. -/
  | repeatedOption
  /-- A module is not given. -/
  | missingOption
  /-- A value for an option that takes none. -/
  | unexpectedValue
  /-- The user asks for help. -/
  | helpRequested
  /-- The user asks for the version. -/
  | versionRequested
deriving Repr, DecidableEq

/-- The options that take a value. -/
inductive Setting where
  | reference
  | renamed
  | seeds
  | pairByName
  | minScore
  | renamedLength
  | output
  | logLevel
deriving Repr, DecidableEq

namespace Setting

/-- The name that the option is given by. -/
def name : Setting → String
  | reference => "reference"
  | renamed => "renamed"
  | seeds => "seeds"
  | pairByName => "pair-by-name"
  | minScore => "min-score"
  | renamedLength => "renamed-length"
  | output => "output"
  | logLevel => "log-level"

/-- All options. -/
def all : List Setting :=
  [reference, renamed, seeds, pairByName, minScore, renamedLength, output, logLevel]

/-- The option of a name, which has to be written in full. -/
def ofName? (s : String) : Option Setting := all.find? (·.name = s)

/-- The value of an option that is given without one. -/
def bareValue? : Setting → Option String
  | pairByName => some "true"
  | _ => none

end Setting

/-- What the command is asked to do. -/
structure Arguments where
  reference : String
  renamed : String
  seeds : Option String := none
  pairByName : Option Bool := none
  minScore : Option Float := none
  renamedLength : Option Nat := none
  output : String := "-"
  logLevel : Level := .warn
deriving Repr

/-! ## Values -/

/-- The options that have been read. -/
structure Draft where
  reference : Option String := none
  renamed : Option String := none
  seeds : Option String := none
  pairByName : Option Bool := none
  minScore : Option Float := none
  renamedLength : Option Nat := none
  output : Option String := none
  logLevel : Option Level := none
deriving Repr

/-- A path is any text but the empty one. -/
def readPath (s : String) : Except UsageError String :=
  if s = "" then .error .invalidValue else .ok s

/-- Either truth value by its name. -/
def readBool (s : String) : Except UsageError Bool :=
  if s = "true" then .ok true else if s = "false" then .ok false else .error .invalidValue

/-- A value that `read?` accepts. -/
def readNumber {α : Type} (read? : List Char → Option α) (s : String) : Except UsageError α :=
  match read? s.toList with
  | some a => .ok a
  | none => .error .notANumber

/-- A level by its name. -/
def readLevel (s : String) : Except UsageError Level :=
  match Level.ofName? s with
  | some level => .ok level
  | none => .error .invalidValue

namespace Draft

/-- The option has been read. -/
def has (d : Draft) : Setting → Bool
  | .reference => d.reference.isSome
  | .renamed => d.renamed.isSome
  | .seeds => d.seeds.isSome
  | .pairByName => d.pairByName.isSome
  | .minScore => d.minScore.isSome
  | .renamedLength => d.renamedLength.isSome
  | .output => d.output.isSome
  | .logLevel => d.logLevel.isSome

/-- Reads the value of an option. -/
def read (d : Draft) (value : String) : Setting → Except UsageError Draft
  | .reference => (readPath value).map fun v => { d with reference := some v }
  | .renamed => (readPath value).map fun v => { d with renamed := some v }
  | .seeds => (readPath value).map fun v => { d with seeds := some v }
  | .pairByName => (readBool value).map fun v => { d with pairByName := some v }
  | .minScore =>
    (readNumber Decimal.readFloat? value).map fun v => { d with minScore := some v }
  | .renamedLength =>
    (readNumber (Decimal.readNat? (UInt64.size - 1)) value).map fun v =>
      { d with renamedLength := some v }
  | .output => (readPath value).map fun v => { d with output := some v }
  | .logLevel => (readLevel value).map fun v => { d with logLevel := some v }

/-- Reads the value of an option that may not have been read before. -/
def assign (d : Draft) (setting : Setting) (value : String) : Except UsageError Draft :=
  if d.has setting then .error .repeatedOption else d.read value setting

/-- All that the words ask for. -/
def finish (d : Draft) : Except UsageError Arguments :=
  match d.reference, d.renamed with
  | some reference, some renamed =>
    .ok
      { reference, renamed
        seeds := d.seeds
        pairByName := d.pairByName
        minScore := d.minScore
        renamedLength := d.renamedLength
        output := d.output.getD "-"
        logLevel := d.logLevel.getD .warn }
  | _, _ => .error .missingOption

end Draft

/-! ## Words -/

/-- An option whose value is still to be judged. -/
structure Pending where
  setting : Setting
  value : Option String := none
deriving Repr

/-- Judges the value of a pending option. -/
def settle (d : Draft) : Option Pending → Except UsageError Draft
  | none => .ok d
  | some ⟨setting, value⟩ =>
    match value.or setting.bareValue? with
    | some value => d.assign setting value
    | none => .error .invalidValue

/-- What a word is. -/
inductive Word where
  /-- `--`: no options follow. -/
  | divider
  /-- `--name` or `--name=value`. -/
  | long (name : String) (value : Option String)
  /-- `-x…`. -/
  | short (first : Char)
  /-- Any other word. -/
  | plain
deriving Repr, DecidableEq

/-- Takes a word to pieces. -/
def Word.ofText (s : String) : Word :=
  match s.toList with
  | ['-', '-'] => .divider
  | '-' :: '-' :: rest =>
    let name := String.ofList (rest.takeWhile (· ≠ '='))
    match rest.dropWhile (· ≠ '=') with
    | _ :: value => .long name (some (String.ofList value))
    | [] => .long name none
  | '-' :: first :: _ => .short first
  | _ => .plain

/-- The options that take no value, by name. -/
def question? : String → Option UsageError
  | "help" => some .helpRequested
  | "version" => some .versionRequested
  | _ => none

/-- The options that take no value, by letter. -/
def shortQuestion? : Char → Option UsageError
  | 'h' => some .helpRequested
  | 'V' => some .versionRequested
  | _ => none

/-- Judges the pending option, then answers a question. -/
def answer {α : Type} (d : Draft) (pending : Option Pending) (question : UsageError) :
    Except UsageError α :=
  match settle d pending with
  | .error e => .error e
  | .ok _ => .error question

/-- Reads words from left to right. The first problem wins, and a module that is not given is
noticed last. -/
def readWords (d : Draft) (pending : Option Pending) : List String → Except UsageError Arguments
  | [] =>
    match settle d pending with
    | .error e => .error e
    | .ok d => d.finish
  | word :: rest =>
    match Word.ofText word with
    | .divider => if rest.isEmpty then readWords d pending rest else .error .unknownArgument
    | .long name value =>
      match question? name, Setting.ofName? name with
      | some question, _ =>
        if value.isSome then .error .unexpectedValue else answer d pending question
      | none, none => .error .unknownArgument
      | none, some setting =>
        match settle d pending with
        | .error e => .error e
        | .ok d =>
          match value with
          | none => readWords d (some { setting }) rest
          | some value =>
            match d.assign setting value with
            | .error e => .error e
            | .ok d => readWords d none rest
    | .short first =>
      match shortQuestion? first with
      | some question => answer d pending question
      | none => .error .unknownArgument
    | .plain =>
      match pending with
      | some ⟨setting, none⟩ => readWords d (some { setting, value := some word }) rest
      | _ => .error .unknownArgument

/-- Reads the words that follow the name of the command. -/
def Arguments.ofWords (words : List String) : Except UsageError Arguments :=
  readWords {} none words

end Concord.Command
