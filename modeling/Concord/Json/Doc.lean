import Concord.Json.Token

/-!
# Documents

`Doc` is the structure of a JSON text as far as it can be read. A text that breaks off or breaks
a rule still has a document, which records at its last place where the reader got stuck. A
decoder that walks a document from left to right therefore meets a misfit before any fault that
lies further on in the text, and `Doc.skip` passes over a value that nobody asks for.

`Doc.ofTokens` reads the structure with a stack of open lists and records, one step per token,
so that values may nest as deep as they like.
-/

namespace Concord.Json

/-- How a list or record ends. -/
inductive Ending where
  | closed
  /-- The reader got stuck at the end of the list or record itself. -/
  | stuck (s : Snag)
  /-- The reader got stuck inside its last item or member. -/
  | inside
deriving Repr, DecidableEq

/-- The structure of a text, up to where the reader got stuck. -/
inductive Doc where
  /-- No value can be read here. -/
  | absent (s : Snag)
  | null
  | bool (b : Bool)
  | number (n : Numeral)
  | text (l : Literal)
  | list (items : List Doc) (ending : Ending)
  | record (members : List (Literal × Doc)) (ending : Ending)
deriving Repr

/-! ## Faults of a document that breaks off -/

namespace Snag

/-- The fault when the value is asked for. -/
def used : Snag → Fault
  | noText | wordCut | numberCut | listCommaCut | recordCommaCut => .cut .value
  | noValue => .malformed .noValue
  | misspelt => .malformed .misspelt
  | badNumber => .malformed .badNumber
  | listCut => .cut .list
  | noListSeparator => .malformed .noListSeparator
  | listCommaClose | recordCommaClose => .malformed .trailingComma
  | recordCut => .cut .record
  | noRecordSeparator => .malformed .noRecordSeparator
  | keyNotText => .malformed .keyNotText
  | brokenKey key =>
    match key.text with
    | .error fault => fault
    | .ok _ => .malformed .keyNotText
  | noColon => .malformed .noColon

/-- The fault when the value is passed over. A number that is cut off counts as malformed then,
and what follows a comma is judged like a first item or key. -/
def skipped : Snag → Fault
  | numberCut => .malformed .badNumber
  | listCommaClose => .malformed .noValue
  | recordCommaClose => .malformed .keyNotText
  | recordCommaCut => .cut .record
  | brokenKey key => key.ending.fault?.getD (.malformed .keyNotText)
  | s => s.used

/-- The fault after the last item of a list of fixed length. -/
def pastEnd : Snag → Fault
  | noListSeparator | listCommaCut => .malformed .trailingText
  | s => s.used

end Snag

namespace Ending

/-- Fails unless the list or record is closed, with the fault that `fault` finds. -/
def check (fault : Snag → Fault) : Ending → Except Fault Unit
  | closed => .ok ()
  | stuck s => .error (fault s)
  | inside => .error (.malformed .noValue)

end Ending

mutual

/-- Passes over a value: only its form is judged. -/
def Doc.skip : Doc → Except Fault Unit
  | .absent s => .error s.skipped
  | .null | .bool _ | .number _ => .ok ()
  | .text l =>
    match l.ending.fault? with
    | none => .ok ()
    | some fault => .error fault
  | .list items ending =>
    match skipItems items with
    | .error fault => .error fault
    | .ok () => ending.check Snag.skipped
  | .record members ending =>
    match skipMembers members with
    | .error fault => .error fault
    | .ok () => ending.check Snag.skipped

/-- Passes over the items of a list. -/
def skipItems : List Doc → Except Fault Unit
  | [] => .ok ()
  | item :: rest =>
    match item.skip with
    | .error fault => .error fault
    | .ok () => skipItems rest

/-- Passes over the members of a record. -/
def skipMembers : List (Literal × Doc) → Except Fault Unit
  | [] => .ok ()
  | (_, value) :: rest =>
    match value.skip with
    | .error fault => .error fault
    | .ok () => skipMembers rest

end

/-! ## Reading the structure -/

/-- A list or record that is open around the place where the reader stands. What it holds so far
is kept latest first. -/
inductive Frame where
  | list (items : List Doc)
  | record (members : List (Literal × Doc)) (key : Literal)
deriving Repr

/-- What the reader looks for next. -/
inductive Mode where
  /-- A value. -/
  | value
  /-- The next item of a list, or its end. -/
  | item (items : List Doc) (afterComma : Bool)
  /-- The next key of a record, or its end. -/
  | key (members : List (Literal × Doc)) (afterComma : Bool)
  /-- The colon after a key. -/
  | colon (members : List (Literal × Doc)) (key : Literal)
  /-- What follows a value that has been read. -/
  | after (d : Doc)
deriving Repr

/-- What a token does to the reader. -/
inductive Step where
  | go (mode : Mode) (frames : List Frame)
  /-- The document ended before this token. -/
  | ended (d : Doc)
  /-- The reader is stuck, with all that has been read. -/
  | stop (d : Doc)

/-- Closes all open frames around a document in which the reader got stuck. -/
def unwind : List Frame → Doc → Doc
  | [], d => d
  | .list items :: frames, d => unwind frames (.list (d :: items).reverse .inside)
  | .record members key :: frames, d =>
    unwind frames (.record ((key, d) :: members).reverse .inside)

/-- A value starts with the token. -/
def startValue (frames : List Frame) : Token → Step
  | .null => .go (.after .null) frames
  | .bool b => .go (.after (.bool b)) frames
  | .number n => .go (.after (.number n)) frames
  | .text l =>
    if l.ending = .closed then .go (.after (.text l)) frames else .stop (unwind frames (.text l))
  | .openList => .go (.item [] false) frames
  | .openRecord => .go (.key [] false) frames
  | .broken s => .stop (unwind frames (.absent s))
  | .closeList | .closeRecord | .comma | .colon | .stray =>
    .stop (unwind frames (.absent .noValue))

/-- The token after a value. -/
def afterValue (d : Doc) : List Frame → Token → Step
  | [], _ => .ended d
  | .list items :: frames, token =>
    let items := d :: items
    match token with
    | .comma => .go (.item items true) frames
    | .closeList => .go (.after (.list items.reverse .closed)) frames
    | _ => .stop (unwind frames (.list items.reverse (.stuck .noListSeparator)))
  | .record members key :: frames, token =>
    let members := (key, d) :: members
    match token with
    | .comma => .go (.key members true) frames
    | .closeRecord => .go (.after (.record members.reverse .closed)) frames
    | _ => .stop (unwind frames (.record members.reverse (.stuck .noRecordSeparator)))

/-- What a token does, by what is looked for. -/
def Mode.step (frames : List Frame) (token : Token) : Mode → Step
  | .value => startValue frames token
  | .item items afterComma =>
    match token, afterComma with
    | .closeList, false => .go (.after (.list items.reverse .closed)) frames
    | .closeList, true => .stop (unwind frames (.list items.reverse (.stuck .listCommaClose)))
    | token, _ => startValue (.list items :: frames) token
  | .key members afterComma =>
    match token, afterComma with
    | .closeRecord, false => .go (.after (.record members.reverse .closed)) frames
    | .closeRecord, true =>
      .stop (unwind frames (.record members.reverse (.stuck .recordCommaClose)))
    | .text name, _ =>
      if name.ending = .closed then .go (.colon members name) frames
      else .stop (unwind frames (.record members.reverse (.stuck (.brokenKey name))))
    | _, _ => .stop (unwind frames (.record members.reverse (.stuck .keyNotText)))
  | .colon members name =>
    match token with
    | .colon => .go .value (.record members name :: frames)
    | _ => .stop (unwind (.record members name :: frames) (.absent .noColon))
  | .after d => afterValue d frames token

/-- The document when the text ends. -/
def Mode.finish (frames : List Frame) : Mode → Doc
  | .value => unwind frames (.absent .noText)
  | .item items afterComma =>
    unwind frames (.list items.reverse (.stuck (if afterComma then .listCommaCut else .listCut)))
  | .key members afterComma =>
    unwind frames
      (.record members.reverse (.stuck (if afterComma then .recordCommaCut else .recordCut)))
  | .colon members name => unwind (.record members name :: frames) (.absent .recordCut)
  | .after d =>
    match frames with
    | [] => d
    | .list items :: frames => unwind frames (.list (d :: items).reverse (.stuck .listCut))
    | .record members name :: frames =>
      unwind frames (.record ((name, d) :: members).reverse (.stuck .recordCut))

/-- Runs the reader. Gives the document and the tokens that follow it. -/
def readDoc : Mode → List Frame → List Token → Doc × List Token
  | mode, frames, [] => (mode.finish frames, [])
  | mode, frames, token :: rest =>
    match mode.step frames token with
    | .go mode frames => readDoc mode frames rest
    | .ended d => (d, token :: rest)
    | .stop d => (d, [])

/-- The document at the start of a text, and the tokens that follow it. -/
def Doc.ofTokens (ts : List Token) : Doc × List Token := readDoc .value [] ts

end Concord.Json
