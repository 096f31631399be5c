import Concord.Proofs.JsonText

/-!
# JSON texts in all their layouts

A `Layout` is a JSON value as it stands in a text, with all that is left to whoever writes it: the
gaps between tokens, the escapes in literals and the spelling of numbers. `Layout.chars` are its
characters, `Layout.doc` is the document that it stands for.

`decodeText_layout`: a decoder that reads the text of a layout is given its document. Numbers are
what makes this depend on what follows a value, since a number has no end of its own; but gaps,
commas and closing brackets belong to no number (`Follows`).

* `readNumber_layout`, `Literal.read_layout`: numbers and literals are read whole.
* `tokens_chars`: the tokens of a layout are those of its document.
-/

set_option autoImplicit false

namespace Concord.Json

/-! ## Layouts -/

/-- What may stand between tokens. -/
structure Gap where
  chars : List Char
  isGap : ∀ c ∈ chars, isGap c = true

/-- One or more digits. -/
structure Digits where
  chars : List Char
  nonempty : chars ≠ []
  isDigit : ∀ c ∈ chars, Decimal.isDigit c = true

/-- The exponent of a number. A sign of `true` is minus. -/
structure ExponentLayout where
  mark : Char
  isMark : mark = 'e' ∨ mark = 'E'
  sign : Option Bool
  digits : Digits

/-- A number. Zero alone starts with the digit zero. -/
structure NumberLayout where
  negative : Bool
  whole : Digits
  noZero : whole.chars = ['0'] ∨ whole.chars.head? ≠ some '0'
  fraction : Option Digits
  exponent : Option ExponentLayout

/-- A piece of a literal: a character that stands for itself, one written by a letter, or a code
unit written by hexadecimal digits. -/
inductive PieceLayout where
  | plain (c : Char) (notQuote : c ≠ '"') (notSlash : c ≠ '\\') (notControl : ¬ c < ' ')
  | short (letter c : Char) (h : shortEscape? letter = some c)
  | unit (a b c d : Char) (n : Nat) (h : hexUnit? a b c d = some n)

/-- The key of a member, with the gaps around it. -/
structure KeyLayout where
  before : Gap
  pieces : List PieceLayout
  after : Gap

/-- A value. The gap of a list or record follows its opening bracket. -/
inductive Layout where
  | null
  | bool (b : Bool)
  | number (n : NumberLayout)
  | text (pieces : List PieceLayout)
  | list (gap : Gap) (items : List Layout)
  | record (gap : Gap) (members : List (KeyLayout × Layout))
  | gapped (before : Gap) (value : Layout) (after : Gap)

/-! ## Characters and documents -/

namespace ExponentLayout

def chars (e : ExponentLayout) : List Char :=
  e.mark :: match e.sign with
    | none => e.digits.chars
    | some false => '+' :: e.digits.chars
    | some true => '-' :: e.digits.chars

def value (e : ExponentLayout) : Int :=
  if e.sign = some true then -digitsValue e.digits.chars else digitsValue e.digits.chars

end ExponentLayout

namespace NumberLayout

def fractionChars (n : NumberLayout) : List Char :=
  (n.fraction.map fun f => '.' :: f.chars).getD []

def exponentChars (n : NumberLayout) : List Char := (n.exponent.map (·.chars)).getD []

/-- The characters behind the sign. -/
def unsigned (n : NumberLayout) : List Char :=
  n.whole.chars ++ (n.fractionChars ++ n.exponentChars)

def chars (n : NumberLayout) : List Char :=
  if n.negative then '-' :: n.unsigned else n.unsigned

def numeral (n : NumberLayout) : Numeral where
  negative := n.negative
  whole := n.whole.chars
  fraction := (n.fraction.map (·.chars)).getD []
  exponent := (n.exponent.map (·.value)).getD 0
  integral := n.fraction.isNone && n.exponent.isNone

end NumberLayout

namespace PieceLayout

def chars : PieceLayout → List Char
  | plain c _ _ _ => [c]
  | short letter _ _ => ['\\', letter]
  | unit a b c d _ _ => ['\\', 'u', a, b, c, d]

def piece : PieceLayout → Piece
  | plain c _ _ _ => .char c
  | short _ c _ => .char c
  | unit _ _ _ _ n _ => .unit n

end PieceLayout

/-- The characters of a literal. -/
def literalChars (pieces : List PieceLayout) : List Char :=
  '"' :: (pieces.flatMap PieceLayout.chars ++ ['"'])

/-- The literal of its pieces. -/
def Literal.ofLayout (pieces : List PieceLayout) : Literal :=
  ⟨pieces.map PieceLayout.piece, .closed⟩

def KeyLayout.chars (key : KeyLayout) : List Char :=
  key.before.chars ++ (literalChars key.pieces ++ (key.after.chars ++ [':']))

mutual

/-- The characters of a value. -/
def Layout.chars : Layout → List Char
  | .null => ['n', 'u', 'l', 'l']
  | .bool true => ['t', 'r', 'u', 'e']
  | .bool false => ['f', 'a', 'l', 's', 'e']
  | .number n => n.chars
  | .text pieces => literalChars pieces
  | .list gap [] => '[' :: (gap.chars ++ [']'])
  | .list gap (item :: rest) => '[' :: (gap.chars ++ (item.chars ++ (itemChars rest ++ [']'])))
  | .record gap [] => '\x7b' :: (gap.chars ++ ['\x7d'])
  | .record gap ((key, value) :: rest) =>
    '\x7b' :: (gap.chars ++ (key.chars ++ (value.chars ++ (memberChars rest ++ ['\x7d']))))
  | .gapped before value after => before.chars ++ (value.chars ++ after.chars)

/-- The characters of the items behind the first. -/
def itemChars : List Layout → List Char
  | [] => []
  | item :: rest => ',' :: (item.chars ++ itemChars rest)

/-- The characters of the members behind the first. -/
def memberChars : List (KeyLayout × Layout) → List Char
  | [] => []
  | (key, value) :: rest => ',' :: (key.chars ++ (value.chars ++ memberChars rest))

end

mutual

/-- The document of a value. -/
def Layout.doc : Layout → Doc
  | .null => .null
  | .bool b => .bool b
  | .number n => .number n.numeral
  | .text pieces => .text (Literal.ofLayout pieces)
  | .list _ items => .list (layoutDocs items) .closed
  | .record _ members => .record (layoutMembers members) .closed
  | .gapped _ value _ => value.doc

def layoutDocs : List Layout → List Doc
  | [] => []
  | item :: rest => item.doc :: layoutDocs rest

def layoutMembers : List (KeyLayout × Layout) → List (Literal × Doc)
  | [] => []
  | (key, value) :: rest => (Literal.ofLayout key.pieces, value.doc) :: layoutMembers rest

end

mutual

theorem complete_layout : ∀ w : Layout, w.doc.Complete
  | .null | .bool _ | .number _ => trivial
  | .text _ => rfl
  | .list _ items => ⟨rfl, complete_layoutDocs items⟩
  | .record _ members => ⟨rfl, complete_layoutMembers members⟩
  | .gapped _ value _ => complete_layout value

theorem complete_layoutDocs : ∀ items : List Layout, CompleteItems (layoutDocs items)
  | [] => trivial
  | item :: rest => ⟨complete_layout item, complete_layoutDocs rest⟩

theorem complete_layoutMembers :
    ∀ members : List (KeyLayout × Layout), CompleteMembers (layoutMembers members)
  | [] => trivial
  | (_, value) :: rest => ⟨rfl, complete_layout value, complete_layoutMembers rest⟩

end

/-! ## What follows a value -/

/-- Only gaps, commas and closing brackets may follow a value. -/
def Follows (rest : List Char) : Prop :=
  ∀ c ∈ rest.head?, isGap c = true ∨ c = ',' ∨ c = ']' ∨ c = '\x7d'

theorem follows_nil : Follows [] := nofun

theorem follows_cons {c : Char} (h : isGap c = true ∨ c = ',' ∨ c = ']' ∨ c = '\x7d')
    (rest : List Char) : Follows (c :: rest) := by
  intro c' hc'
  obtain rfl : c = c' := by simpa using hc'
  exact h

theorem Follows.gap {rest : List Char} (h : Follows rest) (gap : Gap) :
    Follows (gap.chars ++ rest) := by
  cases hgap : gap.chars with
  | nil => exact h
  | cons c cs => exact follows_cons (.inl (gap.isGap c (hgap ▸ List.mem_cons_self))) _

/-- The characters of numbers are none of them. -/
theorem Follows.not_number {rest : List Char} (h : Follows rest) {c : Char} (hc : c ∈ rest.head?) :
    Decimal.isDigit c = false ∧ c ≠ '.' ∧ c ≠ 'e' ∧ c ≠ 'E' := by
  rcases h c hc with hgap | rfl | rfl | rfl
  · simp only [isGap, Bool.or_eq_true, decide_eq_true_iff] at hgap
    rcases hgap with ((rfl | rfl) | rfl) | rfl <;> decide
  all_goals decide

/-! ## Numbers -/

/-- A character that is no digit ends a run of digits. -/
theorem span_digits (ds : Digits) {rest : List Char}
    (h : ∀ c ∈ rest.head?, Decimal.isDigit c = false) :
    (ds.chars ++ rest).takeWhile Decimal.isDigit = ds.chars ∧
      (ds.chars ++ rest).dropWhile Decimal.isDigit = rest := by
  rw [List.takeWhile_append_of_pos ds.isDigit, List.dropWhile_append_of_pos ds.isDigit]
  cases rest with
  | nil => simp
  | cons c rest =>
    have hc := h c rfl
    simp [hc]

theorem Digits.exists_cons (ds : Digits) :
    ∃ c cs, ds.chars = c :: cs ∧ Decimal.isDigit c = true := by
  obtain ⟨c, cs, hcs⟩ := List.exists_cons_of_ne_nil ds.nonempty
  exact ⟨c, cs, hcs, ds.isDigit c (hcs ▸ List.mem_cons_self)⟩

theorem splitSign_digits (ds : Digits) (rest : List Char) :
    Decimal.splitSign (ds.chars ++ rest) = (false, ds.chars ++ rest) := by
  obtain ⟨c, cs, hcs, hc⟩ := ds.exists_cons
  rw [hcs, List.cons_append, Decimal.splitSign]
  all_goals
    intro cs' heq
    rw [(List.cons.inj heq).1] at hc
    revert hc
    decide

section
variable {rest : List Char} (h : Follows rest)
include h

theorem readExponent_layout (negative : Bool) (whole fraction : List Char) (pointed : Bool)
    (e : Option ExponentLayout) :
    Token.readExponent negative whole fraction pointed ((e.map (·.chars)).getD [] ++ rest) =
      (.number ⟨negative, whole, fraction, (e.map (·.value)).getD 0, !pointed && e.isNone⟩,
        rest) := by
  cases e with
  | none =>
    cases rest with
    | nil => simp [Token.readExponent]
    | cons c rest =>
      obtain ⟨-, -, he, hE⟩ := h.not_number (c := c) rfl
      simp [Token.readExponent, he, hE]
  | some e =>
    obtain ⟨htake, hdrop⟩ := span_digits e.digits fun c hc => (h.not_number hc).1
    have hmark : (decide (e.mark = 'e') || decide (e.mark = 'E')) = true := by
      simpa using e.isMark
    have hsplit : ∃ minus, Decimal.splitSign ((e.chars ++ rest).tail) =
        (minus, e.digits.chars ++ rest) ∧ (minus = true ↔ e.sign = some true) := by
      rw [ExponentLayout.chars]
      rcases e.sign with _ | _ | _
      · exact ⟨false, splitSign_digits e.digits rest, by simp⟩
      · exact ⟨false, rfl, by simp⟩
      · exact ⟨true, rfl, by simp⟩
    obtain ⟨minus, hsplit, hminus⟩ := hsplit
    have hchars : e.chars ++ rest = e.mark :: (e.chars ++ rest).tail := rfl
    have hempty : e.digits.chars.isEmpty = false := by simpa using e.digits.nonempty
    rw [Option.map_some, Option.getD_some, hchars, Token.readExponent]
    simp only [hmark, if_true, hsplit, htake, hdrop, hempty, Bool.false_eq_true, if_false, hminus]
    simp [ExponentLayout.value]

/-- **A number is read whole.** -/
theorem readNumber_layout (n : NumberLayout) :
    Token.readNumber n.negative (n.unsigned ++ rest) = (.number n.numeral, rest) := by
  have hexponent := fun (fraction : List Char) (pointed : Bool) =>
    readExponent_layout h n.negative n.whole.chars fraction pointed n.exponent
  -- an exponent or what follows the number starts with no digit and no point
  have hnext : ∀ c ∈ (n.exponentChars ++ rest).head?, Decimal.isDigit c = false ∧ c ≠ '.' := by
    rw [NumberLayout.exponentChars]
    cases he : n.exponent with
    | none => exact fun c hc => ⟨(h.not_number hc).1, (h.not_number hc).2.1⟩
    | some e =>
      intro c hc
      obtain rfl : e.mark = c := by simpa [ExponentLayout.chars] using hc
      rcases e.isMark with hmark | hmark <;> rw [hmark] <;> decide
  have hempty : n.whole.chars.isEmpty = false := by simpa using n.whole.nonempty
  have hzero : (decide (n.whole.chars.head? = some '0') && decide (1 < n.whole.chars.length)) =
      false := by
    rcases n.noZero with hzero | hzero
    · rw [hzero]
      rfl
    · simp [hzero]
  rw [NumberLayout.unsigned, List.append_assoc, List.append_assoc, NumberLayout.fractionChars]
  cases hfraction : n.fraction with
  | none =>
    obtain ⟨htake, hdrop⟩ := span_digits n.whole fun c hc => (hnext c hc).1
    rw [Option.map_none, Option.getD_none, List.nil_append, Token.readNumber]
    simp only [htake, hdrop, hempty, hzero, Bool.false_eq_true, if_false]
    split
    · rename_i more hmore
      exact absurd rfl (hnext '.' (by rw [hmore]; rfl)).2
    · rw [NumberLayout.exponentChars, hexponent]
      simp [NumberLayout.numeral, hfraction]
  | some f =>
    have hpoint : ∀ c ∈ ('.' :: (f.chars ++ (n.exponentChars ++ rest))).head?,
        Decimal.isDigit c = false := by
      rintro _ ⟨⟩
      decide
    obtain ⟨htake, hdrop⟩ := span_digits n.whole hpoint
    obtain ⟨htake', hdrop'⟩ := span_digits f fun c hc => (hnext c hc).1
    have hempty' : f.chars.isEmpty = false := by simpa using f.nonempty
    rw [Option.map_some, Option.getD_some, List.cons_append, Token.readNumber]
    simp only [htake, hdrop, htake', hdrop', hempty, hempty', hzero, Bool.false_eq_true, if_false]
    rw [NumberLayout.exponentChars, hexponent]
    simp [NumberLayout.numeral, hfraction]

end

/-! ## Literals -/

theorem Literal.read_piece (p : PieceLayout) (rest : List Char) :
    Literal.read (p.chars ++ rest) = Literal.cons p.piece (Literal.read rest) := by
  cases p with
  | plain c hquote hslash hcontrol => exact Literal.read_plain rest hquote hslash hcontrol
  | short letter c h =>
    have hletter : letter ≠ 'u' := by
      rintro rfl
      cases h
    simp only [PieceLayout.chars, List.cons_append, List.nil_append, PieceLayout.piece]
    rw [Literal.read]
    · rw [h]
    all_goals grind
  | unit a b c d n h =>
    simp only [PieceLayout.chars, List.cons_append, List.nil_append, PieceLayout.piece]
    rw [Literal.read, h]

/-- **A literal is read to its closing quotation mark.** -/
theorem Literal.read_layout (pieces : List PieceLayout) (rest : List Char) :
    Literal.read (pieces.flatMap PieceLayout.chars ++ '"' :: rest) =
      (Literal.ofLayout pieces, rest) := by
  induction pieces with
  | nil => rfl
  | cons p pieces ih =>
    rw [List.flatMap_cons, List.append_assoc, Literal.read_piece, ih]
    rfl

/-! ## Tokens -/

theorem tokens_gap (gap : Gap) (cs : List Char) : tokens (gap.chars ++ cs) = tokens cs :=
  tokens_blanks cs gap.isGap

theorem tokens_literalChars (pieces : List PieceLayout) (cs : List Char) :
    tokens (literalChars pieces ++ cs) = .text (Literal.ofLayout pieces) :: tokens cs := by
  rw [literalChars, List.cons_append, List.append_assoc]
  exact tokens_read rfl (read_quote _ (Literal.read_layout pieces cs))

theorem tokens_key (key : KeyLayout) (cs : List Char) :
    tokens (key.chars ++ cs) = .text (Literal.ofLayout key.pieces) :: .colon :: tokens cs := by
  simp only [KeyLayout.chars, List.append_assoc, tokens_gap, tokens_literalChars,
    List.cons_append, List.nil_append, tokens_colon]

/-- A digit starts a number. -/
theorem read_digit {c : Char} (h : Decimal.isDigit c = true) (cs : List Char) :
    isGap c = false ∧ Token.read c cs = Token.readNumber false (c :: cs) := by
  have hne : ∀ {d : Char}, Decimal.isDigit d = false → c ≠ d := by
    rintro d hd rfl
    rw [h] at hd
    cases hd
  have hgap : isGap c = false := by
    simp [isGap, hne (d := ' ') rfl, hne (d := '\t') rfl, hne (d := '\n') rfl, hne (d := '\r') rfl]
  have hpunctuation : Token.ofPunctuation? c = none := by
    unfold Token.ofPunctuation?
    split
    case h_7 => rfl
    all_goals exact absurd rfl (hne rfl)
  have hword : Token.wordOf? c = none := by
    unfold Token.wordOf?
    split
    case h_4 => rfl
    all_goals exact absurd rfl (hne rfl)
  refine ⟨hgap, ?_⟩
  rw [Token.read, hpunctuation, hword]
  simp only [if_neg (hne (d := '"') rfl), if_neg (hne (d := '-') rfl), if_pos h]

theorem tokens_number (n : NumberLayout) {rest : List Char} (h : Follows rest) :
    tokens (n.chars ++ rest) = .number n.numeral :: tokens rest := by
  have hread := readNumber_layout h n
  rw [NumberLayout.chars]
  cases hn : n.negative with
  | true =>
    rw [hn] at hread
    rw [if_pos rfl, List.cons_append]
    exact tokens_read rfl hread
  | false =>
    obtain ⟨c, cs, hcs, hc⟩ := n.whole.exists_cons
    have hunsigned : n.unsigned ++ rest = c :: (n.unsigned ++ rest).tail := by
      rw [NumberLayout.unsigned, hcs]
      rfl
    obtain ⟨hgap, hdigit⟩ := read_digit hc (n.unsigned ++ rest).tail
    rw [hn, hunsigned] at hread
    rw [if_neg Bool.false_ne_true, hunsigned]
    exact tokens_read hgap (hdigit.trans hread)

theorem follows_itemChars (items : List Layout) (rest : List Char) :
    Follows (itemChars items ++ ']' :: rest) := by
  cases items with
  | nil => exact follows_cons (by decide) rest
  | cons item items =>
    rw [itemChars]
    exact follows_cons (by decide) _

theorem follows_memberChars (members : List (KeyLayout × Layout)) (rest : List Char) :
    Follows (memberChars members ++ '\x7d' :: rest) := by
  cases members with
  | nil => exact follows_cons (by decide) rest
  | cons member members =>
    rw [memberChars]
    exact follows_cons (by decide) _

mutual

/-- **The tokens of a layout are those of its document.** -/
theorem tokens_chars : ∀ (w : Layout) {rest : List Char}, Follows rest →
    tokens (w.chars ++ rest) = w.doc.toTokens ++ tokens rest
  | .null, rest, _ => tokens_read rfl rfl
  | .bool true, rest, _ => tokens_read rfl rfl
  | .bool false, rest, _ => tokens_read rfl rfl
  | .number n, rest, h => tokens_number n h
  | .text pieces, rest, _ => tokens_literalChars pieces rest
  | .list gap [], rest, _ => by
    simp [Layout.chars, tokens_gap, Layout.doc, layoutDocs, Doc.toTokens]
  | .list gap (item :: items), rest, _ => by
    have hitem := tokens_chars item (follows_itemChars items rest)
    simp only [Layout.chars, List.cons_append, List.append_assoc, List.nil_append, tokens_openList,
      tokens_gap, hitem, tokens_itemChars items, Layout.doc, layoutDocs, Doc.toTokens]
  | .record gap [], rest, _ => by
    simp [Layout.chars, tokens_gap, Layout.doc, layoutMembers, Doc.toTokens]
  | .record gap ((key, value) :: members), rest, _ => by
    have hvalue := tokens_chars value (follows_memberChars members rest)
    simp only [Layout.chars, List.cons_append, List.append_assoc, List.nil_append,
      tokens_openRecord, tokens_gap, tokens_key, hvalue, tokens_memberChars members, Layout.doc,
      layoutMembers, Doc.toTokens]
  | .gapped before value after, rest, h => by
    rw [Layout.chars, List.append_assoc, List.append_assoc, tokens_gap,
      tokens_chars value (h.gap after), tokens_gap, Layout.doc]

theorem tokens_itemChars : ∀ (items : List Layout) (rest : List Char),
    tokens (itemChars items ++ ']' :: rest) =
      moreItems (layoutDocs items) ++ .closeList :: tokens rest
  | [], rest => by simp [itemChars, layoutDocs, moreItems]
  | item :: items, rest => by
    have hitem := tokens_chars item (follows_itemChars items rest)
    simp only [itemChars, List.cons_append, List.append_assoc, tokens_comma, hitem,
      tokens_itemChars items, layoutDocs, moreItems]

theorem tokens_memberChars : ∀ (members : List (KeyLayout × Layout)) (rest : List Char),
    tokens (memberChars members ++ '\x7d' :: rest) =
      moreMembers (layoutMembers members) ++ .closeRecord :: tokens rest
  | [], rest => by simp [memberChars, layoutMembers, moreMembers]
  | (key, value) :: members, rest => by
    have hvalue := tokens_chars value (follows_memberChars members rest)
    simp only [memberChars, List.cons_append, List.append_assoc, tokens_comma, tokens_key, hvalue,
      tokens_memberChars members, layoutMembers, moreMembers]

end

/-- **Reading the text of a layout** is decoding its document. -/
theorem decodeText_layout {α : Type} (decode : Decoder α) {w : Layout} {s : String}
    (h : s.toList = w.chars) : decodeText decode s = decode w.doc := by
  have htokens := tokens_chars w follows_nil
  rw [List.append_nil, tokens, List.append_nil] at htokens
  rw [decodeText, h, htokens, decodeTokens_toTokens _ (complete_layout w)]

end Concord.Json
