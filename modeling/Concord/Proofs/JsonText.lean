import Concord.Json.Decode
import Concord.Json.Pretty

/-!
# Written JSON text is read as what was written

`decodeText_pretty`: a decoder that reads the text of a value is given the document of the value,
`Value.doc`, complete and with nothing behind it. The layers of the reader are followed one by one:

* `Literal.read_escaped`: a string literal is read to its closing quotation mark, and its pieces
  spell the characters that were escaped (`Literal.text_written`).
* `tokens_lines`: the tokens of a written value (`Value.toTokens`) do not depend on its indentation.
* `readDoc_toTokens`: a complete document is read from its tokens (`Doc.toTokens`) under any open
  lists and records; those of `Value.doc` are the tokens of the value (`toTokens_doc`).

`textDepth_pretty`: lists and records are nested in the text as deep as in the value.
-/

set_option autoImplicit false

namespace Concord.Json

/-! ## String literals -/

/-- The piece that a written character is read as. Only control characters without a letter of
their own are written by a code unit. -/
def Piece.ofChar (c : Char) : Piece :=
  if c < ' ' ∧ c ∉ ['\x08', '\x0c', '\n', '\r', '\t'] then .unit c.toNat else .char c

/-- A written literal, as it is read. -/
def Literal.written (s : String) : Literal := ⟨s.toList.map Piece.ofChar, .closed⟩

theorem hexUnit?_hexDigit : ∀ n < 32,
    hexUnit? '0' '0' (hexDigit (n / 16)) (hexDigit (n % 16)) = some n := by
  decide

theorem toNat_lt_of_lt_space {c : Char} (h : c < ' ') : c.toNat < 32 := h

theorem Literal.read_plain {c : Char} (rest : List Char) (hquote : c ≠ '"') (hslash : c ≠ '\\')
    (hc : ¬ c < ' ') : Literal.read (c :: rest) = Literal.cons (.char c) (Literal.read rest) := by
  rw [Literal.read]
  · exact if_neg hc
  all_goals grind

theorem Literal.read_escapeChar (c : Char) (rest : List Char) :
    Literal.read (escapeChar c ++ rest) = Literal.cons (Piece.ofChar c) (Literal.read rest) := by
  unfold escapeChar
  split
  all_goals try rfl
  rename_i hquote hslash hb hf hn hr ht
  by_cases hc : c < ' '
  · have hunit := hexUnit?_hexDigit c.toNat (toNat_lt_of_lt_space hc)
    have hpiece : Piece.ofChar c = .unit c.toNat := by
      refine if_pos ⟨hc, ?_⟩
      simp only [List.mem_cons, List.not_mem_nil, or_false, not_or]
      exact ⟨hb, hf, hn, hr, ht⟩
    simp only [if_pos hc, List.cons_append, List.nil_append, Literal.read, hunit, hpiece]
  · have hpiece : Piece.ofChar c = .char c := if_neg fun h => hc h.1
    rw [if_neg hc, List.singleton_append, Literal.read_plain rest hquote hslash hc, hpiece]

theorem Literal.read_escaped (cs rest : List Char) :
    Literal.read (cs.flatMap escapeChar ++ '"' :: rest) =
      (⟨cs.map Piece.ofChar, .closed⟩, rest) := by
  induction cs with
  | nil => rfl
  | cons c cs ih =>
    rw [List.flatMap_cons, List.append_assoc, Literal.read_escapeChar, ih]
    rfl

/-- The pieces stand for these characters. A code unit stands for the character of its number, and
two of them for a character beyond sixteen bits. -/
inductive Spells : List Piece → List Char → Prop
  | nil : Spells [] []
  | char {ps : List Piece} {cs : List Char} (c : Char) (h : Spells ps cs) :
      Spells (.char c :: ps) (c :: cs)
  | unit {ps : List Piece} {cs : List Char} (c : Char) (h : Spells ps cs) :
      Spells (.unit c.toNat :: ps) (c :: cs)
  | pair {ps : List Piece} {cs : List Char} {high low : Nat} (c : Char)
      (hhigh : 0xd800 ≤ high ∧ high < 0xdc00) (hlow : 0xdc00 ≤ low ∧ low < 0xe000)
      (hc : c.toNat = 0x10000 + 0x400 * (high - 0xd800) + (low - 0xdc00)) (h : Spells ps cs) :
      Spells (.unit high :: .unit low :: ps) (c :: cs)

/-- No character is a surrogate. -/
theorem not_surrogate (c : Char) :
    isLowSurrogate c.toNat = false ∧ isHighSurrogate c.toNat = false := by
  have hvalid : c.toNat.isValidChar := c.valid
  unfold Nat.isValidChar at hvalid
  simp only [isLowSurrogate, isHighSurrogate, Bool.and_eq_false_iff, decide_eq_false_iff_not]
  omega

theorem Spells.decodePieces {ps : List Piece} {cs : List Char} (h : Spells ps cs) :
    decodePieces .closed ps = .ok cs := by
  induction h with
  | nil => rfl
  | char c _ ih => simp [Json.decodePieces, ih, Except.map]
  | unit c _ ih =>
    obtain ⟨hlow, hhigh⟩ := not_surrogate c
    rw [Json.decodePieces.eq_def]
    simp only [hlow, hhigh, Bool.false_eq_true, if_false, ih, Except.map, Char.ofNat_toNat]
  | @pair ps cs high low c hhigh hlow hc _ ih =>
    have hnotLow : isLowSurrogate high = false := by simp [isLowSurrogate]; omega
    have hisHigh : isHighSurrogate high = true := by simp [isHighSurrogate]; omega
    have hisLow : isLowSurrogate low = true := by simp [isLowSurrogate]; omega
    have hpair : surrogatePair high low = c := by
      rw [surrogatePair, show (high - 0xd800) * 0x400 + (low - 0xdc00) + 0x10000 = c.toNat by omega,
        Char.ofNat_toNat]
    rw [Json.decodePieces.eq_def]
    simp only [hnotLow, hisHigh, hisLow, Bool.false_eq_true, if_false, if_true, ih, Except.map,
      hpair]

theorem spells_map_ofChar (cs : List Char) : Spells (cs.map Piece.ofChar) cs := by
  induction cs with
  | nil => exact .nil
  | cons c cs ih =>
    rw [List.map_cons, Piece.ofChar]
    split
    · exact .unit c ih
    · exact .char c ih

/-- **The text of a literal** is what its pieces spell. -/
theorem Literal.text_spells {pieces : List Piece} {s : String} (h : Spells pieces s.toList) :
    Literal.text ⟨pieces, .closed⟩ = .ok s := by
  simp [Literal.text, h.decodePieces, Except.map]

theorem Literal.text_written (s : String) : (Literal.written s).text = .ok s :=
  Literal.text_spells (spells_map_ofChar s.toList)

/-! ## Tokens -/

section
variable (cs : List Char)

theorem tokens_blanks {blanks : List Char} (h : ∀ c ∈ blanks, isGap c = true) :
    tokens (blanks ++ cs) = tokens cs := by
  induction blanks with
  | nil => rfl
  | cons c blanks ih =>
    obtain ⟨hc, hblanks⟩ := List.forall_mem_cons.1 h
    rw [List.cons_append, tokens, if_pos hc, ih hblanks]

theorem tokens_newline (level : Nat) : tokens (newline level ++ cs) = tokens cs := by
  refine tokens_blanks cs (List.forall_mem_cons.2 ⟨by decide, fun c hc => ?_⟩)
  rw [List.eq_of_mem_replicate hc]
  decide

theorem tokens_space : tokens (' ' :: cs) = tokens cs := by rw [tokens, if_pos (by decide)]

variable {cs} in
theorem tokens_read {c : Char} {rest : List Char} {token : Token} (hgap : isGap c = false)
    (h : Token.read c cs = (token, rest)) : tokens (c :: cs) = token :: tokens rest := by
  rw [tokens, if_neg (by simp [hgap]), h]

theorem tokens_punctuation {c : Char} {token : Token} (h : Token.ofPunctuation? c = some token)
    (hgap : isGap c = false) : tokens (c :: cs) = token :: tokens cs :=
  tokens_read hgap (by simp [Token.read, h])

@[simp] theorem tokens_openList : tokens ('[' :: cs) = .openList :: tokens cs :=
  tokens_punctuation cs rfl rfl

@[simp] theorem tokens_closeList : tokens (']' :: cs) = .closeList :: tokens cs :=
  tokens_punctuation cs rfl rfl

@[simp] theorem tokens_openRecord : tokens ('\x7b' :: cs) = .openRecord :: tokens cs :=
  tokens_punctuation cs rfl rfl

@[simp] theorem tokens_closeRecord : tokens ('\x7d' :: cs) = .closeRecord :: tokens cs :=
  tokens_punctuation cs rfl rfl

@[simp] theorem tokens_comma : tokens (',' :: cs) = .comma :: tokens cs :=
  tokens_punctuation cs rfl rfl

@[simp] theorem tokens_colon : tokens (':' :: cs) = .colon :: tokens cs :=
  tokens_punctuation cs rfl rfl

theorem read_quote {l : Literal} {rest : List Char} (h : Literal.read cs = (l, rest)) :
    Token.read '"' cs = (.text l, rest) := by
  simp [Token.read, Token.ofPunctuation?, Token.wordOf?, h]

theorem tokens_literal (s : String) :
    tokens (literal s ++ cs) = .text (Literal.written s) :: tokens cs := by
  simp only [literal, List.cons_append, List.append_assoc, List.nil_append]
  exact tokens_read rfl (read_quote _ (Literal.read_escaped s.toList cs))

end

mutual

/-- The tokens of a written value. -/
def Value.toTokens : Value → List Token
  | .text s => [.text (Literal.written s)]
  | .list [] => [.openList, .closeList]
  | .list (item :: rest) => .openList :: item.toTokens ++ (itemTokens rest ++ [.closeList])
  | .record [] => [.openRecord, .closeRecord]
  | .record ((key, value) :: rest) =>
    .openRecord :: .text (Literal.written key) :: .colon :: value.toTokens ++
      (memberTokens rest ++ [.closeRecord])

def itemTokens : List Value → List Token
  | [] => []
  | item :: rest => .comma :: item.toTokens ++ itemTokens rest

def memberTokens : List (String × Value) → List Token
  | [] => []
  | (key, value) :: rest =>
    .comma :: .text (Literal.written key) :: .colon :: value.toTokens ++ memberTokens rest

end

mutual

theorem tokens_lines (level : Nat) (cs : List Char) : ∀ v : Value,
    tokens (v.lines level ++ cs) = v.toTokens ++ tokens cs
  | .text s => by
    rw [Value.lines, tokens_literal]
    rfl
  | .list [] => by simp [Value.lines, Value.toTokens]
  | .list (item :: rest) => by
    simp only [Value.lines, Value.toTokens, List.cons_append, List.append_assoc, tokens_openList,
      tokens_newline, tokens_lines, tokens_itemLines, tokens_closeList, List.nil_append]
  | .record [] => by simp [Value.lines, Value.toTokens]
  | .record ((key, value) :: rest) => by
    simp only [Value.lines, Value.toTokens, List.cons_append, List.append_assoc,
      tokens_openRecord, tokens_newline, tokens_literal, tokens_colon, tokens_space, tokens_lines,
      tokens_memberLines, tokens_closeRecord, List.nil_append]

theorem tokens_itemLines (level : Nat) (cs : List Char) : ∀ items : List Value,
    tokens (itemLines level items ++ cs) = itemTokens items ++ tokens cs
  | [] => rfl
  | item :: rest => by
    simp only [itemLines, itemTokens, List.cons_append, List.append_assoc, tokens_comma,
      tokens_newline, tokens_lines, tokens_itemLines]

theorem tokens_memberLines (level : Nat) (cs : List Char) : ∀ members : List (String × Value),
    tokens (memberLines level members ++ cs) = memberTokens members ++ tokens cs
  | [] => rfl
  | (key, value) :: rest => by
    simp only [memberLines, memberTokens, List.cons_append, List.append_assoc, tokens_comma,
      tokens_newline, tokens_literal, tokens_colon, tokens_space, tokens_lines,
      tokens_memberLines, List.nil_append]

end

/-! ## Documents -/

mutual

/-- The tokens that a document is read from. -/
def Doc.toTokens : Doc → List Token
  | .absent _ => []
  | .null => [.null]
  | .bool b => [.bool b]
  | .number n => [.number n]
  | .text l => [.text l]
  | .list [] _ => [.openList, .closeList]
  | .list (item :: rest) _ => .openList :: item.toTokens ++ (moreItems rest ++ [.closeList])
  | .record [] _ => [.openRecord, .closeRecord]
  | .record ((key, value) :: rest) _ =>
    .openRecord :: .text key :: .colon :: value.toTokens ++ (moreMembers rest ++ [.closeRecord])

def moreItems : List Doc → List Token
  | [] => []
  | item :: rest => .comma :: item.toTokens ++ moreItems rest

def moreMembers : List (Literal × Doc) → List Token
  | [] => []
  | (key, value) :: rest => .comma :: .text key :: .colon :: value.toTokens ++ moreMembers rest

end

mutual

/-- The reader did not get stuck anywhere in the document. -/
def Doc.Complete : Doc → Prop
  | .absent _ => False
  | .null | .bool _ | .number _ => True
  | .text l => l.ending = .closed
  | .list items ending => ending = .closed ∧ CompleteItems items
  | .record members ending => ending = .closed ∧ CompleteMembers members

def CompleteItems : List Doc → Prop
  | [] => True
  | item :: rest => item.Complete ∧ CompleteItems rest

def CompleteMembers : List (Literal × Doc) → Prop
  | [] => True
  | (key, value) :: rest => key.ending = .closed ∧ value.Complete ∧ CompleteMembers rest

end

/-- An item is read like a value under the open list. -/
theorem readDoc_item (items : List Doc) (afterComma : Bool) (frames : List Frame) {d : Doc}
    (h : d.Complete) (ts : List Token) :
    readDoc (.item items afterComma) frames (d.toTokens ++ ts) =
      readDoc .value (.list items :: frames) (d.toTokens ++ ts) := by
  match d with
  | .absent _ => cases h
  | .null | .bool _ | .number _ | .text _ => rfl
  | .list [] _ | .list (_ :: _) _ | .record [] _ | .record (_ :: _) _ => rfl

theorem readDoc_key (members : List (Literal × Doc)) (afterComma : Bool) (frames : List Frame)
    {key : Literal} (h : key.ending = .closed) (ts : List Token) :
    readDoc (.key members afterComma) frames (.text key :: .colon :: ts) =
      readDoc .value (.record members key :: frames) ts := by
  cases afterComma <;> simp [readDoc, Mode.step, h]

mutual

/-- **A complete document is read from its tokens**, whatever lists and records are open around
it. -/
theorem readDoc_toTokens (frames : List Frame) (ts : List Token) : ∀ {d : Doc}, d.Complete →
    readDoc .value frames (d.toTokens ++ ts) = readDoc (.after d) frames ts
  | .absent _, h => by cases h
  | .null, _ | .bool _, _ | .number _, _ => rfl
  | .text l, h => by
    rw [Doc.Complete] at h
    simp [Doc.toTokens, readDoc, Mode.step, startValue, h]
  | .list [] ending, h => by
    rw [Doc.Complete] at h
    rw [h.1]
    rfl
  | .list (item :: rest) ending, h => by
    rw [Doc.Complete, CompleteItems] at h
    have hopen : ∀ ts, readDoc .value frames (.openList :: ts) =
      readDoc (.item [] false) frames ts := fun _ => rfl
    simp only [Doc.toTokens, List.cons_append, List.append_assoc, hopen]
    rw [readDoc_item _ _ _ h.2.1, readDoc_toTokens _ _ h.2.1, List.nil_append,
      readDoc_moreItems _ _ _ _ h.2.2, h.1]
    rfl
  | .record [] ending, h => by
    rw [Doc.Complete] at h
    rw [h.1]
    rfl
  | .record ((key, value) :: rest) ending, h => by
    rw [Doc.Complete, CompleteMembers] at h
    have hopen : ∀ ts, readDoc .value frames (.openRecord :: ts) =
      readDoc (.key [] false) frames ts := fun _ => rfl
    simp only [Doc.toTokens, List.cons_append, List.append_assoc, hopen]
    rw [readDoc_key _ _ _ h.2.1, readDoc_toTokens _ _ h.2.2.1, List.nil_append,
      readDoc_moreMembers _ _ _ _ _ h.2.2.2, h.1]
    rfl

theorem readDoc_moreItems (frames : List Frame) (ts : List Token) (items : List Doc) (d : Doc) :
    ∀ {rest : List Doc}, CompleteItems rest →
      readDoc (.after d) (.list items :: frames) (moreItems rest ++ .closeList :: ts) =
        readDoc (.after (.list (items.reverse ++ d :: rest) .closed)) frames ts
  | [], _ => by
    rw [← List.reverse_cons]
    rfl
  | item :: rest, h => by
    rw [CompleteItems] at h
    have hcomma : ∀ ts, readDoc (.after d) (.list items :: frames) (.comma :: ts) =
      readDoc (.item (d :: items) true) frames ts := fun _ => rfl
    simp only [moreItems, List.cons_append, List.append_assoc, hcomma]
    rw [readDoc_item _ _ _ h.1, readDoc_toTokens _ _ h.1, readDoc_moreItems _ _ _ _ h.2]
    simp

theorem readDoc_moreMembers (frames : List Frame) (ts : List Token)
    (members : List (Literal × Doc)) (key : Literal) (d : Doc) :
    ∀ {rest : List (Literal × Doc)}, CompleteMembers rest →
      readDoc (.after d) (.record members key :: frames) (moreMembers rest ++ .closeRecord :: ts) =
        readDoc (.after (.record (members.reverse ++ (key, d) :: rest) .closed)) frames ts
  | [], _ => by
    rw [← List.reverse_cons]
    rfl
  | (key', value) :: rest, h => by
    rw [CompleteMembers] at h
    have hcomma : ∀ ts, readDoc (.after d) (.record members key :: frames) (.comma :: ts) =
      readDoc (.key ((key, d) :: members) true) frames ts := fun _ => rfl
    simp only [moreMembers, List.cons_append, List.append_assoc, hcomma]
    rw [readDoc_key _ _ _ h.1, readDoc_toTokens _ _ h.2.1, readDoc_moreMembers _ _ _ _ _ h.2.2]
    simp

end

/-- **Reading the tokens of a complete document** is decoding it. -/
theorem decodeTokens_toTokens {α : Type} (decode : Decoder α) {d : Doc} (h : d.Complete) :
    decodeTokens decode d.toTokens = decode d := by
  have hdoc : Doc.ofTokens d.toTokens = (d, []) := by
    rw [Doc.ofTokens, ← List.append_nil d.toTokens, readDoc_toTokens _ _ h]
    rfl
  simp only [decodeTokens, hdoc]
  cases decode d <;> rfl

/-! ## Documents of values -/

mutual

/-- The document of a value. -/
def Value.doc : Value → Doc
  | .text s => .text (Literal.written s)
  | .list items => .list (docs items) .closed
  | .record members => .record (memberDocs members) .closed

def docs : List Value → List Doc
  | [] => []
  | item :: rest => item.doc :: docs rest

def memberDocs : List (String × Value) → List (Literal × Doc)
  | [] => []
  | (key, value) :: rest => (Literal.written key, value.doc) :: memberDocs rest

end

mutual

theorem complete_doc : ∀ v : Value, v.doc.Complete
  | .text _ => rfl
  | .list items => ⟨rfl, completeItems_docs items⟩
  | .record members => ⟨rfl, completeMembers_memberDocs members⟩

theorem completeItems_docs : ∀ items : List Value, CompleteItems (docs items)
  | [] => trivial
  | item :: rest => ⟨complete_doc item, completeItems_docs rest⟩

theorem completeMembers_memberDocs :
    ∀ members : List (String × Value), CompleteMembers (memberDocs members)
  | [] => trivial
  | (_, value) :: rest => ⟨rfl, complete_doc value, completeMembers_memberDocs rest⟩

end

mutual

theorem toTokens_doc : ∀ v : Value, v.doc.toTokens = v.toTokens
  | .text _ => rfl
  | .list [] => rfl
  | .list (item :: rest) => by
    rw [Value.doc, docs, Doc.toTokens, Value.toTokens, toTokens_doc item, moreItems_docs rest]
  | .record [] => rfl
  | .record ((key, value) :: rest) => by
    rw [Value.doc, memberDocs, Doc.toTokens, Value.toTokens, toTokens_doc value,
      moreMembers_memberDocs rest]

theorem moreItems_docs : ∀ items : List Value, moreItems (docs items) = itemTokens items
  | [] => rfl
  | item :: rest => by
    rw [docs, moreItems, itemTokens, toTokens_doc item, moreItems_docs rest]

theorem moreMembers_memberDocs :
    ∀ members : List (String × Value), moreMembers (memberDocs members) = memberTokens members
  | [] => rfl
  | (key, value) :: rest => by
    rw [memberDocs, moreMembers, memberTokens, toTokens_doc value, moreMembers_memberDocs rest]

end

/-- The tokens of a value written on lines of its own. -/
theorem tokens_pretty (v : Value) : tokens (v.pretty ++ "\n").toList = v.toTokens := by
  have hend : tokens ['\n'] = [] := by simpa [newline, tokens] using tokens_newline [] 0
  rw [Value.pretty, String.toList_append, String.toList_ofList]
  exact (tokens_lines 0 ['\n'] v).trans (by rw [hend, List.append_nil])

/-- **Reading a written value** is decoding its document. -/
theorem decodeText_pretty {α : Type} (decode : Decoder α) (v : Value) :
    decodeText decode (v.pretty ++ "\n") = decode v.doc := by
  rw [decodeText, tokens_pretty, ← toTokens_doc, decodeTokens_toTokens _ (complete_doc v)]

/-! ## Depth -/

/-- How deep lists and records are nested in tokens, inside `level` open ones. -/
def tokenDepth (level : Nat) : List Token → Nat
  | [] => level
  | .openList :: ts | .openRecord :: ts => tokenDepth (level + 1) ts
  | .closeList :: ts | .closeRecord :: ts => max level (tokenDepth (level - 1) ts)
  | _ :: ts => tokenDepth level ts

/-- How deep lists and records are nested in a text. -/
def textDepth (s : String) : Nat := tokenDepth 0 (tokens s.toList)

mutual

/-- How deep lists and records are nested in a value. -/
def Value.depth : Value → Nat
  | .text _ => 0
  | .list items => itemsDepth items + 1
  | .record members => membersDepth members + 1

def itemsDepth : List Value → Nat
  | [] => 0
  | item :: rest => max item.depth (itemsDepth rest)

def membersDepth : List (String × Value) → Nat
  | [] => 0
  | (_, value) :: rest => max value.depth (membersDepth rest)

end

theorem le_tokenDepth (level : Nat) (ts : List Token) : level ≤ tokenDepth level ts := by
  fun_induction tokenDepth level ts <;> omega

mutual

theorem tokenDepth_toTokens (level : Nat) (ts : List Token) : ∀ v : Value,
    tokenDepth level (v.toTokens ++ ts) = max (level + v.depth) (tokenDepth level ts)
  | .text s => by
    have := le_tokenDepth level ts
    simp only [Value.toTokens, Value.depth, List.singleton_append, tokenDepth]
    omega
  | .list [] => by simp [Value.toTokens, Value.depth, itemsDepth, tokenDepth]
  | .list (item :: rest) => by
    simp only [Value.toTokens, Value.depth, itemsDepth, List.cons_append, List.append_assoc,
      tokenDepth, tokenDepth_toTokens, tokenDepth_itemTokens, List.nil_append,
      Nat.add_sub_cancel]
    omega
  | .record [] => by simp [Value.toTokens, Value.depth, membersDepth, tokenDepth]
  | .record ((key, value) :: rest) => by
    simp only [Value.toTokens, Value.depth, membersDepth, List.cons_append, List.append_assoc,
      tokenDepth, tokenDepth_toTokens, tokenDepth_memberTokens, List.nil_append,
      Nat.add_sub_cancel]
    omega

theorem tokenDepth_itemTokens (level : Nat) (ts : List Token) : ∀ items : List Value,
    tokenDepth level (itemTokens items ++ ts) = max (level + itemsDepth items) (tokenDepth level ts)
  | [] => by
    have := le_tokenDepth level ts
    simp only [itemTokens, itemsDepth, List.nil_append]
    omega
  | item :: rest => by
    simp only [itemTokens, itemsDepth, List.cons_append, List.append_assoc, tokenDepth,
      tokenDepth_toTokens, tokenDepth_itemTokens]
    omega

theorem tokenDepth_memberTokens (level : Nat) (ts : List Token) :
    ∀ members : List (String × Value), tokenDepth level (memberTokens members ++ ts) =
      max (level + membersDepth members) (tokenDepth level ts)
  | [] => by
    have := le_tokenDepth level ts
    simp only [memberTokens, membersDepth, List.nil_append]
    omega
  | (key, value) :: rest => by
    simp only [memberTokens, membersDepth, List.cons_append, List.append_assoc, tokenDepth,
      tokenDepth_toTokens, tokenDepth_memberTokens]
    omega

end

theorem textDepth_pretty (v : Value) : textDepth (v.pretty ++ "\n") = v.depth := by
  have h := tokenDepth_toTokens 0 [] v
  rw [List.append_nil] at h
  rw [textDepth, tokens_pretty, h, tokenDepth]
  omega

end Concord.Json
