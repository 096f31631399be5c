import Concord.Module.Decode
import Concord.Proofs.JsonLayout
import Concord.Proofs.JsonMembers
import Mathlib.Data.List.Forall2

/-!
# Module descriptions decode to what they describe

`Module.DescribedBy depth d m`: the document `d` describes the module. Each record of a description
has one member for each field, in any order and beside any other members; a member may be missing
where the field has its default. Lists and records that belong to the description are nested at most
`depth` deep.

`Module.ofText_describedBy`: the text of a description, in whatever layout, is read as the module.
For each kind of record the members are those that its decoder asks for (`Fields.Given.required`,
`Fields.Given.optional`); the types nested in each other are followed as deep as there is room
(`TypeTree.decode_describedBy`).
-/

set_option autoImplicit false

namespace Concord

open Json

/-! ## Descriptions -/

/-- The literal is closed and spells this text. -/
def LiteralOf (s : String) (l : Literal) : Prop := l.ending = .closed ∧ Spells l.pieces s.toList

/-- The document is this text. -/
def TextOf (s : String) (d : Doc) : Prop := ∃ l, d = .text l ∧ LiteralOf s l

/-- The document is the number that the flags make, written as an integer. -/
def FlagsOf (flags : MethodFlags) (d : Doc) : Prop :=
  ∃ n, d = .number n ∧ n.integral = true ∧ n.negative = false ∧
    digitsValue n.whole = flags.bits.toNat

/-- The document is a list, opened where `depth` levels are left, whose items describe the values
one by one. -/
def ListOf {α : Type} (depth : Nat) (P : Doc → α → Prop) (xs : List α) (d : Doc) : Prop :=
  ∃ items, d = .list items .closed ∧ 0 < depth ∧ List.Forall₂ P items xs

/-- The keys of a record spell the names of these members. -/
def NamedAs (ms : List (Literal × Doc)) (members : List (String × Doc)) : Prop :=
  List.Forall₂ (fun m member => LiteralOf member.1 m.1 ∧ m.2 = member.2) ms members

/-- The document is a record, opened where `depth` levels are left, with these members. -/
def RecordOf (depth : Nat) (members : List (String × Doc)) (d : Doc) : Prop :=
  ∃ ms, d = .record ms .closed ∧ 0 < depth ∧ NamedAs ms members

/-- One member has this name. -/
def Present (members : List (String × Doc)) (name : String) (P : Doc → Prop) : Prop :=
  ∃ d, members.filter (·.1 = name) = [(name, d)] ∧ P d

/-- One member has this name, or none has and the value is the default. -/
def PresentUnless (isDefault : Prop) (members : List (String × Doc)) (name : String)
    (P : Doc → Prop) : Prop :=
  Present members name P ∨ isDefault ∧ members.filter (·.1 = name) = []

/-- A description of a field. -/
def FieldDecl.DescribedBy (depth : Nat) (d : Doc) (f : FieldDecl) : Prop :=
  ∃ ms, RecordOf depth ms d ∧ Present ms "name" (TextOf f.name) ∧
    Present ms "field_type" (TextOf f.type)

/-- A description of a property. -/
def PropertyDecl.DescribedBy (depth : Nat) (d : Doc) (p : PropertyDecl) : Prop :=
  ∃ ms, RecordOf depth ms d ∧ Present ms "name" (TextOf p.name) ∧
    Present ms "property_type" (TextOf p.type)

/-- A description of a parameter. -/
def ParameterDecl.DescribedBy (depth : Nat) (d : Doc) (p : ParameterDecl) : Prop :=
  ∃ ms, RecordOf depth ms d ∧ PresentUnless (p.name = "") ms "name" (TextOf p.name) ∧
    Present ms "parameter_type" (TextOf p.type)

/-- A description of a method. -/
def MethodDecl.DescribedBy (depth : Nat) (d : Doc) (m : MethodDecl) : Prop :=
  ∃ ms, RecordOf depth ms d ∧ Present ms "name" (TextOf m.name) ∧
    Present ms "return_type" (TextOf m.returnType) ∧
    PresentUnless (m.flags = .none) ms "attributes" (FlagsOf m.flags) ∧
    PresentUnless (m.parameters = []) ms "parameters"
      (ListOf (depth - 1) (ParameterDecl.DescribedBy (depth - 2)) m.parameters)

namespace TypeTree

/-- A description of a type, given what descriptions of its nested types are. -/
def Described (nested : Doc → TypeTree → Prop) (depth : Nat) (d : Doc) (t : TypeTree) : Prop :=
  ∃ ms, RecordOf depth ms d ∧ Present ms "name" (TextOf t.decl.name) ∧
    PresentUnless (t.decl.namespaceName = "") ms "namespace" (TextOf t.decl.namespaceName) ∧
    PresentUnless (t.decl.fields = []) ms "fields"
      (ListOf (depth - 1) (FieldDecl.DescribedBy (depth - 2)) t.decl.fields) ∧
    PresentUnless (t.decl.properties = []) ms "properties"
      (ListOf (depth - 1) (PropertyDecl.DescribedBy (depth - 2)) t.decl.properties) ∧
    PresentUnless (t.decl.methods = []) ms "methods"
      (ListOf (depth - 1) (MethodDecl.DescribedBy (depth - 2)) t.decl.methods) ∧
    PresentUnless (t.nested = []) ms "nested_types" (ListOf (depth - 1) nested t.nested)

/-- A description of a type with the types nested in it, as far as there is room for them. -/
def DescribedBy : Nat → Doc → TypeTree → Prop
  | 0 => fun _ _ => False
  | 1 => Described (fun _ _ => False) 1
  | depth + 2 => Described (DescribedBy depth) (depth + 2)

end TypeTree

/-- A description of a module. -/
def Module.DescribedBy (depth : Nat) (d : Doc) (m : Module) : Prop :=
  ∃ ms, RecordOf depth ms d ∧ Present ms "name" (TextOf m.name) ∧
    PresentUnless (m.types = []) ms "types"
      (ListOf (depth - 1) (TypeTree.DescribedBy (depth - 2)) m.types)

/-! ## Reading descriptions -/

theorem text_literalOf {s : String} {l : Literal} (h : LiteralOf s l) : l.text = .ok s := by
  obtain ⟨pieces, ending⟩ := l
  obtain ⟨rfl, hspells⟩ := h
  exact Literal.text_spells hspells

theorem text_textOf {s : String} {d : Doc} (h : TextOf s d) : text d = .ok s := by
  obtain ⟨l, rfl, hl⟩ := h
  exact text_literalOf hl

theorem decode_flagsOf {flags : MethodFlags} {d : Doc} (h : FlagsOf flags d) :
    MethodFlags.decode d = .ok flags := by
  obtain ⟨n, rfl, hintegral, hnegative, hvalue⟩ := h
  have hlt : flags.bits.toNat < 65536 := flags.bits.toNat_lt
  have hnumber : n.value = .ok (.integer flags.bits.toNat) := by
    have hword : flags.bits.toNat < UInt64.size := Nat.lt_trans hlt (by decide)
    simp [Numeral.value, hintegral, hnegative, hvalue, hword]
  have hrange : (flags.bits.toNat : Int) < 65536 := by omega
  simp [MethodFlags.decode, word16, hnumber, hrange, Except.map]

theorem mapM_forall₂ {α : Type} {item : Decoder α} {items : List Doc} {xs : List α}
    (h : List.Forall₂ (fun d x => item d = .ok x) items xs) : items.mapM item = .ok xs := by
  induction h with
  | nil => rfl
  | cons hd _ ih => simp [List.mapM_cons, hd, ih, bind, Except.bind, pure, Except.pure]

theorem list_listOf {α : Type} {P : Doc → α → Prop} {item : Decoder α} {depth : Nat}
    (hitem : ∀ d x, d.Complete → P d x → item d = .ok x) {xs : List α} {d : Doc}
    (hd : d.Complete) (h : ListOf depth P xs d) : list depth item d = .ok xs := by
  obtain ⟨items, rfl, hdepth, hitems⟩ := h
  have hread : items.mapM item = .ok xs := by
    have hboth := (List.forall₂_and_left _ _).2 ⟨complete_of_mem_items hd.2, hitems⟩
    exact mapM_forall₂ (hboth.imp fun d x h => hitem d x h.1 h.2)
  cases depth with
  | zero => cases hdepth
  | succ depth =>
    rw [list, hread]
    rfl

section
variable {ms : List (Literal × Doc)} {members : List (String × Doc)} (h : NamedAs ms members)
include h

theorem NamedAs.keys : ∀ m ∈ ms, ∃ s, m.1.text = .ok s := by
  induction h with
  | nil => simp
  | cons hm _ ih => exact List.forall_mem_cons.2 ⟨⟨_, text_literalOf hm.1⟩, ih⟩

theorem NamedAs.valuesOf (name : String) :
    valuesOf ms name = (members.filter (·.1 = name)).map (·.2) := by
  induction h with
  | nil => rfl
  | @cons m member ms members hm _ ih =>
    obtain ⟨key, d⟩ := m
    obtain ⟨s, _⟩ := member
    obtain ⟨hkey, rfl⟩ := hm
    have htext := text_literalOf hkey
    by_cases hname : s = name
    · subst hname
      rw [valuesOf_cons_self htext, ih]
      simp
    · rw [valuesOf_cons_ne (by rw [htext]; exact fun heq => hname (Except.ok.inj heq)), ih]
      simp [hname]

end

namespace Json.Fields

variable {α β : Type} {ms : List (Literal × Doc)} {members : List (String × Doc)} {name : String}
  {decode : Decoder β} {x : β} {rest : Fields (β → α)} {f : β → α} {P : Doc → Prop}
  (hms : CompleteMembers ms) (hnamed : NamedAs ms members)
  (hread : ∀ d, d.Complete → P d → decode d = .ok x)
include hms hnamed hread

theorem Given.present {default : Option β} (h : Present members name P) (hrest : Given ms rest f) :
    Given ms (.field name decode default none rest) (f x) := by
  obtain ⟨d, hd, hP⟩ := h
  have hvalue : valuesOf ms name = [d] := by rw [hnamed.valuesOf, hd]; rfl
  obtain ⟨key, hm⟩ := exists_mem_of_valuesOf (hvalue ▸ List.mem_singleton_self d)
  exact .found hvalue (hread d (complete_of_mem_members hms _ hm) hP) hrest

theorem Given.required (h : Present members name P) (hrest : Given ms rest f) :
    Given ms (.required name decode rest) (f x) :=
  .present hms hnamed hread h hrest

theorem Given.optional {default : β} (h : PresentUnless (x = default) members name P)
    (hrest : Given ms rest f) : Given ms (.optional name decode default rest) (f x) := by
  rcases h with h | ⟨rfl, hvalue⟩
  · exact .present hms hnamed hread h hrest
  · exact .missing (by rw [hnamed.valuesOf, hvalue]; rfl) hrest

end Json.Fields

open Json.Fields

theorem FieldDecl.decode_describedBy {depth : Nat} {d : Doc} {f : FieldDecl} (hd : d.Complete)
    (h : f.DescribedBy depth d) : FieldDecl.decode depth d = .ok f := by
  obtain ⟨_, ⟨ms, rfl, hdepth, hms⟩, hname, htype⟩ := h
  exact Given.decode (.required hd.2 hms (fun _ _ => text_textOf) hname <|
    .required hd.2 hms (fun _ _ => text_textOf) htype .done) (by simp) hms.keys hd.2 hdepth _

theorem PropertyDecl.decode_describedBy {depth : Nat} {d : Doc} {p : PropertyDecl}
    (hd : d.Complete) (h : p.DescribedBy depth d) : PropertyDecl.decode depth d = .ok p := by
  obtain ⟨_, ⟨ms, rfl, hdepth, hms⟩, hname, htype⟩ := h
  exact Given.decode (.required hd.2 hms (fun _ _ => text_textOf) hname <|
    .required hd.2 hms (fun _ _ => text_textOf) htype .done) (by simp) hms.keys hd.2 hdepth _

theorem ParameterDecl.decode_describedBy {depth : Nat} {d : Doc} {p : ParameterDecl}
    (hd : d.Complete) (h : p.DescribedBy depth d) : ParameterDecl.decode depth d = .ok p := by
  obtain ⟨_, ⟨ms, rfl, hdepth, hms⟩, hname, htype⟩ := h
  exact Given.decode (.optional hd.2 hms (fun _ _ => text_textOf) hname <|
    .required hd.2 hms (fun _ _ => text_textOf) htype .done) (by simp) hms.keys hd.2 hdepth _

theorem MethodDecl.decode_describedBy {depth : Nat} {d : Doc} {m : MethodDecl} (hd : d.Complete)
    (h : m.DescribedBy depth d) : MethodDecl.decode depth d = .ok m := by
  obtain ⟨_, ⟨ms, rfl, hdepth, hms⟩, hname, htype, hflags, hparameters⟩ := h
  exact Given.decode (.required hd.2 hms (fun _ _ => text_textOf) hname <|
    .required hd.2 hms (fun _ _ => text_textOf) htype <|
    .optional hd.2 hms (fun _ _ => decode_flagsOf) hflags <|
    .optional hd.2 hms
      (fun _ => list_listOf fun _ _ => ParameterDecl.decode_describedBy) hparameters .done)
    (by simp) hms.keys hd.2 hdepth _

/-- A type is read if its nested types are read two levels further down. -/
theorem TypeTree.decode_of_described {nested : Doc → TypeTree → Prop} {item : Decoder TypeTree}
    (hitem : ∀ d t, d.Complete → nested d t → item d = .ok t) {depth : Nat} {d : Doc}
    {t : TypeTree} (hd : d.Complete) (h : t.Described nested depth d) :
    (fields depth (list (depth - 1) item)).decode "TypeDef" depth d = .ok t := by
  obtain ⟨decl, ts⟩ := t
  obtain ⟨_, hrecord, hname, hnamespace, hfields, hproperties, hmethods, hnested⟩ := h
  obtain ⟨ms, rfl, hdepth, hms⟩ := hrecord
  exact Given.decode (.optional hd.2 hms (fun _ _ => text_textOf) hnamespace <|
    .required hd.2 hms (fun _ _ => text_textOf) hname <|
    .optional hd.2 hms (fun _ => list_listOf fun _ _ => FieldDecl.decode_describedBy) hfields <|
    .optional hd.2 hms
      (fun _ => list_listOf fun _ _ => PropertyDecl.decode_describedBy) hproperties <|
    .optional hd.2 hms (fun _ => list_listOf fun _ _ => MethodDecl.decode_describedBy) hmethods <|
    .optional hd.2 hms (fun _ => list_listOf hitem) hnested .done) (by simp) hms.keys hd.2 hdepth _

theorem TypeTree.decode_describedBy : ∀ {depth : Nat} {d : Doc} {t : TypeTree}, d.Complete →
    t.DescribedBy depth d → TypeTree.decode depth d = .ok t
  | 0, _, _, _, h => h.elim
  | 1, _, _, hd, h => decode_of_described (fun _ _ _ h => h.elim) hd h
  | _ + 2, _, _, hd, h => decode_of_described (fun _ _ => decode_describedBy) hd h

theorem Module.decode_describedBy {depth : Nat} {d : Doc} {m : Module} (hd : d.Complete)
    (h : m.DescribedBy depth d) : Module.decode depth d = .ok m := by
  obtain ⟨_, ⟨ms, rfl, hdepth, hms⟩, hname, htypes⟩ := h
  exact Given.decode (.required hd.2 hms (fun _ _ => text_textOf) hname <|
    .optional hd.2 hms (fun _ => list_listOf fun _ _ => TypeTree.decode_describedBy) htypes .done)
    (by simp) hms.keys hd.2 hdepth _

/-- **Module descriptions decode to what they describe**, if what is used of them is nested no
deeper than a reader follows. -/
theorem Module.ofText_describedBy {m : Module} {w : Layout} {s : String}
    (hs : s.toList = w.chars) (hm : m.DescribedBy 127 w.doc) : Module.ofText s = .ok m := by
  rw [Module.ofText, decodeText_layout _ hs]
  exact Module.decode_describedBy (complete_layout w) hm

/-! ## A description in a layout of its own -/

def sampleGap (s : String) (h : s.toList.all isGap = true) : Gap :=
  ⟨s.toList, List.all_eq_true.1 h⟩

def sampleDigit (c : Char) (h : Decimal.isDigit c = true) : Digits :=
  ⟨[c], List.cons_ne_nil _ _, by simpa using h⟩

/-- The characters of a text that stand for themselves. -/
def samplePieces (s : String) : List PieceLayout :=
  s.toList.filterMap fun c =>
    if h : c ≠ '"' ∧ c ≠ '\\' ∧ ¬ c < ' ' then some (.plain c h.1 h.2.1 h.2.2) else none

def sampleKey (s : String) : KeyLayout := ⟨sampleGap "" rfl, samplePieces s, sampleGap "" rfl⟩

/-- Members stand in no order, a name is written by its code, and nobody asks for the first member,
whose value holds half of a pair of surrogates. -/
def sampleLayout : Layout :=
  .record (sampleGap " " (by decide))
    [(sampleKey "x", .list (sampleGap "" rfl)
        [.number ⟨true, sampleDigit '1' rfl, .inr (by decide), some (sampleDigit '5' rfl),
            some ⟨'e', .inl rfl, some false, sampleDigit '2' rfl⟩⟩,
          .text [.unit 'd' '8' '0' '0' 0xd800 rfl]]),
      (sampleKey "types", .list (sampleGap "" rfl)
        [.gapped (sampleGap "\n" (by decide)) (.record (sampleGap "" rfl)
          [(sampleKey "name", .text [.unit '0' '0' '5' '4' 0x54 rfl]),
            (sampleKey "methods", .list (sampleGap "" rfl)
              [.record (sampleGap "" rfl)
                [(sampleKey "return_type", .text (samplePieces "V")),
                  (sampleKey "name", .text (samplePieces "M")),
                  (sampleKey "attributes",
                    .number ⟨false, sampleDigit '6' rfl, .inr (by decide), none, none⟩)]])])
          (sampleGap "\t" (by decide))]),
      (sampleKey "name", .text (samplePieces "m"))]

def sampleText : String :=
  "\x7b \"x\":[-1.5e+2,\"\\ud800\"],\"types\":[\n\x7b\"name\":\"\\u0054\",\"methods\":" ++
    "[\x7b\"return_type\":\"V\",\"name\":\"M\",\"attributes\":6\x7d]\x7d\t],\"name\":\"m\"\x7d"

def sampleDescribed : Module where
  name := "m"
  types := [.node { name := "T", methods := [⟨"M", "V", ⟨6⟩, []⟩] } []]

theorem spells_map_char (cs : List Char) : Spells (cs.map .char) cs := by
  induction cs with
  | nil => exact .nil
  | cons c cs ih => exact .char c ih

theorem literalOf_chars {s : String} {l : Literal} (h : l = ⟨s.toList.map .char, .closed⟩) :
    LiteralOf s l := by
  rw [h]
  exact ⟨rfl, spells_map_char _⟩

theorem sampleDescribed_describedBy : sampleDescribed.DescribedBy 127 sampleLayout.doc := by
  refine ⟨[("x", _), ("types", _), ("name", _)], ⟨_, rfl, by decide,
    .cons ⟨literalOf_chars (by decide), rfl⟩ <| .cons ⟨literalOf_chars (by decide), rfl⟩ <|
      .cons ⟨literalOf_chars (by decide), rfl⟩ .nil⟩,
    ⟨_, by simp; rfl, _, rfl, literalOf_chars (by decide)⟩,
    .inl ⟨_, by simp; rfl, _, rfl, by decide, .cons ?_ .nil⟩⟩
  -- the type, whose other members are missing
  refine ⟨[("name", _), ("methods", _)], ⟨_, rfl, by decide,
    .cons ⟨literalOf_chars (by decide), rfl⟩ <| .cons ⟨literalOf_chars (by decide), rfl⟩ .nil⟩,
    ⟨_, by simp; rfl, _, rfl, rfl, .unit 'T' .nil⟩, .inr ⟨rfl, by simp⟩, .inr ⟨rfl, by simp⟩,
    .inr ⟨rfl, by simp⟩, .inl ⟨_, by simp; rfl, _, rfl, by decide, .cons ?_ .nil⟩,
    .inr ⟨rfl, by simp⟩⟩
  -- its method
  exact ⟨[("return_type", _), ("name", _), ("attributes", _)], ⟨_, rfl, by decide,
    .cons ⟨literalOf_chars (by decide), rfl⟩ <| .cons ⟨literalOf_chars (by decide), rfl⟩ <|
      .cons ⟨literalOf_chars (by decide), rfl⟩ .nil⟩,
    ⟨_, by simp; rfl, _, rfl, literalOf_chars (by decide)⟩,
    ⟨_, by simp; rfl, _, rfl, literalOf_chars (by decide)⟩,
    .inl ⟨_, by simp; rfl, _, rfl, rfl, rfl, rfl⟩, .inr ⟨rfl, by simp⟩⟩

theorem Module.ofText_describedBy_sample :
    sampleText.toList = sampleLayout.chars ∧ sampleDescribed.DescribedBy 127 sampleLayout.doc ∧
      Module.ofText sampleText = .ok sampleDescribed := by
  have hchars : sampleText.toList = sampleLayout.chars := by decide +kernel
  exact ⟨hchars, sampleDescribed_describedBy,
    Module.ofText_describedBy hchars sampleDescribed_describedBy⟩

end Concord
