import Concord.Convention

/-!
# Which convention decides, and tables that grow

Types and members are looked up in a table by two searches of their own. Both pass over a convention
whose pattern does not match the name, or whose group takes no part in the match or takes part with
nothing (`Convention.Overlooks`), and both stop at the first convention that finds a host
(`Conventions.DecidedBy`). So they succeed on the same names, and differ by the suffix of that
convention only.

Additions go behind what a table holds. A table with additions is the table followed by a table of
the additions alone (`Conventions.extended_eq`), and a table followed by another one answers as the
first does wherever it answers at all (`hostOf?_append`, `typeNameOf?_append`,
`fixedField?_append`). So nothing that was recognized is recognized differently later
(`Conventions.recognition_agrees`).
-/

set_option autoImplicit false

namespace Concord

/-! ## One convention -/

namespace Convention

/-- The pattern matches the name, and its group takes part with the host. -/
structure Finds (r : Convention) (name host : String) : Prop where
  captured : r.pattern.captured? 1 name.toList = some host.toList
  ne_empty : host ≠ ""

/-- The pattern does not match the name, or its group takes no part or takes part with nothing. -/
def Overlooks (r : Convention) (name : String) : Prop :=
  ∀ cs, r.pattern.captured? 1 name.toList = some cs → cs = []

theorem host?_eq_some_iff {r : Convention} {name host : String} :
    r.host? name = some host ↔ r.Finds name host := by
  rw [host?]
  split
  case h_1 hnone => exact ⟨nofun, fun h => nomatch hnone.symm.trans h.captured⟩
  case h_2 hempty =>
    refine ⟨nofun, fun h => absurd ?_ h.ne_empty⟩
    simpa using hempty.symm.trans h.captured
  case h_3 cs hne hsome =>
    refine ⟨fun h => ?_, fun h => ?_⟩
    · obtain rfl : String.ofList cs = host := Option.some.inj h
      exact ⟨by rw [hsome, String.toList_ofList], by simpa using hne⟩
    · obtain rfl : cs = host.toList := Option.some.inj (hsome.symm.trans h.captured)
      rw [String.ofList_toList]

theorem host?_eq_none_iff {r : Convention} {name : String} :
    r.host? name = none ↔ r.Overlooks name := by
  rw [host?]
  split
  case h_1 hnone => exact ⟨fun _ cs h => (nomatch hnone.symm.trans h), fun _ => rfl⟩
  case h_2 hempty => exact ⟨fun _ cs h => Option.some.inj (h.symm.trans hempty), fun _ => rfl⟩
  case h_3 cs hne hsome =>
    refine ⟨nofun, fun h => ?_⟩
    exact absurd (h cs hsome) hne

end Convention

namespace Conventions

/-! ## The convention that decides -/

/-- The first convention of the table that finds a host finds this one. -/
def DecidedBy (t : Conventions) (name : String) (r : Convention) (host : String) : Prop :=
  ∃ before after, t.rules = before ++ r :: after ∧ r.Finds name host ∧
    ∀ q ∈ before, q.Overlooks name

variable {t u : Conventions} {name host : String}

theorem hostOf?_eq_some_iff : t.hostOf? name = some host ↔ ∃ r, t.DecidedBy name r host := by
  rw [hostOf?, List.findSome?_eq_some_iff]
  simp only [Convention.host?_eq_some_iff, Convention.host?_eq_none_iff]
  constructor
  · rintro ⟨before, r, after, h⟩
    exact ⟨r, before, after, h⟩
  · rintro ⟨r, before, after, h⟩
    exact ⟨before, r, after, h⟩

/-- The search for types stops at the same convention as that for members. -/
theorem DecidedBy.typeNameOf? {r : Convention} (h : t.DecidedBy name r host) :
    t.typeNameOf? name = some (host ++ r.typeSuffix) := by
  obtain ⟨before, after, hrules, hfinds, hbefore⟩ := h
  refine List.findSome?_eq_some_iff.2 ⟨before, r, after, hrules, ?_, fun q hq => ?_⟩
  · rw [Convention.host?_eq_some_iff.2 hfinds, Option.map_some]
  · rw [Convention.host?_eq_none_iff.2 (hbefore q hq), Option.map_none]

theorem typeNameOf?_eq_none_iff : t.typeNameOf? name = none ↔ t.hostOf? name = none := by
  simp only [Conventions.typeNameOf?, hostOf?, List.findSome?_eq_none_iff, Option.map_eq_none_iff]

/-! ## Tables that grow -/

/-- What can be added to a table. -/
inductive Addition
  | rule (r : Convention)
  | fixedField (generated recovered : String)

/-- The table with one more convention or fixed field. -/
def extend (t : Conventions) : Addition → Conventions
  | .rule r => t.add r
  | .fixedField generated recovered => t.addFixedField generated recovered

/-- The table after additions, one after another. -/
def extended (t : Conventions) (additions : List Addition) : Conventions :=
  additions.foldl extend t

/-- A table followed by another one. -/
instance : Append Conventions where
  append t u := { rules := t.rules ++ u.rules, fixedFields := t.fixedFields ++ u.fixedFields }

theorem append_empty (t : Conventions) : t ++ empty = t := by
  show ({ rules := t.rules ++ [], fixedFields := t.fixedFields ++ [] } : Conventions) = t
  rw [List.append_nil, List.append_nil]

theorem hostOf?_append : (t ++ u).hostOf? name = (t.hostOf? name).or (u.hostOf? name) :=
  List.findSome?_append

theorem typeNameOf?_append :
    (t ++ u).typeNameOf? name = (t.typeNameOf? name).or (u.typeNameOf? name) :=
  List.findSome?_append

theorem fixedField?_append :
    (t ++ u).fixedField? name = (t.fixedField? name).or (u.fixedField? name) := by
  show ((t.fixedFields ++ u.fixedFields).find? _).map _ = _
  rw [List.find?_append, Option.map_or]
  rfl

/-- One addition goes behind all that the table holds. -/
theorem append_extend (t u : Conventions) (a : Addition) :
    (t ++ u).extend a = t ++ u.extend a := by
  cases a with
  | rule r =>
    show ({ rules := t.rules ++ u.rules ++ [r], fixedFields := _ } : Conventions) = _
    rw [List.append_assoc]
    rfl
  | fixedField generated recovered =>
    show ({ rules := _, fixedFields := t.fixedFields ++ u.fixedFields ++ [_] } : Conventions) = _
    rw [List.append_assoc]
    rfl

theorem append_extended (t u : Conventions) (additions : List Addition) :
    (t ++ u).extended additions = t ++ u.extended additions := by
  induction additions generalizing u with
  | nil => rfl
  | cons a additions ih =>
    show ((t ++ u).extend a).extended additions = _
    rw [append_extend, ih]
    rfl

/-- **A table with additions** is the table followed by that of the additions alone. -/
theorem extended_eq (t : Conventions) (additions : List Addition) :
    t.extended additions = t ++ empty.extended additions := by
  rw [← append_extended, append_empty]

/-- **Types and members are recognized alike**: by the first convention that finds a host, which
gives the name of a member, and with its suffix that of a type. Whatever is added to a table, the
names that it recognized and its fixed fields keep their answers. -/
theorem recognition_agrees (t : Conventions) (name : String) :
    ((t.typeNameOf? name).isSome ↔ (t.hostOf? name).isSome) ∧
    (∀ host, t.hostOf? name = some host ↔ ∃ r, t.DecidedBy name r host) ∧
    (∀ host r, t.DecidedBy name r host →
      t.typeNameOf? name = some (host ++ r.typeSuffix)) ∧
    ∀ additions : List Addition,
      (∀ recovered, t.typeNameOf? name = some recovered →
        (t.extended additions).typeNameOf? name = some recovered) ∧
      (∀ host, t.hostOf? name = some host →
        (t.extended additions).hostOf? name = some host) ∧
      ∀ recovered, t.fixedField? name = some recovered →
        (t.extended additions).fixedField? name = some recovered := by
  refine ⟨?_, fun host => hostOf?_eq_some_iff, fun host r h => h.typeNameOf?, fun additions => ?_⟩
  · rw [Option.isSome_iff_ne_none, Option.isSome_iff_ne_none, Ne, Ne, typeNameOf?_eq_none_iff]
  · rw [extended_eq t additions]
    refine ⟨fun recovered h => ?_, fun host h => ?_, fun recovered h => ?_⟩
    · rw [typeNameOf?_append, h, Option.some_or]
    · rw [hostOf?_append, h, Option.some_or]
    · rw [fixedField?_append, h, Option.some_or]

/-- Of the conventions `(a)|b`, `()b`, `(b)` and `([b])` the first two match `b`, one without its
group and one with nothing in it. The last is added later, as is a second answer for a field. -/
theorem recognition_agrees_sample :
    let absent : Convention := ⟨"absent", .alt (.group 1 (.text ['a'])) (.text ['b']), "1"⟩
    let nothing : Convention := ⟨"nothing", .seq (.group 1 .empty) (.text ['b']), "2"⟩
    let whole : Convention := ⟨"whole", .group 1 (.text ['b']), "3"⟩
    let later : Convention := ⟨"later", .group 1 (.chars (Text.Ranges.single 'b')), "4"⟩
    let t : Conventions := { rules := [absent, nothing, whole], fixedFields := [("f", "first")] }
    let additions : List Addition := [.rule later, .fixedField "f" "second"]
    let t' := t.extended additions
    absent.pattern.captured? 1 ['b'] = none ∧ nothing.pattern.captured? 1 ['b'] = some [] ∧
      t.DecidedBy "b" whole "b" ∧ t.hostOf? "b" = some "b" ∧ t.typeNameOf? "b" = some "b3" ∧
      t'.hostOf? "b" = some "b" ∧ t'.typeNameOf? "b" = some "b3" ∧
      t'.fixedField? "f" = some "first" := by
  intro absent nothing whole later t additions t'
  have habsent : absent.pattern.captured? 1 ['b'] = none := by decide +kernel
  have hnothing : nothing.pattern.captured? 1 ['b'] = some [] := by decide +kernel
  have hwhole : whole.pattern.captured? 1 ['b'] = some ['b'] := by decide +kernel
  have hdecided : t.DecidedBy "b" whole "b" := by
    refine ⟨[absent, nothing], [], rfl, ⟨hwhole, by decide⟩, ?_⟩
    simp only [List.forall_mem_cons]
    exact ⟨fun cs h => (nomatch habsent.symm.trans h),
      fun cs h => Option.some.inj (h.symm.trans hnothing), nofun⟩
  have hhost := ((recognition_agrees t "b").2.1 "b").2 ⟨whole, hdecided⟩
  have htype := (recognition_agrees t "b").2.2.1 "b" whole hdecided
  obtain ⟨htypes, hhosts, -⟩ := (recognition_agrees t "b").2.2.2 additions
  obtain ⟨-, -, hfields⟩ := (recognition_agrees t "f").2.2.2 additions
  exact ⟨habsent, hnothing, hdecided, hhost, htype, hhosts _ hhost, htypes _ htype,
    hfields _ (by decide)⟩

end Conventions

end Concord
