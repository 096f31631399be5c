import Concord.Proofs.JsonText

/-!
# Records in any order

A record is read member by member, in the order of the text, while its fields stand in the order of
their declaration. The two orders are independent: a member concerns the field of its name and no
other (`Fields.members_cons`), and one that concerns no field is passed over, which succeeds for
every complete value (`skip_of_complete`).

`Fields.Given`: a record has one member for each of its fields, or none for a field that has its
default; it may have other members too. `Fields.Given.decode`: such a record is read.
-/

set_option autoImplicit false

namespace Concord.Json

/-! ## Values that are passed over -/

mutual

/-- **A complete value can be passed over.** -/
theorem skip_of_complete : ∀ {d : Doc}, d.Complete → d.skip = .ok ()
  | .absent _, h => by cases h
  | .null, _ | .bool _, _ | .number _, _ => rfl
  | .text l, h => by
    rw [Doc.Complete] at h
    rw [Doc.skip, h]
    rfl
  | .list items ending, h => by
    rw [Doc.Complete] at h
    rw [Doc.skip, skipItems_of_complete h.2, h.1]
    rfl
  | .record members ending, h => by
    rw [Doc.Complete] at h
    rw [Doc.skip, skipMembers_of_complete h.2, h.1]
    rfl

theorem skipItems_of_complete : ∀ {items : List Doc}, CompleteItems items →
    skipItems items = .ok ()
  | [], _ => rfl
  | item :: rest, h => by
    rw [CompleteItems] at h
    rw [skipItems, skip_of_complete h.1]
    exact skipItems_of_complete h.2

theorem skipMembers_of_complete : ∀ {members : List (Literal × Doc)}, CompleteMembers members →
    skipMembers members = .ok ()
  | [], _ => rfl
  | (key, value) :: rest, h => by
    rw [CompleteMembers] at h
    rw [skipMembers, skip_of_complete h.2.1]
    exact skipMembers_of_complete h.2.2

end

theorem complete_of_mem_items {items : List Doc} (h : CompleteItems items) :
    ∀ d ∈ items, d.Complete := by
  induction items with
  | nil => simp
  | cons item rest ih =>
    rw [CompleteItems] at h
    exact List.forall_mem_cons.2 ⟨h.1, ih h.2⟩

theorem complete_of_mem_members {members : List (Literal × Doc)} (h : CompleteMembers members) :
    ∀ m ∈ members, m.2.Complete := by
  induction members with
  | nil => simp
  | cons m rest ih =>
    obtain ⟨key, value⟩ := m
    rw [CompleteMembers] at h
    exact List.forall_mem_cons.2 ⟨h.2.1, ih h.2.2⟩

/-! ## Members and fields -/

/-- The values of the members of this name. -/
def valuesOf (ms : List (Literal × Doc)) (name : String) : List Doc :=
  (ms.filter fun m => m.1.text.toOption = some name).map (·.2)

theorem valuesOf_cons_self {ms : List (Literal × Doc)} {key : Literal} {name : String} {d : Doc}
    (h : key.text = .ok name) : valuesOf ((key, d) :: ms) name = d :: valuesOf ms name := by
  simp [valuesOf, h, Except.toOption]

theorem valuesOf_cons_ne {ms : List (Literal × Doc)} {key : Literal} {name : String} {d : Doc}
    (h : key.text ≠ .ok name) : valuesOf ((key, d) :: ms) name = valuesOf ms name := by
  have hne : key.text.toOption ≠ some name := by
    cases hkey : key.text with
    | error fault => nofun
    | ok s =>
      rintro ⟨⟩
      exact h hkey
  simp [valuesOf, hne]

theorem exists_mem_of_valuesOf {ms : List (Literal × Doc)} {name : String} {d : Doc}
    (h : d ∈ valuesOf ms name) : ∃ key, (key, d) ∈ ms := by
  obtain ⟨⟨key, _⟩, hm, rfl⟩ := List.mem_map.1 h
  exact ⟨key, (List.mem_filter.1 hm).1⟩

namespace Fields

/-- The names of the fields. -/
def names {α : Type} : Fields α → List String
  | done _ => []
  | field name _ _ _ rest => name :: rest.names

@[simp] theorem names_done {α : Type} (value : α) : (done value).names = [] := rfl

@[simp] theorem names_required {α β : Type} (name : String) (decode : Decoder β)
    (rest : Fields (β → α)) : (required name decode rest).names = name :: rest.names := rfl

@[simp] theorem names_optional {α β : Type} (name : String) (decode : Decoder β) (default : β)
    (rest : Fields (β → α)) : (optional name decode default rest).names = name :: rest.names := rfl

theorem supply_of_not_mem {α : Type} {key : String} {fields : Fields α} (h : key ∉ fields.names)
    (d : Doc) : fields.supply key d = .ok none := by
  induction fields with
  | done value => rfl
  | field name decode default found rest ih =>
    rw [names, List.mem_cons, not_or] at h
    simp only [supply, if_neg (Ne.symm h.1), ih h.2]
    rfl

theorem names_supply {α : Type} {key : String} {d : Doc} {fields fields' : Fields α}
    (h : fields.supply key d = .ok (some fields')) : fields'.names = fields.names := by
  induction fields with
  | done value => cases h
  | field name decode default found rest ih =>
    unfold supply at h
    split at h
    · split at h
      · cases h
      · cases hd : decode d with
        | error fault =>
          rw [hd] at h
          cases h
        | ok value =>
          rw [hd] at h
          cases h
          rfl
    · cases hrest : rest.supply key d with
      | error fault =>
        rw [hrest] at h
        cases h
      | ok supplied =>
        rw [hrest] at h
        cases supplied with
        | none => cases h
        | some rest' =>
          cases h
          rw [names, names, ih hrest]

section
variable {α β : Type} {name : String} {decode : Decoder β} {default found found' : Option β}
  {rest : Fields (β → α)} {ms : List (Literal × Doc)}

/-- A member of another name is left to the other fields. -/
theorem members_cons {key : Literal} {d : Doc} (hkey : key.text ≠ .ok name)
    (hms : ∀ rest' : Fields (β → α), rest'.names = rest.names →
      (field name decode default found rest').members ms =
        (rest'.members ms).map (field name decode default found' ·)) :
    (field name decode default found rest).members ((key, d) :: ms) =
      (rest.members ((key, d) :: ms)).map (field name decode default found' ·) := by
  rw [members, members]
  cases htext : key.text with
  | error fault => rfl
  | ok s =>
    have hne : ¬ name = s := fun heq => hkey (heq ▸ htext)
    simp only [supply, if_neg hne]
    cases hsupply : rest.supply s d with
    | error fault => rfl
    | ok supplied =>
      cases supplied with
      | none =>
        simp only [Except.map]
        cases d.skip with
        | error fault => rfl
        | ok _ => exact hms rest rfl
      | some rest' => exact hms rest' (names_supply hsupply)

/-- Members of other names leave a field as it is. -/
theorem members_field (h : valuesOf ms name = []) :
    (field name decode default found rest).members ms =
      (rest.members ms).map (field name decode default found ·) := by
  induction ms generalizing rest with
  | nil => rfl
  | cons m ms ih =>
    obtain ⟨key, d⟩ := m
    have hkey : key.text ≠ .ok name := by
      intro hkey
      rw [valuesOf_cons_self hkey] at h
      cases h
    rw [valuesOf_cons_ne hkey] at h
    exact members_cons hkey fun rest' _ => ih h

/-- The only member of its name gives a field its value, and the other fields pass over it. -/
theorem members_found {d : Doc} {x : β} (h : valuesOf ms name = [d]) (hread : decode d = .ok x)
    (hskip : d.skip = .ok ()) (hname : name ∉ rest.names) :
    (field name decode default none rest).members ms =
      (rest.members ms).map (field name decode default (some x) ·) := by
  induction ms generalizing rest with
  | nil => cases h
  | cons m ms ih =>
    obtain ⟨key, d'⟩ := m
    by_cases hkey : key.text = .ok name
    · rw [valuesOf_cons_self hkey, List.cons.injEq] at h
      obtain ⟨rfl, hms⟩ := h
      rw [members, members]
      simp only [hkey, supply, if_true, hread, Except.map, supply_of_not_mem hname, hskip]
      exact members_field hms
    · rw [valuesOf_cons_ne hkey] at h
      exact members_cons hkey fun rest' hrest' => ih h (hrest' ▸ hname)

/-- A field that has got its value adds it to that of the others. -/
theorem finish_field {x : β} (h : found.or default = some x)
    {rest : Except Fault (Fields (β → α))} :
    (rest.map (field name decode default found ·)).bind finish =
      (rest.bind finish).map fun f => f x := by
  cases rest with
  | error fault => rfl
  | ok rest =>
    cases found with
    | some y =>
      obtain rfl : y = x := by simpa using h
      rfl
    | none =>
      obtain rfl : default = some x := by simpa using h
      rfl

end

/-! ## Records -/

/-- The members give the record its value: one member gives each field its own, or none does and the
field has its default. -/
inductive Given (ms : List (Literal × Doc)) : {α : Type} → Fields α → α → Prop
  | done {α : Type} {value : α} : Given ms (.done value) value
  | found {α β : Type} {name : String} {decode : Decoder β} {default : Option β}
      {rest : Fields (β → α)} {d : Doc} {x : β} {f : β → α} (hvalue : valuesOf ms name = [d])
      (hread : decode d = .ok x) (hrest : Given ms rest f) :
      Given ms (.field name decode default none rest) (f x)
  | missing {α β : Type} {name : String} {decode : Decoder β} {rest : Fields (β → α)} {x : β}
      {f : β → α} (hvalue : valuesOf ms name = []) (hrest : Given ms rest f) :
      Given ms (.field name decode (some x) none rest) (f x)

section
variable {α : Type} {fields : Fields α} {ms : List (Literal × Doc)} {a : α}

theorem members_done {value : α} (hkeys : ∀ m ∈ ms, ∃ s, m.1.text = .ok s)
    (hskip : ∀ m ∈ ms, m.2.skip = .ok ()) : (done value).members ms = .ok (done value) := by
  induction ms with
  | nil => rfl
  | cons m ms ih =>
    obtain ⟨key, d⟩ := m
    obtain ⟨⟨s, hs⟩, hkeys⟩ := List.forall_mem_cons.1 hkeys
    obtain ⟨hd, hskip⟩ := List.forall_mem_cons.1 hskip
    rw [members]
    simp only [hs, supply, hd]
    exact ih hkeys hskip

theorem Given.members (h : Given ms fields a) (hnames : fields.names.Nodup)
    (hkeys : ∀ m ∈ ms, ∃ s, m.1.text = .ok s) (hskip : ∀ m ∈ ms, m.2.skip = .ok ()) :
    (fields.members ms).bind finish = .ok a := by
  induction h with
  | done => rw [members_done hkeys hskip]; rfl
  | @found α β name decode default rest d x f hvalue hread hrest ih =>
    obtain ⟨hname, hnames⟩ := List.nodup_cons.1 hnames
    obtain ⟨key, hm⟩ := exists_mem_of_valuesOf (hvalue ▸ List.mem_singleton_self d)
    rw [members_found hvalue hread (hskip _ hm) hname, finish_field rfl, ih hnames]
    rfl
  | @missing α β name decode rest x f hvalue hrest ih =>
    obtain ⟨-, hnames⟩ := List.nodup_cons.1 hnames
    rw [members_field hvalue, finish_field rfl, ih hnames]
    rfl

/-- **A record is read whatever the order of its members**, and whatever members it has besides. -/
theorem Given.decode (h : Given ms fields a) (hnames : fields.names.Nodup)
    (hkeys : ∀ m ∈ ms, ∃ s, m.1.text = .ok s) (hms : CompleteMembers ms) {depth : Nat}
    (hdepth : 0 < depth) (record : String) :
    fields.decode record depth (.record ms .closed) = .ok a := by
  have hread := h.members hnames hkeys fun m hm =>
    skip_of_complete (complete_of_mem_members hms m hm)
  cases depth with
  | zero => cases hdepth
  | succ depth =>
    rw [Fields.decode]
    cases hmembers : fields.members ms with
    | error fault =>
      rw [hmembers] at hread
      cases hread
    | ok fields' =>
      rw [hmembers] at hread
      exact hread

end

end Fields

end Concord.Json
