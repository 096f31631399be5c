import Concord.Proofs.Catalog

/-!
# Which modules have no catalog

A type of a module has an address: its place in the list of types, or of the types nested in
another, behind the places of the types that it is nested in. Addresses in lexicographic order are
the depth-first order of the types, with a type before those nested in it. `Module.nameAt?` is the
full name of the type at an address.

A module has no catalog just if two addresses have the same name, and the name that is complained
of is the first one, in the order of addresses, that an earlier address has
(`Catalog.ofModule_eq_error_iff`). The listing that the catalog is made from goes through the
addresses in their order (`sorted_named`, `mem_named_iff`), and the search for a repeated name stops
where the names before it are all different (`firstRepeated?_eq_some_iff`).
-/

set_option autoImplicit false

namespace Concord

/-! ## Addresses -/

/-- The full name of the type at an address in a tree whose root has the given one. -/
def TypeTree.nameAt? (fullName : String) : TypeTree → List Nat → Option String
  | _, [] => some fullName
  | t, i :: address => t.nested[i]?.bind fun u =>
    u.nameAt? (nestedName fullName u.decl.name) address

/-- The full name of the type at an address in a module. -/
def Module.nameAt? (m : Module) : List Nat → Option String
  | [] => none
  | i :: address => m.types[i]?.bind fun t => t.nameAt? t.decl.topLevelName address

/-- The name is that of an address and of an earlier one, and no name repeats before it. -/
def Module.FirstRepeated (m : Module) (name : String) : Prop :=
  ∃ q, m.nameAt? q = some name ∧ (∃ p < q, m.nameAt? p = some name) ∧
    ∀ q' < q, ∀ p < q', ∀ name', m.nameAt? p = some name' → m.nameAt? q' ≠ some name'

/-! ## Listing names under their addresses -/

mutual

/-- The full names of a tree in depth-first order, under their addresses. -/
def TypeTree.named (fullName : String) : TypeTree → List (List Nat × String)
  | .node _ nested => ([], fullName) :: namedFrom (fun d => nestedName fullName d.name) 0 nested

/-- The full names of a list of trees whose roots are named by `naming` and stand at the places
from `first` on. -/
def namedFrom (naming : TypeDecl → String) (first : Nat) : List TypeTree → List (List Nat × String)
  | [] => []
  | .node decl nested :: ts =>
    (TypeTree.named (naming decl) (.node decl nested)).map (fun a => (first :: a.1, a.2)) ++
      namedFrom naming (first + 1) ts

end

mutual

theorem map_snd_named (first : Nat) (declaring : Option TypeNumber) (fullName : String) :
    ∀ t : TypeTree, (t.named fullName).map (·.2) =
      (t.entries first declaring fullName).map (·.fullName)
  | .node decl nested => by
    rw [TypeTree.named, TypeTree.entries, List.map_cons, List.map_cons,
      map_snd_namedFrom 0 (first + 1) ⟨first⟩ fullName nested]

theorem map_snd_namedFrom (place first : Nat) (declaring : TypeNumber) (outer : String) :
    ∀ ts : List TypeTree, (namedFrom (fun d => nestedName outer d.name) place ts).map (·.2) =
      (nestedEntries first declaring outer ts).map (·.fullName)
  | [] => by rw [namedFrom, nestedEntries, List.map_nil, List.map_nil]
  | .node decl nested :: ts => by
    rw [namedFrom, nestedEntries, List.map_append, List.map_append, List.map_map,
      map_snd_namedFrom (place + 1) _ declaring outer ts,
      ← map_snd_named first (some declaring) _ (.node decl nested)]
    rfl

end

theorem map_snd_namedFrom_topLevel (place first : Nat) (ts : List TypeTree) :
    (namedFrom TypeDecl.topLevelName place ts).map (·.2) =
      (forestEntries first ts).map (·.fullName) := by
  induction ts generalizing place first with
  | nil => rw [namedFrom, forestEntries, List.map_nil, List.map_nil]
  | cons t ts ih =>
    obtain ⟨decl, nested⟩ := t
    rw [namedFrom, forestEntries, List.map_append, List.map_append, List.map_map, ih,
      ← map_snd_named first none _ (.node decl nested)]
    rfl

mutual

theorem mem_named_iff {address : List Nat} {name : String} : ∀ {fullName : String} {t : TypeTree},
    (address, name) ∈ t.named fullName ↔ t.nameAt? fullName address = some name
  | fullName, .node decl nested => by
    rw [TypeTree.named, List.mem_cons, mem_namedFrom_iff]
    cases address with
    | nil => simp [TypeTree.nameAt?, eq_comm]
    | cons i address => simp [TypeTree.nameAt?, TypeTree.nested, Option.bind_eq_some_iff]

theorem mem_namedFrom_iff {address : List Nat} {name : String} {naming : TypeDecl → String} :
    ∀ {first : Nat} {ts : List TypeTree}, (address, name) ∈ namedFrom naming first ts ↔
      ∃ i below t, address = (first + i) :: below ∧ ts[i]? = some t ∧
        t.nameAt? (naming t.decl) below = some name
  | first, [] => by simp [namedFrom]
  | first, .node decl nested :: ts => by
    have hrest := @mem_namedFrom_iff address name naming (first + 1) ts
    rw [namedFrom, List.mem_append, hrest, List.mem_map]
    constructor
    · rintro (⟨⟨below, name'⟩, hmem, heq⟩ | ⟨i, below, t, rfl, ht, hname⟩)
      · obtain ⟨rfl, rfl⟩ := Prod.mk.inj heq
        exact ⟨0, below, _, rfl, rfl, mem_named_iff.1 hmem⟩
      · exact ⟨i + 1, below, t, by rw [Nat.add_right_comm, Nat.add_assoc], ht, hname⟩
    · rintro ⟨i, below, t, rfl, ht, hname⟩
      cases i with
      | zero =>
        cases ht
        exact .inl ⟨(below, name), mem_named_iff.2 hname, rfl⟩
      | succ i =>
        exact .inr ⟨i, below, t, by rw [Nat.add_right_comm, Nat.add_assoc], ht, hname⟩

end

theorem mem_namedFrom_types_iff {m : Module} {address : List Nat} {name : String} :
    (address, name) ∈ namedFrom TypeDecl.topLevelName 0 m.types ↔
      m.nameAt? address = some name := by
  rw [mem_namedFrom_iff]
  cases address with
  | nil => simp [Module.nameAt?]
  | cons i address => simp [Module.nameAt?, Option.bind_eq_some_iff]

mutual

/-- **The listing goes through the addresses in their order.** -/
theorem sorted_named : ∀ (fullName : String) (t : TypeTree),
    (t.named fullName).Pairwise (·.1 < ·.1)
  | fullName, .node decl nested => by
    rw [TypeTree.named]
    refine .cons (fun a ha => ?_) (sorted_namedFrom _ _ nested)
    obtain ⟨i, below, -, hbelow, -⟩ := mem_namedFrom_iff.1 ha
    rw [hbelow]
    exact List.nil_lt_cons _ _

theorem sorted_namedFrom : ∀ (naming : TypeDecl → String) (first : Nat) (ts : List TypeTree),
    (namedFrom naming first ts).Pairwise (·.1 < ·.1)
  | naming, first, [] => by
    rw [namedFrom]
    exact .nil
  | naming, first, .node decl nested :: ts => by
    rw [namedFrom]
    refine List.pairwise_append.2 ⟨List.pairwise_map.2 ?_, sorted_namedFrom _ _ ts, ?_⟩
    · exact (sorted_named _ _).imp fun {a b} hab => List.cons_lt_cons_iff.2 (.inr ⟨rfl, hab⟩)
    · -- the next root stands at a later place
      intro a ha b hb
      obtain ⟨a', -, rfl⟩ := List.mem_map.1 ha
      obtain ⟨i, below, -, hbelow, -⟩ := mem_namedFrom_iff.1 hb
      rw [hbelow]
      exact List.cons_lt_cons_iff.2 (.inl (by omega))

end

/-! ## The search for a repeated name -/

/-- The search stops at the first name that was seen or stands before it. -/
theorem firstRepeated?_eq_some_iff {seen names : List String} {name : String} :
    firstRepeated? seen names = some name ↔ ∃ before after, names = before ++ name :: after ∧
      before.Nodup ∧ (∀ s ∈ before, s ∉ seen) ∧ (name ∈ seen ∨ name ∈ before) := by
  induction names generalizing seen with
  | nil => simp [firstRepeated?]
  | cons s rest ih =>
    rw [firstRepeated?]
    by_cases hs : s ∈ seen
    · rw [if_pos (by simpa using hs), Option.some.injEq]
      constructor
      · rintro rfl
        exact ⟨[], rest, rfl, .nil, by simp, .inl hs⟩
      · rintro ⟨before, after, hsplit, -, hunseen, -⟩
        cases before with
        | nil => exact (List.cons.inj hsplit).1
        | cons s' before =>
          obtain rfl := (List.cons.inj hsplit).1
          exact absurd hs (hunseen s List.mem_cons_self)
    · rw [if_neg (by simpa using hs), ih]
      constructor
      · rintro ⟨before, after, rfl, hnodup, hunseen, hrepeats⟩
        refine ⟨s :: before, after, rfl, List.nodup_cons.2 ⟨fun hm => ?_, hnodup⟩, ?_, ?_⟩
        · exact hunseen s hm List.mem_cons_self
        · exact List.forall_mem_cons.2
            ⟨hs, fun u hu hseen => hunseen u hu (List.mem_cons_of_mem _ hseen)⟩
        · simpa [or_assoc, or_left_comm] using hrepeats
      · rintro ⟨before, after, hsplit, hnodup, hunseen, hrepeats⟩
        cases before with
        | nil =>
          obtain ⟨rfl, -⟩ := List.cons.inj hsplit
          exact absurd (hrepeats.resolve_right List.not_mem_nil) hs
        | cons s' before =>
          obtain ⟨rfl, rfl⟩ := List.cons.inj hsplit
          obtain ⟨hfresh, hnodup⟩ := List.nodup_cons.1 hnodup
          refine ⟨before, after, rfl, hnodup, fun u hu hseen => ?_, ?_⟩
          · rcases List.mem_cons.1 hseen with rfl | hseen
            · exact hfresh hu
            · exact hunseen u (List.mem_cons_of_mem _ hu) hseen
          · simpa [or_assoc, or_left_comm] using hrepeats

section
variable {listed : List (List Nat × String)}

/-- In a listing by addresses, what has an earlier address stands before. -/
theorem mem_before_of_lt {before after : List (List Nat × String)} {a b : List Nat × String}
    (hsorted : (before ++ b :: after).Pairwise (·.1 < ·.1)) (ha : a ∈ before ++ b :: after)
    (hlt : a.1 < b.1) : a ∈ before := by
  rcases List.mem_append.1 ha with ha | ha
  · exact ha
  · rcases List.mem_cons.1 ha with rfl | ha
    · exact absurd hlt (List.lt_irrefl _)
    · have hba := (List.pairwise_cons.1 (List.pairwise_append.1 hsorted).2.1).1 a ha
      exact absurd (List.lt_trans hlt hba) (List.lt_irrefl _)

/-- **The search in a listing by addresses** stops at the first address whose name an earlier one
has. -/
theorem firstRepeated?_listed_iff (hsorted : listed.Pairwise (·.1 < ·.1)) {name : String} :
    firstRepeated? [] (listed.map (·.2)) = some name ↔
      ∃ q, (q, name) ∈ listed ∧ (∃ p < q, (p, name) ∈ listed) ∧
        ∀ q' < q, ∀ p < q', ∀ name', (p, name') ∈ listed → (q', name') ∉ listed := by
  rw [firstRepeated?_eq_some_iff]
  constructor
  · rintro ⟨before, after, hsplit, hnodup, -, hrepeats⟩
    obtain ⟨front, back, rfl, rfl, hback⟩ := List.map_eq_append_iff.1 hsplit
    obtain ⟨⟨q, _⟩, back, rfl, rfl, rfl⟩ := List.map_eq_cons_iff.1 hback
    obtain ⟨⟨p, _⟩, hp, rfl⟩ := List.mem_map.1 (hrepeats.resolve_left List.not_mem_nil)
    have hlt := (List.pairwise_append.1 hsorted).2.2 _ hp _ List.mem_cons_self
    refine ⟨q, List.mem_append_right _ List.mem_cons_self, ⟨p, hlt, List.mem_append_left _ hp⟩, ?_⟩
    intro q' hq' p' hp' name' hfirst hsecond
    have hfirst := mem_before_of_lt hsorted hfirst (List.lt_trans hp' hq')
    have hsecond := mem_before_of_lt hsorted hsecond hq'
    have heq := List.inj_on_of_nodup_map hnodup hfirst hsecond rfl
    rw [(Prod.mk.inj heq).1] at hp'
    exact List.lt_irrefl _ hp'
  · rintro ⟨q, hq, ⟨p, hlt, hp⟩, hfirst⟩
    obtain ⟨front, back, rfl⟩ := List.append_of_mem hq
    have hfront := (List.pairwise_append.1 hsorted).2.2
    refine ⟨front.map (·.2), back.map (·.2), by simp, ?_, by simp,
      .inr (List.mem_map_of_mem (mem_before_of_lt hsorted hp hlt))⟩
    refine List.pairwise_map.2 ((List.pairwise_append.1 hsorted).1.imp_of_mem ?_)
    rintro ⟨p', name'⟩ ⟨q', _⟩ hp' hq' hlt' rfl
    exact hfirst q' (hfront _ hq' _ List.mem_cons_self) p' hlt' _ (List.mem_append_left _ hp')
      (List.mem_append_left _ hq')

end

namespace Catalog

theorem firstRepeated?_fullNames_iff {m : Module} {name : String} :
    firstRepeated? [] ((forestEntries 0 m.types).map (·.fullName)) = some name ↔
      m.FirstRepeated name := by
  rw [← map_snd_namedFrom_topLevel 0 0, firstRepeated?_listed_iff (sorted_namedFrom _ _ _)]
  simp only [mem_namedFrom_types_iff, Module.FirstRepeated, ne_eq]

/-- **Duplicates are found exactly.** A module has no catalog just if its types at two addresses
have the same full name. The complaint then names the module and the full name of the first address,
in depth-first order, whose name is that of an earlier one. -/
theorem ofModule_eq_error_iff (m : Module) :
    ((∃ e, ofModule m = .error e) ↔
      ∃ p q name, p ≠ q ∧ m.nameAt? p = some name ∧ m.nameAt? q = some name) ∧
    ∀ e : DuplicateName, ofModule m = .error e ↔
      e.moduleName = m.name ∧ m.FirstRepeated e.fullName := by
  have herror : ∀ e : DuplicateName, ofModule m = .error e ↔
      e.moduleName = m.name ∧ m.FirstRepeated e.fullName := by
    rintro ⟨moduleName, fullName⟩
    rw [← firstRepeated?_fullNames_iff, ofModule_eq]
    cases firstRepeated? [] ((forestEntries 0 m.types).map (·.fullName)) with
    | none => simp
    | some name => simp [eq_comm]
  refine ⟨⟨?_, ?_⟩, herror⟩
  · rintro ⟨e, he⟩
    obtain ⟨-, q, hq, ⟨p, hlt, hp⟩, -⟩ := (herror e).1 he
    exact ⟨p, q, e.fullName, fun heq => List.lt_irrefl q (heq ▸ hlt), hp, hq⟩
  · rintro ⟨p, q, name, hne, hp, hq⟩
    cases hcatalog : ofModule m with
    | error e => exact ⟨e, rfl⟩
    | ok g =>
      -- the names of a catalog are all different
      have hnodup := (ofModule_ok hcatalog).1
      rw [← map_snd_namedFrom_topLevel 0] at hnodup
      have heq := List.inj_on_of_nodup_map hnodup (mem_namedFrom_types_iff.2 hp)
        (mem_namedFrom_types_iff.2 hq) rfl
      exact absurd (Prod.mk.inj heq).1 hne

/-- A type that is not nested can share its full name with a nested one. Types of the same name in
different types do not. -/
example : ofModule { name := "Game.dll", types :=
      [.node { namespaceName := "Ui", name := "Hud" } [.node { name := "Row" } []],
        .node { name := "Menu" } [.node { name := "Row" } []],
        .node { name := "Ui.Hud/Row" } [], .node { name := "Menu" } []] } =
    .error { moduleName := "Game.dll", fullName := "Ui.Hud/Row" } := by
  decide +kernel

end Catalog

end Concord
