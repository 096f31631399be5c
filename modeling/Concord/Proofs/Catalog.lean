import Concord.Proofs.Listing

/-!
# Catalogs are faithful listings

`Catalog.Sound g`: entries stand under their own numbers, full names are unique and lead to them,
and the numbers of nested types and of declaring types are inverse to each other and grow with the
depth. Every catalog of a module is sound (`Catalog.sound_of_ofModule`).

The entries of a module are told by a recursion over trees that hands down the number of the first
one (`Catalog.ofModule_eq`). What it guarantees of a part of them is
`Block first declaring heads es`: the entries `es` are numbered from `first` on, those of `heads`
are declared by `declaring`, and every other one by an entry of the part. Blocks are put together as
the recursion puts lists together (`Block.append`, `Block.node`), so one induction over the trees
(`tree_block`, `nested_block`) gives `Sound`.
-/

set_option autoImplicit false

namespace Concord

/-! ## Blocks of entries -/

/-- A contiguous part of a listing (module doc). -/
structure Block (first : Nat) (declaring : Option TypeNumber) (heads : List TypeNumber)
    (es : List CatalogEntry) : Prop where
  numbers : es.map (·.number) = (List.range' first es.length).map TypeNumber.mk
  up : ∀ e ∈ es, (e.declaring = declaring ∧ e.number ∈ heads) ∨
    ∃ p ∈ es, e.declaring = some p.number ∧ e.number ∈ p.nested
  headed : ∀ x ∈ heads, ∃ e ∈ es, e.number = x ∧ e.declaring = declaring
  down : ∀ p ∈ es, ∀ x ∈ p.nested, ∃ e ∈ es, e.number = x ∧ e.declaring = some p.number
  headsSorted : heads.Pairwise (·.index < ·.index)
  sorted : ∀ p ∈ es, (p.number :: p.nested).Pairwise (·.index < ·.index)

namespace Block

variable {first : Nat} {declaring : Option TypeNumber} {heads heads' : List TypeNumber}
  {es es' : List CatalogEntry}

/-- The numbers of a block run from `first` to the last entry. -/
theorem index_bounds (h : Block first declaring heads es) {e : CatalogEntry} (he : e ∈ es) :
    first ≤ e.number.index ∧ e.number.index < first + es.length := by
  have hm : e.number ∈ es.map (·.number) := List.mem_map_of_mem he
  rw [h.numbers, List.mem_map] at hm
  obtain ⟨i, hi, hie⟩ := hm
  rw [← hie]
  simpa [List.mem_range'_1] using hi

theorem head_bounds (h : Block first declaring heads es) {x : TypeNumber} (hx : x ∈ heads) :
    first ≤ x.index ∧ x.index < first + es.length := by
  obtain ⟨e, he, rfl, -⟩ := h.headed x hx
  exact h.index_bounds he

theorem nil (first : Nat) (declaring : Option TypeNumber) : Block first declaring [] [] := by
  constructor <;> simp

/-- Two blocks under the same declaring type, one behind the other. -/
theorem append (h : Block first declaring heads es)
    (h' : Block (first + es.length) declaring heads' es') :
    Block first declaring (heads ++ heads') (es ++ es') where
  numbers := by
    rw [List.map_append, h.numbers, h'.numbers, ← List.map_append, List.range'_append_1,
      List.length_append]
  up := by
    intro e he
    rcases List.mem_append.1 he with he | he
    · rcases h.up e he with ⟨hd, hx⟩ | ⟨p, hp, hd, hx⟩
      · exact .inl ⟨hd, List.mem_append_left _ hx⟩
      · exact .inr ⟨p, List.mem_append_left _ hp, hd, hx⟩
    · rcases h'.up e he with ⟨hd, hx⟩ | ⟨p, hp, hd, hx⟩
      · exact .inl ⟨hd, List.mem_append_right _ hx⟩
      · exact .inr ⟨p, List.mem_append_right _ hp, hd, hx⟩
  headed := by
    intro x hx
    rcases List.mem_append.1 hx with hx | hx
    · obtain ⟨e, he, h1, h2⟩ := h.headed x hx
      exact ⟨e, List.mem_append_left _ he, h1, h2⟩
    · obtain ⟨e, he, h1, h2⟩ := h'.headed x hx
      exact ⟨e, List.mem_append_right _ he, h1, h2⟩
  down := by
    intro p hp x hx
    rcases List.mem_append.1 hp with hp | hp
    · obtain ⟨e, he, h1, h2⟩ := h.down p hp x hx
      exact ⟨e, List.mem_append_left _ he, h1, h2⟩
    · obtain ⟨e, he, h1, h2⟩ := h'.down p hp x hx
      exact ⟨e, List.mem_append_right _ he, h1, h2⟩
  headsSorted := by
    refine List.pairwise_append.2 ⟨h.headsSorted, h'.headsSorted, fun x hx y hy => ?_⟩
    have h1 := (h.head_bounds hx).2
    have h2 := (h'.head_bounds hy).1
    omega
  sorted := by
    intro p hp
    rcases List.mem_append.1 hp with hp | hp
    · exact h.sorted p hp
    · exact h'.sorted p hp

/-- A type in front of the block of the types nested in it. -/
theorem node {fullName : String} {decl : TypeDecl}
    (h : Block (first + 1) (some ⟨first⟩) heads es) :
    Block first declaring [⟨first⟩]
      ({ number := ⟨first⟩, fullName, declaring, nested := heads, decl } :: es) where
  numbers := by
    rw [List.map_cons, h.numbers, List.length_cons, List.range'_succ, List.map_cons]
  up := by
    intro e he
    rcases List.mem_cons.1 he with rfl | he
    · exact .inl ⟨rfl, List.mem_singleton_self _⟩
    · rcases h.up e he with ⟨hd, hx⟩ | ⟨p, hp, hd, hx⟩
      · exact .inr ⟨_, List.mem_cons_self, hd, hx⟩
      · exact .inr ⟨p, List.mem_cons_of_mem _ hp, hd, hx⟩
  headed := by
    intro x hx
    rw [List.mem_singleton] at hx
    exact ⟨_, List.mem_cons_self, hx.symm, rfl⟩
  down := by
    intro p hp x hx
    rcases List.mem_cons.1 hp with rfl | hp
    · obtain ⟨e, he, h1, h2⟩ := h.headed x hx
      exact ⟨e, List.mem_cons_of_mem _ he, h1, h2⟩
    · obtain ⟨e, he, h1, h2⟩ := h.down p hp x hx
      exact ⟨e, List.mem_cons_of_mem _ he, h1, h2⟩
  headsSorted := List.pairwise_singleton _ _
  sorted := by
    intro p hp
    rcases List.mem_cons.1 hp with rfl | hp
    · refine List.pairwise_cons.2 ⟨fun x hx => ?_, h.headsSorted⟩
      exact (h.head_bounds hx).1
    · exact h.sorted p hp

end Block

/-! ## Listings are blocks -/

mutual

theorem tree_block (first : Nat) (declaring : Option TypeNumber) (fullName : String) :
    ∀ t : TypeTree, Block first declaring [⟨first⟩] (t.entries first declaring fullName)
  | .node decl nested => by
    rw [TypeTree.entries]
    exact (nested_block (first + 1) ⟨first⟩ fullName nested).node

theorem nested_block (first : Nat) (declaring : TypeNumber) (outer : String) :
    ∀ ts : List TypeTree,
      Block first (some declaring) (forestNumbers first ts) (nestedEntries first declaring outer ts)
  | [] => by
    rw [nestedEntries, forestNumbers]
    exact .nil _ _
  | .node decl nested :: ts => by
    rw [nestedEntries, forestNumbers]
    refine (tree_block first (some declaring) _ (.node decl nested)).append ?_
    rw [length_entries]
    exact nested_block _ declaring outer ts

end

theorem forest_block (first : Nat) (ts : List TypeTree) :
    Block first none (forestNumbers first ts) (forestEntries first ts) := by
  induction ts generalizing first with
  | nil => exact .nil _ _
  | cons t ts ih =>
    rw [forestEntries, forestNumbers]
    refine (tree_block first none _ t).append ?_
    rw [length_entries]
    exact ih _

/-! ## Sound catalogs -/

/-- A look-up finds the only pair of its key. -/
theorem lookup_eq_some_iff_mem {α β : Type} [DecidableEq α] {l : List (α × β)}
    (hu : (l.map (·.1)).Nodup) {a : α} {b : β} : l.lookup a = some b ↔ (a, b) ∈ l := by
  induction l with
  | nil => simp
  | cons p l ih =>
    obtain ⟨a', b'⟩ := p
    rw [List.map_cons, List.nodup_cons] at hu
    rw [List.lookup_cons, List.mem_cons, ← ih hu.2]
    by_cases haa : a = a'
    · subst haa
      have hnot : l.lookup a ≠ some b := fun hl =>
        hu.1 (List.mem_map_of_mem (f := (·.1)) ((ih hu.2).1 hl))
      simp [hnot, eq_comm]
    · rw [show (a == a') = false by simpa using haa]
      simp [haa]

namespace Catalog

/-- A catalog that lists a module (module doc). -/
structure Sound (g : Catalog) : Prop where
  numbered : ∀ {x e}, g.entry? x = some e → e.number = x
  unique : ∀ {x y e f}, g.entry? x = some e → g.entry? y = some f → e.fullName = f.fullName → x = y
  nested_iff : ∀ {p e}, g.entry? p = some e → ∀ x, x ∈ e.nested ↔
    ∃ f, g.entry? x = some f ∧ f.declaring = some p
  nested_sorted : ∀ {p e}, g.entry? p = some e → (p :: e.nested).Pairwise (·.index < ·.index)
  declared : ∀ {x e p}, g.entry? x = some e → e.declaring = some p → (g.entry? p).isSome
  roots_iff : ∀ x, x ∈ g.roots ↔ ∃ e, g.entry? x = some e ∧ e.declaring = none
  roots_sorted : g.roots.Pairwise (·.index < ·.index)
  find?_eq_some_iff : ∀ {s x}, g.find? s = some x ↔ ∃ e, g.entry? x = some e ∧ e.fullName = s

theorem Sound.nodup_roots {g : Catalog} (hg : g.Sound) : g.roots.Nodup :=
  hg.roots_sorted.imp fun {x y} hlt heq => by
    rw [heq] at hlt
    exact Nat.lt_irrefl _ hlt

theorem contains_iff {g : Catalog} {x : TypeNumber} :
    g.contains x = true ↔ ∃ e, g.entry? x = some e := by
  rw [contains, decide_eq_true_iff]
  simp [size, entry?, Array.getElem?_eq_some_iff]

theorem isNested_eq_false_iff {g : Catalog} {x : TypeNumber} {e : CatalogEntry}
    (he : g.entry? x = some e) : g.isNested x = false ↔ e.declaring = none := by
  simp [isNested, CatalogEntry.isNested, he]

theorem fullName_of_entry? {g : Catalog} {x : TypeNumber} {e : CatalogEntry}
    (h : g.entry? x = some e) : g.fullName x = e.fullName := by
  simp [fullName, h]

/-- What the catalog of a module is made of. -/
theorem ofModule_ok {m : Module} {g : Catalog} (h : ofModule m = .ok g) :
    ((forestEntries 0 m.types).map (·.fullName)).Nodup ∧
      g =
        { name := m.name
          entries := (forestEntries 0 m.types).toArray
          roots := forestNumbers 0 m.types
          byName := ((forestEntries 0 m.types).map fun e => (e.fullName, e.number)).reverse } := by
  rw [ofModule_eq] at h
  split at h
  · cases h
  · rename_i hr
    cases h
    exact ⟨(firstRepeated?_eq_none hr).1, rfl⟩

/-- An entry of the listing stands under its number. -/
theorem entry?_eq_some_iff {m : Module} {g : Catalog} (h : ofModule m = .ok g) {x : TypeNumber}
    {e : CatalogEntry} :
    g.entry? x = some e ↔ e ∈ forestEntries 0 m.types ∧ e.number = x := by
  obtain ⟨-, rfl⟩ := ofModule_ok h
  have hn := (forest_block 0 m.types).numbers
  -- the number of the entry at place `i` is `i`
  have hat : ∀ (i : Nat) (f : CatalogEntry), (forestEntries 0 m.types)[i]? = some f →
      f.number = ⟨i⟩ := by
    intro i f hf
    have hlt := (List.getElem?_eq_some_iff.1 hf).1
    have h1 := congrArg (·[i]?) hn
    rw [List.getElem?_map, hf, List.getElem?_map, List.getElem?_range' hlt] at h1
    simpa using h1
  simp only [List.getElem?_toArray, entry?]
  constructor
  · intro he
    exact ⟨List.mem_of_getElem? he, hat _ _ he⟩
  · rintro ⟨he, rfl⟩
    obtain ⟨i, hi⟩ := List.mem_iff_getElem?.1 he
    rw [hat i e hi]
    exact hi

/-- **Every catalog of a module is sound.** -/
theorem sound_of_ofModule {m : Module} {g : Catalog} (h : ofModule m = .ok g) : g.Sound := by
  have hb := forest_block 0 m.types
  have hnd := (ofModule_ok h).1
  have hroots : g.roots = forestNumbers 0 m.types := by rw [(ofModule_ok h).2]
  have hbyName : g.byName =
      ((forestEntries 0 m.types).map fun e => (e.fullName, e.number)).reverse := by
    rw [(ofModule_ok h).2]
  have hiff := fun {x e} => entry?_eq_some_iff h (x := x) (e := e)
  constructor
  · intro x e he
    exact (hiff.1 he).2
  · intro x y e f he hf hef
    obtain ⟨hm, rfl⟩ := hiff.1 he
    obtain ⟨hn, rfl⟩ := hiff.1 hf
    rw [List.inj_on_of_nodup_map hnd hm hn hef]
  · intro p e he x
    obtain ⟨hm, rfl⟩ := hiff.1 he
    constructor
    · intro hx
      obtain ⟨f, hf, h1, h2⟩ := hb.down e hm x hx
      exact ⟨f, hiff.2 ⟨hf, h1⟩, h2⟩
    · rintro ⟨f, hf, hd⟩
      obtain ⟨hn, rfl⟩ := hiff.1 hf
      rcases hb.up f hn with ⟨h1, -⟩ | ⟨q, hq, h1, h2⟩
      · rw [hd] at h1; cases h1
      · rw [hd, Option.some.injEq] at h1
        have hqe : g.entry? e.number = some q := hiff.2 ⟨hq, h1.symm⟩
        rw [he, Option.some.injEq] at hqe
        rw [hqe]
        exact h2
  · intro p e he
    obtain ⟨hm, rfl⟩ := hiff.1 he
    exact hb.sorted e hm
  · intro x e p he hd
    rcases hb.up e (hiff.1 he).1 with ⟨h1, -⟩ | ⟨q, hq, h1, -⟩
    · rw [hd] at h1; cases h1
    · rw [hd, Option.some.injEq] at h1
      rw [hiff.2 ⟨hq, h1.symm⟩]
      rfl
  · intro x
    rw [hroots]
    constructor
    · intro hx
      obtain ⟨e, he, h1, h2⟩ := hb.headed x hx
      exact ⟨e, hiff.2 ⟨he, h1⟩, h2⟩
    · rintro ⟨e, he, hd⟩
      obtain ⟨hm, rfl⟩ := hiff.1 he
      rcases hb.up e hm with ⟨-, h1⟩ | ⟨q, -, h1, -⟩
      · exact h1
      · rw [hd] at h1; cases h1
  · rw [hroots]
    exact hb.headsSorted
  · intro s x
    rw [find?, hbyName, lookup_eq_some_iff_mem (by simpa [Function.comp_def] using hnd)]
    simp only [List.mem_reverse, List.mem_map, Prod.mk.injEq, hiff]
    constructor
    · rintro ⟨e, he, rfl, rfl⟩
      exact ⟨e, ⟨he, rfl⟩, rfl⟩
    · rintro ⟨e, ⟨he, rfl⟩, rfl⟩
      exact ⟨e, he, rfl, rfl⟩

end Catalog

end Concord
