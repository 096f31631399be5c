import Concord.Proofs.Catalog
import Concord.Proofs.Requests
import Mathlib.Data.List.Perm.Subperm

/-!
# The parts of a concordance agree

A concordance keeps the same facts in several places: the pairings, the two indices, the list of
roots, and the lists of nested pairings with the numbers of the declaring ones. `WellFormed g`
says how they hang together. Every move keeps it (`WellFormed.add`, `WellFormed.nest`,
`WellFormed.setScore`), hence every concordance that requests lead to has it (`run_wellFormed`).

* `WellFormed.ofType?_eq_some_iff`: the index by type leads to the pairing of the type.
* `WellFormed.size_le`: there are no more pairings than renamed types.
* `WellFormed.numberOf?_eq`: the index by name agrees with the one by type, because full names are
  unique in the renamed catalog.
-/

set_option autoImplicit false

namespace Concord.Concordance

/-- The numbers of all pairings, in order. -/
def numbers (g : Concordance) : List PairingNumber := (List.range g.size).map PairingNumber.mk

theorem mem_numbers {g : Concordance} {id : PairingNumber} :
    id ∈ g.numbers ↔ id.index < g.size := by
  obtain ⟨i⟩ := id
  simp [numbers]

theorem nodup_numbers (g : Concordance) : g.numbers.Nodup :=
  List.nodup_range.map fun _ _ h => by simpa using h

/-- How the parts of a concordance hang together (module doc). -/
structure WellFormed (g : Concordance) : Prop where
  /-- Pairings bind types that exist. -/
  valid : ∀ {id n}, g.pairing? id = some n →
    g.reference.contains n.reference = true ∧ g.renamed.contains n.renamed = true
  /-- The index by type holds the renamed type of every pairing, and nothing else. -/
  byType : ∀ x id, (x, id) ∈ g.byType ↔ ∃ n, g.pairing? id = some n ∧ n.renamed = x
  /-- No renamed type has two pairings. -/
  unique : (g.byType.map (·.1)).Nodup
  /-- The index by name is the one by type, under full names. -/
  byName : g.byName = g.byType.map fun (x, id) => (g.renamed.fullName x, id)
  /-- The roots are the pairings without a declaring one, in order. -/
  roots : g.roots = g.numbers.filter fun id => (g.pairing? id).any (·.declaring.isNone)
  /-- A pairing comes after the one that declares it and is nested there. -/
  declaring : ∀ {id n p}, g.pairing? id = some n → n.declaring = some p →
    p.index < id.index ∧ ∃ q, g.pairing? p = some q ∧ id ∈ q.nested
  /-- What is nested in a pairing exists, once, and is not the pairing itself. -/
  nested : ∀ {p q}, g.pairing? p = some q →
    q.nested.Nodup ∧ p ∉ q.nested ∧ ∀ id ∈ q.nested, id.index < g.size

/-- The number of the pairing of the renamed type of a full name. -/
def numberOf? (g : Concordance) (fullName : String) : Option PairingNumber :=
  g.byName.lookup fullName

theorem ofName?_eq_bind (g : Concordance) (fullName : String) :
    g.ofName? fullName = (g.numberOf? fullName).bind g.pairing? := rfl

theorem wellFormed_empty (reference renamed : Catalog) : (empty reference renamed).WellFormed := by
  constructor <;> simp [empty, pairing?, numbers, size]

namespace WellFormed

variable {g : Concordance}

/-! ## The index by type -/

theorem ofType?_eq_some_iff (hg : g.WellFormed) {x : TypeNumber} {id : PairingNumber} :
    g.ofType? x = some id ↔ ∃ n, g.pairing? id = some n ∧ n.renamed = x := by
  rw [ofType?, lookup_eq_some_iff_mem hg.unique, hg.byType]

theorem ofType?_eq_none_iff (hg : g.WellFormed) {x : TypeNumber} :
    g.ofType? x = none ↔ ∀ id n, g.pairing? id = some n → n.renamed ≠ x := by
  constructor
  · intro h id n hn hx
    rw [hg.ofType?_eq_some_iff.2 ⟨n, hn, hx⟩] at h
    cases h
  · intro h
    cases ho : g.ofType? x with
    | none => rfl
    | some id =>
      obtain ⟨n, hn, hx⟩ := hg.ofType?_eq_some_iff.1 ho
      exact absurd hx (h id n hn)

/-- Distinct pairings have distinct renamed types. -/
theorem eq_of_renamed (hg : g.WellFormed) {i j : PairingNumber} {n m : Pairing}
    (hi : g.pairing? i = some n) (hj : g.pairing? j = some m) (h : n.renamed = m.renamed) :
    i = j := by
  have h1 := hg.ofType?_eq_some_iff.2 ⟨n, hi, h⟩
  rw [hg.ofType?_eq_some_iff.2 ⟨m, hj, rfl⟩, Option.some.injEq] at h1
  exact h1.symm

theorem mem_roots_iff (hg : g.WellFormed) {id : PairingNumber} :
    id ∈ g.roots ↔ ∃ n, g.pairing? id = some n ∧ n.declaring = none := by
  rw [hg.roots, List.mem_filter, mem_numbers, ← g.exists_pairing?_iff]
  cases g.pairing? id <;> simp

theorem nodup_roots (hg : g.WellFormed) : g.roots.Nodup := by
  rw [hg.roots]
  exact g.nodup_numbers.filter _

theorem index_lt_of_mem_roots (hg : g.WellFormed) {id : PairingNumber} (hid : id ∈ g.roots) :
    id.index < g.size := by
  obtain ⟨n, hn, -⟩ := hg.mem_roots_iff.1 hid
  exact index_lt_size hn

theorem nextNumber_not_mem_nested (hg : g.WellFormed) {p : PairingNumber} {q : Pairing}
    (hp : g.pairing? p = some q) : g.nextNumber ∉ q.nested :=
  fun hm => Nat.lt_irrefl _ ((hg.nested hp).2.2 _ hm)

/-- There are no more pairings than renamed types. -/
theorem size_le (hg : g.WellFormed) : g.size ≤ g.renamed.size := by
  let typeOf (id : PairingNumber) : Nat := ((g.pairing? id).map (·.renamed.index)).getD 0
  have hmem : ∀ id ∈ g.numbers, ∃ n, g.pairing? id = some n ∧ typeOf id = n.renamed.index := by
    intro id hid
    obtain ⟨n, hn⟩ := (g.exists_pairing?_iff id).2 (mem_numbers.1 hid)
    exact ⟨n, hn, by simp [typeOf, hn]⟩
  have hinj : ∀ i ∈ g.numbers, ∀ j ∈ g.numbers, typeOf i = typeOf j → i = j := by
    intro i hi j hj hij
    obtain ⟨n, hn, h1⟩ := hmem i hi
    obtain ⟨m, hm, h2⟩ := hmem j hj
    refine hg.eq_of_renamed hn hm ?_
    rw [h1, h2] at hij
    exact congrArg TypeNumber.mk hij
  have hsub : g.numbers.map typeOf ⊆ List.range g.renamed.size := by
    intro i hi
    obtain ⟨id, hid, rfl⟩ := List.mem_map.1 hi
    obtain ⟨n, hn, h1⟩ := hmem id hid
    have hv := (hg.valid hn).2
    rw [Catalog.contains, decide_eq_true_iff] at hv
    rw [h1, List.mem_range]
    exact hv
  have := (List.subperm_of_subset (g.nodup_numbers.map_on hinj) hsub).length_le
  simpa [numbers] using this

/-! ## The index by name -/

/-- Looking up a key under another name, when no other key has that name. -/
theorem lookup_map_key {f : TypeNumber → String} {x : TypeNumber} :
    ∀ {l : List (TypeNumber × PairingNumber)}, (∀ p ∈ l, f p.1 = f x → p.1 = x) →
      (l.map fun (y, id) => (f y, id)).lookup (f x) = l.lookup x
  | [], _ => rfl
  | (y, id) :: l, h => by
    have ih := lookup_map_key fun p hp => h p (List.mem_cons_of_mem _ hp)
    rw [List.map_cons, List.lookup_cons, List.lookup_cons, ih]
    by_cases hxy : x = y
    · subst hxy; simp
    · have hne : f x ≠ f y := fun hf => hxy (h (y, id) List.mem_cons_self hf.symm).symm
      rw [show (x == y) = false by simpa using hxy, show (f x == f y) = false by simpa using hne]

/-- **The two indices agree.** -/
theorem numberOf?_eq (hg : g.WellFormed) (hr : g.renamed.Sound) (s : String) :
    g.numberOf? s = (g.renamed.find? s).bind g.ofType? := by
  have hkey : ∀ p ∈ g.byType, ∃ e, g.renamed.entry? p.1 = some e := by
    rintro ⟨x, id⟩ hp
    obtain ⟨n, hn, rfl⟩ := (hg.byType x id).1 hp
    exact Catalog.contains_iff.1 (hg.valid hn).2
  unfold numberOf?
  rw [hg.byName]
  cases hf : g.renamed.find? s with
  | some x =>
    obtain ⟨e, he, rfl⟩ := hr.find?_eq_some_iff.1 hf
    have hx := Catalog.fullName_of_entry? he
    rw [← hx, lookup_map_key, Option.bind_some]
    · rfl
    · intro p hp hname
      obtain ⟨e', he'⟩ := hkey p hp
      rw [hx, Catalog.fullName_of_entry? he'] at hname
      exact hr.unique he' he hname
  | none =>
    rw [Option.bind_none, List.lookup_eq_none_iff]
    intro q hq
    obtain ⟨⟨x, id⟩, hp, rfl⟩ := List.mem_map.1 hq
    obtain ⟨e, he⟩ := hkey _ hp
    -- a key of that name would have been found
    simp only [bne_iff_ne, ne_eq]
    rintro rfl
    rw [hr.find?_eq_some_iff.2 ⟨e, he, (Catalog.fullName_of_entry? he).symm⟩] at hf
    cases hf

theorem ofName?_eq (hg : g.WellFormed) (hr : g.renamed.Sound) (s : String) :
    g.ofName? s = ((g.renamed.find? s).bind g.ofType?).bind g.pairing? := by
  rw [ofName?_eq_bind, hg.numberOf?_eq hr]

/-! ## Moves keep the parts in agreement -/

/-- The pairings after a type has been bound. -/
theorem pairing?_bind (hg : g.WellFormed) (renamed reference : TypeNumber)
    {declaring : Option PairingNumber} (hd : ∀ p, declaring = some p → p.index < g.size)
    (x : PairingNumber) :
    ((g.add renamed reference declaring).nest g.nextNumber declaring).pairing? x =
      if x = g.nextNumber then
        some { reference, renamed, score := g.inheritedScore declaring, declaring }
      else (g.pairing? x).map fun n =>
        if declaring = some x then { n with nested := n.nested ++ [g.nextNumber] } else n := by
  cases declaring with
  | none =>
    rw [nest_none, pairing?_add]
    simp
  | some parent =>
    have hne : parent ≠ g.nextNumber := by
      rintro rfl
      exact Nat.lt_irrefl _ (hd _ rfl)
    rw [pairing?_nest, pairing?_add]
    by_cases hx : x = g.nextNumber
    · subst hx
      simp [hne.symm]
    · rw [if_neg hx, if_neg hx]
      cases hn : g.pairing? x with
      | none => rfl
      | some n =>
        have hfresh := hg.nextNumber_not_mem_nested hn
        simp [hne, hfresh, eq_comm]

section
variable {renamed reference : TypeNumber} {declaring : Option PairingNumber}

/-- An old pairing keeps its types and its declaring pairing when a type is bound, and the new one
may be nested in it. -/
theorem old_of_bind (hg : g.WellFormed) (hd : ∀ p, declaring = some p → p.index < g.size)
    {x : PairingNumber} {n : Pairing} (hx : x ≠ g.nextNumber)
    (hn : ((g.add renamed reference declaring).nest g.nextNumber declaring).pairing? x = some n) :
    ∃ m, g.pairing? x = some m ∧ n.reference = m.reference ∧ n.renamed = m.renamed ∧
      n.declaring = m.declaring ∧
      (n.nested = m.nested ∨ n.nested = m.nested ++ [g.nextNumber]) := by
  rw [hg.pairing?_bind renamed reference hd, if_neg hx, Option.map_eq_some_iff] at hn
  obtain ⟨m, hm, rfl⟩ := hn
  refine ⟨m, hm, ?_⟩
  split
  · exact ⟨rfl, rfl, rfl, .inr rfl⟩
  · exact ⟨rfl, rfl, rfl, .inl rfl⟩

theorem roots_bind (hg : g.WellFormed) (hd : ∀ p, declaring = some p → p.index < g.size) :
    let k := (g.add renamed reference declaring).nest g.nextNumber declaring
    k.roots = k.numbers.filter fun id => (k.pairing? id).any (·.declaring.isNone) := by
  intro k
  have hp : ∀ x, k.pairing? x = _ := hg.pairing?_bind renamed reference hd
  have hsame : (g.numbers.filter fun id => (k.pairing? id).any (·.declaring.isNone)) = g.roots := by
    rw [hg.roots]
    refine List.filter_congr fun id hid => ?_
    have hne : id ≠ g.nextNumber := by
      rintro rfl
      exact Nat.lt_irrefl _ (mem_numbers.1 hid)
    rw [hp, if_neg hne]
    cases g.pairing? id with
    | none => rfl
    | some n =>
      simp only [Option.map_some, Option.any_some]
      split <;> rfl
  have hnumbers : k.numbers = g.numbers ++ [g.nextNumber] := by
    simp [k, numbers, List.range_succ, nextNumber]
  have hroots : k.roots = if declaring.isNone then g.roots ++ [g.nextNumber] else g.roots :=
    roots_nest ..
  rw [hroots, hnumbers, List.filter_append, hsame, List.filter_singleton, hp, if_pos rfl]
  cases declaring <;> simp

/-- What is nested in the pairings once the new one may be. -/
theorem nested_bind (hg : g.WellFormed) {p : PairingNumber} {q : Pairing}
    (hq : g.pairing? p = some q) (hp : p ≠ g.nextNumber) :
    (q.nested ++ [g.nextNumber]).Nodup ∧ p ∉ q.nested ++ [g.nextNumber] ∧
      ∀ id ∈ q.nested ++ [g.nextNumber], id.index < g.size + 1 := by
  obtain ⟨h1, h2, h3⟩ := hg.nested hq
  have hfresh := hg.nextNumber_not_mem_nested hq
  refine ⟨?_, by simp [h2, hp], fun id hid => ?_⟩
  · refine List.nodup_append.2 ⟨h1, List.nodup_singleton _, fun a ha b hb => ?_⟩
    rw [List.mem_singleton] at hb
    rintro rfl
    exact hfresh (hb ▸ ha)
  · rcases List.mem_append.1 hid with hid | hid
    · exact Nat.lt_succ_of_lt (h3 id hid)
    · rw [List.mem_singleton] at hid
      rw [hid]
      exact Nat.lt_succ_self _

theorem add (hg : g.WellFormed) (unbound : g.ofType? renamed = none)
    (hrenamed : g.renamed.contains renamed = true)
    (hreference : g.reference.contains reference = true)
    (hd : ∀ p, declaring = some p → p.index < g.size) :
    ((g.add renamed reference declaring).nest g.nextNumber declaring).WellFormed := by
  have hp := hg.pairing?_bind renamed reference hd
  have hgrows : Grows g ((g.add renamed reference declaring).nest g.nextNumber declaring) :=
    (grows_add _ _ unbound).trans (grows_nest _ _ _)
  constructor
  case valid =>
    intro id n hn
    rw [reference_nest, renamed_nest]
    by_cases hid : id = g.nextNumber
    · rw [hp, if_pos hid, Option.some.injEq] at hn
      subst hn
      exact ⟨hreference, hrenamed⟩
    · obtain ⟨m, hm, h1, h2, -⟩ := hg.old_of_bind hd hid hn
      rw [h1, h2]
      exact hg.valid hm
  case byType =>
    intro x id
    rw [byType_nest, hp]
    show (x, id) ∈ (renamed, g.nextNumber) :: g.byType ↔ _
    by_cases hid : id = g.nextNumber
    · subst hid
      have hnot : (x, g.nextNumber) ∉ g.byType := by
        intro hm
        obtain ⟨n, hn, -⟩ := (hg.byType _ _).1 hm
        simp at hn
      simp [hnot, eq_comm]
    · rw [if_neg hid, List.mem_cons, hg.byType]
      simp only [Prod.mk.injEq, hid, and_false, false_or, Option.map_eq_some_iff]
      constructor
      · rintro ⟨n, hn, rfl⟩
        refine ⟨_, ⟨n, hn, rfl⟩, ?_⟩
        split <;> rfl
      · rintro ⟨_, ⟨n, hn, rfl⟩, hx⟩
        refine ⟨n, hn, ?_⟩
        rw [← hx]
        split <;> rfl
  case unique =>
    rw [byType_nest]
    refine List.nodup_cons.2 ⟨fun hm => ?_, hg.unique⟩
    obtain ⟨⟨x, id⟩, hx, rfl⟩ := List.mem_map.1 hm
    obtain ⟨n, hn, h1⟩ := (hg.byType _ _).1 hx
    exact hg.ofType?_eq_none_iff.1 unbound id n hn h1
  case byName =>
    rw [byName_nest, byType_nest, renamed_nest]
    show (g.renamed.fullName renamed, g.nextNumber) :: g.byName = _
    rw [hg.byName]
    rfl
  case roots => exact hg.roots_bind hd
  case declaring =>
    intro id n p hn hdp
    by_cases hid : id = g.nextNumber
    · subst hid
      rw [hp, if_pos rfl, Option.some.injEq] at hn
      subst hn
      have hlt := hd p hdp
      obtain ⟨q, hq⟩ := (g.exists_pairing?_iff p).2 hlt
      refine ⟨hlt, { q with nested := q.nested ++ [g.nextNumber] }, ?_, by simp⟩
      have hne : p ≠ g.nextNumber := by
        rintro rfl
        exact Nat.lt_irrefl _ hlt
      rw [hp, if_neg hne, hq, Option.map_some, if_pos hdp]
    · obtain ⟨m, hm, -, -, h3, -⟩ := hg.old_of_bind hd hid hn
      obtain ⟨hlt, q, hq, hmem⟩ := hg.declaring hm (h3 ▸ hdp)
      obtain ⟨q', hq', hk⟩ := hgrows.pairing hq
      exact ⟨hlt, q', hq', hk.nested.subset hmem⟩
  case nested =>
    intro p q hq
    rw [size_nest, size_add]
    by_cases hpn : p = g.nextNumber
    · rw [hp, if_pos hpn, Option.some.injEq] at hq
      subst hq
      simp
    · obtain ⟨m, hm, -, -, -, hn | hn⟩ := hg.old_of_bind hd hpn hq
      · obtain ⟨h1, h2, h3⟩ := hg.nested hm
        rw [hn]
        exact ⟨h1, h2, fun id hid => Nat.lt_succ_of_lt (h3 id hid)⟩
      · rw [hn]
        exact hg.nested_bind hm hpn

end

/-- A change of pairings in place, which leaves alone the types and the declaring pairing of
each. -/
theorem modify (hg : g.WellFormed) {pairings : Array Pairing} (hsize : pairings.size = g.size)
    {f : PairingNumber → Pairing → Pairing}
    (hp : ∀ x, { g with pairings : Concordance }.pairing? x = (g.pairing? x).map (f x))
    (hf : ∀ x n, (f x n).reference = n.reference ∧ (f x n).renamed = n.renamed ∧
      (f x n).declaring = n.declaring ∧ n.nested ⊆ (f x n).nested)
    (hnested : ∀ p q, g.pairing? p = some q →
      (f p q).nested.Nodup ∧ p ∉ (f p q).nested ∧ ∀ id ∈ (f p q).nested, id.index < g.size) :
    { g with pairings : Concordance }.WellFormed := by
  constructor
  case valid =>
    intro id n hn
    rw [hp, Option.map_eq_some_iff] at hn
    obtain ⟨m, hm, rfl⟩ := hn
    rw [(hf id m).1, (hf id m).2.1]
    exact hg.valid hm
  case byType =>
    intro x id
    rw [hg.byType, hp]
    simp only [Option.map_eq_some_iff]
    constructor
    · rintro ⟨n, hn, rfl⟩
      exact ⟨_, ⟨n, hn, rfl⟩, (hf id n).2.1⟩
    · rintro ⟨_, ⟨n, hn, rfl⟩, hx⟩
      exact ⟨n, hn, (hf id n).2.1 ▸ hx⟩
  case unique => exact hg.unique
  case byName => exact hg.byName
  case roots =>
    have hnumbers : { g with pairings : Concordance }.numbers = g.numbers := by
      simp only [numbers, size, hsize]
    rw [hnumbers]
    refine hg.roots.trans (List.filter_congr fun id _ => ?_)
    rw [hp]
    cases g.pairing? id with
    | none => rfl
    | some n => simp only [Option.map_some, Option.any_some, (hf id n).2.2.1]
  case declaring =>
    intro id n p hn hd
    rw [hp, Option.map_eq_some_iff] at hn
    obtain ⟨m, hm, rfl⟩ := hn
    rw [(hf id m).2.2.1] at hd
    obtain ⟨hlt, q, hq, hmem⟩ := hg.declaring hm hd
    refine ⟨hlt, f p q, ?_, (hf p q).2.2.2 hmem⟩
    rw [hp, hq, Option.map_some]
  case nested =>
    intro p q hq
    rw [hp, Option.map_eq_some_iff] at hq
    obtain ⟨m, hm, rfl⟩ := hq
    rw [show size { g with pairings } = g.size from hsize]
    exact hnested p m hm

theorem setScore (hg : g.WellFormed) (id : PairingNumber) (score : Float) :
    (g.setScore id score).WellFormed := by
  refine hg.modify (g.size_setScore id score) (g.pairing?_setScore id · score)
    (fun x n => ?_) (fun p q hq => ?_)
  · split <;> exact ⟨rfl, rfl, rfl, fun _ h => h⟩
  · have := hg.nested hq
    split <;> exact this

theorem nest (hg : g.WellFormed) {renamed : TypeNumber} {id : PairingNumber}
    (bound : g.ofType? renamed = some id) (parent : PairingNumber) :
    (g.nest id (some parent)).WellFormed := by
  have hid : id.index < g.size := by
    obtain ⟨n, hn, -⟩ := hg.ofType?_eq_some_iff.1 bound
    exact index_lt_size hn
  refine hg.modify (g.size_nest id (some parent)) (g.pairing?_nest id parent ·)
    (fun x n => ?_) (fun p q hq => ?_)
  · split
    · exact ⟨rfl, rfl, rfl, List.subset_append_left _ _⟩
    · exact ⟨rfl, rfl, rfl, fun _ h => h⟩
  · obtain ⟨h1, h2, h3⟩ := hg.nested hq
    split
    · rename_i hc
      obtain ⟨rfl, hne, hnot⟩ := hc
      refine ⟨?_, by simp [h2, hne], fun c hcm => ?_⟩
      · refine List.nodup_append.2 ⟨h1, List.nodup_singleton _, fun a ha b hb => ?_⟩
        rw [List.mem_singleton] at hb
        rintro rfl
        exact hnot (hb ▸ ha)
      · rcases List.mem_append.1 hcm with hcm | hcm
        · exact h3 c hcm
        · rw [List.mem_singleton] at hcm
          rw [hcm]
          exact hid
    · exact ⟨h1, h2, h3⟩

theorem move {h : Concordance} (hg : g.WellFormed) (hm : Move g h) : h.WellFormed := by
  cases hm with
  | add unbound hrenamed hreference hd => exact hg.add unbound hrenamed hreference hd
  | nest bound _ => exact hg.nest bound _
  | root score unbound hrenamed hreference =>
    have h1 : ((g.add _ _ none).nest g.nextNumber none).WellFormed :=
      hg.add unbound hrenamed hreference (by simp)
    exact h1.setScore _ _

theorem moves {h : Concordance} (hg : g.WellFormed) (hm : g.Moves h) : h.WellFormed :=
  Moves.keep (fun _ _ hs hw => hw.move hs) hm hg

end WellFormed

theorem run_wellFormed (reference renamed : Catalog) (qs : List Request) :
    ((empty reference renamed).run qs).WellFormed :=
  (wellFormed_empty reference renamed).moves (run_moves _ qs)

/-- Requests leave the catalogs of the two modules alone. -/
theorem run_sound {clean obfuscated : Module} {reference renamed : Catalog}
    (hclean : Catalog.ofModule clean = .ok reference)
    (hobfuscated : Catalog.ofModule obfuscated = .ok renamed) (qs : List Request) :
    ((empty reference renamed).run qs).renamed.Sound ∧
      ((empty reference renamed).run qs).reference.Sound := by
  have hgrows := run_grows (empty reference renamed) qs
  rw [hgrows.renamed, hgrows.reference]
  exact ⟨Catalog.sound_of_ofModule hobfuscated, Catalog.sound_of_ofModule hclean⟩

/-- **The representation of a concordance.** Whatever was asked of it and whatever the answers,
its parts agree: pairings bind types of the two catalogs, both indices lead to the pairing of a
renamed type and to nothing else, and roots, declaring and nested pairings tell the same story. -/
theorem run_representation {m : Module} {renamed : Catalog}
    (hrenamed : Catalog.ofModule m = .ok renamed) (reference : Catalog) (qs : List Request) :
    let g := (empty reference renamed).run qs
    g.reference = reference ∧ g.renamed = renamed ∧ g.WellFormed ∧
      (∀ x id, g.ofType? x = some id ↔ ∃ n, g.pairing? id = some n ∧ n.renamed = x) ∧
      (∀ i j n m, g.pairing? i = some n → g.pairing? j = some m → n.renamed = m.renamed → i = j) ∧
      g.size ≤ renamed.size ∧
      ∀ s, g.ofName? s = ((renamed.find? s).bind g.ofType?).bind g.pairing? := by
  intro g
  have hg : g.WellFormed := run_wellFormed reference renamed qs
  have hgrows : Grows (empty reference renamed) g := run_grows _ qs
  have hren : g.renamed = renamed := hgrows.renamed
  refine ⟨hgrows.reference, hren, hg, fun x id => hg.ofType?_eq_some_iff,
    fun i j n m => hg.eq_of_renamed, ?_, fun s => ?_⟩
  · rw [← hren]
    exact hg.size_le
  · have hs := hg.ofName?_eq (hren ▸ Catalog.sound_of_ofModule hrenamed) s
    rwa [hren] at hs

/-- A module with a nested type. -/
def samplePlayer : Module where
  name := "Game.dll"
  types := [.node { namespaceName := "Game", name := "Player" } [.node { name := "Stats" } []],
    .node { namespaceName := "Game", name := "Hud" } []]

/-- The same module, renamed. -/
def sampleRenamed : Module where
  name := "Renamed.dll"
  types := [.node { name := "ABCDEFGHIJK" } [.node { name := "LMNOPQRSTUV" } []],
    .node { namespaceName := "Game", name := "Hud" } []]

/-- Requests of every kind, some of them refused, that also put a root under its own child. -/
def sampleRequests : List Request :=
  [.plantByName "ABCDEFGHIJK" "Game.Player" 1.5, .ensure ⟨7⟩ ⟨0⟩ none, .pairNested ⟨9⟩,
    .ensure ⟨0⟩ ⟨2⟩ (some ⟨1⟩), .plant ⟨1⟩ ⟨0⟩ 0.5, .plantNamesakes 0.0]

/-- The first root comes to be nested in its own child, and keeps its reference and its place among
the roots. -/
theorem run_representation_sample : ∃ reference renamed,
    Catalog.ofModule samplePlayer = .ok reference ∧ Catalog.ofModule sampleRenamed = .ok renamed ∧
      let g := (empty reference renamed).run sampleRequests
      g.WellFormed ∧ g.roots = [⟨0⟩, ⟨2⟩] ∧
      g.pairings.toList.map (fun n => (n.renamed, n.reference, n.declaring, n.nested)) =
        [(⟨0⟩, ⟨0⟩, none, [⟨1⟩]), (⟨1⟩, ⟨1⟩, some ⟨0⟩, [⟨0⟩]), (⟨2⟩, ⟨2⟩, none, [])] ∧
      (g.ofName? "ABCDEFGHIJK/LMNOPQRSTUV").map (·.declaring) = some (some ⟨0⟩) ∧
      g.ofName? "Game.Player" = none := by
  refine ⟨_, _, rfl, rfl, ?_⟩
  intro g
  obtain ⟨-, -, hwellFormed, -⟩ :=
    run_representation (rfl : Catalog.ofModule sampleRenamed = .ok _) _ sampleRequests
  exact ⟨hwellFormed, by decide +kernel, by decide +kernel, by decide +kernel, by decide +kernel⟩

end Concord.Concordance
