import Concord.Proofs.WellFormed

/-!
# Seeds are linked all the way down

`Linked g due`: every pairing is nested where its renamed type is declared, takes over the score of
the pairing it is nested in, and the types bound under a pairing `id` are the pairs `due id`, in
this order. A pairing is complete when `due id` are all pairs of nested types (`nestedPairs`).

The work list of `plant` completes one pairing after another. While it runs, the pending pairings
are those under which nothing is bound yet (`Pending`); `Pending.round` is one round and
`Pending.loop` the whole run. Rounds do not run out, because a pending pairing and a renamed type
without a pairing stand for at most one round each. A pairing that is complete stays as it is
(`pairNested_complete`).
-/

set_option autoImplicit false

namespace Concord

/-- The pairs of types nested in a pair of types, by order of declaration, if both sides declare
equally many. -/
def nestedPairs (renamed reference : Catalog) (pair : TypeNumber × TypeNumber) :
    List (TypeNumber × TypeNumber) :=
  match renamed.entry? pair.1, reference.entry? pair.2 with
  | some a, some b => if a.nested.length = b.nested.length then a.nested.zip b.nested else []
  | _, _ => []

section
variable {renamed reference : Catalog} {pair sub : TypeNumber × TypeNumber}

theorem nested_of_mem_nestedPairs (h : sub ∈ nestedPairs renamed reference pair) :
    (∃ a, renamed.entry? pair.1 = some a ∧ sub.1 ∈ a.nested) ∧
      ∃ b, reference.entry? pair.2 = some b ∧ sub.2 ∈ b.nested := by
  unfold nestedPairs at h
  split at h
  · rename_i a b ha hb
    split at h
    · obtain ⟨hsa, hsb⟩ := List.of_mem_zip h
      exact ⟨⟨a, ha, hsa⟩, b, hb, hsb⟩
    · cases h
  · cases h

theorem declaring_renamed (hr : renamed.Sound) (h : sub ∈ nestedPairs renamed reference pair) :
    ∃ e, renamed.entry? sub.1 = some e ∧ e.declaring = some pair.1 := by
  obtain ⟨⟨a, ha, hsa⟩, -⟩ := nested_of_mem_nestedPairs h
  exact (hr.nested_iff ha _).1 hsa

theorem declaring_reference (hc : reference.Sound) (h : sub ∈ nestedPairs renamed reference pair) :
    ∃ e, reference.entry? sub.2 = some e ∧ e.declaring = some pair.2 := by
  obtain ⟨-, b, hb, hsb⟩ := nested_of_mem_nestedPairs h
  exact (hc.nested_iff hb _).1 hsb

/-- A nested type has a larger number than the one that declares it. -/
theorem index_lt_of_mem_nestedPairs (hr : renamed.Sound)
    (h : sub ∈ nestedPairs renamed reference pair) : pair.1.index < sub.1.index := by
  obtain ⟨⟨a, ha, hsa⟩, -⟩ := nested_of_mem_nestedPairs h
  exact (List.pairwise_cons.1 (hr.nested_sorted ha)).1 _ hsa

theorem nodup_nested {c : Catalog} (hc : c.Sound) {x : TypeNumber} {e : CatalogEntry}
    (he : c.entry? x = some e) : e.nested.Nodup :=
  (List.pairwise_cons.1 (hc.nested_sorted he)).2.imp fun {x y} hlt hxy => by
    rw [hxy] at hlt
    omega

/-- Nested pairs have no type in common, on either side. -/
theorem nodup_nestedPairs (hr : renamed.Sound) (hc : reference.Sound)
    (pair : TypeNumber × TypeNumber) :
    ((nestedPairs renamed reference pair).map (·.1)).Nodup ∧
      ((nestedPairs renamed reference pair).map (·.2)).Nodup := by
  unfold nestedPairs
  split
  · rename_i a b ha hb
    split
    · rename_i hlen
      rw [List.map_fst_zip (Nat.le_of_eq hlen), List.map_snd_zip (Nat.le_of_eq hlen.symm)]
      exact ⟨nodup_nested hr ha, nodup_nested hc hb⟩
    · exact ⟨List.nodup_nil, List.nodup_nil⟩
  · exact ⟨List.nodup_nil, List.nodup_nil⟩

end

namespace Concordance

/-- The renamed and the reference type of a pairing. -/
def types (g : Concordance) (id : PairingNumber) : TypeNumber × TypeNumber :=
  ((g.pairing? id).map fun n => (n.renamed, n.reference)).getD default

/-- The pairings nested in a pairing. -/
def nestedOf (g : Concordance) (id : PairingNumber) : List PairingNumber :=
  ((g.pairing? id).map (·.nested)).getD []

section
variable {g h : Concordance} {id : PairingNumber} {n : Pairing}

theorem types_of_pairing? (hn : g.pairing? id = some n) :
    g.types id = (n.renamed, n.reference) := by
  simp [types, hn]

theorem nestedOf_of_pairing? (hn : g.pairing? id = some n) : g.nestedOf id = n.nested := by
  simp [nestedOf, hn]

/-- Pairings keep their types. -/
theorem Grows.types_eq (hgh : Grows g h) (hid : id.index < g.size) : h.types id = g.types id := by
  obtain ⟨n, hn⟩ := (g.exists_pairing?_iff id).2 hid
  obtain ⟨n', hn', hk⟩ := hgh.pairing hn
  rw [types_of_pairing? hn, types_of_pairing? hn', hk.renamed, hk.reference]

theorem index_lt_of_mem_nestedOf {p : PairingNumber} (h : id ∈ g.nestedOf p) :
    p.index < g.size := by
  cases hq : g.pairing? p with
  | none => simp [nestedOf, hq] at h
  | some q => exact index_lt_size hq

/-- A pairing that is nested already is not nested again, and none is nested in itself. -/
theorem nest_eq_self {p : PairingNumber} (h : p = id ∨ id ∈ g.nestedOf p) :
    g.nest id (some p) = g := by
  have hp : (g.nest id (some p)).pairings = g.pairings := by
    refine Array.ext_getElem? fun i => ?_
    have hi := g.pairing?_nest id p ⟨i⟩
    cases hx : g.pairing? ⟨i⟩ with
    | none =>
      rw [hx] at hi
      exact hi.trans hx.symm
    | some m =>
      rw [hx, Option.map_some, if_neg] at hi
      · exact hi.trans hx.symm
      · rintro ⟨rfl, hne, hnot⟩
        rcases h with rfl | hm
        · exact hne rfl
        · rw [nestedOf_of_pairing? hx] at hm
          exact hnot hm
  show { g with pairings := (g.nest id (some p)).pairings } = g
  rw [hp]

/-! ## What is bound already -/

/-- A request for a pairing that exists, and is nested where it is asked for, changes nothing. -/
theorem ensure_settled {x : TypeNumber} (y : TypeNumber) {d : Option PairingNumber}
    (hbound : g.ofType? x = some id)
    (hd : ∀ p, d = some p → p.index < g.size ∧ (p = id ∨ id ∈ g.nestedOf p)) :
    (g.ensure x y d).Idle g id := by
  have hrefusal : g.refusal? x y d = none := by
    refine refusal?_eq_none_iff.2 ⟨fun p hp => (hd p hp).1, fun ho => ?_⟩
    rw [hbound] at ho
    cases ho
  obtain ⟨_, he, -⟩ | ⟨j, -, ho, ha, hc⟩ | ⟨-, ho, -⟩ := g.ensure_cases x y d
  · rw [hrefusal] at he
    cases he
  · rw [hbound, Option.some.injEq] at ho
    subst ho
    refine ⟨ha, hc.trans ?_⟩
    cases d with
    | none => rfl
    | some p => exact nest_eq_self (hd p rfl).2
  · rw [hbound] at ho
    cases ho

/-- Binding pairs changes nothing if each of them is bound by a pairing that is nested in the
parent. -/
theorem pairEach_settled {parent : PairingNumber} {pairs : List (TypeNumber × TypeNumber)}
    (h : ∀ pair ∈ pairs, ∃ c ∈ g.nestedOf parent, g.ofType? pair.1 = some c) :
    (pairEach parent pairs g).Idle g [] := by
  induction pairs with
  | nil => exact ⟨rfl, rfl⟩
  | cons pair rest ih =>
    obtain ⟨x, y⟩ := pair
    obtain ⟨c, hc, hbound⟩ := h _ List.mem_cons_self
    have hrest := ih fun pair hpair => h pair (List.mem_cons_of_mem _ hpair)
    have hfirst : (g.ensure x y (some parent)).Idle g c := by
      refine ensure_settled y hbound ?_
      rintro _ ⟨⟩
      exact ⟨index_lt_of_mem_nestedOf hc, .inr hc⟩
    refine hfirst.andThen ⟨?_, hrest.concordance⟩
    rw [Reply.answer_map, hrest.answer]
    simp [Except.map]

end

/-- The new pairings of a concordance that has grown. -/
def newNumbers (first count : Nat) : List PairingNumber :=
  (List.range' first count).map PairingNumber.mk

theorem mem_newNumbers {first count : Nat} {id : PairingNumber} :
    id ∈ newNumbers first count ↔ first ≤ id.index ∧ id.index < first + count := by
  obtain ⟨i⟩ := id
  simp [newNumbers, List.mem_range'_1]

theorem nodup_newNumbers (first count : Nat) : (newNumbers first count).Nodup := by
  have h : (List.range' first count).Nodup := List.nodup_range'
  exact h.map fun _ _ hij => by simpa using hij

/-! ## The invariant -/

/-- How pairings are nested (module doc). -/
structure Linked (g : Concordance) (due : PairingNumber → List (TypeNumber × TypeNumber)) :
    Prop where
  wellFormed : g.WellFormed
  child : ∀ {p q id}, g.pairing? p = some q → id ∈ q.nested →
    ∃ n, g.pairing? id = some n ∧ n.declaring = some p ∧ n.score = q.score
  place : ∀ {id n e}, g.pairing? id = some n → g.renamed.entry? n.renamed = some e →
    e.declaring = n.declaring.map fun p => (g.types p).1
  nested : ∀ {id n}, g.pairing? id = some n → n.nested.map g.types = due id

/-- All nested pairs of a pairing are due, unless it is still pending. -/
def dueBut (g : Concordance) (pending : List PairingNumber) (id : PairingNumber) :
    List (TypeNumber × TypeNumber) :=
  if id ∈ pending then [] else nestedPairs g.renamed g.reference (g.types id)

/-- Every pairing has all its nested pairs bound under it. -/
def Complete (g : Concordance) : Prop := g.Linked (g.dueBut [])

theorem complete_empty (reference renamed : Catalog) : (empty reference renamed).Complete where
  wellFormed := wellFormed_empty _ _
  child h := by simp [empty, pairing?] at h
  place h := by simp [empty, pairing?] at h
  nested h := by simp [empty, pairing?] at h

namespace Linked

variable {g : Concordance} {due due' : PairingNumber → List (TypeNumber × TypeNumber)}

theorem congr (h : g.Linked due) (hdue : ∀ id, id.index < g.size → due id = due' id) :
    g.Linked due' where
  wellFormed := h.wellFormed
  child := h.child
  place := h.place
  nested {id n} hn := by
    rw [h.nested hn]
    exact hdue id (index_lt_size hn)

/-- What is nested in a pairing has it for its declaring pairing, and nothing else has. -/
theorem mem_nested_iff (h : g.Linked due) {p id : PairingNumber} :
    id ∈ g.nestedOf p ↔ ∃ n, g.pairing? id = some n ∧ n.declaring = some p := by
  constructor
  · intro hm
    cases hq : g.pairing? p with
    | none => simp [nestedOf, hq] at hm
    | some q =>
      rw [nestedOf_of_pairing? hq] at hm
      obtain ⟨n, hn, hd, -⟩ := h.child hq hm
      exact ⟨n, hn, hd⟩
  · rintro ⟨n, hn, hd⟩
    obtain ⟨-, q, hq, hm⟩ := h.wellFormed.declaring hn hd
    rw [nestedOf_of_pairing? hq]
    exact hm

/-! ## Binding one type -/

section
variable {k : Concordance} {id : PairingNumber} {m : Pairing}

/-- What was nested in a pairing stays so while the concordance grows. -/
theorem child_grows (h : g.Linked due) (hgrows : Grows g k) (hm : g.pairing? id = some m)
    {c : PairingNumber} (hc : c ∈ m.nested) :
    ∃ n, k.pairing? c = some n ∧ n.declaring = some id ∧ n.score = m.score := by
  obtain ⟨n, hn, h1, h2⟩ := h.child hm hc
  obtain ⟨n', hn', hk⟩ := hgrows.pairing hn
  exact ⟨n', hn', hk.declaring.trans h1, hk.score.trans h2⟩

theorem place_grows (h : g.Linked due) (hgrows : Grows g k) (hm : g.pairing? id = some m)
    {e : CatalogEntry} (he : g.renamed.entry? m.renamed = some e) :
    e.declaring = m.declaring.map fun p => (k.types p).1 := by
  rw [h.place hm he]
  cases hd : m.declaring with
  | none => rfl
  | some p =>
    obtain ⟨-, q, hq, -⟩ := h.wellFormed.declaring hm hd
    rw [Option.map_some, Option.map_some, hgrows.types_eq (index_lt_size hq)]

theorem nested_grows (h : g.Linked due) (hgrows : Grows g k) (hm : g.pairing? id = some m) :
    m.nested.map k.types = due id := by
  rw [← h.nested hm]
  exact List.map_congr_left fun c hc => hgrows.types_eq ((h.wellFormed.nested hm).2.2 c hc)

end

/-- Binding a type under the pairing of its declaring type. -/
theorem bind (h : g.Linked due) {parent : PairingNumber} {q : Pairing}
    {renamed reference : TypeNumber} {e : CatalogEntry} (hq : g.pairing? parent = some q)
    (unbound : g.ofType? renamed = none) (he : g.renamed.entry? renamed = some e)
    (hdeclared : e.declaring = some q.renamed)
    (hreference : g.reference.contains reference = true) :
    ((g.add renamed reference (some parent)).nest g.nextNumber (some parent)).Linked fun id =>
      if id = parent then due parent ++ [(renamed, reference)]
      else if id = g.nextNumber then [] else due id := by
  have hparent := index_lt_size hq
  have hd : ∀ p, some parent = some p → p.index < g.size := by
    rintro p ⟨⟩
    exact hparent
  have hne : parent ≠ g.nextNumber := by
    rintro rfl
    exact Nat.lt_irrefl _ hparent
  have hmove : Move g ((g.add renamed reference (some parent)).nest g.nextNumber (some parent)) :=
    .add unbound (Catalog.contains_iff.2 ⟨e, he⟩) hreference hd
  have hgrows := hmove.grows
  have hp := h.wellFormed.pairing?_bind renamed reference hd
  have hscore : g.inheritedScore (some parent) = q.score := by
    simp [inheritedScore, hq]
  generalize (g.add renamed reference (some parent)).nest g.nextNumber (some parent) = k at *
  have hnew : k.pairing? g.nextNumber =
      some { reference, renamed, score := q.score, declaring := some parent } := by
    rw [hp, if_pos rfl, hscore]
  have htypes : k.types g.nextNumber = (renamed, reference) := types_of_pairing? hnew
  -- a pairing of the new concordance is the new one, the parent, or as it was
  have hcases : ∀ {id n}, k.pairing? id = some n → id ≠ g.nextNumber →
      ∃ m, g.pairing? id = some m ∧ n = if id = parent then
        { m with nested := m.nested ++ [g.nextNumber] } else m := by
    intro id n hn hid
    rw [hp, if_neg hid, Option.map_eq_some_iff] at hn
    obtain ⟨m, hm, rfl⟩ := hn
    exact ⟨m, hm, by simp [eq_comm]⟩
  constructor
  case wellFormed => exact h.wellFormed.move hmove
  case child =>
    intro p r id hr hid
    by_cases hpn : p = g.nextNumber
    · rw [hpn, hnew, Option.some.injEq] at hr
      subst hr
      cases hid
    · obtain ⟨m, hm, rfl⟩ := hcases hr hpn
      by_cases hpp : p = parent
      · subst hpp
        rw [if_pos rfl] at hid ⊢
        rcases List.mem_append.1 hid with hid | hid
        · exact h.child_grows hgrows hm hid
        · rw [List.mem_singleton] at hid
          rw [hq, Option.some.injEq] at hm
          rw [hid, ← hm]
          exact ⟨_, hnew, rfl, rfl⟩
      · rw [if_neg hpp] at hid ⊢
        exact h.child_grows hgrows hm hid
  case place =>
    intro id n f hn hf
    rw [hgrows.renamed] at hf
    by_cases hid : id = g.nextNumber
    · rw [hid, hnew, Option.some.injEq] at hn
      subst hn
      rw [he, Option.some.injEq] at hf
      rw [← hf, hdeclared, Option.map_some, hgrows.types_eq hparent, types_of_pairing? hq]
    · obtain ⟨m, hm, rfl⟩ := hcases hn hid
      have hfm : g.renamed.entry? m.renamed = some f := by
        split at hf <;> exact hf
      rw [h.place_grows hgrows hm hfm]
      split <;> rfl
  case nested =>
    intro id n hn
    by_cases hid : id = g.nextNumber
    · rw [hid, hnew, Option.some.injEq] at hn
      subst hn
      rw [if_neg (hid ▸ hne.symm), if_pos hid]
      rfl
    · obtain ⟨m, hm, rfl⟩ := hcases hn hid
      have hsame := h.nested_grows hgrows hm
      by_cases hpp : id = parent
      · rw [if_pos hpp, if_pos hpp, List.map_append, hsame, List.map_singleton, htypes, hpp]
      · rw [if_neg hpp, if_neg hpp, if_neg hid, hsame]

/-- Binding a type that is declared in no other as a root. -/
theorem withRoot (h : g.Linked due) {renamed reference : TypeNumber} {e : CatalogEntry}
    (score : Float) (unbound : g.ofType? renamed = none)
    (he : g.renamed.entry? renamed = some e) (hdeclared : e.declaring = none)
    (hreference : g.reference.contains reference = true) :
    (g.withRoot renamed reference score).Linked fun id =>
      if id = g.nextNumber then [] else due id := by
  have hmove : Move g (g.withRoot renamed reference score) :=
    .root score unbound (Catalog.contains_iff.2 ⟨e, he⟩) hreference
  have hgrows := hmove.grows
  have hp := g.pairing?_withRoot renamed reference score
  generalize g.withRoot renamed reference score = k at *
  constructor
  case wellFormed => exact h.wellFormed.move hmove
  case child =>
    intro p r id hr hid
    rw [hp] at hr
    split at hr
    · rw [Option.some.injEq] at hr
      subst hr
      cases hid
    · exact h.child_grows hgrows hr hid
  case place =>
    intro id n f hn hf
    rw [hgrows.renamed] at hf
    rw [hp] at hn
    split at hn
    · rw [Option.some.injEq] at hn
      subst hn
      rw [he, Option.some.injEq] at hf
      rw [← hf, hdeclared]
      rfl
    · exact h.place_grows hgrows hn hf
  case nested =>
    intro id n hn
    rw [hp] at hn
    split at hn
    · rename_i hid
      rw [Option.some.injEq] at hn
      subst hn
      rw [if_pos hid]
      rfl
    · rename_i hid
      rw [if_neg hid]
      exact h.nested_grows hgrows hn

/-! ## Binding the types nested in a pairing -/

/-- What is left to be bound under a pairing of the renamed type `outer`. -/
structure Fresh (g : Concordance) (outer : TypeNumber) (pairs : List (TypeNumber × TypeNumber)) :
    Prop where
  unbound : ∀ x ∈ pairs, g.ofType? x.1 = none
  declared : ∀ x ∈ pairs, ∃ e, g.renamed.entry? x.1 = some e ∧ e.declaring = some outer
  known : ∀ x ∈ pairs, g.reference.contains x.2 = true
  distinct : (pairs.map (·.1)).Nodup

/-- A fresh pair gets a pairing of its own under `parent`. -/
theorem ensure_fresh (h : g.Linked due) {parent : PairingNumber} {q : Pairing}
    {renamed reference : TypeNumber} {rest : List (TypeNumber × TypeNumber)}
    (hq : g.pairing? parent = some q) (hf : Fresh g q.renamed ((renamed, reference) :: rest)) :
    ∃ k, (g.ensure renamed reference (some parent)).answer = .ok g.nextNumber ∧
      (g.ensure renamed reference (some parent)).concordance = k ∧ Grows g k ∧
      k.size = g.size + 1 ∧ k.roots = g.roots ∧ Fresh k q.renamed rest ∧
      (∃ n, k.pairing? g.nextNumber = some n ∧ n.score = q.score) ∧
      k.Linked fun id => if id = parent then due parent ++ [(renamed, reference)]
        else if id = g.nextNumber then [] else due id := by
  have hparent : ∀ p, some parent = some p → p.index < g.size := by
    rintro _ ⟨⟩
    exact index_lt_size hq
  have unbound := hf.unbound _ List.mem_cons_self
  obtain ⟨e, he, hdeclared⟩ := hf.declared _ List.mem_cons_self
  have hreference := hf.known _ List.mem_cons_self
  have hdistinct := List.nodup_cons.1 hf.distinct
  have hcontains := Catalog.contains_iff.2 ⟨e, he⟩
  have hgrows := (Move.add unbound hcontains hreference hparent).grows
  refine ⟨(g.add renamed reference (some parent)).nest g.nextNumber (some parent), ?_, ?_, hgrows,
    by simp, rfl, ⟨fun x hx => ?_, fun x hx => ?_, fun x hx => ?_, hdistinct.2⟩, ?_,
    h.bind hq unbound he hdeclared hreference⟩
  · obtain ⟨_, hr, -⟩ | ⟨_, -, ho, -⟩ | ⟨-, -, ha, -⟩ :=
      g.ensure_cases renamed reference (some parent)
    · rw [refusal?_eq_none_iff.2 ⟨hparent, fun _ => ⟨hcontains, hreference⟩⟩] at hr
      cases hr
    · rw [unbound] at ho
      cases ho
    · exact ha
  · obtain ⟨_, hr, -⟩ | ⟨_, -, ho, -⟩ | ⟨-, -, -, hc⟩ :=
      g.ensure_cases renamed reference (some parent)
    · rw [refusal?_eq_none_iff.2 ⟨hparent, fun _ => ⟨hcontains, hreference⟩⟩] at hr
      cases hr
    · rw [unbound] at ho
      cases ho
    · exact hc
  · show (g.add renamed reference (some parent)).ofType? x.1 = none
    rw [ofType?_add, if_neg]
    · exact hf.unbound x (List.mem_cons_of_mem _ hx)
    · intro hxr
      exact hdistinct.1 (List.mem_map.2 ⟨x, hx, hxr⟩)
  · exact hf.declared x (List.mem_cons_of_mem _ hx)
  · exact hf.known x (List.mem_cons_of_mem _ hx)
  · rw [h.wellFormed.pairing?_bind renamed reference hparent, if_pos rfl]
    exact ⟨_, rfl, by simp [inheritedScore, hq]⟩

/-- **Binding fresh pairs** under a pairing: all of them are bound, in order, by new pairings. -/
theorem pairEach_fresh {parent : PairingNumber} {pairs : List (TypeNumber × TypeNumber)}
    {q : Pairing} (h : g.Linked due) (hq : g.pairing? parent = some q)
    (hf : Fresh g q.renamed pairs) :
    ∃ k, (pairEach parent pairs g).answer = .ok (newNumbers g.size pairs.length) ∧
      (pairEach parent pairs g).concordance = k ∧ k.size = g.size + pairs.length ∧
      k.roots = g.roots ∧
      (∀ id n, k.pairing? id = some n → g.size ≤ id.index → n.score = q.score) ∧
      k.Linked fun id => if id = parent then due parent ++ pairs
        else if g.size ≤ id.index then [] else due id := by
  induction pairs generalizing g due q with
  | nil =>
    refine ⟨g, rfl, rfl, rfl, rfl, fun id n hn hid => ?_, h.congr fun id hid => ?_⟩
    · have := index_lt_size hn
      omega
    · rw [List.append_nil, if_neg (Nat.not_le.2 hid)]
      split
      · rename_i hp; rw [hp]
      · rfl
  | cons pair rest ih =>
    obtain ⟨renamed, reference⟩ := pair
    obtain ⟨k, ha, hc, hgrows, hsize, hroots, hf', ⟨n₀, hn₀, hs₀⟩, hlinked⟩ :=
      h.ensure_fresh hq hf
    obtain ⟨q', hq', hk⟩ := hgrows.pairing hq
    obtain ⟨k', ha', hc', hsize', hroots', hscore', hlinked'⟩ :=
      ih hlinked hq' (hk.renamed ▸ hf')
    have hgrows' : Grows k k' := hc' ▸ (pairEach_moves parent rest k).grows
    refine ⟨k', ?_, ?_, ?_, hroots'.trans hroots, fun id n hn hid => ?_,
      hlinked'.congr fun id _ => ?_⟩
    · rw [pairEach, Reply.answer_andThen ha, hc, Reply.answer_map, ha']
      simp only [Except.map, hsize, Nat.lt_succ_self, if_true]
      rfl
    · rw [pairEach, Reply.concordance_andThen ha, hc, Reply.concordance_map, hc']
    · rw [hsize', hsize, List.length_cons]
      omega
    · rcases Nat.lt_or_ge id.index k.size with hlt | hge
      · -- the pairing of the first pair
        obtain rfl : id = g.nextNumber := congrArg PairingNumber.mk (by omega : id.index = g.size)
        rw [(hgrows'.keeps hn₀ hn).score, hs₀]
      · rw [hscore' id n hn hge, hk.score]
    · by_cases hp : id = parent
      · simp [hp]
      · have hnext : id = g.nextNumber ↔ id.index = g.size := by
          obtain ⟨i⟩ := id
          simp [nextNumber]
        simp only [hp, if_false, hsize, hnext]
        grind

end Linked

/-! ## Pairing what is nested in a pairing -/

/-- Pairing nested types binds the nested pairs, none if the counts differ. -/
theorem pairNested_eq {g : Concordance} (hg : g.WellFormed) {id : PairingNumber} {n : Pairing}
    (hn : g.pairing? id = some n) :
    (g.pairNested id).answer =
        (pairEach id (nestedPairs g.renamed g.reference (g.types id)) g).answer ∧
      (g.pairNested id).concordance =
        (pairEach id (nestedPairs g.renamed g.reference (g.types id)) g).concordance := by
  obtain ⟨a, ha⟩ := Catalog.contains_iff.1 (hg.valid hn).2
  obtain ⟨b, hb⟩ := Catalog.contains_iff.1 (hg.valid hn).1
  simp only [pairNested, nestedPairs, types_of_pairing? hn, hn, ha, hb]
  split
  · exact ⟨rfl, rfl⟩
  · exact ⟨rfl, rfl⟩

section
variable {g : Concordance} {due : PairingNumber → List (TypeNumber × TypeNumber)}
  {id : PairingNumber} {n : Pairing}

/-- The nested pairs of a pairing under which nothing is bound are fresh: a type bound elsewhere
would be nested here. -/
theorem Linked.fresh (h : g.Linked due) (hr : g.renamed.Sound) (hc : g.reference.Sound)
    (hn : g.pairing? id = some n) (hempty : n.nested = []) :
    Linked.Fresh g n.renamed (nestedPairs g.renamed g.reference (g.types id)) := by
  rw [types_of_pairing? hn]
  refine ⟨fun x hx => ?_, fun x hx => declaring_renamed hr hx, fun x hx => ?_,
    (nodup_nestedPairs hr hc _).1⟩
  · rw [h.wellFormed.ofType?_eq_none_iff]
    intro j m hm hmx
    obtain ⟨e, he, hed⟩ := declaring_renamed hr hx
    have hplace := h.place hm (hmx ▸ he)
    rw [hed] at hplace
    obtain ⟨p, hp, hpn⟩ := Option.map_eq_some_iff.1 hplace.symm
    obtain ⟨-, q, hq, hj⟩ := h.wellFormed.declaring hm hp
    rw [types_of_pairing? hq] at hpn
    obtain rfl := h.wellFormed.eq_of_renamed hq hn hpn
    rw [hn, Option.some.injEq] at hq
    rw [← hq, hempty] at hj
    cases hj
  · obtain ⟨e, he, -⟩ := declaring_reference hc hx
    exact Catalog.contains_iff.2 ⟨e, he⟩

/-- **One round of the work list** completes a pairing under which nothing is bound. -/
theorem Linked.pairNested_pending (h : g.Linked due) (hr : g.renamed.Sound)
    (hc : g.reference.Sound) (hn : g.pairing? id = some n) (hempty : n.nested = []) :
    ∃ k count, (g.pairNested id).answer = .ok (newNumbers g.size count) ∧
      (g.pairNested id).concordance = k ∧ k.size = g.size + count ∧ k.roots = g.roots ∧
      (∀ x m, k.pairing? x = some m → g.size ≤ x.index → m.score = n.score) ∧
      k.Linked fun x => if x = id then nestedPairs g.renamed g.reference (g.types id)
        else if g.size ≤ x.index then [] else due x := by
  obtain ⟨hanswer, hconc⟩ := pairNested_eq h.wellFormed hn
  obtain ⟨k, ha, hk, hsize, hroots, hscore, hl⟩ := h.pairEach_fresh hn (h.fresh hr hc hn hempty)
  refine ⟨k, _, hanswer.trans ha, hconc.trans hk, hsize, hroots, hscore, hl.congr fun x _ => ?_⟩
  rw [← h.nested hn, hempty]
  rfl

/-- A pairing stays as it is if each of its nested pairs is bound by one that is nested in it. -/
theorem pairNested_settled (hg : g.WellFormed) (hn : g.pairing? id = some n)
    (h : ∀ pair ∈ nestedPairs g.renamed g.reference (g.types id),
      ∃ c ∈ g.nestedOf id, g.ofType? pair.1 = some c) : (g.pairNested id).Idle g [] := by
  obtain ⟨hanswer, hconc⟩ := pairNested_eq hg hn
  have hidle := pairEach_settled h
  exact ⟨hanswer.trans hidle.answer, hconc.trans hidle.concordance⟩

theorem Complete.nested_bound (h : g.Complete) (hn : g.pairing? id = some n) :
    ∀ pair ∈ nestedPairs g.renamed g.reference (g.types id),
      ∃ c ∈ g.nestedOf id, g.ofType? pair.1 = some c := by
  have hd := h.nested hn
  simp only [dueBut, List.not_mem_nil, if_false] at hd
  rw [← hd, nestedOf_of_pairing? hn]
  intro pair hpair
  obtain ⟨c, hc, rfl⟩ := List.mem_map.1 hpair
  obtain ⟨m, hm, -⟩ := h.child hn hc
  rw [types_of_pairing? hm]
  exact ⟨c, hc, h.wellFormed.ofType?_eq_some_iff.2 ⟨m, hm, rfl⟩⟩

/-- A pairing that is complete stays as it is. -/
theorem pairNested_complete (h : g.Complete) (hn : g.pairing? id = some n) :
    (g.pairNested id).Idle g [] :=
  pairNested_settled h.wellFormed hn (h.nested_bound hn)

end

/-! ## The work list -/

/-- What holds before each round: nothing is bound under the pending pairings, they have one score,
and the rounds suffice for them and for the types without a pairing. -/
structure Pending (g : Concordance) (pending : List PairingNumber) (score : Float)
    (rounds : Nat) : Prop where
  linked : g.Linked (g.dueBut pending)
  exist : ∀ id ∈ pending, id.index < g.size
  nodup : pending.Nodup
  scores : ∀ id ∈ pending, ∀ n, g.pairing? id = some n → n.score = score
  enough : pending.length + (g.renamed.size - g.size) ≤ rounds

namespace Pending

variable {g : Concordance} {pending : List PairingNumber} {score : Float} {rounds : Nat}

/-- **One round** completes a pairing; what it creates is pending then. -/
theorem round {next : PairingNumber} (h : g.Pending (next :: pending) score (rounds + 1))
    (hr : g.renamed.Sound) (hc : g.reference.Sound) :
    ∃ k created, (g.pairNested next).answer = .ok created ∧
      (g.pairNested next).concordance = k ∧ k.roots = g.roots ∧
      (∀ id m, k.pairing? id = some m → g.size ≤ id.index → m.score = score) ∧
      k.Pending (created.reverse ++ pending) score rounds := by
  obtain ⟨n, hn⟩ := (g.exists_pairing?_iff next).2 (h.exist next List.mem_cons_self)
  have hempty : n.nested = [] := by
    have hd := h.linked.nested hn
    rwa [dueBut, if_pos List.mem_cons_self, List.map_eq_nil_iff] at hd
  obtain ⟨k, count, ha, hk, hsize, hroots, hnew, hl⟩ :=
    h.linked.pairNested_pending hr hc hn hempty
  have hgrows : Grows g k := hk ▸ (g.pairNested_moves next).grows
  obtain ⟨hnext, hnd⟩ := List.nodup_cons.1 h.nodup
  have hold : ∀ id ∈ pending, id.index < g.size :=
    fun id hid => h.exist id (List.mem_cons_of_mem _ hid)
  have hpend : ∀ id, id ∈ (newNumbers g.size count).reverse ++ pending ↔
      (g.size ≤ id.index ∧ id.index < k.size) ∨ id ∈ pending := by
    intro id
    rw [List.mem_append, List.mem_reverse, mem_newNumbers, hsize]
  have hnewscore : ∀ id m, k.pairing? id = some m → g.size ≤ id.index → m.score = score := by
    intro id m hm hid
    rw [hnew id m hm hid]
    exact h.scores next List.mem_cons_self n hn
  refine ⟨k, newNumbers g.size count, ha, hk, hroots, hnewscore, ?_⟩
  constructor
  case linked =>
    refine hl.congr fun id hid => ?_
    simp only [dueBut, hpend, hgrows.renamed, hgrows.reference]
    by_cases hnew : g.size ≤ id.index
    · have hne : id ≠ next := by
        rintro rfl
        exact absurd (h.exist id List.mem_cons_self) (Nat.not_lt.2 hnew)
      rw [if_neg hne, if_pos hnew, if_pos (.inl ⟨hnew, hid⟩)]
    · rw [hgrows.types_eq (Nat.not_le.1 hnew)]
      by_cases hin : id = next
      · subst hin
        simp [hnew, hnext]
      · simp [hin, hnew]
  case exist =>
    intro id hid
    rcases (hpend id).1 hid with hid | hid
    · exact hid.2
    · exact Nat.lt_of_lt_of_le (hold id hid) hgrows.size_le
  case nodup =>
    refine List.nodup_append.2
      ⟨List.nodup_reverse.2 (nodup_newNumbers _ _), hnd, fun x hx y hy hxy => ?_⟩
    rw [List.mem_reverse, mem_newNumbers, hxy] at hx
    exact absurd (hold y hy) (Nat.not_lt.2 hx.1)
  case scores =>
    intro id hid m hm
    rcases (hpend id).1 hid with hid | hid
    · exact hnewscore id m hm hid.1
    · obtain ⟨m₀, hm₀⟩ := (g.exists_pairing?_iff id).2 (hold id hid)
      rw [(hgrows.keeps hm₀ hm).score]
      exact h.scores id (List.mem_cons_of_mem _ hid) m₀ hm₀
  case enough =>
    have hle : k.size ≤ k.renamed.size := hl.wellFormed.size_le
    have henough := h.enough
    rw [hgrows.renamed] at hle
    rw [List.length_append, List.length_reverse, newNumbers, List.length_map,
      List.length_range', hgrows.renamed]
    rw [List.length_cons] at henough
    omega

/-- **The loop over pending pairings** ends with all of them complete. -/
theorem loop (h : g.Pending pending score rounds) (hr : g.renamed.Sound)
    (hc : g.reference.Sound) :
    ∃ k, (pairPending rounds pending g).answer = .ok () ∧
      (pairPending rounds pending g).concordance = k ∧ k.Complete ∧ k.roots = g.roots ∧
      ∀ id n, k.pairing? id = some n → g.size ≤ id.index → n.score = score := by
  have hdone : ∀ {g : Concordance} id n, g.pairing? id = some n → g.size ≤ id.index →
      n.score = score :=
    fun id n hn hid => absurd (index_lt_size hn) (Nat.not_lt.2 hid)
  induction rounds generalizing pending g with
  | zero =>
    have henough := h.enough
    have hp : pending = [] := List.length_eq_zero_iff.1 (by omega)
    subst hp
    exact ⟨g, rfl, rfl, h.linked, rfl, hdone⟩
  | succ rounds ih =>
    cases pending with
    | nil => exact ⟨g, rfl, rfl, h.linked, rfl, hdone⟩
    | cons next pending =>
      obtain ⟨k, created, ha, hk, hroots, hnew, hpending⟩ := h.round hr hc
      have hgrows : Grows g k := hk ▸ (g.pairNested_moves next).grows
      obtain ⟨k', ha', hk', hcomplete, hroots', hlater⟩ :=
        ih hpending (hgrows.renamed ▸ hr) (hgrows.reference ▸ hc)
      have hgrows' : Grows k k' := hk' ▸ (pairPending_moves rounds _ k).grows
      refine ⟨k', ?_, ?_, hcomplete, hroots'.trans hroots, fun id m hm hid => ?_⟩
      · rw [pairPending, Reply.answer_andThen ha, hk]
        exact ha'
      · rw [pairPending, Reply.concordance_andThen ha, hk]
        exact hk'
      · rcases Nat.lt_or_ge id.index k.size with hlt | hge
        · obtain ⟨m₀, hm₀⟩ := (k.exists_pairing?_iff id).2 hlt
          rw [(hgrows'.keeps hm₀ hm).score]
          exact hnew id m₀ hm₀ hid
        · exact hlater id m hm hge

end Pending

end Concordance

end Concord
