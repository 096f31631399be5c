import Concord.Proofs.Alignment
import Concord.Proofs.Refusals
import Mathlib.Order.WellFounded

/-!
# When nesting is free of cycles

A pairing that exists can be put under any other one, so pairings can come to be nested in each
other. A request does this (`Request.Closes`) when it asks for a pairing under another one that is
already nested in it; only `ensure` and `pairNested` can do so. `run_acyclic_iff`: these are all the
ways to a cycle.

* `attach_acyclic_iff`: putting any number of pairings under one pairing makes a cycle only if one
  of them does so alone.
* `Sprouts.acyclic`: planting makes none. It changes nothing under the pairings that were there, and
  under the new ones the numbers of renamed types grow.
* `Acyclic.depth_induction`: without cycles nothing is nested deeper than there are pairings.
-/

set_option autoImplicit false

namespace Concord

open Relation

namespace Concordance

/-- `c` is nested in `p`. -/
def NestedIn (g : Concordance) (c p : PairingNumber) : Prop := c ∈ g.nestedOf p

/-- No pairing is nested in itself, at any depth. -/
def Acyclic (g : Concordance) : Prop := ∀ id, ¬ TransGen g.NestedIn id id

theorem nestedIn_iff {g : Concordance} {c p : PairingNumber} :
    g.NestedIn c p ↔ ∃ n, g.pairing? p = some n ∧ c ∈ n.nested := by
  unfold NestedIn nestedOf
  cases g.pairing? p <;> simp

theorem NestedIn.index_lt {g : Concordance} {c p : PairingNumber} (h : g.NestedIn c p) :
    p.index < g.size :=
  index_lt_of_mem_nestedOf h

theorem WellFormed.index_lt_of_nestedIn {g : Concordance} (hg : g.WellFormed)
    {c p : PairingNumber} (h : g.NestedIn c p) : c.index < g.size := by
  obtain ⟨n, hn, hc⟩ := nestedIn_iff.1 h
  exact (hg.nested hn).2.2 c hc

theorem transGen_index_lt {g : Concordance} {c p : PairingNumber}
    (h : TransGen g.NestedIn c p) : p.index < g.size := by
  cases h with
  | single h => exact h.index_lt
  | tail _ h => exact h.index_lt

theorem Grows.nestedIn {g h : Concordance} (hgh : Grows g h) {c p : PairingNumber}
    (hc : g.NestedIn c p) : h.NestedIn c p := by
  obtain ⟨n, hn, hm⟩ := nestedIn_iff.1 hc
  obtain ⟨n', hn', hk⟩ := hgh.pairing hn
  exact nestedIn_iff.2 ⟨n', hn', hk.nested.subset hm⟩

theorem Grows.acyclic {g h : Concordance} (hgh : Grows g h) (hh : h.Acyclic) : g.Acyclic :=
  fun id hid => hh id (TransGen.mono (fun _ _ => hgh.nestedIn) _ _ hid)

theorem acyclic_empty (reference renamed : Catalog) : (empty reference renamed).Acyclic := by
  intro id hid
  have := transGen_index_lt hid
  simp [empty, size] at this

/-! ## Putting pairings under one pairing -/

/-- A way that takes one of several new edges into `p` leads to the start of one of them, and on
from `p`. -/
theorem transGen_attach {α : Type} {R S : α → α → Prop} {C : α → Prop} {p : α}
    (hedges : ∀ c b, S c b → R c b ∨ b = p ∧ C c) {x y : α} (h : TransGen S x y) :
    TransGen R x y ∨ ∃ c, C c ∧ ReflTransGen R x c ∧ ReflTransGen R p y := by
  induction h with
  | single hxy =>
    rcases hedges _ _ hxy with hR | ⟨rfl, hC⟩
    · exact .inl (.single hR)
    · exact .inr ⟨x, hC, .refl, .refl⟩
  | @tail y z _ hyz ih =>
    rcases hedges _ _ hyz with hR | ⟨rfl, hC⟩
    · rcases ih with hxy | ⟨c, hC, hxc, hpy⟩
      · exact .inl (hxy.tail hR)
      · exact .inr ⟨c, hC, hxc, hpy.tail hR⟩
    · rcases ih with hxy | ⟨c, hC, hxc, -⟩
      · exact .inr ⟨y, hC, hxy.to_reflTransGen, .refl⟩
      · exact .inr ⟨c, hC, hxc, .refl⟩

/-- **Putting pairings under one pairing** makes a cycle only if it is nested in one of them. -/
theorem attach_acyclic_iff {g k : Concordance} {C : PairingNumber → Prop} {p : PairingNumber}
    (hedges : ∀ c b, k.NestedIn c b ↔ g.NestedIn c b ∨ b = p ∧ c ≠ p ∧ C c) :
    k.Acyclic ↔ g.Acyclic ∧ ∀ c, C c → ¬ TransGen g.NestedIn p c := by
  have hold : TransGen g.NestedIn ≤ TransGen k.NestedIn :=
    TransGen.mono fun c b hcb => (hedges c b).2 (.inl hcb)
  constructor
  · refine fun hk => ⟨fun id hid => hk id (hold _ _ hid), fun c hC hpc => ?_⟩
    by_cases hcp : c = p
    · subst hcp
      exact hk c (hold _ _ hpc)
    · exact hk p ((hold _ _ hpc).tail ((hedges c p).2 (.inr ⟨rfl, hcp, hC⟩)))
  · rintro ⟨hg, hC⟩ id hid
    have hsub : ∀ c b, k.NestedIn c b → g.NestedIn c b ∨ b = p ∧ c ≠ p ∧ C c :=
      fun c b => (hedges c b).1
    rcases transGen_attach hsub hid with hid | ⟨c, ⟨hcp, hc⟩, hidc, hpid⟩
    · exact hg id hid
    · rcases reflTransGen_iff_eq_or_transGen.1 (hpid.trans hidc) with heq | hpc
      · exact hcp heq
      · exact hC c hc hpc

/-! ## What requests nest -/

section
variable {g : Concordance}

/-- A request for a pairing nests it in the declaring one, and nothing else. -/
theorem nestedIn_ensure (hg : g.WellFormed) {x y : TypeNumber} {d : Option PairingNumber}
    {id : PairingNumber} (ha : (g.ensure x y d).answer = .ok id) (c p : PairingNumber) :
    (g.ensure x y d).concordance.NestedIn c p ↔
      g.NestedIn c p ∨ d = some p ∧ c ≠ p ∧ c = id := by
  obtain ⟨_, -, ha', -⟩ | ⟨id', hr, -, ha', hk⟩ | ⟨hr, -, ha', hk⟩ := g.ensure_cases x y d
  · rw [ha'] at ha
    cases ha
  · rw [ha'] at ha
    cases ha
    rw [hk]
    cases d with
    | none => simp
    | some parent =>
      have hparent := (refusal?_eq_none_iff.1 hr).1 parent rfl
      simp only [nestedIn_iff, pairing?_nest, Option.map_eq_some_iff]
      cases hn : g.pairing? p with
      | none =>
        have hne : parent ≠ p := by
          rintro rfl
          rw [pairing?_eq_none_iff] at hn
          omega
        simp [hne]
      | some n =>
        by_cases hp : parent = p
        · subst hp
          by_cases hid : parent = id <;> by_cases hm : id ∈ n.nested <;> simp [hid, hm] <;> grind
        · simp [hp, Ne.symm hp]
  · rw [ha'] at ha
    cases ha
    have hd := (refusal?_eq_none_iff.1 hr).1
    rw [hk]
    simp only [nestedIn_iff, hg.pairing?_bind x y hd]
    by_cases hp : p = g.nextNumber
    · subst hp
      simp
    · simp only [if_neg hp, Option.map_eq_some_iff]
      cases hn : g.pairing? p with
      | none =>
        have hne : d ≠ some p := by
          rintro rfl
          have := hd p rfl
          rw [pairing?_eq_none_iff] at hn
          omega
        simp [hne]
      | some n =>
        by_cases hdp : d = some p
        · simp only [hdp, if_true]
          grind
        · simp [hdp]

/-- Binding pairs under a pairing nests their pairings in it, and nothing else. -/
theorem nestedIn_pairEach (hg : g.WellFormed) {parent : PairingNumber}
    {pairs : List (TypeNumber × TypeNumber)} (hp : parent.index < g.size) (hk : g.Known pairs)
    (c b : PairingNumber) : (pairEach parent pairs g).concordance.NestedIn c b ↔
      g.NestedIn c b ∨ b = parent ∧ c ≠ parent ∧
        ∃ pair ∈ pairs, (pairEach parent pairs g).concordance.ofType? pair.1 = some c := by
  induction pairs generalizing g with
  | nil => simp [pairEach]
  | cons pair rest ih =>
    obtain ⟨x, y⟩ := pair
    obtain ⟨hx, hy⟩ := hk _ List.mem_cons_self
    have hmoves := g.ensure_moves x y (some parent)
    have hgrows := hmoves.grows
    obtain ⟨id, ha⟩ := ensure_ok (d := some parent) (by rintro _ ⟨⟩; exact hp) hx hy
    have hknown : (g.ensure x y (some parent)).concordance.Known rest := by
      intro pair hpair
      rw [hgrows.renamed, hgrows.reference]
      exact hk pair (List.mem_cons_of_mem _ hpair)
    have hrest := (pairEach_moves parent rest (g.ensure x y (some parent)).concordance).grows
    have hbound := hrest.ofType (ofType?_ensure ha)
    rw [pairEach, Reply.concordance_andThen ha, Reply.concordance_map,
      ih (hg.moves hmoves) (Nat.lt_of_lt_of_le hp hgrows.size_le) hknown,
      nestedIn_ensure hg ha]
    simp only [List.mem_cons, exists_eq_or_imp, hbound, Option.some.injEq]
    grind

/-- **Pairing the nested types** of a pairing nests in it what their pairs are bound to. -/
theorem nestedIn_pairNested (hg : g.WellFormed) (hr : g.renamed.Sound) (hc : g.reference.Sound)
    {p : PairingNumber} (hp : p.index < g.size) {k : Concordance}
    (hk : (g.pairNested p).concordance = k) (c b : PairingNumber) :
    k.NestedIn c b ↔ g.NestedIn c b ∨ b = p ∧
      ∃ pair ∈ nestedPairs g.renamed g.reference (g.types p), k.ofType? pair.1 = some c := by
  obtain ⟨n, hn⟩ := (g.exists_pairing?_iff p).2 hp
  have hmoves : g.Moves k := hk ▸ g.pairNested_moves p
  have hedges := nestedIn_pairEach hg hp (known_nestedPairs hr hc (g.types p)) c b
  rw [← (pairNested_eq hg hn).2, hk] at hedges
  rw [hedges]
  refine or_congr_right (and_congr_right fun _ => ⟨fun h => h.2, fun h => ⟨?_, h⟩⟩)
  rintro rfl
  obtain ⟨pair, hpair, hbound⟩ := h
  obtain ⟨m, hm, hmx⟩ := (hg.moves hmoves).ofType?_eq_some_iff.1 hbound
  have hlt := index_lt_of_mem_nestedPairs hr hpair
  rw [← hmoves.grows.types_eq hp, types_of_pairing? hm, hmx] at hlt
  exact Nat.lt_irrefl _ hlt

/-- What is bound to a pairing that was there before was bound to it then. -/
theorem Grows.ofType?_of_index_lt {k : Concordance} (hgk : Grows g k) (hg : g.WellFormed)
    (hk : k.WellFormed) {x : TypeNumber} {c : PairingNumber} (hx : k.ofType? x = some c)
    (hc : c.index < g.size) : g.ofType? x = some c := by
  obtain ⟨n, hn⟩ := (g.exists_pairing?_iff c).2 hc
  obtain ⟨n', hn', rfl⟩ := hk.ofType?_eq_some_iff.1 hx
  exact hg.ofType?_eq_some_iff.2 ⟨n, hn, (hgk.keeps hn hn').renamed.symm⟩

/-- The renamed type of a new pairing was unbound. -/
theorem Grows.unbound {k : Concordance} (hgk : Grows g k) (hg : g.WellFormed) (hk : k.WellFormed)
    {id : PairingNumber} (hnew : g.size ≤ id.index) (hid : id.index < k.size) :
    g.ofType? (k.types id).1 = none := by
  obtain ⟨n, hn⟩ := (k.exists_pairing?_iff id).2 hid
  rw [types_of_pairing? hn, Option.eq_none_iff_forall_ne_some]
  intro c hc
  obtain ⟨m, hm, -⟩ := hg.ofType?_eq_some_iff.1 hc
  have hbound := hgk.ofType hc
  rw [hk.ofType?_eq_some_iff.2 ⟨n, hn, rfl⟩, Option.some.injEq] at hbound
  have := index_lt_size hm
  rw [hbound] at hnew
  omega

theorem ensure_acyclic_iff (hg : g.WellFormed) {x y : TypeNumber} {p id : PairingNumber}
    (ha : (g.ensure x y (some p)).answer = .ok id) :
    (g.ensure x y (some p)).concordance.Acyclic ↔
      g.Acyclic ∧ ∀ c, g.ofType? x = some c → ¬ TransGen g.NestedIn p c := by
  have hmoves := g.ensure_moves x y (some p)
  have hedges : ∀ c b, (g.ensure x y (some p)).concordance.NestedIn c b ↔
      g.NestedIn c b ∨ b = p ∧ c ≠ p ∧ c = id := by
    intro c b
    rw [nestedIn_ensure hg ha]
    grind
  rw [attach_acyclic_iff hedges]
  refine and_congr_right fun _ => ⟨fun h c hc => h c ?_, fun h c hc hpc => ?_⟩
  · have := hmoves.grows.ofType hc
    rw [ofType?_ensure ha, Option.some.injEq] at this
    exact this.symm
  · subst hc
    exact h c (hmoves.grows.ofType?_of_index_lt hg (hg.moves hmoves) (ofType?_ensure ha)
      (transGen_index_lt hpc)) hpc

theorem pairNested_acyclic_iff (hg : g.WellFormed) (hr : g.renamed.Sound) (hc : g.reference.Sound)
    {p : PairingNumber} (hp : p.index < g.size) :
    (g.pairNested p).concordance.Acyclic ↔ g.Acyclic ∧
      ∀ pair ∈ nestedPairs g.renamed g.reference (g.types p), ∀ c, g.ofType? pair.1 = some c →
        ¬ TransGen g.NestedIn p c := by
  obtain ⟨n, hn⟩ := (g.exists_pairing?_iff p).2 hp
  rw [(pairNested_eq hg hn).2,
    attach_acyclic_iff (nestedIn_pairEach hg hp (known_nestedPairs hr hc _))]
  have hmoves := pairEach_moves p (nestedPairs g.renamed g.reference (g.types p)) g
  refine and_congr_right fun _ => ⟨fun h pair hpair c ho => ?_, fun h c hC hpc => ?_⟩
  · exact h c ⟨pair, hpair, hmoves.grows.ofType ho⟩
  · obtain ⟨pair, hpair, ho⟩ := hC
    exact h pair hpair c (hmoves.grows.ofType?_of_index_lt hg (hg.moves hmoves) ho
      (transGen_index_lt hpc)) hpc

end

/-! ## Planting -/

/-- `k` is `g` with new pairings, under which the numbers of renamed types grow. Under the old ones
nothing has changed. -/
structure Sprouts (g k : Concordance) : Prop where
  wellFormed : k.WellFormed
  grows : Grows g k
  edges : ∀ {c b}, k.NestedIn c b → g.NestedIn c b ∨
    g.size ≤ b.index ∧ (k.types b).1.index < (k.types c).1.index

section
variable {g k : Concordance}

theorem Sprouts.acyclic (h : Sprouts g k) (hg : g.WellFormed) (hacyclic : g.Acyclic) :
    k.Acyclic := by
  -- a way that has left the old pairings does not come back to them
  have hway : ∀ {c b}, TransGen k.NestedIn c b → TransGen g.NestedIn c b ∨
      g.size ≤ b.index ∧ (c.index < g.size ∨ (k.types b).1.index < (k.types c).1.index) := by
    intro c b hcb
    induction hcb with
    | single hcb =>
      rcases h.edges hcb with hold | ⟨hb, hlt⟩
      · exact .inl (.single hold)
      · exact .inr ⟨hb, .inr hlt⟩
    | tail hcb hbd ih =>
      rcases ih with hold | ⟨hb, hlt⟩ <;> rcases h.edges hbd with hbd | ⟨hd, hlt'⟩
      · exact .inl (hold.tail hbd)
      · obtain ⟨a, hca, -⟩ := TransGen.head'_iff.1 hold
        exact .inr ⟨hd, .inl (hg.index_lt_of_nestedIn hca)⟩
      · have := hg.index_lt_of_nestedIn hbd
        omega
      · exact .inr ⟨hd, by omega⟩
  intro id hid
  rcases hway hid with hold | ⟨hnew, hlt⟩
  · exact hacyclic id hold
  · omega

theorem Sprouts.withRoot (hg : g.WellFormed) {x y : TypeNumber} (score : Float)
    (unbound : g.ofType? x = none) (hx : g.renamed.contains x = true)
    (hy : g.reference.contains y = true) : Sprouts g (g.withRoot x y score) := by
  have hmove : Move g (g.withRoot x y score) := .root score unbound hx hy
  refine ⟨hg.move hmove, hmove.grows, fun {c b} hcb => .inl ?_⟩
  obtain ⟨n, hn, hc⟩ := nestedIn_iff.1 hcb
  rw [pairing?_withRoot] at hn
  split at hn
  · cases hn
    cases hc
  · exact nestedIn_iff.2 ⟨n, hn, hc⟩

theorem Sprouts.pairNested (h : Sprouts g k) (hr : g.renamed.Sound) (hc : g.reference.Sound)
    {p : PairingNumber} (hnew : g.size ≤ p.index) (hp : p.index < k.size) :
    Sprouts g (k.pairNested p).concordance := by
  have hkr : k.renamed.Sound := h.grows.renamed ▸ hr
  have hkc : k.reference.Sound := h.grows.reference ▸ hc
  have hmoves := k.pairNested_moves p
  have hgrows := hmoves.grows
  have hwf := h.wellFormed.moves hmoves
  refine ⟨hwf, h.grows.trans hgrows, fun {c b} hcb => ?_⟩
  rcases (nestedIn_pairNested h.wellFormed hkr hkc hp rfl c b).1 hcb with
    hold | ⟨rfl, pair, hpair, hbound⟩
  · rcases h.edges hold with hold' | ⟨hb, hlt⟩
    · exact .inl hold'
    · rw [hgrows.types_eq hold.index_lt,
        hgrows.types_eq (h.wellFormed.index_lt_of_nestedIn hold)]
      exact .inr ⟨hb, hlt⟩
  · obtain ⟨m, hm, hmx⟩ := hwf.ofType?_eq_some_iff.1 hbound
    have hlt := index_lt_of_mem_nestedPairs hkr hpair
    rw [hgrows.types_eq hp, types_of_pairing? hm, hmx]
    exact .inr ⟨hnew, hlt⟩

theorem Sprouts.pairPending (h : Sprouts g k) (hr : g.renamed.Sound) (hc : g.reference.Sound)
    {rounds : Nat} {pending : List PairingNumber}
    (hp : ∀ id ∈ pending, g.size ≤ id.index ∧ id.index < k.size) :
    Sprouts g (pairPending rounds pending k).concordance := by
  induction rounds generalizing pending k with
  | zero => exact h
  | succ rounds ih =>
    cases pending with
    | nil => exact h
    | cons next pending =>
      obtain ⟨hnew, hnext⟩ := hp next List.mem_cons_self
      have hgrows := (k.pairNested_moves next).grows
      obtain ⟨created, ha, hcreated⟩ := pairNested_ok h.wellFormed (h.grows.renamed ▸ hr)
        (h.grows.reference ▸ hc) hnext
      rw [Concordance.pairPending, Reply.concordance_andThen ha]
      refine ih (h.pairNested hr hc hnew hnext) fun id hid => ?_
      rcases List.mem_append.1 hid with hid | hid
      · obtain ⟨hge, hlt⟩ := hcreated id (List.mem_reverse.1 hid)
        exact ⟨Nat.le_trans h.grows.size_le hge, hlt⟩
      · obtain ⟨hge, hlt⟩ := hp id (List.mem_cons_of_mem _ hid)
        exact ⟨hge, Nat.lt_of_lt_of_le hlt hgrows.size_le⟩

/-- **Planting makes no cycle.** -/
theorem Acyclic.plant (h : g.Acyclic) (hg : g.WellFormed) (hr : g.renamed.Sound)
    (hc : g.reference.Sound) (x y : TypeNumber) (score : Float) :
    (g.plant x y score).concordance.Acyclic := by
  obtain ⟨_, -, hk, -⟩ | ⟨_, -, -, -, hk⟩ | ⟨-, hrefusal, ho, -, hk⟩ := g.plant_cases x y score
  · rwa [hk]
  · rwa [hk]
  · rw [hk]
    obtain ⟨hx, hy⟩ := (refusal?_eq_none_iff.1 hrefusal).2 ho
    refine ((Sprouts.withRoot hg score ho hx hy).pairPending hr hc ?_).acyclic hg h
    simp [Concordance.withRoot, nextNumber]

theorem Acyclic.plantEach (h : g.Acyclic) (hg : g.WellFormed) (hr : g.renamed.Sound)
    (hc : g.reference.Sound) (score : Float) (references : List TypeNumber) :
    (plantEach score references g).concordance.Acyclic := by
  induction references generalizing g with
  | nil => exact h
  | cons y rest ih =>
    rw [Concordance.plantEach]
    split
    · exact ih h hg hr hc
    · rename_i x _
      have hmoves := g.plant_moves x y score
      have hgrows := hmoves.grows
      refine Reply.andThen_keeps (h.plant hg hr hc x y score) fun _ _ => ?_
      exact ih (h.plant hg hr hc x y score) (hg.moves hmoves) (hgrows.renamed ▸ hr)
        (hgrows.reference ▸ hc)

end

end Concordance

/-! ## Requests -/

/-- A request for a pairing that exists, under another one that is nested in it. -/
def Request.Closes (g : Concordance) : Request → Prop
  | ensure x _ (some p) => ∃ id, g.ofType? x = some id ∧ TransGen g.NestedIn p id
  | pairNested p => ∃ pair ∈ nestedPairs g.renamed g.reference (g.types p), ∃ id,
      g.ofType? pair.1 = some id ∧ TransGen g.NestedIn p id
  | _ => False

namespace Concordance

section
variable {g : Concordance}

theorem not_closes_of_refused (hg : g.WellFormed) {q : Request} {e : Refusal}
    (h : Refused g q e) : ¬ q.Closes g := by
  have hnested : ∀ {p id}, TransGen g.NestedIn p id → p.index < g.size := by
    intro p id hpid
    obtain ⟨a, hpa, -⟩ := TransGen.head'_iff.1 hpid
    exact hg.index_lt_of_nestedIn hpa
  cases h with
  | noDeclaring missing =>
    rintro ⟨id, -, hpid⟩
    exact Nat.not_lt.2 missing (hnested hpid)
  | @noRenamed _ _ d _ unbound =>
    cases d with
    | none => exact fun h => h
    | some p =>
      rintro ⟨id, ho, -⟩
      rw [unbound] at ho
      cases ho
  | @noReference _ _ d _ unbound =>
    cases d with
    | none => exact fun h => h
    | some p =>
      rintro ⟨id, ho, -⟩
      rw [unbound] at ho
      cases ho
  | noPairing missing =>
    rintro ⟨_, _, _, -, hpid⟩
    exact Nat.not_lt.2 missing (hnested hpid)
  | _ => exact fun h => h

/-- **One request** makes a cycle only as it closes one. -/
theorem apply_acyclic_iff (hg : g.WellFormed) (hr : g.renamed.Sound) (hc : g.reference.Sound)
    (q : Request) : (q.apply g).Acyclic ↔ g.Acyclic ∧ ¬ q.Closes g := by
  cases hq : q.refusal? g with
  | some e =>
    have hnot := not_closes_of_refused hg ((refusal?_eq_some_iff hg hr hc).1 hq)
    simp [apply_eq_self_of_refused hg hr hc hq, hnot]
  | none =>
    have hgrows := (q.apply_moves g).grows
    have hkeep : (g.Acyclic → (q.apply g).Acyclic) → ¬ q.Closes g →
        ((q.apply g).Acyclic ↔ g.Acyclic ∧ ¬ q.Closes g) :=
      fun h hnot => ⟨fun hk => ⟨hgrows.acyclic hk, hnot⟩, fun hk => h hk.1⟩
    cases q with
    | ensure x y d =>
      obtain ⟨id, ha⟩ := Reply.refusal?_eq_none_iff.1 hq
      cases d with
      | none =>
        have hedges : (g.ensure x y none).concordance.NestedIn = g.NestedIn := by
          funext c p
          simp [nestedIn_ensure hg ha]
        refine hkeep (fun h => ?_) (fun h => h)
        rwa [Request.apply, Acyclic, hedges]
      | some p =>
        simp only [Request.apply, Request.Closes, ensure_acyclic_iff hg ha]
        simp
    | pairNested p =>
      have hp : p.index < g.size := by
        refine Nat.lt_of_not_le fun hle => ?_
        rw [(refusal?_eq_some_iff hg hr hc).2 (.noPairing hle)] at hq
        cases hq
      simp only [Request.apply, Request.Closes, pairNested_acyclic_iff hg hr hc hp]
      simp
    | plant x y score => exact hkeep (fun h => h.plant hg hr hc x y score) (fun h => h)
    | plantByName a b score =>
      refine hkeep (fun h => ?_) (fun h => h)
      simp only [Request.apply, plantByName]
      split
      · exact h
      · exact h
      · exact h.plant hg hr hc _ _ _
    | plantNamesakes score =>
      refine hkeep (fun h => ?_) (fun h => h)
      rw [Request.apply, concordance_plantNamesakes]
      exact h.plantEach hg hr hc score _

/-- **A run** ends without cycles just if no request of it closes one. -/
theorem run_acyclic_iff (hg : g.WellFormed) (hr : g.renamed.Sound) (hc : g.reference.Sound)
    (qs : List Request) : (g.run qs).Acyclic ↔ g.Acyclic ∧
      ∀ before q after, qs = before ++ q :: after → ¬ q.Closes (g.run before) := by
  induction qs generalizing g with
  | nil => simp [run]
  | cons q qs ih =>
    have hmoves := q.apply_moves g
    have hgrows := hmoves.grows
    rw [run, ih (hg.moves hmoves) (hgrows.renamed ▸ hr) (hgrows.reference ▸ hc),
      apply_acyclic_iff hg hr hc, and_assoc]
    refine and_congr_right fun _ => ⟨?_, fun h => ⟨?_, ?_⟩⟩
    · rintro ⟨hq, hqs⟩ before r after heq
      rcases List.cons_eq_append_iff.1 heq with ⟨rfl, hr⟩ | ⟨before, rfl, hqs'⟩
      · cases hr
        exact hq
      · exact hqs before r after hqs'
    · exact h [] q qs rfl
    · rintro before r after rfl
      exact h (q :: before) r after rfl

end

theorem acyclic_of_index_lt {g : Concordance}
    (h : ∀ {c p}, g.NestedIn c p → p.index < c.index) : g.Acyclic := by
  have hlt : ∀ {c p}, TransGen g.NestedIn c p → p.index < c.index := by
    intro c p hcp
    induction hcp with
    | single hcp => exact h hcp
    | tail _ hbp ih => exact Nat.lt_trans (h hbp) ih
  exact fun id hid => Nat.lt_irrefl _ (hlt hid)

theorem Complete.acyclic {g : Concordance} (h : g.Complete) : g.Acyclic :=
  acyclic_of_index_lt fun hcp => h.index_lt (h.mem_nested_iff.1 hcp)

/-! ## Depth -/

/-- **Without cycles nothing is nested deeper than there are pairings**: what holds of a pairing as
soon as it holds one level below of all that is nested in it holds at that depth. -/
theorem Acyclic.depth_induction {g : Concordance} (h : g.Acyclic)
    {P : Nat → PairingNumber → Prop} (hmissing : ∀ depth id, g.size ≤ id.index → P depth id)
    (hstep : ∀ depth id, (∀ c, g.NestedIn c id → P depth c) → P (depth + 1) id)
    (id : PairingNumber) : P g.size id := by
  -- the pairings above `id` are distinct, so there are no more of them than pairings
  have hbelow : ∀ (depth : Nat) (id : PairingNumber) (above : List PairingNumber), above.Nodup →
      (∀ a ∈ above, TransGen g.NestedIn id a) → g.size ≤ above.length + depth → P depth id := by
    intro depth
    induction depth with
    | zero =>
      intro id above hnd habove hlen
      rcases Nat.lt_or_ge id.index g.size with hlt | hge
      · have hid : id ∉ above := fun hm => h id (habove id hm)
        have hsub : id :: above ⊆ g.numbers := by
          intro a ha
          rw [mem_numbers]
          rcases List.mem_cons.1 ha with rfl | ha
          · exact hlt
          · exact transGen_index_lt (habove a ha)
        have hle := (List.subperm_of_subset (List.nodup_cons.2 ⟨hid, hnd⟩) hsub).length_le
        simp only [List.length_cons, numbers, List.length_map, List.length_range] at hle
        omega
      · exact hmissing 0 id hge
    | succ depth ih =>
      intro id above hnd habove hlen
      refine hstep depth id fun c hc => ih c (id :: above) ?_ ?_ ?_
      · exact List.nodup_cons.2 ⟨fun hm => h id (habove id hm), hnd⟩
      · intro a ha
        rcases List.mem_cons.1 ha with rfl | ha
        · exact .single hc
        · exact (habove a ha).head hc
      · rw [List.length_cons]
        omega
  exact hbelow g.size id [] .nil (by simp) (by simp)

theorem acyclic_iff_wellFounded {g : Concordance} : g.Acyclic ↔ WellFounded g.NestedIn := by
  refine ⟨fun h => ⟨?_⟩, fun h id => h.transGen.irrefl.irrefl id⟩
  refine h.depth_induction (P := fun _ id => Acc g.NestedIn id) (fun _ id hid => ⟨id, ?_⟩)
    fun _ id hc => ⟨id, hc⟩
  intro c hc
  have := hc.index_lt
  omega

end Concordance

end Concord
