import Concord.Proofs.Nesting

/-!
# What planting links

A pairing is fully linked when each of its nested pairs is bound by a pairing that is nested in it.
Planting links every pairing that it creates (`Subtree.loop`), but none that it finds: a renamed
type that was bound before, be it the one planted or one nested in it, is left as it was, with all
that is nested in it. `Meets g pair id` says that planting `pair` comes upon the pairing `id`.

`plant_fullyLinked_iff`: all is linked under the planted pair just if all was linked under what it
meets. Before the first `ensure` everything is (`Complete.fullyLinked`).
-/

set_option autoImplicit false

namespace Concord

namespace Concordance

open Relation

/-- Every nested pair of a pairing is bound by a pairing that is nested in it. -/
def FullyLinked (g : Concordance) (id : PairingNumber) : Prop :=
  ∀ pair ∈ nestedPairs g.renamed g.reference (g.types id),
    ∃ c ∈ g.nestedOf id, g.ofType? pair.1 = some c

instance (g : Concordance) (id : PairingNumber) : Decidable (g.FullyLinked id) :=
  inferInstanceAs (Decidable (∀ pair ∈ _, ∃ c ∈ _, _ = _))

/-- Planting a pair of types comes upon a pairing: the one of the renamed type, or, if this is
unbound, one that some nested pair comes upon. -/
inductive Meets (g : Concordance) : TypeNumber × TypeNumber → PairingNumber → Prop
  | bound {pair : TypeNumber × TypeNumber} {id : PairingNumber}
      (hbound : g.ofType? pair.1 = some id) : Meets g pair id
  | nested {pair sub : TypeNumber × TypeNumber} {id : PairingNumber}
      (unbound : g.ofType? pair.1 = none)
      (hsub : sub ∈ nestedPairs g.renamed g.reference pair) (hmeets : Meets g sub id) :
      Meets g pair id

theorem meets_of_bound {g : Concordance} {pair : TypeNumber × TypeNumber} {root : PairingNumber}
    (hbound : g.ofType? pair.1 = some root) {id : PairingNumber} : g.Meets pair id ↔ id = root := by
  constructor
  · rintro (⟨hid⟩ | ⟨unbound, -, -⟩)
    · rw [hbound, Option.some.injEq] at hid
      exact hid.symm
    · rw [hbound] at unbound
      cases unbound
  · rintro rfl
    exact .bound hbound

theorem Meets.index_lt {g : Concordance} (hg : g.WellFormed) {pair : TypeNumber × TypeNumber}
    {id : PairingNumber} (h : g.Meets pair id) : id.index < g.size := by
  induction h with
  | bound hbound =>
    obtain ⟨n, hn, -⟩ := hg.ofType?_eq_some_iff.1 hbound
    exact index_lt_size hn
  | nested _ _ _ ih => exact ih

theorem WellFormed.index_lt_of_below {g : Concordance} (hg : g.WellFormed) {c p : PairingNumber}
    (hp : p.index < g.size) (h : ReflTransGen g.NestedIn c p) : c.index < g.size := by
  rcases ReflTransGen.cases_head h with rfl | ⟨q, hcq, -⟩
  · exact hp
  · exact hg.index_lt_of_nestedIn hcq

section
variable {g k : Concordance}

theorem Grows.fullyLinked (hgk : Grows g k) {id : PairingNumber} (hid : id.index < g.size)
    (h : g.FullyLinked id) : k.FullyLinked id := by
  intro pair hpair
  rw [hgk.renamed, hgk.reference, hgk.types_eq hid] at hpair
  obtain ⟨c, hc, hbound⟩ := h pair hpair
  exact ⟨c, hgk.nestedIn hc, hgk.ofType hbound⟩

/-- Nothing changes under the pairings that were there. -/
theorem Sprouts.fullyLinked_iff (h : Sprouts g k) (hg : g.WellFormed) {id : PairingNumber}
    (hid : id.index < g.size) : k.FullyLinked id ↔ g.FullyLinked id := by
  refine ⟨fun hk pair hpair => ?_, h.grows.fullyLinked hid⟩
  rw [← h.grows.renamed, ← h.grows.reference, ← h.grows.types_eq hid] at hpair
  obtain ⟨c, hc, hbound⟩ := hk pair hpair
  rcases h.edges hc with hc | ⟨hnew, -⟩
  · exact ⟨c, hc, h.grows.ofType?_of_index_lt hg h.wellFormed hbound (hg.index_lt_of_nestedIn hc)⟩
  · omega

theorem pairNested_new (hg : g.WellFormed) (hr : g.renamed.Sound) (hc : g.reference.Sound)
    {p : PairingNumber} (hp : p.index < g.size) (hk : (g.pairNested p).concordance = k) :
    (g.pairNested p).answer = .ok (newNumbers g.size (k.size - g.size)) ∧ k.FullyLinked p ∧
      ∀ id : PairingNumber, g.size ≤ id.index → id.index < k.size →
        k.types id ∈ nestedPairs g.renamed g.reference (g.types p) := by
  obtain ⟨n, hn⟩ := (g.exists_pairing?_iff p).2 hp
  obtain ⟨ha, hk'⟩ := pairNested_eq hg hn
  have hgrows : Grows g k := hk ▸ (g.pairNested_moves p).grows
  obtain ⟨hanswer, hbound, htypes⟩ :=
    pairEach_new hg hp (known_nestedPairs hr hc (g.types p)) (hk'.symm.trans hk)
  refine ⟨ha.trans hanswer, fun pair hpair => ?_, htypes⟩
  rw [hgrows.renamed, hgrows.reference, hgrows.types_eq hp] at hpair
  obtain ⟨c, hc'⟩ := hbound pair hpair
  exact ⟨c, (nestedIn_pairNested hg hr hc hp hk c p).2 (.inr ⟨rfl, pair, hpair, hc'⟩), hc'⟩

end

/-! ## The work list -/

/-- `k` is `g` with the pair `start` as a new root and new pairings under it. All of them are
linked but those that are pending. -/
structure Subtree (g : Concordance) (start : TypeNumber × TypeNumber) (k : Concordance)
    (pending : List PairingNumber) : Prop extends Sprouts g k where
  root : g.size < k.size ∧ k.types g.nextNumber = start
  /-- Under a new pairing its nested pairs are bound. -/
  nested : ∀ {c b}, k.NestedIn c b → g.size ≤ b.index →
    ∃ pair ∈ nestedPairs k.renamed k.reference (k.types b),
      k.ofType? pair.1 = some c ∧ (g.size ≤ c.index → k.types c = pair)
  below : ∀ id : PairingNumber, g.size ≤ id.index → id.index < k.size →
    ReflTransGen k.NestedIn id g.nextNumber
  waiting : ∀ id ∈ pending, g.size ≤ id.index ∧ id.index < k.size
  linked : ∀ id : PairingNumber, g.size ≤ id.index → id.index < k.size → id ∉ pending →
    k.FullyLinked id

namespace Subtree

variable {g k : Concordance} {start : TypeNumber × TypeNumber} {pending : List PairingNumber}

theorem withRoot (hg : g.WellFormed) {x y : TypeNumber} (score : Float)
    (unbound : g.ofType? x = none) (hx : g.renamed.contains x = true)
    (hy : g.reference.contains y = true) :
    Subtree g (x, y) (g.withRoot x y score) [g.nextNumber] := by
  have hsize : (g.withRoot x y score).size = g.size + 1 := by simp [Concordance.withRoot]
  have hnew := g.pairing?_withRoot x y score g.nextNumber
  rw [if_pos rfl] at hnew
  have heq : ∀ id : PairingNumber, g.size ≤ id.index → id.index < (g.withRoot x y score).size →
      id = g.nextNumber := by
    intro id hge hlt
    exact congrArg PairingNumber.mk (by omega : id.index = g.size)
  refine ⟨.withRoot hg score unbound hx hy, ⟨by omega, types_of_pairing? hnew⟩, ?_, ?_, ?_, ?_⟩
  · intro c b hcb hb
    rw [heq b hb hcb.index_lt, NestedIn, nestedOf_of_pairing? hnew] at hcb
    cases hcb
  · intro id hge hlt
    rw [heq id hge hlt]
  · intro id hid
    rw [List.mem_singleton] at hid
    simp [hid, hsize, nextNumber]
  · intro id hge hlt hid
    exact absurd (List.mem_singleton.2 (heq id hge hlt)) hid

/-- The renamed type of a new pairing was unbound. -/
theorem unbound (h : Subtree g start k pending) {id : PairingNumber} (hnew : g.size ≤ id.index)
    (hid : id.index < k.size) (hg : g.WellFormed) : g.ofType? (k.types id).1 = none :=
  h.grows.unbound hg h.wellFormed hnew hid

/-- Under the pairings that were there is nothing new. -/
theorem new_of_nestedIn (h : Subtree g start k pending) (hg : g.WellFormed) {c p : PairingNumber}
    (hcp : k.NestedIn c p) (hnew : g.size ≤ c.index) : g.size ≤ p.index := by
  rcases h.edges hcp with hold | ⟨hp, -⟩
  · have := hg.index_lt_of_nestedIn hold
    omega
  · exact hp

theorem parent (h : Subtree g start k pending) (hg : g.WellFormed) {id : PairingNumber}
    (hnew : g.size ≤ id.index) (hid : id.index < k.size) (hroot : id ≠ g.nextNumber) :
    ∃ p : PairingNumber, g.size ≤ p.index ∧ k.NestedIn id p := by
  rcases ReflTransGen.cases_head (h.below id hnew hid) with heq | ⟨p, hp, -⟩
  · exact absurd heq hroot
  · exact ⟨p, h.new_of_nestedIn hg hp hnew, hp⟩

/-- A new pairing of a nested type binds the nested pair, because a type is declared once. -/
theorem types_eq (h : Subtree g start k pending) (hg : g.WellFormed) (hr : k.renamed.Sound)
    (hc : k.reference.Sound) (hstart : ∃ e, k.renamed.entry? start.1 = some e ∧ e.declaring = none)
    {p c : PairingNumber} (hp : p.index < k.size) {pair : TypeNumber × TypeNumber}
    (hpair : pair ∈ nestedPairs k.renamed k.reference (k.types p))
    (hbound : k.ofType? pair.1 = some c) (hnew : g.size ≤ c.index) : k.types c = pair := by
  obtain ⟨m, hm, hmx⟩ := h.wellFormed.ofType?_eq_some_iff.1 hbound
  obtain ⟨e, he, hed⟩ := declaring_renamed hr hpair
  have hfst : (k.types c).1 = pair.1 := by rw [types_of_pairing? hm, hmx]
  have hroot : c ≠ g.nextNumber := by
    rintro rfl
    obtain ⟨e', he', hed'⟩ := hstart
    rw [← h.root.2, hfst, he, Option.some.injEq] at he'
    rw [he', hed'] at hed
    cases hed
  obtain ⟨q, hqnew, hcq⟩ := h.parent hg hnew (index_lt_size hm) hroot
  obtain ⟨pair', hpair', -, htypes⟩ := h.nested hcq hqnew
  obtain ⟨e', he', hed'⟩ := declaring_renamed hr hpair'
  rw [← htypes hnew, hfst, he, Option.some.injEq] at he'
  rw [← he', hed, Option.some.injEq] at hed'
  obtain ⟨n, hn⟩ := (k.exists_pairing?_iff p).2 hp
  obtain ⟨n', hn'⟩ := (k.exists_pairing?_iff q).2 hcq.index_lt
  have hpq : p = q := by
    rw [types_of_pairing? hn, types_of_pairing? hn'] at hed'
    exact h.wellFormed.eq_of_renamed hn hn' hed'
  subst hpq
  refine List.inj_on_of_nodup_map (nodup_nestedPairs hr hc (k.types p)).1 ?_ hpair hfst
  rw [htypes hnew]
  exact hpair'

/-- **One round** links a pending pairing. What it creates is pending then. -/
theorem round {next : PairingNumber} (h : Subtree g start k (next :: pending)) (hg : g.WellFormed)
    (hr : g.renamed.Sound) (hc : g.reference.Sound)
    (hstart : ∃ e, g.renamed.entry? start.1 = some e ∧ e.declaring = none) :
    ∃ created, (k.pairNested next).answer = .ok created ∧
      created.length + k.size = (k.pairNested next).concordance.size ∧
      Subtree g start (k.pairNested next).concordance (created.reverse ++ pending) := by
  have hkr : k.renamed.Sound := h.grows.renamed ▸ hr
  have hkc : k.reference.Sound := h.grows.reference ▸ hc
  obtain ⟨hnextnew, hnext⟩ := h.waiting next List.mem_cons_self
  have hgrows := (k.pairNested_moves next).grows
  have hsprouts := h.toSprouts.pairNested hr hc hnextnew hnext
  obtain ⟨hanswer, hlinked, htypes⟩ := pairNested_new h.wellFormed hkr hkc hnext rfl
  have hedges := nestedIn_pairNested h.wellFormed hkr hkc hnext rfl
  generalize (k.pairNested next).concordance = k' at *
  have hle := h.grows.size_le
  have hle' := hgrows.size_le
  refine ⟨_, hanswer, by simp [newNumbers]; omega, ?_⟩
  constructor
  case toSprouts => exact hsprouts
  case root =>
    have hroot : k'.types g.nextNumber = k.types g.nextNumber := hgrows.types_eq h.root.1
    exact ⟨Nat.lt_of_lt_of_le h.root.1 hle', hroot.trans h.root.2⟩
  case nested =>
    intro c b hcb hb
    rcases (hedges c b).1 hcb with hold | ⟨rfl, pair, hpair, hbound⟩
    · obtain ⟨pair, hpair, hbound, htc⟩ := h.nested hold hb
      rw [hgrows.renamed, hgrows.reference, hgrows.types_eq hold.index_lt,
        hgrows.types_eq (h.wellFormed.index_lt_of_nestedIn hold)]
      exact ⟨pair, hpair, hgrows.ofType hbound, htc⟩
    · rw [hgrows.renamed, hgrows.reference, hgrows.types_eq hnext]
      refine ⟨pair, hpair, hbound, fun hnew => ?_⟩
      rcases Nat.lt_or_ge c.index k.size with hlt | hge
      · rw [hgrows.types_eq hlt]
        exact h.types_eq hg hkr hkc (h.grows.renamed ▸ hstart) hnext hpair
          (hgrows.ofType?_of_index_lt h.wellFormed hsprouts.wellFormed hbound hlt) hnew
      · obtain ⟨m, hm, hmx⟩ := hsprouts.wellFormed.ofType?_eq_some_iff.1 hbound
        refine List.inj_on_of_nodup_map (nodup_nestedPairs hkr hkc (k.types b)).1
          (htypes c hge (index_lt_size hm)) hpair ?_
        rw [types_of_pairing? hm, hmx]
  case below =>
    intro id hge hlt
    have hup : ∀ {a b}, ReflTransGen k.NestedIn a b → ReflTransGen k'.NestedIn a b :=
      fun hab => ReflTransGen.mono (fun _ _ => hgrows.nestedIn) _ _ hab
    rcases Nat.lt_or_ge id.index k.size with hold | hnew
    · exact hup (h.below id hge hold)
    · -- a new pairing is nested in the one that the round links
      obtain ⟨m, hm⟩ := (k'.exists_pairing?_iff id).2 hlt
      have hbound := hsprouts.wellFormed.ofType?_eq_some_iff.2 ⟨m, hm, rfl⟩
      have hm' := htypes id hnew hlt
      rw [types_of_pairing? hm] at hm'
      exact .head ((hedges id next).2 (.inr ⟨rfl, _, hm', hbound⟩))
        (hup (h.below next hnextnew hnext))
  case waiting =>
    intro id hid
    rw [List.mem_append, List.mem_reverse, mem_newNumbers] at hid
    rcases hid with hid | hid
    · omega
    · have := h.waiting id (List.mem_cons_of_mem _ hid)
      omega
  case linked =>
    intro id hge hlt hid
    rw [List.mem_append, List.mem_reverse, mem_newNumbers, not_or] at hid
    by_cases heq : id = next
    · exact heq ▸ hlinked
    · have hold : id.index < k.size := by omega
      refine hgrows.fullyLinked hold (h.linked id hge hold fun hm => ?_)
      rcases List.mem_cons.1 hm with hm | hm
      · exact heq hm
      · exact hid.2 hm

/-- **The loop over pending pairings** ends with all of them linked: a pending pairing and a renamed
type without a pairing stand for at most one round each. -/
theorem loop {rounds : Nat} (h : Subtree g start k pending) (hg : g.WellFormed)
    (hr : g.renamed.Sound) (hc : g.reference.Sound)
    (hstart : ∃ e, g.renamed.entry? start.1 = some e ∧ e.declaring = none)
    (henough : pending.length + (g.renamed.size - k.size) ≤ rounds) :
    Subtree g start (pairPending rounds pending k).concordance [] := by
  induction rounds generalizing pending k with
  | zero =>
    have hp : pending = [] := List.length_eq_zero_iff.1 (by omega)
    subst hp
    exact h
  | succ rounds ih =>
    cases pending with
    | nil => exact h
    | cons next pending =>
      obtain ⟨created, ha, hsize, hround⟩ := h.round hg hr hc hstart
      have hle := hround.wellFormed.size_le
      rw [hround.grows.renamed] at hle
      rw [pairPending, Reply.concordance_andThen ha]
      refine ih hround ?_
      rw [List.length_append, List.length_reverse]
      rw [List.length_cons] at henough
      omega

/-! ## What is met on the way -/

/-- What a new pairing's types meet the start meets as well. -/
theorem meets_start (h : Subtree g start k pending) (hg : g.WellFormed) {id met : PairingNumber}
    (hbelow : ReflTransGen k.NestedIn id g.nextNumber) (hnew : g.size ≤ id.index)
    (hmeets : g.Meets (k.types id) met) : g.Meets start met := by
  induction hbelow using ReflTransGen.head_induction_on with
  | refl => rwa [h.root.2] at hmeets
  | @head id p hp _ ih =>
    have hpnew := h.new_of_nestedIn hg hp hnew
    obtain ⟨pair, hpair, -, htypes⟩ := h.nested hp hpnew
    rw [htypes hnew] at hmeets
    rw [h.grows.renamed, h.grows.reference] at hpair
    exact ih hpnew (.nested (h.unbound hpnew hp.index_lt hg) hpair hmeets)

/-- Whatever is under the new root is new, or is under a pairing that was met. -/
theorem new_or_met (h : Subtree g start k pending) (hg : g.WellFormed) {id : PairingNumber}
    (hid : ReflTransGen k.NestedIn id g.nextNumber) :
    g.size ≤ id.index ∧ id.index < k.size ∨
      ∃ met, g.Meets start met ∧ ReflTransGen g.NestedIn id met ∧ id.index < g.size := by
  induction hid using ReflTransGen.head_induction_on with
  | refl => exact .inl ⟨Nat.le_refl _, h.root.1⟩
  | @head c p hp _ ih =>
    rcases Nat.lt_or_ge c.index g.size with hold | hnew
    · right
      rcases h.edges hp with hedge | ⟨hpnew, -⟩
      · rcases ih with ⟨hpnew, -⟩ | ⟨met, hmeets, hpm, -⟩
        · have := hedge.index_lt
          omega
        · exact ⟨met, hmeets, .head hedge hpm, hold⟩
      · obtain ⟨pair, hpair, hbound, -⟩ := h.nested hp hpnew
        rw [h.grows.renamed, h.grows.reference] at hpair
        refine ⟨c, ?_, .refl, hold⟩
        exact h.meets_start hg (h.below p hpnew hp.index_lt) hpnew
          (.nested (h.unbound hpnew hp.index_lt hg) hpair
            (.bound (h.grows.ofType?_of_index_lt hg h.wellFormed hbound hold)))
    · exact .inl ⟨hnew, h.wellFormed.index_lt_of_nestedIn hp⟩

/-- What the types of a new pairing meet comes to be under it. -/
theorem below_of_meets (h : Subtree g start k []) (hg : g.WellFormed) (hr : k.renamed.Sound)
    (hc : k.reference.Sound) (hstart : ∃ e, k.renamed.entry? start.1 = some e ∧ e.declaring = none)
    {pair : TypeNumber × TypeNumber} {met : PairingNumber} (hmeets : g.Meets pair met)
    {p : PairingNumber} (hnew : g.size ≤ p.index) (hp : p.index < k.size)
    (htypes : k.types p = pair) : ReflTransGen k.NestedIn met p := by
  induction hmeets generalizing p with
  | bound hbound =>
    have hunbound := h.unbound hnew hp hg
    rw [htypes, hbound] at hunbound
    cases hunbound
  | @nested pair sub met _ hsub hmeets ih =>
    rw [← h.grows.renamed, ← h.grows.reference, ← htypes] at hsub
    obtain ⟨c, hc', hbound⟩ := h.linked p hnew hp List.not_mem_nil sub hsub
    rcases Nat.lt_or_ge c.index g.size with hold | hcnew
    · have hmet := h.grows.ofType?_of_index_lt hg h.wellFormed hbound hold
      rw [meets_of_bound hmet] at hmeets
      rw [hmeets]
      exact .single hc'
    · refine .tail (ih hcnew (h.wellFormed.index_lt_of_nestedIn hc') ?_) hc'
      exact h.types_eq hg hr hc hstart hp hsub hbound hcnew

/-- **All is linked under the new root** just if all was linked under what was met. -/
theorem fullyLinked_iff (h : Subtree g start k []) (hg : g.WellFormed) (hr : k.renamed.Sound)
    (hc : k.reference.Sound)
    (hstart : ∃ e, k.renamed.entry? start.1 = some e ∧ e.declaring = none) :
    (∀ id, ReflTransGen k.NestedIn id g.nextNumber → k.FullyLinked id) ↔
      ∀ met, g.Meets start met → ∀ id, ReflTransGen g.NestedIn id met → g.FullyLinked id := by
  constructor
  · intro hall met hmeets id hid
    have hroot : ReflTransGen k.NestedIn met g.nextNumber :=
      h.below_of_meets hg hr hc hstart hmeets (Nat.le_refl _) h.root.1 h.root.2
    have hlt := hg.index_lt_of_below (hmeets.index_lt hg) hid
    refine (h.toSprouts.fullyLinked_iff hg hlt).1 (hall id ?_)
    exact (ReflTransGen.mono (fun _ _ => h.grows.nestedIn) _ _ hid).trans hroot
  · intro hmet id hid
    rcases h.new_or_met hg hid with ⟨hnew, hlt⟩ | ⟨met, hmeets, hidm, hlt⟩
    · exact h.linked id hnew hlt List.not_mem_nil
    · exact h.grows.fullyLinked hlt (hmet met hmeets id hidm)

end Subtree

/-! ## Planting -/

section
variable {g : Concordance}

theorem Complete.fullyLinked (h : g.Complete) {id : PairingNumber} (hid : id.index < g.size) :
    g.FullyLinked id := by
  obtain ⟨n, hn⟩ := (g.exists_pairing?_iff id).2 hid
  exact h.nested_bound hn

/-- **Planting links what it creates**, all the way down, and nothing that it meets. -/
theorem WellFormed.plant_links (hg : g.WellFormed) (hr : g.renamed.Sound) (hc : g.reference.Sound)
    {x y : TypeNumber} {score : Float} {root : PairingNumber} {k : Concordance}
    (hok : (g.plant x y score).answer = .ok root) (hk : (g.plant x y score).concordance = k) :
    k.ofType? x = some root ∧
      (∀ id : PairingNumber, g.size ≤ id.index → id.index < k.size →
        k.FullyLinked id ∧ ReflTransGen k.NestedIn id root) ∧
      ((∀ id, ReflTransGen k.NestedIn id root → k.FullyLinked id) ↔
        ∀ met, g.Meets (x, y) met → ∀ id, ReflTransGen g.NestedIn id met → g.FullyLinked id) := by
  obtain ⟨hseed, ⟨hbound, hk'⟩ | ⟨unbound, hx, hy, rfl, hk'⟩⟩ := plant_granted hg hr hc hok
  · -- the renamed type is bound: nothing is created, and the root itself is met
    obtain rfl : g = k := hk'.symm.trans hk
    refine ⟨hbound, fun id hge hlt => by omega, fun h met hmet => ?_, fun h => ?_⟩
    · rw [(meets_of_bound hbound).1 hmet]
      exact h
    · exact h root ((meets_of_bound hbound).2 rfl)
  · obtain ⟨e, he⟩ := Catalog.contains_iff.1 hx
    have hstart : ∃ e, g.renamed.entry? (x, y).1 = some e ∧ e.declaring = none :=
      ⟨e, he, (Catalog.isNested_eq_false_iff he).1 (seedRefusal?_eq_none_iff.1 hseed).1⟩
    have henough : [g.nextNumber].length + (g.renamed.size - (g.withRoot x y score).size) ≤
        g.renamed.size := by
      have hle : (g.withRoot x y score).size ≤ g.renamed.size :=
        (hg.move (.root score unbound hx hy)).size_le
      have hsize : (g.withRoot x y score).size = g.size + 1 := by simp [Concordance.withRoot]
      rw [List.length_singleton]
      omega
    have h := (Subtree.withRoot hg score unbound hx hy).loop hg hr hc hstart henough
    rw [← hk', hk] at h
    obtain ⟨n, hn⟩ := (k.exists_pairing?_iff g.nextNumber).2 h.root.1
    have hroot := h.root.2
    rw [types_of_pairing? hn, Prod.mk.injEq] at hroot
    refine ⟨h.wellFormed.ofType?_eq_some_iff.2 ⟨n, hn, hroot.1⟩, fun id hge hlt => ?_,
      h.fullyLinked_iff hg (h.grows.renamed ▸ hr) (h.grows.reference ▸ hc)
        (h.grows.renamed ▸ hstart)⟩
    exact ⟨h.linked id hge hlt List.not_mem_nil, h.below id hge hlt⟩

end

/-- **Planting after any requests.** All that it creates is linked. All under the planted pair is
linked just if all under the pairings that it meets was linked before. That is so if no request was
made for a single pairing. -/
theorem plant_fullyLinked_iff {clean obfuscated : Module} {reference renamed : Catalog}
    (hclean : Catalog.ofModule clean = .ok reference)
    (hobfuscated : Catalog.ofModule obfuscated = .ok renamed) (qs : List Request)
    {x y : TypeNumber} {score : Float} {root : PairingNumber}
    (hok : (((empty reference renamed).run qs).plant x y score).answer = .ok root) :
    let g := (empty reference renamed).run qs
    let k := (g.plant x y score).concordance
    k.ofType? x = some root ∧
      (∀ id : PairingNumber, g.size ≤ id.index → id.index < k.size →
        k.FullyLinked id ∧ ReflTransGen k.NestedIn id root) ∧
      ((∀ id, ReflTransGen k.NestedIn id root → k.FullyLinked id) ↔
        ∀ met, g.Meets (x, y) met → ∀ id, ReflTransGen g.NestedIn id met → g.FullyLinked id) ∧
      ((∀ q ∈ qs, q.isSeeding = true) →
        ∀ id, ReflTransGen k.NestedIn id root → k.FullyLinked id) := by
  intro g k
  have hempty := complete_empty reference renamed
  have hr : renamed.Sound := Catalog.sound_of_ofModule hobfuscated
  have hc : reference.Sound := Catalog.sound_of_ofModule hclean
  have hgrows := run_grows (empty reference renamed) qs
  have hg : g.WellFormed := run_wellFormed reference renamed qs
  obtain ⟨hroot, hnew, hiff⟩ :=
    hg.plant_links (hgrows.renamed ▸ hr) (hgrows.reference ▸ hc) hok rfl
  refine ⟨hroot, hnew, hiff, fun hqs => hiff.2 fun met hmeets id hid => ?_⟩
  exact (hempty.run hr hc hqs).fullyLinked (hg.index_lt_of_below (hmeets.index_lt hg) hid)

/-- Types nested three deep. -/
def sampleLevels : Module where
  name := "Game.dll"
  types := [.node { name := "Outer" }
    [.node { name := "Middle" } [.node { name := "Inner" } []], .node { name := "Side" } []]]

def sampleLevelsRenamed : Module where
  name := "Renamed.dll"
  types := [.node { name := "ABCDEFGHIJK" }
    [.node { name := "LMNOPQRSTUV" } [.node { name := "WXYZABCDEFG" } []],
      .node { name := "HIJKLMNOPQR" } []]]

/-- The nested type in the middle is bound and linked on its own before. -/
theorem plant_fullyLinked_sample : ∃ reference renamed,
    Catalog.ofModule sampleLevels = .ok reference ∧
      Catalog.ofModule sampleLevelsRenamed = .ok renamed ∧
      let g := (empty reference renamed).run [.ensure ⟨1⟩ ⟨1⟩ none, .pairNested ⟨0⟩]
      let k := (g.plant ⟨0⟩ ⟨0⟩ 1.5).concordance
      (g.plant ⟨0⟩ ⟨0⟩ 1.5).answer = .ok ⟨2⟩ ∧
        k.numbers.map k.nestedOf = [[⟨1⟩], [], [⟨0⟩, ⟨3⟩], []] ∧
        ∀ id, ReflTransGen k.NestedIn id ⟨2⟩ → k.FullyLinked id := by
  refine ⟨_, _, rfl, rfl, ?_⟩
  intro g k
  have hok : (g.plant ⟨0⟩ ⟨0⟩ 1.5).answer = .ok ⟨2⟩ := by decide +kernel
  have hlinked : ∀ id ∈ g.numbers, g.FullyLinked id := by decide +kernel
  have hg : g.WellFormed := run_wellFormed _ _ _
  obtain ⟨-, -, hiff, -⟩ := plant_fullyLinked_iff (rfl : Catalog.ofModule sampleLevels = .ok _)
    (rfl : Catalog.ofModule sampleLevelsRenamed = .ok _) _ hok
  refine ⟨hok, by decide +kernel, hiff.2 fun met hmeets id hid => ?_⟩
  exact hlinked id (mem_numbers.2 (hg.index_lt_of_below (hmeets.index_lt hg) hid))

/-- A pair that is bound before it is planted stays without its nested pair. -/
theorem plant_leaves_unlinked : ∃ reference renamed,
    Catalog.ofModule samplePlayer = .ok reference ∧ Catalog.ofModule sampleRenamed = .ok renamed ∧
      let g := (empty reference renamed).run [.ensure ⟨0⟩ ⟨0⟩ none]
      let k := (g.plant ⟨0⟩ ⟨0⟩ 1.5).concordance
      (g.plant ⟨0⟩ ⟨0⟩ 1.5).answer = .ok ⟨0⟩ ∧
        nestedPairs renamed reference (k.types ⟨0⟩) = [(⟨1⟩, ⟨1⟩)] ∧ k.ofType? ⟨1⟩ = none ∧
        ReflTransGen k.NestedIn ⟨0⟩ ⟨0⟩ ∧ ¬ k.FullyLinked ⟨0⟩ :=
  ⟨_, _, rfl, rfl, rfl, by decide +kernel, by decide +kernel, .refl, by decide +kernel⟩

end Concordance

end Concord
