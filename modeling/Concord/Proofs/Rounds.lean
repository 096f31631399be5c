import Concord.Proofs.Subtrees

/-!
# How long planting takes

`WorksOff g pending popped k`: the work list of `plant`, without a bound on its rounds. One after
another the pairings `popped` are linked, always the latest pending one, and what a round creates is
pending then; it ends at `k` with nothing pending.

The list grows while it is worked off. It ends all the same (`WellFormed.worksOff`): every round
takes one pairing off the list, and puts on it only pairings for types that were unbound. So it
takes exactly the pairings that were pending and those that are created on the way, each of them
once, and the bound of `pairPending` is never met (`WorksOff.pairPending`). `plant_worksOff` says
this of planting, where the growth is bounded by the renamed types without a pairing
(`Grows.growth_le`).
-/

set_option autoImplicit false

namespace Concord.Concordance

/-- The work list is worked off (module doc). -/
inductive WorksOff : Concordance → List PairingNumber → List PairingNumber → Concordance → Prop
  | done (g : Concordance) : WorksOff g [] [] g
  | round {g k : Concordance} {next : PairingNumber} {pending created popped : List PairingNumber}
      (links : (g.pairNested next).answer = .ok created)
      (rest : WorksOff (g.pairNested next).concordance (created.reverse ++ pending) popped k) :
      WorksOff g (next :: pending) (next :: popped) k

namespace WorksOff

variable {g k : Concordance} {pending popped : List PairingNumber}

theorem unique (h : WorksOff g pending popped k) {popped' : List PairingNumber} {k' : Concordance}
    (h' : WorksOff g pending popped' k') : popped' = popped ∧ k' = k := by
  induction h generalizing popped' with
  | done g =>
    cases h'
    exact ⟨rfl, rfl⟩
  | round links _ ih =>
    cases h' with
    | round links' rest' =>
      rw [links, Except.ok.injEq] at links'
      subst links'
      obtain ⟨rfl, rfl⟩ := ih rest'
      exact ⟨rfl, rfl⟩

theorem moves (h : WorksOff g pending popped k) : g.Moves k := by
  induction h with
  | done g => exact .refl
  | round _ _ ih => exact (pairNested_moves _ _).trans ih

/-- The bounded loop gets to the end if the bound allows for that many rounds. -/
theorem pairPending (h : WorksOff g pending popped k) (rounds : Nat)
    (henough : popped.length ≤ rounds) :
    (pairPending rounds pending g).answer = .ok () ∧
      (pairPending rounds pending g).concordance = k := by
  induction h generalizing rounds with
  | done g => cases rounds <;> exact ⟨rfl, rfl⟩
  | round links _ ih =>
    cases rounds with
    | zero => cases henough
    | succ rounds =>
      rw [Concordance.pairPending, Reply.answer_andThen links, Reply.concordance_andThen links]
      exact ih rounds (Nat.le_of_succ_le_succ henough)

end WorksOff

theorem newNumbers_split {first middle last : Nat} (h : first ≤ middle) (h' : middle ≤ last) :
    newNumbers first (last - first) =
      newNumbers first (middle - first) ++ newNumbers middle (last - middle) := by
  obtain ⟨m, rfl⟩ := Nat.exists_eq_add_of_le h
  obtain ⟨n, rfl⟩ := Nat.exists_eq_add_of_le h'
  rw [Nat.add_sub_cancel_left, Nat.add_sub_cancel_left, Nat.add_assoc, Nat.add_sub_cancel_left]
  simp only [newNumbers, ← List.map_append, List.range'_append_1]

section
variable {g : Concordance}

/-- **The work list ends.** It takes the pairings that are pending and those that are created on the
way, each of them once. -/
theorem WellFormed.worksOff (hg : g.WellFormed) (hr : g.renamed.Sound) (hc : g.reference.Sound)
    {pending : List PairingNumber} (hp : ∀ id ∈ pending, id.index < g.size) :
    ∃ popped k, WorksOff g pending popped k ∧
      popped.Perm (pending ++ newNumbers g.size (k.size - g.size)) := by
  -- a pending pairing and a renamed type without a pairing stand for one round each
  obtain ⟨rounds, henough⟩ : ∃ rounds, pending.length + (g.renamed.size - g.size) ≤ rounds :=
    ⟨_, Nat.le_refl _⟩
  induction rounds generalizing g pending with
  | zero =>
    obtain rfl : pending = [] := List.length_eq_zero_iff.1 (by omega)
    exact ⟨[], g, .done g, by simp [newNumbers]⟩
  | succ rounds ih =>
    cases pending with
    | nil => exact ⟨[], g, .done g, by simp [newNumbers]⟩
    | cons next pending =>
      have hmoves := g.pairNested_moves next
      have hgrows := hmoves.grows
      obtain ⟨hanswer, -⟩ := pairNested_new hg hr hc (hp next List.mem_cons_self) rfl
      have hwf := hg.moves hmoves
      generalize hh : (g.pairNested next).concordance = h at *
      have hle := hgrows.size_le
      have hlimit := hwf.size_le
      rw [hgrows.renamed] at hlimit
      have hexist : ∀ id ∈ (newNumbers g.size (h.size - g.size)).reverse ++ pending,
          id.index < h.size := by
        intro id hid
        rw [List.mem_append, List.mem_reverse, mem_newNumbers] at hid
        rcases hid with hid | hid
        · omega
        · exact Nat.lt_of_lt_of_le (hp id (List.mem_cons_of_mem _ hid)) hle
      have hfewer : ((newNumbers g.size (h.size - g.size)).reverse ++ pending).length +
          (h.renamed.size - h.size) ≤ rounds := by
        rw [hgrows.renamed, List.length_append, List.length_reverse, newNumbers, List.length_map,
          List.length_range']
        rw [List.length_cons] at henough
        omega
      obtain ⟨popped, k, hrest, hperm⟩ :=
        ih hwf (hgrows.renamed ▸ hr) (hgrows.reference ▸ hc) hexist hfewer
      have hle' := hrest.moves.grows.size_le
      refine ⟨next :: popped, k, .round hanswer (hh ▸ hrest), ?_⟩
      rw [newNumbers_split hle hle', List.cons_append, List.perm_cons, ← List.append_assoc]
      have hround : ((newNumbers g.size (h.size - g.size)).reverse ++ pending).Perm
          (pending ++ newNumbers g.size (h.size - g.size)) :=
        ((List.reverse_perm _).append_right _).trans List.perm_append_comm
      exact hperm.trans (hround.append_right _)

/-- The work list of a new root takes the pairings that are created, the root included. -/
theorem WellFormed.worksOff_withRoot (hg : g.WellFormed) (hr : g.renamed.Sound)
    (hc : g.reference.Sound) {x y : TypeNumber} {score : Float} (unbound : g.ofType? x = none)
    (hx : g.renamed.contains x = true) (hy : g.reference.contains y = true) {k : Concordance}
    (hk : k = (pairPending g.renamed.size [g.nextNumber] (g.withRoot x y score)).concordance) :
    ∃ popped, WorksOff (g.withRoot x y score) [g.nextNumber] popped k ∧
      popped.Perm (newNumbers g.size (k.size - g.size)) := by
  have hroot : (g.withRoot x y score).WellFormed := hg.move (.root score unbound hx hy)
  have hsize : (g.withRoot x y score).size = g.size + 1 := by simp [withRoot]
  have hpending : ∀ id ∈ [g.nextNumber], id.index < (g.withRoot x y score).size := by
    simp [hsize, nextNumber]
  obtain ⟨popped, k', hworks, hperm⟩ := hroot.worksOff hr hc hpending
  have hgrows := hworks.moves.grows
  have hle := hgrows.size_le
  rw [hsize] at hperm hle
  rw [List.singleton_append, show g.nextNumber = ⟨g.size⟩ from rfl, ← newNumbers_cons hle] at hperm
  have hlength : popped.length = k'.size - g.size := by
    simpa [newNumbers] using hperm.length_eq
  have hlimit : k'.size ≤ g.renamed.size :=
    hgrows.renamed ▸ (hroot.moves hworks.moves).size_le
  -- so the bound of the loop leaves room for all the rounds
  obtain rfl : k' = k := (hworks.pairPending g.renamed.size (by omega)).2.symm.trans hk.symm
  exact ⟨popped, hworks, hperm⟩

/-- The renamed types without a pairing. -/
def unboundTypes (g : Concordance) : List TypeNumber :=
  ((List.range g.renamed.size).map TypeNumber.mk).filter fun x => (g.ofType? x).isNone

/-- Every new pairing takes one of the types that had none. -/
theorem Grows.growth_le {k : Concordance} (hgk : Grows g k) (hg : g.WellFormed)
    (hk : k.WellFormed) : k.size - g.size ≤ g.unboundTypes.length := by
  have hle := hgk.size_le
  have hnew : ∀ id ∈ newNumbers g.size (k.size - g.size),
      g.size ≤ id.index ∧ id.index < k.size := by
    intro id hid
    rw [mem_newNumbers] at hid
    omega
  have hnodup : ((newNumbers g.size (k.size - g.size)).map fun id => (k.types id).1).Nodup := by
    refine (nodup_newNumbers _ _).map_on fun i hi j hj hij => ?_
    obtain ⟨n, hn⟩ := (k.exists_pairing?_iff i).2 (hnew i hi).2
    obtain ⟨m, hm⟩ := (k.exists_pairing?_iff j).2 (hnew j hj).2
    rw [types_of_pairing? hn, types_of_pairing? hm] at hij
    exact hk.eq_of_renamed hn hm hij
  have hsub : ((newNumbers g.size (k.size - g.size)).map fun id => (k.types id).1) ⊆
      g.unboundTypes := by
    intro x hx
    obtain ⟨id, hid, rfl⟩ := List.mem_map.1 hx
    obtain ⟨hge, hlt⟩ := hnew id hid
    obtain ⟨n, hn⟩ := (k.exists_pairing?_iff id).2 hlt
    have hcontains := (hk.valid hn).2
    rw [hgk.renamed, Catalog.contains, decide_eq_true_iff] at hcontains
    refine List.mem_filter.2 ⟨?_, by simp [hgk.unbound hg hk hge hlt]⟩
    rw [types_of_pairing? hn]
    exact List.mem_map.2 ⟨n.renamed.index, List.mem_range.2 hcontains, rfl⟩
  simpa [newNumbers] using (List.subperm_of_subset hnodup hsub).length_le

end

/-- **Planting takes as many rounds as it creates pairings.** In every concordance that requests
lead to, if planting creates its root then its work list ends, and it can end in one way only: each
pairing that planting creates is taken and linked once, and no other one. Hence the number of rounds
is the growth of the concordance, at most the number of renamed types that had no pairing. -/
theorem plant_worksOff {clean obfuscated : Module} {reference renamed : Catalog}
    (hclean : Catalog.ofModule clean = .ok reference)
    (hobfuscated : Catalog.ofModule obfuscated = .ok renamed) (qs : List Request)
    {x y : TypeNumber} {score : Float} {root : PairingNumber}
    (hok : (((empty reference renamed).run qs).plant x y score).answer = .ok root)
    (hnew : ((empty reference renamed).run qs).size ≤ root.index) :
    let g := (empty reference renamed).run qs
    let k := (g.plant x y score).concordance
    ∃ popped, WorksOff (g.withRoot x y score) [root] popped k ∧
      (∀ popped' k', WorksOff (g.withRoot x y score) [root] popped' k' →
        popped' = popped ∧ k' = k) ∧
      popped.Nodup ∧ (∀ id, id ∈ popped ↔ g.size ≤ id.index ∧ id.index < k.size) ∧
      popped.length = k.size - g.size ∧ k.size - g.size ≤ g.unboundTypes.length := by
  intro g k
  have hg : g.WellFormed := run_wellFormed reference renamed qs
  obtain ⟨hr, hc⟩ := run_sound hclean hobfuscated qs
  have hmoves : g.Moves k := g.plant_moves x y score
  have hgrowth := hmoves.grows.growth_le hg (hg.moves hmoves)
  have hle := hmoves.grows.size_le
  obtain ⟨-, ⟨hbound, -⟩ | ⟨unbound, hx, hy, rfl, hk⟩⟩ := plant_granted hg hr hc hok
  · -- a root that was there before is not created
    obtain ⟨n, hn, -⟩ := hg.ofType?_eq_some_iff.1 hbound
    exact absurd (index_lt_size hn) (Nat.not_lt.2 hnew)
  · obtain ⟨popped, hworks, hperm⟩ := hg.worksOff_withRoot (k := k) hr hc unbound hx hy hk
    refine ⟨popped, hworks, fun _ _ h' => hworks.unique h',
      hperm.nodup_iff.2 (nodup_newNumbers _ _), fun id => ?_,
      by simpa [newNumbers] using hperm.length_eq, hgrowth⟩
    rw [hperm.mem_iff, mem_newNumbers]
    omega

/-- The innermost type is bound before, so the round of the type around it creates nothing. The
latest one of two that are created together is taken first. -/
theorem plant_worksOff_sample : ∃ reference renamed,
    Catalog.ofModule sampleLevels = .ok reference ∧
      Catalog.ofModule sampleLevelsRenamed = .ok renamed ∧
      let g := (empty reference renamed).run [.ensure ⟨2⟩ ⟨2⟩ none]
      let k := (g.plant ⟨0⟩ ⟨0⟩ 1.5).concordance
      g.size = 1 ∧ g.unboundTypes = [⟨0⟩, ⟨1⟩, ⟨3⟩] ∧ k.size = 4 ∧
        (g.plant ⟨0⟩ ⟨0⟩ 1.5).answer = .ok ⟨1⟩ ∧
        WorksOff (g.withRoot ⟨0⟩ ⟨0⟩ 1.5) [⟨1⟩] [⟨1⟩, ⟨3⟩, ⟨2⟩] k := by
  refine ⟨_, _, rfl, rfl, ?_⟩
  intro g k
  have hok : (g.plant ⟨0⟩ ⟨0⟩ 1.5).answer = .ok ⟨1⟩ := by decide +kernel
  obtain ⟨popped, hworks, hunique, -⟩ :=
    plant_worksOff (rfl : Catalog.ofModule sampleLevels = .ok _)
      (rfl : Catalog.ofModule sampleLevelsRenamed = .ok _) [.ensure ⟨2⟩ ⟨2⟩ none] hok
      (by decide +kernel)
  have hfirst : ((g.withRoot ⟨0⟩ ⟨0⟩ 1.5).pairNested ⟨1⟩).answer = .ok [⟨2⟩, ⟨3⟩] := by
    decide +kernel
  have hrounds : ∃ k', WorksOff (g.withRoot ⟨0⟩ ⟨0⟩ 1.5) [⟨1⟩] [⟨1⟩, ⟨3⟩, ⟨2⟩] k' :=
    ⟨_, .round hfirst <| .round (show _ = Except.ok [] by decide +kernel) <|
      .round (show _ = Except.ok [] by decide +kernel) <| .done _⟩
  obtain ⟨k', hrounds⟩ := hrounds
  obtain ⟨rfl, rfl⟩ := hunique _ _ hrounds
  exact ⟨by decide +kernel, by decide +kernel, by decide +kernel, hok, hworks⟩

end Concord.Concordance
