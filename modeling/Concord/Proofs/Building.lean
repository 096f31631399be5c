import Concord.Proofs.Nesting
import Concord.Recovery.Tree

/-!
# Building trees ends

The tree of a pairing is made from the trees of the pairings nested in it (`treeStep`). `tree` cuts
this recursion off at a depth, which is the number of pairings. Where pairings are not nested in
each other nothing is cut off: `tree` satisfies the recursion (`tree_eq`) and is the only function
that does (`eq_tree_of_step`).

`building_ends` joins this with the requests that lead to a concordance: they are the ones that
decide whether the recursion ends, and seeding always lets it end.
-/

set_option autoImplicit false

namespace Concord

namespace Recovery

variable {m : Recovery}

theorem treeWithin_succ (depth : Nat) (id : PairingNumber) :
    m.treeWithin (depth + 1) id = m.treeStep (m.treeWithin depth) id := rfl

theorem mapM_congr {α β : Type} {f g : α → Logged β} {as : List α} (h : ∀ a ∈ as, f a = g a) :
    as.mapM f = as.mapM g := by
  induction as with
  | nil => rfl
  | cons a as ih =>
    rw [List.mapM_cons, List.mapM_cons, h a List.mem_cons_self,
      ih fun b hb => h b (List.mem_cons_of_mem a hb)]

/-- The recursion asks for nested pairings only. -/
theorem treeStep_congr {f g : PairingNumber → Logged (Option NameTree)} {id : PairingNumber}
    (h : ∀ c, m.concordance.NestedIn c id → f c = g c) : m.treeStep f id = m.treeStep g id := by
  unfold treeStep
  split
  · rfl
  · rename_i pairing hpairing
    have hnested : pairing.nested.mapM f = pairing.nested.mapM g :=
      mapM_congr fun c hc => h c (Concordance.nestedIn_iff.2 ⟨pairing, hpairing, hc⟩)
    split
    · simp only [hnested]
    · rfl

/-- The number of pairings is deep enough. -/
theorem treeWithin_eq (h : m.concordance.Acyclic) (id : PairingNumber) :
    ∀ more, m.treeWithin (m.concordance.size + more) id = m.tree id := by
  have hmissing : ∀ depth (id : PairingNumber), m.concordance.size ≤ id.index →
      m.treeWithin depth id = pure none := by
    intro depth id hid
    cases depth with
    | zero => rfl
    | succ depth =>
      rw [treeWithin_succ, treeStep, (m.concordance.pairing?_eq_none_iff id).2 hid]
  refine h.depth_induction
    (P := fun depth id => ∀ more, m.treeWithin (depth + more) id = m.treeWithin depth id)
    (fun depth id hid more => ?_) (fun depth id hbelow more => ?_) id
  · rw [hmissing _ id hid, hmissing _ id hid]
  · rw [Nat.add_right_comm, treeWithin_succ, treeWithin_succ]
    exact treeStep_congr fun c hc => hbelow c hc more

/-- **The recursion of trees**: nothing is cut off. -/
theorem tree_eq (h : m.concordance.Acyclic) (id : PairingNumber) :
    m.tree id = m.treeStep m.tree id := by
  rw [← treeWithin_eq h id 1, treeWithin_succ]
  rfl

/-- There is no other function that satisfies the recursion. -/
theorem eq_tree_of_step (h : m.concordance.Acyclic)
    {f : PairingNumber → Logged (Option NameTree)} (hf : ∀ id, f id = m.treeStep f id) :
    f = m.tree := by
  funext id
  induction id using (Concordance.acyclic_iff_wellFounded.1 h).induction with
  | _ id ih => rw [hf, tree_eq h, treeStep_congr ih]

end Recovery

namespace Concordance

/-- **Building trees ends** unless requests have put pairings into each other. The pairings that a
run leads to are free of cycles just if no request of it asked for a pairing under one that was
nested in it, which seeding never does. Then the recursion of trees is well-founded: it has one
solution, the one that is computed. -/
theorem building_ends {clean obfuscated : Module} {reference renamed : Catalog}
    (hclean : Catalog.ofModule clean = .ok reference)
    (hobfuscated : Catalog.ofModule obfuscated = .ok renamed) (qs : List Request) :
    let g := (empty reference renamed).run qs
    (g.Acyclic ↔ ∀ before q after, qs = before ++ q :: after →
      ¬ q.Closes ((empty reference renamed).run before)) ∧
    ((∀ q ∈ qs, q.isSeeding = true) → g.Acyclic) ∧
    (g.Acyclic ↔ WellFounded g.NestedIn) ∧
    (g.Acyclic → ∀ m : Recovery, m.concordance = g →
      ∀ f, (∀ id, f id = m.treeStep f id) ↔ f = m.tree) := by
  intro g
  have hr : renamed.Sound := Catalog.sound_of_ofModule hobfuscated
  have hc : reference.Sound := Catalog.sound_of_ofModule hclean
  have hempty := complete_empty reference renamed
  refine ⟨?_, fun hqs => (hempty.run hr hc hqs).acyclic, acyclic_iff_wellFounded, ?_⟩
  · rw [run_acyclic_iff hempty.wellFormed hr hc]
    exact and_iff_right (acyclic_empty reference renamed)
  · rintro h m hm f
    have h' : m.concordance.Acyclic := hm ▸ h
    refine ⟨fun hf => m.eq_tree_of_step h' hf, ?_⟩
    rintro rfl
    exact m.tree_eq h'

/-- A pairing that exists is asked for under another one that it is not nested in. -/
def sampleNesting : List Request :=
  [.plantByName "ABCDEFGHIJK" "Game.Player" 1.5, .ensure ⟨2⟩ ⟨2⟩ (some ⟨1⟩),
    .ensure ⟨2⟩ ⟨2⟩ (some ⟨0⟩), .pairNested ⟨1⟩]

theorem building_ends_sample : ∃ reference renamed,
    Catalog.ofModule samplePlayer = .ok reference ∧ Catalog.ofModule sampleRenamed = .ok renamed ∧
      let g := (empty reference renamed).run sampleNesting
      g.nestedOf ⟨0⟩ = [⟨1⟩, ⟨2⟩] ∧ g.nestedOf ⟨1⟩ = [⟨2⟩] ∧
      (∀ before q after, sampleNesting = before ++ q :: after →
        ¬ q.Closes ((empty reference renamed).run before)) ∧
      WellFounded g.NestedIn ∧
      ∀ m : Recovery, m.concordance = g → ∀ f, (∀ id, f id = m.treeStep f id) ↔ f = m.tree := by
  refine ⟨_, _, rfl, rfl, ?_⟩
  intro g
  have hnested : ∀ p ∈ g.numbers, ∀ c ∈ g.nestedOf p, p.index < c.index := by decide +kernel
  have hacyclic : g.Acyclic :=
    acyclic_of_index_lt fun hcp => hnested _ (mem_numbers.2 hcp.index_lt) _ hcp
  obtain ⟨hrun, -, hwf, hbuild⟩ :=
    building_ends (rfl : Catalog.ofModule samplePlayer = .ok _)
      (rfl : Catalog.ofModule sampleRenamed = .ok _) sampleNesting
  exact ⟨by decide +kernel, by decide +kernel, hrun.1 hacyclic, hwf.1 hacyclic, hbuild hacyclic⟩

/-- A pairing can be asked for under one that is nested in it. -/
theorem pairings_nested_in_each_other : ∃ reference renamed,
    Catalog.ofModule samplePlayer = .ok reference ∧ Catalog.ofModule sampleRenamed = .ok renamed ∧
      let g := (empty reference renamed).run
        [.plantByName "ABCDEFGHIJK" "Game.Player" 1.5, .ensure ⟨0⟩ ⟨0⟩ (some ⟨1⟩)]
      g.nestedOf ⟨0⟩ = [⟨1⟩] ∧ g.nestedOf ⟨1⟩ = [⟨0⟩] ∧ ¬ g.Acyclic ∧ ¬ WellFounded g.NestedIn := by
  refine ⟨_, _, rfl, rfl, ?_⟩
  intro g
  have h0 : g.nestedOf ⟨0⟩ = [⟨1⟩] := by decide +kernel
  have h1 : g.nestedOf ⟨1⟩ = [⟨0⟩] := by decide +kernel
  have h10 : g.NestedIn ⟨1⟩ ⟨0⟩ := by simp [NestedIn, h0]
  have h01 : g.NestedIn ⟨0⟩ ⟨1⟩ := by simp [NestedIn, h1]
  have hcycle : ¬ g.Acyclic := fun h => h ⟨0⟩ (.tail (.single h01) h10)
  exact ⟨h0, h1, hcycle, acyclic_iff_wellFounded.not.1 hcycle⟩

end Concordance

end Concord
