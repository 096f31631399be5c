import Concord.Proofs.WellFormed

/-!
# Concordances only grow

Requests change pairings in place: a root is given its score, and pairings are put into the lists
of older ones. They also put entries in front of the two indices, where the latest entry of a key
wins. Nothing that was known before a request is lost by any of this (`apply_only_adds`):

* `Grows.pairing_eq`: of a pairing, only the list of those nested in it changes, at its end.
* `Grows.numberOf?_eq`: a name leads where it led before. No new entry hides an old one, because
  only types without a pairing are bound and no two types of a module share a full name.
-/

set_option autoImplicit false

namespace Concord.Concordance

variable {g h : Concordance}

/-- A pairing stays as it is, but for pairings that are nested in it behind the others. -/
theorem Grows.pairing_eq (hgh : Grows g h) {id : PairingNumber} {n : Pairing}
    (hn : g.pairing? id = some n) :
    ∃ added, h.pairing? id = some { n with nested := n.nested ++ added } := by
  obtain ⟨n', hn', hk⟩ := hgh.pairing hn
  obtain ⟨added, hadded⟩ := hk.nested
  refine ⟨added, hn'.trans (congrArg some ?_)⟩
  obtain ⟨reference, renamed, score, declaring, nested⟩ := n'
  obtain ⟨rfl, rfl, rfl, rfl, -⟩ := hk
  rw [hadded]

theorem Grows.numberOf?_eq (hgh : Grows g h) (hg : g.WellFormed) (hh : h.WellFormed)
    (hr : g.renamed.Sound) {s : String} {id : PairingNumber} (hs : g.numberOf? s = some id) :
    h.numberOf? s = some id := by
  rw [hg.numberOf?_eq hr, Option.bind_eq_some_iff] at hs
  obtain ⟨x, hx, ho⟩ := hs
  rw [hh.numberOf?_eq (hgh.renamed ▸ hr), hgh.renamed, hx, Option.bind_some]
  exact hgh.ofType ho

/-- **A request only adds.** Whatever was asked before, and whatever a request asks and answers:
pairings keep their numbers, types, score and declaring pairing, and what is nested in them stays in
front of what is added; the roots stay in front of new ones; and a renamed type or its full name
that led to a pairing leads to the same one. -/
theorem apply_only_adds {m : Module} {renamed : Catalog}
    (hrenamed : Catalog.ofModule m = .ok renamed) (reference : Catalog) (qs : List Request)
    (q : Request) :
    let g := (empty reference renamed).run qs
    let h := q.apply g
    (∀ id n, g.pairing? id = some n →
      ∃ added, h.pairing? id = some { n with nested := n.nested ++ added }) ∧
    (∃ added, h.roots = g.roots ++ added) ∧
    (∀ x id, g.ofType? x = some id → h.ofType? x = some id) ∧
    ∀ s id, g.numberOf? s = some id → h.numberOf? s = some id := by
  intro g h
  have hg : g.WellFormed := run_wellFormed reference renamed qs
  have hmoves : g.Moves h := q.apply_moves g
  have hr : g.renamed.Sound := by
    rw [show g.renamed = renamed from (run_grows _ qs).renamed]
    exact Catalog.sound_of_ofModule hrenamed
  refine ⟨fun id n => hmoves.grows.pairing_eq, ?_, fun x id => hmoves.grows.ofType,
    fun s id => hmoves.grows.numberOf?_eq hg (hg.moves hmoves) hr⟩
  obtain ⟨added, hadded⟩ := hmoves.grows.roots
  exact ⟨added, hadded.symm⟩

/-- A type is put under a root that has a nested type already. -/
theorem apply_only_adds_sample : ∃ reference renamed,
    Catalog.ofModule samplePlayer = .ok reference ∧ Catalog.ofModule sampleRenamed = .ok renamed ∧
      let g := (empty reference renamed).run [.plantByName "ABCDEFGHIJK" "Game.Player" 1.5]
      let h := (Request.ensure ⟨2⟩ ⟨2⟩ (some ⟨0⟩)).apply g
      (h.pairing? ⟨0⟩).map (·.nested) = some [⟨1⟩, ⟨2⟩] ∧
      (∃ n added, g.pairing? ⟨0⟩ = some n ∧ n.nested = [⟨1⟩] ∧
        h.pairing? ⟨0⟩ = some { n with nested := n.nested ++ added }) ∧
      g.numberOf? "ABCDEFGHIJK/LMNOPQRSTUV" = some ⟨1⟩ ∧
      h.numberOf? "ABCDEFGHIJK/LMNOPQRSTUV" = some ⟨1⟩ := by
  refine ⟨_, _, rfl, rfl, ?_⟩
  intro g h
  have hadds := fun reference => apply_only_adds (rfl : Catalog.ofModule sampleRenamed = .ok _)
    reference [.plantByName "ABCDEFGHIJK" "Game.Player" 1.5] (.ensure ⟨2⟩ ⟨2⟩ (some ⟨0⟩))
  have hroot : (g.pairing? ⟨0⟩).map (·.nested) = some [⟨1⟩] := by decide +kernel
  have hnested : g.numberOf? "ABCDEFGHIJK/LMNOPQRSTUV" = some ⟨1⟩ := by decide +kernel
  obtain ⟨n, hn, hchildren⟩ := Option.map_eq_some_iff.1 hroot
  obtain ⟨added, hadded⟩ := (hadds _).1 _ _ hn
  exact ⟨by decide +kernel, ⟨n, added, hn, hchildren, hadded⟩, hnested,
    (hadds _).2.2.2 _ _ hnested⟩

end Concord.Concordance
