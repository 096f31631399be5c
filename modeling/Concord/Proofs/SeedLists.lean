import Concord.Proofs.RootTrees

/-!
# Which seeds count, and that their order does not

The names that are recovered depend on the roots only, and these on the pairs that the seeds stand
for (`rootTrees_recoveryFrom`, `names_recoveryFrom`). So a list of seeds can be cut down to those
that make a root, and their scores do not matter as long as they suffice
(`recoverNames_keptSeeds`); and seeds for different renamed types can be given in any order
(`recoverNames_perm`).
-/

set_option autoImplicit false

namespace Concord

open Concordance

/-! ## Names and roots -/

/-- The recovery that is made from seeds. -/
def recoveryFrom (reference renamed : Catalog) (seeds : List Seed) (settings : Settings) :
    Recovery where
  concordance := (seeded reference renamed seeds settings).concordance
  looksRenamed := settings.looksRenamed

section
variable {reference renamed : Catalog} (hr : renamed.Sound) (hc : reference.Sound)
  {settings : Settings}
include hr hc

theorem value_recoverNames (seeds : List Seed) :
    (recoverNames reference renamed seeds settings).value = .ok
      { types := (recoveryFrom reference renamed seeds settings).rootTrees.filterMap (·.2) } := by
  have ha := (seeded_rooted hr hc seeds settings).1
  rw [← Recovery.value_forest]
  simp only [recoverNames, ha]
  rfl

theorem renamed_recoveryFrom (seeds : List Seed) (settings : Settings) :
    (recoveryFrom reference renamed seeds settings).concordance.renamed = renamed :=
  (seeded_rooted hr hc seeds settings).2.grows.renamed

theorem reference_recoveryFrom (seeds : List Seed) (settings : Settings) :
    (recoveryFrom reference renamed seeds settings).concordance.reference = reference :=
  (seeded_rooted hr hc seeds settings).2.grows.reference

theorem rootTrees_recoveryFrom (seeds : List Seed) :
    (recoveryFrom reference renamed seeds settings).rootTrees =
      ((seedPairs settings reference renamed seeds).foldl addRoot []).map fun pair =>
        (pair, (recoveryFrom reference renamed seeds settings).names
          (align renamed reference pair)) := by
  have hs := (seeded_rooted hr hc seeds settings).2
  have hroots : (recoveryFrom reference renamed seeds settings).concordance.rootTypes =
      (seedPairs settings reference renamed seeds).foldl addRoot [] := hs.roots
  rw [Recovery.rootTrees_eq hs.complete, hroots, renamed_recoveryFrom hr hc,
    reference_recoveryFrom hr hc]

/-- The same roots, in whatever order, give the same names, also under other settings that find the
same names renamed. -/
theorem names_recoveryFrom_settings {settings' : Settings} {seeds seeds' : List Seed}
    (hlooks : settings'.looksRenamed = settings.looksRenamed)
    (h : ((seedPairs settings' reference renamed seeds').foldl addRoot []).Perm
      ((seedPairs settings reference renamed seeds).foldl addRoot [])) :
    (recoveryFrom reference renamed seeds' settings').names =
      (recoveryFrom reference renamed seeds settings).names := by
  have hs := (seeded_rooted hr hc seeds settings).2
  have hs' := (seeded_rooted hr hc seeds' settings').2
  have hon : recoveryFrom reference renamed seeds' settings' =
      (recoveryFrom reference renamed seeds settings).on
        (seeded reference renamed seeds' settings').concordance := by
    simp only [recoveryFrom, Recovery.on, hlooks]
  rw [hon]
  refine Recovery.names_eq_of_roots (m := recoveryFrom reference renamed seeds settings)
    hs.complete (hs.grows.renamed ▸ hr) hs'.complete
    (hs'.grows.renamed.trans hs.grows.renamed.symm)
    (hs'.grows.reference.trans hs.grows.reference.symm) ?_
  exact (hs'.roots.symm ▸ hs.roots.symm ▸ h)

/-- The same roots, in whatever order, give the same names. -/
theorem names_recoveryFrom {seeds seeds' : List Seed}
    (h : ((seedPairs settings reference renamed seeds').foldl addRoot []).Perm
      ((seedPairs settings reference renamed seeds).foldl addRoot [])) :
    (recoveryFrom reference renamed seeds' settings).names =
      (recoveryFrom reference renamed seeds settings).names :=
  names_recoveryFrom_settings hr hc rfl h

/-- **The roots decide what is recovered.** -/
theorem recoverNames_eq_of_roots {settings' : Settings} {seeds seeds' : List Seed}
    (hlooks : settings'.looksRenamed = settings.looksRenamed)
    (h : (seedPairs settings' reference renamed seeds').foldl addRoot [] =
      (seedPairs settings reference renamed seeds).foldl addRoot []) :
    (recoverNames reference renamed seeds' settings').value =
      (recoverNames reference renamed seeds settings).value := by
  rw [value_recoverNames hr hc, value_recoverNames hr hc, rootTrees_recoveryFrom hr hc,
    rootTrees_recoveryFrom hr hc, names_recoveryFrom_settings hr hc hlooks (.of_eq h), h]

theorem recoverNames_congr {seeds seeds' : List Seed}
    (h : (seedPairs settings reference renamed seeds').foldl addRoot [] =
      (seedPairs settings reference renamed seeds).foldl addRoot []) :
    (recoverNames reference renamed seeds' settings).value =
      (recoverNames reference renamed seeds settings).value :=
  recoverNames_eq_of_roots hr hc rfl h

end

/-! ## Seeds that count -/

section
variable (settings : Settings) (reference renamed : Catalog)

/-- The seeds that stand for a pair of types, except those whose renamed name stands in a seed kept
before or in `seen`. -/
def keptSeeds : List String → List Seed → List Seed
  | _, [] => []
  | seen, s :: rest =>
    if (s.pair? settings reference renamed).isSome && !seen.contains s.renamed then
      s :: keptSeeds (s.renamed :: seen) rest
    else keptSeeds seen rest

/-- `t` names the same types as `s`, and its score suffices just if that of `s` does. -/
structure Seed.Rescored (s t : Seed) : Prop where
  renamed : t.renamed = s.renamed
  reference : t.reference = s.reference
  score : t.score < settings.minScore ↔ s.score < settings.minScore

end

section
variable {settings : Settings} {reference renamed : Catalog}

/-- A seed that is not kept would make no root. -/
theorem foldl_keptSeeds {seen : List String} {acc : List (TypeNumber × TypeNumber)}
    (hseen : ∀ a ∈ seen, ∃ x, renamed.root? a = some x ∧ x ∈ acc.map (·.1)) (seeds : List Seed) :
    ((keptSeeds settings reference renamed seen seeds).filterMap
      (Seed.pair? settings reference renamed)).foldl addRoot acc =
    (seeds.filterMap (Seed.pair? settings reference renamed)).foldl addRoot acc := by
  induction seeds generalizing seen acc with
  | nil => rfl
  | cons s rest ih =>
    rw [keptSeeds]
    cases hp : s.pair? settings reference renamed with
    | none => simpa [hp] using ih hseen
    | some pair =>
      obtain ⟨x, y⟩ := pair
      have hx := (Seed.pair?_eq_some_iff.1 hp).2.1
      by_cases hs : s.renamed ∈ seen
      · -- the renamed type has a root already
        obtain ⟨x', hx', hm⟩ := hseen _ hs
        rw [hx, Option.some.injEq] at hx'
        have hacc : addRoot acc (x, y) = acc := if_pos (hx' ▸ hm)
        simpa [hp, hs, hacc] using ih hseen
      · have hseen' : ∀ a ∈ s.renamed :: seen,
            ∃ z, renamed.root? a = some z ∧ z ∈ (addRoot acc (x, y)).map (·.1) := by
          intro a ha
          rcases List.mem_cons.1 ha with rfl | ha
          · exact ⟨x, hx, mem_map_fst_addRoot.2 (.inr rfl)⟩
          · obtain ⟨z, hz, hm⟩ := hseen a ha
            exact ⟨z, hz, mem_map_fst_addRoot.2 (.inl hm)⟩
        simpa [hp, hs] using ih hseen'

theorem seedPairs_keptSeeds (seeds : List Seed) :
    (seedPairs settings reference renamed
      (keptSeeds settings reference renamed [] seeds)).foldl addRoot [] =
    (seedPairs settings reference renamed seeds).foldl addRoot [] := by
  rw [seedPairs, seedPairs, List.foldl_append, List.foldl_append, foldl_keptSeeds (by simp)]

theorem score_of_mem_keptSeeds {seen : List String} {seeds : List Seed} {s : Seed}
    (h : s ∈ keptSeeds settings reference renamed seen seeds) : ¬ s.score < settings.minScore := by
  induction seeds generalizing seen with
  | nil => cases h
  | cons t rest ih =>
    rw [keptSeeds] at h
    split at h
    · rename_i ht
      rcases List.mem_cons.1 h with rfl | h
      · rw [Bool.and_eq_true, Option.isSome_iff_exists] at ht
        obtain ⟨⟨⟨x, y⟩, hp⟩, -⟩ := ht
        exact (Seed.pair?_eq_some_iff.1 hp).1
      · exact ih h
    · exact ih h

theorem Seed.Rescored.pair?_eq {s t : Seed} (h : s.Rescored settings t) :
    t.pair? settings reference renamed = s.pair? settings reference renamed := by
  simp only [Seed.pair?, h.score, h.renamed, h.reference]

theorem seedPairs_rescored {seeds rescored : List Seed}
    (h : List.Forall₂ (Seed.Rescored settings) seeds rescored) :
    seedPairs settings reference renamed rescored = seedPairs settings reference renamed seeds := by
  have hpairs : rescored.filterMap (Seed.pair? settings reference renamed) =
      seeds.filterMap (Seed.pair? settings reference renamed) := by
    induction h with
    | nil => rfl
    | cons hs _ ih => rw [filterMap_cons_toList, filterMap_cons_toList, hs.pair?_eq, ih]
  rw [seedPairs, seedPairs, hpairs]

end

/-- **Only the kept seeds count.** Recovery never fails, and gives the same names for a list of
seeds as for the kept ones. Other scores change nothing as long as they suffice. -/
theorem recoverNames_keptSeeds {clean obfuscated : Module} {reference renamed : Catalog}
    (hclean : Catalog.ofModule clean = .ok reference)
    (hobfuscated : Catalog.ofModule obfuscated = .ok renamed) (seeds : List Seed)
    (settings : Settings) :
    let kept := keptSeeds settings reference renamed [] seeds
    ∃ forest, (recoverNames reference renamed seeds settings).value = .ok forest ∧
      (recoverNames reference renamed kept settings).value = .ok forest ∧
      (∀ rescored, List.Forall₂ (fun s t => t.renamed = s.renamed ∧ t.reference = s.reference ∧
        ¬ t.score < settings.minScore) kept rescored →
        (recoverNames reference renamed rescored settings).value = .ok forest) ∧
      ∀ rescored, List.Forall₂ (Seed.Rescored settings) seeds rescored →
        (recoverNames reference renamed rescored settings).value = .ok forest := by
  intro kept
  have hr : renamed.Sound := Catalog.sound_of_ofModule hobfuscated
  have hc : reference.Sound := Catalog.sound_of_ofModule hclean
  have hkept : (recoverNames reference renamed kept settings).value =
      (recoverNames reference renamed seeds settings).value :=
    recoverNames_congr hr hc (seedPairs_keptSeeds seeds)
  have hrescored : ∀ {seeds rescored}, List.Forall₂ (Seed.Rescored settings) seeds rescored →
      (recoverNames reference renamed rescored settings).value =
        (recoverNames reference renamed seeds settings).value :=
    fun h => recoverNames_congr hr hc (by rw [seedPairs_rescored h])
  have hok : (recoverNames reference renamed seeds settings).value = .ok _ :=
    value_recoverNames hr hc seeds
  refine ⟨_, hok, hkept.trans hok, fun rescored h => ?_, fun rescored h => (hrescored h).trans hok⟩
  have hsame : List.Forall₂ (Seed.Rescored settings) kept rescored := by
    have hboth := (List.forall₂_and_left _ _).2 ⟨fun s hs => score_of_mem_keptSeeds hs, h⟩
    exact hboth.imp fun s t ⟨hs, hrenamed, hreference, ht⟩ =>
      ⟨hrenamed, hreference, iff_of_false ht hs⟩
  exact (hrescored hsame).trans (hkept.trans hok)

/-- Seeds that are low, nested, unknown or repeated stand around one that counts. -/
def sampleSeeds : List Seed :=
  [⟨"Game.Hud", "Game.Hud", 0.5⟩, ⟨"ABCDEFGHIJK/LMNOPQRSTUV", "Game.Player", 2.0⟩,
    ⟨"ABCDEFGHIJK", "Game.Player/Stats", 2.0⟩, ⟨"ABCDEFGHIJK", "Game.Player", 2.0⟩,
    ⟨"Missing", "Game.Player", 2.0⟩, ⟨"ABCDEFGHIJK", "Game.Hud", 3.0⟩]

theorem recoverNames_keptSeeds_sample : ∃ reference renamed,
    Catalog.ofModule samplePlayer = .ok reference ∧ Catalog.ofModule sampleRenamed = .ok renamed ∧
      let settings : Settings := { minScore := 1.0 }
      (keptSeeds settings reference renamed [] sampleSeeds).map
        (fun s => (s.renamed, s.reference)) = [("ABCDEFGHIJK", "Game.Player")] ∧
      (recoverNames reference renamed sampleSeeds settings).value.toOption.map
        (fun forest => forest.types.map fun t => (t.renamed, t.recovered)) =
        some [("ABCDEFGHIJK", some "Player")] ∧
      ∃ forest, (recoverNames reference renamed sampleSeeds settings).value = .ok forest ∧
        (recoverNames reference renamed [⟨"ABCDEFGHIJK", "Game.Player", 1.0⟩] settings).value =
          .ok forest := by
  refine ⟨_, _, rfl, rfl, ?_⟩
  intro settings
  obtain ⟨forest, hseeds, -, hrescored, -⟩ :=
    recoverNames_keptSeeds (rfl : Catalog.ofModule samplePlayer = .ok _)
      (rfl : Catalog.ofModule sampleRenamed = .ok _) sampleSeeds settings
  exact ⟨by decide +kernel, by decide +kernel, forest, hseeds, hrescored _ (by decide +kernel)⟩

/-! ## The order of seeds -/

section
variable {settings : Settings} {reference renamed : Catalog}

/-- Seeds with different names on one side stand for pairs with different types on that side. -/
theorem nodup_types_of_seeds {c : Catalog} (hc : c.Sound) {name : Seed → String}
    {type : TypeNumber × TypeNumber → TypeNumber}
    (hside : ∀ {s pair}, s.pair? settings reference renamed = some pair →
      c.root? (name s) = some (type pair))
    {seeds : List Seed} (h : (seeds.map name).Nodup) :
    ((seeds.filterMap (Seed.pair? settings reference renamed)).map type).Nodup := by
  rw [List.Nodup, List.pairwise_map, List.pairwise_filterMap]
  rw [List.Nodup, List.pairwise_map] at h
  refine h.imp fun {s t} hne pair hs pair' ht htype => hne ?_
  exact hc.root?_inj (hside hs) (htype ▸ hside ht)

/-- Seeds in another order make the same roots in another order. -/
theorem seedPairs_perm (hr : renamed.Sound) {seeds seeds' : List Seed} (hperm : seeds.Perm seeds')
    (h : (seeds.map (·.renamed)).Nodup) :
    ((seedPairs settings reference renamed seeds).foldl addRoot []).Perm
      ((seedPairs settings reference renamed seeds').foldl addRoot []) := by
  have h' : (seeds'.map (·.renamed)).Nodup := (hperm.map _).nodup_iff.1 h
  rw [seedPairs, seedPairs, List.foldl_append, List.foldl_append,
    foldl_addRoot_of_nodup [] (nodup_types_of_seeds hr Seed.root?_renamed h),
    foldl_addRoot_of_nodup [] (nodup_types_of_seeds hr Seed.root?_renamed h')]
  exact foldl_addRoot_perm (hperm.filterMap _) _

end

/-- **The order of seeds does not matter** where no two of them have the same renamed name: every
root has the same tree, and only the order of the roots may differ. -/
theorem recoverNames_perm {clean obfuscated : Module} {reference renamed : Catalog}
    (hclean : Catalog.ofModule clean = .ok reference)
    (hobfuscated : Catalog.ofModule obfuscated = .ok renamed) {seeds seeds' : List Seed}
    (hperm : seeds.Perm seeds') (hnames : (seeds.map (·.renamed)).Nodup) (settings : Settings) :
    let trees := (recoveryFrom reference renamed seeds settings).rootTrees
    let trees' := (recoveryFrom reference renamed seeds' settings).rootTrees
    trees.Perm trees' ∧ ∃ forest forest' : NameForest,
      (recoverNames reference renamed seeds settings).value = .ok forest ∧
      (recoverNames reference renamed seeds' settings).value = .ok forest' ∧
      forest.types = trees.filterMap (·.2) ∧ forest'.types = trees'.filterMap (·.2) ∧
      forest.types.Perm forest'.types := by
  intro trees trees'
  have hr : renamed.Sound := Catalog.sound_of_ofModule hobfuscated
  have hc : reference.Sound := Catalog.sound_of_ofModule hclean
  have hroots : ((seedPairs settings reference renamed seeds).foldl addRoot []).Perm
      ((seedPairs settings reference renamed seeds').foldl addRoot []) :=
    seedPairs_perm hr hperm hnames
  have htrees : trees.Perm trees' := by
    simp only [trees, trees', rootTrees_recoveryFrom hr hc, names_recoveryFrom hr hc hroots]
    exact hroots.map _
  exact ⟨htrees, _, _, value_recoverNames hr hc seeds, value_recoverNames hr hc seeds', rfl, rfl,
    htrees.filterMap _⟩

theorem recoverNames_perm_sample : ∃ reference renamed,
    Catalog.ofModule samplePlayer = .ok reference ∧ Catalog.ofModule sampleRenamed = .ok renamed ∧
      let seeds : List Seed := [⟨"Game.Hud", "Game.Hud", 1.0⟩, ⟨"ABCDEFGHIJK", "Game.Player", 2.0⟩]
      seeds.Perm seeds.reverse ∧ (seeds.map (·.renamed)).Nodup ∧
      (recoveryFrom reference renamed seeds {}).rootTrees.map (·.1) =
        [(⟨2⟩, ⟨2⟩), (⟨0⟩, ⟨0⟩)] ∧
      (recoveryFrom reference renamed seeds {}).rootTrees.Perm
        (recoveryFrom reference renamed seeds.reverse {}).rootTrees := by
  refine ⟨_, _, rfl, rfl, ?_⟩
  intro seeds
  have hperm : seeds.Perm seeds.reverse := seeds.reverse_perm.symm
  have hnames : (seeds.map (·.renamed)).Nodup := by decide
  exact ⟨hperm, hnames, by decide +kernel,
    (recoverNames_perm (rfl : Catalog.ofModule samplePlayer = .ok _)
      (rfl : Catalog.ofModule sampleRenamed = .ok _) hperm hnames {}).1⟩

end Concord
