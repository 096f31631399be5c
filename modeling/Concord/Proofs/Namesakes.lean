import Concord.Proofs.SeedLists

/-!
# Namesakes are seeds

Pairing by name goes through the reference types and asks for a type of the same full name; using a
seed goes through two names, a threshold and the refusals of nested and unknown types. Both stand
for the same pairs: a reference type that is not nested is the one that its own full name leads to
(`Seed.pair?_namesake`), and no threshold keeps its seed out (`not_namesakeScore_lt`). So pairing by
name comes to the same as naming every reference type in a seed of its own, behind all other seeds
(`recoverNames_pairByName`).
-/

set_option autoImplicit false

namespace Concord

/-! ## The score of namesakes -/

theorem infinity_lt_eq_false (x : Float.Model.UnpackedFloat) :
    (Float.Model.UnpackedFloat.infinity .positive).lt x = false := by
  cases x with
  | infinity sign => cases sign <;> rfl
  | notANumber => rfl
  | zero sign => rfl
  | finite sign mantissa exponent pos => rfl

/-- No score is above that of namesakes, and what is no number compares with nothing. -/
theorem not_namesakeScore_lt (x : Float) : ¬ namesakeScore < x := by
  intro h
  have hlt : namesakeScore.toModel.unpack.lt x.toModel.unpack = true := of_decide_eq_true h
  have hscore : namesakeScore.toModel.unpack = .infinity .positive := rfl
  rw [hscore, infinity_lt_eq_false] at hlt
  cases hlt

/-! ## Seeds of namesakes -/

/-- The seed that pairs two types of the same full name. -/
def Seed.namesake (name : String) : Seed where
  renamed := name
  reference := name
  score := namesakeScore

/-- The numbers of the types that are not nested lead to them, one by one. -/
theorem forall₂_forestNumbers (first : Nat) (ts : List TypeTree) :
    List.Forall₂ (fun x t => ∃ e ∈ forestEntries first ts, e.number = x ∧
      e.fullName = t.decl.topLevelName) (forestNumbers first ts) ts := by
  induction ts generalizing first with
  | nil => exact .nil
  | cons t ts ih =>
    rw [forestNumbers, forestEntries]
    constructor
    · cases t with
      | node decl nested =>
        rw [TypeTree.entries]
        exact ⟨_, List.mem_append_left _ List.mem_cons_self, rfl, rfl⟩
    · refine (ih (first + t.size)).imp fun x u h => ?_
      obtain ⟨e, he, h⟩ := h
      exact ⟨e, List.mem_append_right _ he, h⟩

/-- The full names of the types that are not nested, in the order of the module. -/
theorem Catalog.map_fullName_roots {m : Module} {c : Catalog} (h : Catalog.ofModule m = .ok c) :
    c.roots.map c.fullName = m.types.map (·.decl.topLevelName) := by
  have hroots : c.roots = forestNumbers 0 m.types := by rw [(ofModule_ok h).2]
  have hnames : List.Forall₂ (fun x (t : TypeTree) => c.fullName x = t.decl.topLevelName)
      c.roots m.types := by
    rw [hroots]
    refine (forall₂_forestNumbers 0 m.types).imp fun x t h' => ?_
    obtain ⟨e, he, hx, hname⟩ := h'
    have hentry : c.entry? x = some e := (entry?_eq_some_iff h).2 ⟨he, hx⟩
    exact (Catalog.fullName_of_entry? hentry).trans hname
  rw [← List.forall₂_eq_eq_eq, List.forall₂_map_left_iff, List.forall₂_map_right_iff]
  exact hnames

section
variable {reference renamed : Catalog}

/-- **The seed of a reference type** stands for it and its namesake. -/
theorem Seed.pair?_namesake (hc : reference.Sound) (settings : Settings) {y : TypeNumber}
    (hy : y ∈ reference.roots) :
    (Seed.namesake (reference.fullName y)).pair? settings reference renamed =
      namesakePair? reference renamed y := by
  have hscore : ¬ namesakeScore < settings.minScore := not_namesakeScore_lt _
  simp only [Seed.pair?, Seed.namesake, if_neg hscore, hc.root?_fullName hy, namesakePair?,
    Option.map_some]
  cases renamed.root? (reference.fullName y) <;> rfl

theorem namesakes_eq_seeds (hc : reference.Sound) (settings : Settings) :
    namesakes reference renamed =
      ((reference.roots.map reference.fullName).map Seed.namesake).filterMap
        (Seed.pair? settings reference renamed) := by
  rw [List.map_map, List.filterMap_map, namesakes]
  exact List.filterMap_congr fun y hy => (Seed.pair?_namesake hc settings hy).symm

theorem seedPairs_namesakes (hc : reference.Sound) (settings : Settings) (seeds : List Seed) :
    seedPairs { settings with pairByName := false } reference renamed
      (seeds ++ (reference.roots.map reference.fullName).map Seed.namesake) =
    seedPairs { settings with pairByName := true } reference renamed seeds := by
  simp only [seedPairs, List.filterMap_append, if_true, Bool.false_eq_true, if_false,
    List.append_nil]
  exact congrArg _ (namesakes_eq_seeds hc settings).symm

end

/-- **Pairing by name is naming every reference type in a seed**, behind all others and with the
score of namesakes, whatever the threshold. -/
theorem recoverNames_pairByName {clean obfuscated : Module} {reference renamed : Catalog}
    (hclean : Catalog.ofModule clean = .ok reference)
    (hobfuscated : Catalog.ofModule obfuscated = .ok renamed) (seeds : List Seed)
    (settings : Settings) :
    let named := clean.types.map fun t => Seed.namesake t.decl.topLevelName
    ∃ forest,
      (recoverNames reference renamed seeds { settings with pairByName := true }).value =
        .ok forest ∧
      (recoverNames reference renamed (seeds ++ named)
        { settings with pairByName := false }).value = .ok forest := by
  intro named
  have hr : renamed.Sound := Catalog.sound_of_ofModule hobfuscated
  have hc : reference.Sound := Catalog.sound_of_ofModule hclean
  have hnamed : named = (reference.roots.map reference.fullName).map Seed.namesake := by
    rw [Catalog.map_fullName_roots hclean, List.map_map]
    rfl
  have hsame : (recoverNames reference renamed (seeds ++ named)
      { settings with pairByName := false }).value =
      (recoverNames reference renamed seeds { settings with pairByName := true }).value := by
    refine recoverNames_eq_of_roots hr hc rfl ?_
    rw [hnamed, seedPairs_namesakes hc]
  exact ⟨_, value_recoverNames hr hc seeds, hsame.trans (value_recoverNames hr hc seeds)⟩

/-- Types with a namesake that is bound, one that is nested, one that is neither, and none. -/
def sampleNamed : Module where
  name := "Game.dll"
  types := [.node { name := "ABCDEFGHIJK" } [], .node { name := "LMNOPQRSTUV" } [],
    .node { name := "Outer/Inner" } [], .node { name := "Missing" } []]

def sampleNamesakes : Module where
  name := "Renamed.dll"
  types := [.node { name := "Outer" } [.node { name := "Inner" } []],
    .node { name := "LMNOPQRSTUV" } [], .node { name := "ABCDEFGHIJK" } []]

theorem recoverNames_pairByName_sample : ∃ reference renamed,
    Catalog.ofModule sampleNamed = .ok reference ∧
      Catalog.ofModule sampleNamesakes = .ok renamed ∧
      let seeds : List Seed := [⟨"LMNOPQRSTUV", "ABCDEFGHIJK", 4.0⟩]
      let named := sampleNamed.types.map fun t => Seed.namesake t.decl.topLevelName
      named.map (·.renamed) = ["ABCDEFGHIJK", "LMNOPQRSTUV", "Outer/Inner", "Missing"] ∧
      (recoverNames reference renamed seeds
        { minScore := 3.0, pairByName := true }).value.toOption.map
          (fun forest => forest.types.map fun t => (t.renamed, t.recovered)) =
        some [("LMNOPQRSTUV", some "ABCDEFGHIJK"), ("ABCDEFGHIJK", none)] ∧
      ∃ forest,
        (recoverNames reference renamed seeds { minScore := 3.0, pairByName := true }).value =
          .ok forest ∧
        (recoverNames reference renamed (seeds ++ named)
          { minScore := 3.0, pairByName := false }).value = .ok forest := by
  refine ⟨_, _, rfl, rfl, by decide +kernel, by decide +kernel, ?_⟩
  exact recoverNames_pairByName (rfl : Catalog.ofModule sampleNamed = .ok _)
    (rfl : Catalog.ofModule sampleNamesakes = .ok _) _ { minScore := 3.0 }

end Concord
