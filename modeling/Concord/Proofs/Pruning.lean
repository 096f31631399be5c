import Concord.Proofs.RootTrees

/-!
# Pruning loses nothing and keeps nothing idle

A pairing speaks for itself if the name of its renamed type looks renamed or members were recovered
for it (`speaks`). `tree` decides from the bottom up whether a pairing gives a tree: it looks at the
trees that are left of those nested in it. `pruning_exact` says what comes out of this: a pairing
gives a tree just if one of the pairings under it speaks (`kept`), and the trees of all roots are
the unfolded concordance without the other pairings, each pairing shown with its own members.

* `value_tree_ite`: one level of a tree, in terms of `speaks`.
* `isSome_tree`: the bottom-up decision agrees with the condition on everything below.
* `shownAll?_prune`: a tree is the pruned unfolding of its pairing.
-/

set_option autoImplicit false

namespace Concord

open Relation

/-! ## Pruned trees -/

namespace Unfolding

variable {α β : Type} (keep : β → Bool)

mutual

/-- A tree without the labels that are not to be kept. What stands below such a label moves up to
its place. -/
def prune : Unfolding β → List (Unfolding β)
  | .node label children =>
    if keep label then [.node label (pruneAll children)] else pruneAll children

/-- Several trees without the labels that are not to be kept. -/
def pruneAll : List (Unfolding β) → List (Unfolding β)
  | [] => []
  | t :: ts => t.prune ++ pruneAll ts

end

theorem pruneAll_map (f : α → Unfolding β) (as : List α) :
    pruneAll keep (as.map f) = as.flatMap fun a => (f a).prune keep := by
  induction as with
  | nil => rfl
  | cons a as ih => rw [List.map_cons, pruneAll, ih, List.flatMap_cons]

theorem labelsAll_append (ts us : List (Unfolding β)) :
    labelsAll (ts ++ us) = labelsAll ts ++ labelsAll us := by
  induction ts with
  | nil => rfl
  | cons t ts ih => rw [List.cons_append, labelsAll, labelsAll, ih, List.append_assoc]

mutual

theorem labelsAll_prune : ∀ t : Unfolding β, labelsAll (t.prune keep) = t.labels.filter keep
  | .node label children => by
    rw [prune, labels, List.filter_cons, ← labelsAll_pruneAll children]
    split
    · rw [labelsAll, labels, labelsAll, List.append_nil]
    · rfl

/-- Pruning takes away the labels that are not to be kept, and no others. -/
theorem labelsAll_pruneAll :
    ∀ ts : List (Unfolding β), labelsAll (pruneAll keep ts) = (labelsAll ts).filter keep
  | [] => by rw [pruneAll, labelsAll, List.filter_nil]
  | t :: ts => by
    rw [pruneAll, labelsAll_append, labelsAll_prune t, labelsAll_pruneAll ts, labelsAll,
      List.filter_append]

end

end Unfolding

namespace Recovery

open Concordance Unfolding

/-! ## What pairings show -/

/-- The reference and the renamed entry of a pairing. -/
def entries? (m : Recovery) (id : PairingNumber) : Option (CatalogEntry × CatalogEntry) :=
  (m.concordance.pairing? id).bind fun n =>
    (m.concordance.reference.entry? n.reference).bind fun reference =>
      (m.concordance.renamed.entry? n.renamed).map fun renamed => (reference, renamed)

/-- The name of a pairing's type looks renamed, or members were recovered for it. -/
def speaks (m : Recovery) (id : PairingNumber) : Bool :=
  (m.entries? id).any fun (reference, renamed) => m.looksRenamed renamed.name ||
    !(m.fields reference renamed).value.isEmpty ||
    !(m.properties reference renamed).value.isEmpty ||
    !(m.methods reference renamed).value.isEmpty

/-- A pairing that is nested in the given one, or this one itself, speaks. -/
def kept (m : Recovery) (id : PairingNumber) : Bool := (m.concordance.numbersUnder id).any m.speaks

/-- The names of a pairing's type and of its members, with the given trees nested in it. -/
def showAt? (m : Recovery) (id : PairingNumber) (nested : List NameTree) : Option NameTree :=
  (m.entries? id).map fun (reference, renamed) =>
    m.assemble reference renamed (m.fields reference renamed).value
      (m.properties reference renamed).value (m.methods reference renamed).value nested

mutual

/-- The tree that shows every pairing of a tree of pairings. -/
def shown? (m : Recovery) : Unfolding PairingNumber → Option NameTree
  | .node id children => (m.shownAll? children).bind (m.showAt? id)

/-- The trees that show several trees of pairings. -/
def shownAll? (m : Recovery) : List (Unfolding PairingNumber) → Option (List NameTree)
  | [] => some []
  | t :: ts => (m.shown? t).bind fun tree => (m.shownAll? ts).map (tree :: ·)

end

variable {m : Recovery}

theorem shownAll?_append {us vs : List (Unfolding PairingNumber)} {ts : List NameTree}
    (h : m.shownAll? us = some ts) : m.shownAll? (us ++ vs) = (m.shownAll? vs).map (ts ++ ·) := by
  induction us generalizing ts with
  | nil =>
    cases h
    simp
  | cons u us ih =>
    rw [shownAll?, Option.bind_eq_some_iff] at h
    obtain ⟨t, hu, hrest⟩ := h
    obtain ⟨ts', hts', rfl⟩ := Option.map_eq_some_iff.1 hrest
    rw [List.cons_append, shownAll?, hu, Option.bind_some, ih hts', Option.map_map]
    rfl

theorem shownAll?_flatMap {α : Type} {as : List α} {f : α → List (Unfolding PairingNumber)}
    {trees : α → List NameTree} (h : ∀ a ∈ as, m.shownAll? (f a) = some (trees a)) :
    m.shownAll? (as.flatMap f) = some (as.flatMap trees) := by
  induction as with
  | nil => rfl
  | cons a as ih =>
    rw [List.flatMap_cons, shownAll?_append (h a List.mem_cons_self),
      ih fun b hb => h b (List.mem_cons_of_mem _ hb), Option.map_some, List.flatMap_cons]

theorem exists_entries (h : m.concordance.WellFormed) {id : PairingNumber} {n : Pairing}
    (hn : m.concordance.pairing? id = some n) : ∃ reference renamed,
      m.entries? id = some (reference, renamed) := by
  obtain ⟨hreference, hrenamed⟩ := h.valid hn
  obtain ⟨reference, he⟩ := Catalog.contains_iff.1 hreference
  obtain ⟨renamed, hf⟩ := Catalog.contains_iff.1 hrenamed
  refine ⟨reference, renamed, ?_⟩
  rw [entries?, hn, Option.bind_some, he, Option.bind_some, hf, Option.map_some]

/-! ## One level -/

/-- The trees of the pairings nested in a pairing. -/
def treesBelow (m : Recovery) (id : PairingNumber) : List NameTree :=
  (m.concordance.nestedOf id).filterMap fun c => (m.tree c).value

/-- **One level of a tree**: a pairing gives a tree if it speaks or has trees nested in it. -/
theorem value_tree_ite (h : m.concordance.Acyclic) (id : PairingNumber) :
    (m.tree id).value = if m.speaks id || !(m.treesBelow id).isEmpty then
      m.showAt? id (m.treesBelow id) else none := by
  rw [tree_eq h]
  cases hn : m.concordance.pairing? id with
  | none => simp [treeStep, hn, showAt?, entries?]
  | some n =>
    rw [value_treeStep (index_lt_size hn), types_of_pairing? hn]
    simp only [namesAt, speaks, showAt?, entries?, hn, Option.bind_some]
    cases m.concordance.reference.entry? n.reference with
    | none => simp
    | some reference =>
      cases m.concordance.renamed.entry? n.renamed with
      | none => simp
      | some renamed =>
        have hidle : ∀ tree : NameTree, (!m.looksRenamed renamed.name && tree.isEmpty) =
            !(m.looksRenamed renamed.name || !tree.fields.isEmpty || !tree.properties.isEmpty ||
              !tree.methods.isEmpty || !tree.nested.isEmpty) := by
          intro tree
          simp [NameTree.isEmpty, Bool.and_assoc]
        simp only [hidle, Option.bind_some, Option.map_some, Option.any_some, Bool.not_eq_true',
          ← Bool.not_eq_true, ite_not]
        rfl

/-! ## What is kept -/

theorem kept_eq (h : m.concordance.Complete) (id : PairingNumber) :
    m.kept id = (m.speaks id || (m.concordance.nestedOf id).any m.kept) := by
  rw [kept, h.numbersUnder_eq, List.any_cons, List.any_flatMap]
  rfl

/-- Trees are left below a pairing if pairings are kept there. -/
theorem not_isEmpty_treesBelow {id : PairingNumber}
    (h : ∀ c ∈ m.concordance.nestedOf id, (m.tree c).value.isSome = m.kept c) :
    (!(m.treesBelow id).isEmpty) = (m.concordance.nestedOf id).any m.kept := by
  rw [Bool.eq_iff_iff, Bool.not_eq_true', List.isEmpty_eq_false_iff_exists_mem, List.any_eq_true]
  simp only [treesBelow, List.mem_filterMap]
  constructor
  · rintro ⟨t, c, hc, ht⟩
    exact ⟨c, hc, by rw [← h c hc, ht, Option.isSome_some]⟩
  · rintro ⟨c, hc, hk⟩
    rw [← h c hc, Option.isSome_iff_exists] at hk
    obtain ⟨t, ht⟩ := hk
    exact ⟨t, c, hc, ht⟩

/-- **The trees that are left decide as the pairings below do.** -/
theorem isSome_tree (h : m.concordance.Complete) (id : PairingNumber) :
    (m.tree id).value.isSome = m.kept id := by
  induction id using (acyclic_iff_wellFounded.1 h.acyclic).induction with
  | _ id ih =>
    rw [value_tree_ite h.acyclic, kept_eq h, ← not_isEmpty_treesBelow ih]
    cases hn : m.concordance.pairing? id with
    | none => simp [speaks, entries?, treesBelow, nestedOf, hn]
    | some n =>
      obtain ⟨reference, renamed, hentries⟩ := exists_entries h.wellFormed hn
      rw [showAt?, hentries, Option.map_some]
      cases m.speaks id || !(m.treesBelow id).isEmpty <;> rfl

theorem value_tree_of_kept (h : m.concordance.Complete) {id : PairingNumber}
    (hk : m.kept id = true) : (m.tree id).value = m.showAt? id (m.treesBelow id) := by
  rw [kept_eq h, ← not_isEmpty_treesBelow fun c _ => isSome_tree h c] at hk
  rw [value_tree_ite h.acyclic, if_pos hk]

theorem treesBelow_of_not_kept (h : m.concordance.Complete) {id : PairingNumber}
    (hk : m.kept id = false) : m.treesBelow id = [] := by
  rw [kept_eq h, ← not_isEmpty_treesBelow fun c _ => isSome_tree h c, Bool.or_eq_false_iff] at hk
  simpa using hk.2

/-- **A tree is what is left of its pairing's unfolding**, each pairing shown as it is. -/
theorem shownAll?_prune (h : m.concordance.Complete) (id : PairingNumber) :
    m.shownAll? ((m.concordance.unfolding (fun x => x) id).prune m.kept) =
      some (m.tree id).value.toList := by
  induction id using (acyclic_iff_wellFounded.1 h.acyclic).induction with
  | _ id ih =>
    have hbelow : m.shownAll? (pruneAll m.kept ((m.concordance.nestedOf id).map
        (m.concordance.unfolding fun x => x))) = some (m.treesBelow id) := by
      rw [pruneAll_map, shownAll?_flatMap ih, treesBelow, List.filterMap_eq_flatMap_toList]
    have hsome := isSome_tree h id
    rw [h.unfolding_eq, prune]
    cases hk : m.kept id with
    | false =>
      -- nothing is left below either
      rw [hk, Option.isSome_eq_false_iff, Option.isNone_iff_eq_none] at hsome
      rw [if_neg Bool.false_ne_true, hbelow, treesBelow_of_not_kept h hk, hsome, Option.toList_none]
    | true =>
      rw [hk, Option.isSome_iff_exists] at hsome
      obtain ⟨t, ht⟩ := hsome
      have hshow := (value_tree_of_kept h hk).symm.trans ht
      rw [if_pos rfl, shownAll?, shown?, hbelow, Option.bind_some, hshow, Option.bind_some,
        shownAll?, Option.map_some, ht, Option.toList_some]

/-! ## The whole forest -/

theorem shownAll?_forest (h : m.concordance.Complete) :
    m.shownAll? (pruneAll m.kept (m.concordance.roots.map (m.concordance.unfolding fun x => x))) =
      some m.forest.value.types := by
  rw [pruneAll_map, shownAll?_flatMap fun id _ => shownAll?_prune h id, value_forest, rootTrees,
    List.filterMap_map, List.filterMap_eq_flatMap_toList]
  rfl

theorem kept_iff (h : m.concordance.Complete) {id : PairingNumber} : m.kept id = true ↔
    ∃ x, ReflTransGen m.concordance.NestedIn x id ∧ m.speaks x = true := by
  have hnested : m.concordance.NestedIn = m.concordance.DeclaredBy := by
    funext c p
    exact propext h.mem_nested_iff
  rw [kept, List.any_eq_true, hnested]
  simp only [h.mem_numbersUnder_iff]

/-- **Pruning loses nothing and keeps nothing idle.** In every concordance that seeding leads to,
and whatever members are compared by: a pairing gives a tree just if one that is nested in it, at
any depth, or the pairing itself speaks. The trees of all roots are the unfolded pairings, in the
order of roots and of nesting, without the pairings that give none, each one shown with its own
members. -/
theorem pruning_exact {clean obfuscated : Module} {reference renamed : Catalog}
    (hclean : Catalog.ofModule clean = .ok reference)
    (hobfuscated : Catalog.ofModule obfuscated = .ok renamed) (qs : List Request)
    (hqs : ∀ q ∈ qs, q.isSeeding = true) (m : Recovery)
    (hm : m.concordance = (empty reference renamed).run qs) :
    let g := m.concordance
    (∀ id, (m.tree id).value.isSome = true ↔
      ∃ x, ReflTransGen g.NestedIn x id ∧ m.speaks x = true) ∧
    (∀ id, m.kept id = true ↔ ∃ x, ReflTransGen g.NestedIn x id ∧ m.speaks x = true) ∧
    (∀ id, g.unfolding (fun x => x) id =
      .node id ((g.nestedOf id).map (g.unfolding fun x => x))) ∧
    (∀ id, m.shownAll? ((g.unfolding (fun x => x) id).prune m.kept) =
      some (m.tree id).value.toList) ∧
    m.shownAll? (pruneAll m.kept (g.roots.map (g.unfolding fun x => x))) =
      some m.forest.value.types := by
  intro g
  have hr : renamed.Sound := Catalog.sound_of_ofModule hobfuscated
  have hc : reference.Sound := Catalog.sound_of_ofModule hclean
  have h : g.Complete := by
    rw [show g = (empty reference renamed).run qs from hm]
    exact (complete_empty reference renamed).run hr hc hqs
  refine ⟨fun id => ?_, fun id => kept_iff h, h.unfolding_eq _, shownAll?_prune h,
    shownAll?_forest h⟩
  rw [isSome_tree h]
  exact kept_iff h

/-- Nothing is renamed but a field deep inside a type. -/
def sampleHud (field : String) : Module where
  name := "Hud.dll"
  types :=
    [.node { namespaceName := "Game", name := "Hud" }
      [.node { name := "Panel" } [.node { name := "Row", fields := [⟨field, "System.Int32"⟩] } []],
        .node { name := "Menu" } []],
      .node { namespaceName := "Game", name := "Clock" } [.node { name := "Hand" } []]]

theorem pruning_exact_sample : ∃ reference renamed,
    Catalog.ofModule (sampleHud "height") = .ok reference ∧
    Catalog.ofModule (sampleHud "ABCDEFGHIJK") = .ok renamed ∧
      let m : Recovery :=
        { concordance := (empty reference renamed).run [.plantNamesakes 1.0, .pairNested ⟨1⟩]
          looksRenamed := .capitals 11 }
      m.concordance.numbers.map (fun id => (m.speaks id, m.kept id)) =
        [(false, true), (false, true), (false, false), (true, true), (false, false),
          (false, false)] ∧
      (∃ x, ReflTransGen m.concordance.NestedIn x ⟨0⟩ ∧ m.speaks x = true) ∧
      m.shownAll? (pruneAll m.kept
        (m.concordance.roots.map (m.concordance.unfolding fun x => x))) =
          some m.forest.value.types := by
  refine ⟨_, _, rfl, rfl, ?_⟩
  intro m
  obtain ⟨htree, -, -, -, hforest⟩ :=
    pruning_exact (rfl : Catalog.ofModule (sampleHud "height") = .ok _)
      (rfl : Catalog.ofModule (sampleHud "ABCDEFGHIJK") = .ok _)
      [.plantNamesakes 1.0, .pairNested ⟨1⟩] (by decide) m rfl
  exact ⟨by decide +kernel, (htree ⟨0⟩).1 (by decide +kernel), hforest⟩

end Recovery

end Concord
