import Concord.Proofs.Flattening
import Concord.Proofs.MethodMatching
import Concord.Proofs.Pruning
import Concord.Proofs.SeedLists
import Mathlib.Algebra.Order.BigOperators.Group.List
import Mathlib.Algebra.Order.Ring.Nat

/-!
# No type is reported twice

The trees of a recovery, listed with all that is nested in them (`NameForest.all`), show pairings
that are all different (`exists_pairings`), and a renamed type has one pairing at most. So every
type of the renamed module is reported once at most, under its own full name, and below the type
that declares it (`recoverNames_reports_once`). The counts of a recovery are sums over this listing
(`tallyOf_eq`), which the sums over the module therefore bound (`sum_le_forestDecls`).
-/

set_option autoImplicit false

namespace Concord

/-! ## Trees with all that is nested in them -/

mutual

/-- A tree and all trees nested in it. -/
def NameTree.all : NameTree → List NameTree
  | ⟨renamed, recovered, fields, properties, methods, nested⟩ =>
    ⟨renamed, recovered, fields, properties, methods, nested⟩ :: allOf nested

/-- Several trees and all trees nested in them. -/
def allOf : List NameTree → List NameTree
  | [] => []
  | t :: ts => t.all ++ allOf ts

end

/-- All trees of a recovery, at any depth. -/
def NameForest.all (forest : NameForest) : List NameTree := allOf forest.types

theorem NameTree.all_eq (t : NameTree) : t.all = t :: allOf t.nested := by
  cases t
  rw [NameTree.all]

/-- The counts of trees, without those nested in them. -/
def flatTally (ts : List NameTree) : Tally where
  types := ts.length
  renamedTypes := ts.countP (·.recovered.isSome)
  fields := (ts.map (·.fields.length)).sum
  properties := (ts.map (·.properties.length)).sum
  methods := (ts.map (·.methods.length)).sum

theorem flatTally_append (ts us : List NameTree) :
    flatTally (ts ++ us) = (flatTally ts).add (flatTally us) := by
  simp [flatTally, Tally.add]

mutual

theorem tally_eq : ∀ t : NameTree, t.tally = flatTally t.all
  | ⟨renamed, recovered, fields, properties, methods, nested⟩ => by
    rw [NameTree.tally, NameTree.all, tallyOf_eq nested, ← List.singleton_append, flatTally_append]
    cases recovered <;> simp [flatTally]

/-- **Counts are sums over all trees.** -/
theorem tallyOf_eq : ∀ ts : List NameTree, tallyOf ts = flatTally (allOf ts)
  | [] => by rw [tallyOf, allOf]; rfl
  | t :: ts => by rw [tallyOf, allOf, tally_eq t, tallyOf_eq ts, flatTally_append]

end

mutual

/-- What holds of a tree and passes on to the trees nested in one holds of all of them. -/
theorem NameTree.all_induction {P : NameTree → Prop} (hstep : ∀ t, P t → ∀ c ∈ t.nested, P c) :
    ∀ t : NameTree, P t → ∀ u ∈ t.all, P u
  | ⟨renamed, recovered, fields, properties, methods, nested⟩, h, u, hu => by
    rw [NameTree.all] at hu
    rcases List.mem_cons.1 hu with rfl | hu
    · exact h
    · exact allOf_induction hstep nested (hstep _ h) u hu

theorem allOf_induction {P : NameTree → Prop} (hstep : ∀ t, P t → ∀ c ∈ t.nested, P c) :
    ∀ ts : List NameTree, (∀ t ∈ ts, P t) → ∀ u ∈ allOf ts, P u
  | [], _, u, hu => by
    rw [allOf] at hu
    cases hu
  | t :: ts, h, u, hu => by
    rw [allOf] at hu
    rcases List.mem_append.1 hu with hu | hu
    · exact NameTree.all_induction hstep t (h t List.mem_cons_self) u hu
    · exact allOf_induction hstep ts (fun t' ht' => h t' (List.mem_cons_of_mem _ ht')) u hu

end

/-! ## Sums over a module -/

/-- Different types of a module weigh no more than all of them together. -/
theorem sum_le_forestDecls {m : Module} {g : Catalog} (h : Catalog.ofModule m = .ok g)
    {es : List CatalogEntry} (hes : (es.map (·.number)).Nodup)
    (hmem : ∀ e ∈ es, g.entry? e.number = some e) (weight : TypeDecl → Nat) :
    (es.map fun e => weight e.decl).sum ≤ ((forestDecls m.types).map weight).sum := by
  have hsub : es ⊆ forestEntries 0 m.types :=
    fun e he => ((Catalog.entry?_eq_some_iff h).1 (hmem e he)).1
  obtain ⟨es', hperm, hsublist⟩ := List.subperm_of_subset (List.Nodup.of_map _ hes) hsub
  calc (es.map fun e => weight e.decl).sum
      = (es'.map fun e => weight e.decl).sum := (hperm.map _).sum_eq.symm
    _ ≤ ((forestEntries 0 m.types).map fun e => weight e.decl).sum :=
        (hsublist.map _).sum_le_sum fun _ _ => Nat.zero_le _
    _ = ((forestDecls m.types).map weight).sum := by
        rw [← map_decl_forestEntries 0, List.map_map]
        rfl

namespace Recovery

open Concordance Unfolding

variable {m : Recovery}

theorem length_pairedOff_le {α β : Type} (as bs : List α) (f : α × α → Option β) :
    (if bs.length = as.length then (as.zip bs).filterMap f else []).length ≤ bs.length := by
  split
  · refine Nat.le_trans (List.length_filterMap_le _ _) ?_
    rw [List.length_zip]
    exact Nat.min_le_right _ _
  · exact Nat.zero_le _

theorem length_fields_le (m : Recovery) (reference renamed : CatalogEntry) :
    (m.fields reference renamed).value.length ≤ renamed.fields.length := by
  rw [value_fields]
  exact length_pairedOff_le _ _ _

theorem length_properties_le (m : Recovery) (reference renamed : CatalogEntry) :
    (m.properties reference renamed).value.length ≤ renamed.properties.length := by
  rw [value_properties]
  exact length_pairedOff_le _ _ _

/-! ## Trees and the pairings that they show -/

/-- The tree shows the pairing, with whatever is nested in it. -/
def Shows (m : Recovery) (id : PairingNumber) (t : NameTree) : Prop :=
  m.showAt? id t.nested = some t

mutual

theorem shows_labels : ∀ {u : Unfolding PairingNumber} {t : NameTree}, m.shown? u = some t →
    List.Forall₂ m.Shows u.labels t.all
  | .node id children, t, h => by
    rw [shown?, Option.bind_eq_some_iff] at h
    obtain ⟨ts, hts, ht⟩ := h
    have hnested : t.nested = ts := by
      obtain ⟨_, -, rfl⟩ := Option.map_eq_some_iff.1 ht
      rfl
    rw [labels, NameTree.all_eq, hnested]
    exact .cons (by rw [Shows, hnested, ht]) (shows_labelsAll hts)

theorem shows_labelsAll : ∀ {us : List (Unfolding PairingNumber)} {ts : List NameTree},
    m.shownAll? us = some ts → List.Forall₂ m.Shows (labelsAll us) (allOf ts)
  | [], ts, h => by
    rw [shownAll?, Option.some.injEq] at h
    rw [← h, labelsAll, allOf]
    exact .nil
  | u :: us, ts, h => by
    rw [shownAll?, Option.bind_eq_some_iff] at h
    obtain ⟨t, ht, hrest⟩ := h
    obtain ⟨ts', hts', rfl⟩ := Option.map_eq_some_iff.1 hrest
    rw [labelsAll, allOf]
    exact List.rel_append (shows_labels ht) (shows_labelsAll hts')

end

/-- **All trees show different pairings.** -/
theorem exists_pairings (h : m.concordance.Complete) :
    ∃ ids : List PairingNumber, ids.Nodup ∧ (∀ id ∈ ids, id.index < m.concordance.size) ∧
      List.Forall₂ m.Shows ids m.forest.value.all := by
  have hlabels := shows_labelsAll (shownAll?_forest h)
  rw [labelsAll_pruneAll, labelsAll_map] at hlabels
  have hperm := h.roots_partition
  refine ⟨_, (hperm.nodup_iff.2 (nodup_numbers _)).filter _, fun id hid => ?_, hlabels⟩
  exact mem_numbers.1 (hperm.mem_iff.1 (List.mem_of_mem_filter hid))

theorem exists_pairing_of_entries? {id : PairingNumber} {reference renamed : CatalogEntry}
    (h : m.entries? id = some (reference, renamed)) :
    ∃ n, m.concordance.pairing? id = some n ∧
      m.concordance.reference.entry? n.reference = some reference ∧
      m.concordance.renamed.entry? n.renamed = some renamed := by
  obtain ⟨n, hn, h⟩ := Option.bind_eq_some_iff.1 h
  obtain ⟨e, he, h⟩ := Option.bind_eq_some_iff.1 h
  obtain ⟨f, hf, hef⟩ := Option.map_eq_some_iff.1 h
  obtain ⟨rfl, rfl⟩ := Prod.mk.inj hef
  exact ⟨n, hn, he, hf⟩

/-- What a tree shows of a pairing. -/
theorem Shows.eq_assemble {id : PairingNumber} {t : NameTree} (hs : m.Shows id t) :
    ∃ n reference renamed, m.concordance.pairing? id = some n ∧
      m.concordance.reference.entry? n.reference = some reference ∧
      m.concordance.renamed.entry? n.renamed = some renamed ∧
      t = m.assemble reference renamed (m.fields reference renamed).value
        (m.properties reference renamed).value (m.methods reference renamed).value t.nested := by
  obtain ⟨⟨reference, renamed⟩, hentries, ht⟩ := Option.map_eq_some_iff.1 hs
  obtain ⟨n, hn, he, hf⟩ := exists_pairing_of_entries? hentries
  exact ⟨n, reference, renamed, hn, he, hf, ht.symm⟩

theorem shows_tree (h : m.concordance.Complete) {id : PairingNumber} {t : NameTree}
    (ht : (m.tree id).value = some t) : m.Shows id t ∧ t.nested = m.treesBelow id := by
  have hk : m.kept id = true := by rw [← isSome_tree h, ht, Option.isSome_some]
  rw [value_tree_of_kept h hk] at ht
  have hnested : t.nested = m.treesBelow id := by
    obtain ⟨_, -, rfl⟩ := Option.map_eq_some_iff.1 ht
    rfl
  exact ⟨by rw [Shows, hnested, ht], hnested⟩

/-- Every tree, at any depth, is the tree of a pairing. -/
theorem exists_tree (h : m.concordance.Complete) :
    ∀ t ∈ m.forest.value.all, ∃ id, (m.tree id).value = some t := by
  refine allOf_induction (fun t ht c hc => ?_) _ fun t ht => ?_
  · obtain ⟨id, hid⟩ := ht
    rw [(shows_tree h hid).2, treesBelow, List.mem_filterMap] at hc
    obtain ⟨child, -, hchild⟩ := hc
    exact ⟨child, hchild⟩
  · rw [value_forest, rootTrees, List.filterMap_map, List.mem_filterMap] at ht
    obtain ⟨id, -, hid⟩ := ht
    exact ⟨id, hid⟩

/-- The tree of a root is that of a type that is not nested. -/
theorem exists_topLevel (h : m.concordance.Complete) {t : NameTree}
    (ht : t ∈ m.forest.value.types) :
    ∃ id n e, m.concordance.pairing? id = some n ∧
      m.concordance.renamed.entry? n.renamed = some e ∧ e.declaring = none ∧
      (m.tree id).value = some t := by
  rw [value_forest, rootTrees, List.filterMap_map, List.mem_filterMap] at ht
  obtain ⟨id, hid, hvalue⟩ := ht
  obtain ⟨n, hn, hroot⟩ := h.wellFormed.mem_roots_iff.1 hid
  obtain ⟨e, he⟩ := Catalog.contains_iff.1 (h.wellFormed.valid hn).2
  exact ⟨id, n, e, hn, he, by rw [h.place hn he, hroot, Option.map_none], hvalue⟩

/-! ## Reported types -/

/-- The tree reports a type under its full name, with no more fields and properties than it has. -/
structure Reports (t : NameTree) (e : CatalogEntry) : Prop where
  fullName : t.renamed = e.fullName
  fields : t.fields.length ≤ e.fields.length
  properties : t.properties.length ≤ e.properties.length

theorem Shows.reports {id : PairingNumber} {t : NameTree} (hs : m.Shows id t) :
    ∃ e, m.concordance.renamed.entry? (m.concordance.types id).1 = some e ∧ Reports t e := by
  obtain ⟨n, reference, renamed, hn, -, hrenamed, ht⟩ := hs.eq_assemble
  rw [types_of_pairing? hn]
  refine ⟨renamed, hrenamed, ?_, ?_, ?_⟩
  · rw [ht, assemble]
  · rw [ht]
    exact m.length_fields_le reference renamed
  · rw [ht]
    exact m.length_properties_le reference renamed

theorem exists_forall₂ {α β γ : Type} {R : α → β → Prop} {S : α → γ → Prop} {T : β → γ → Prop}
    {as : List α} {bs : List β} (h : List.Forall₂ R as bs)
    (hR : ∀ a b, R a b → ∃ c, S a c ∧ T b c) :
    ∃ cs, List.Forall₂ S as cs ∧ List.Forall₂ T bs cs := by
  induction h with
  | nil => exact ⟨[], .nil, .nil⟩
  | @cons a b as bs hab _ ih =>
    obtain ⟨c, hac, hbc⟩ := hR a b hab
    obtain ⟨cs, hs, ht⟩ := ih
    exact ⟨c :: cs, .cons hac hs, .cons hbc ht⟩

/-- **All trees report different types.** -/
theorem exists_reported (h : m.concordance.Complete) (hr : m.concordance.renamed.Sound) :
    ∃ es : List CatalogEntry, (es.map (·.number)).Nodup ∧
      (∀ e ∈ es, m.concordance.renamed.entry? e.number = some e) ∧
      List.Forall₂ Reports m.forest.value.all es := by
  obtain ⟨ids, hnodup, hids, hshows⟩ := exists_pairings h
  obtain ⟨es, hes, hreports⟩ := exists_forall₂ hshows fun _ _ => Shows.reports
  have hnumbers : es.map (·.number) = ids.map fun id => (m.concordance.types id).1 := by
    rw [← List.forall₂_eq_eq_eq, List.forall₂_map_left_iff, List.forall₂_map_right_iff]
    exact hes.flip.imp fun e id he => hr.numbered he
  refine ⟨es, ?_, fun e he => ?_, hreports⟩
  · rw [hnumbers]
    refine hnodup.map_on fun i hi j hj hij => ?_
    obtain ⟨n, hn⟩ := (m.concordance.exists_pairing?_iff i).2 (hids i hi)
    obtain ⟨k, hk⟩ := (m.concordance.exists_pairing?_iff j).2 (hids j hj)
    rw [types_of_pairing? hn, types_of_pairing? hk] at hij
    exact h.wellFormed.eq_of_renamed hn hk hij
  · obtain ⟨id, -, hid⟩ := exists_of_mem_right hes he
    rw [hr.numbered hid, hid]

/-- What trees count is bounded by what the module declares, if each one is by its own type. -/
theorem sum_le_of_reports {obfuscated : Module} {renamed : Catalog}
    (hobfuscated : Catalog.ofModule obfuscated = .ok renamed) {trees : List NameTree}
    {es : List CatalogEntry} (hreports : List.Forall₂ Reports trees es)
    (hnodup : (es.map (·.number)).Nodup) (hes : ∀ e ∈ es, renamed.entry? e.number = some e)
    (count : NameTree → Nat) (weight : TypeDecl → Nat)
    (hcount : ∀ t e, Reports t e → count t ≤ weight e.decl) :
    (trees.map count).sum ≤ ((forestDecls obfuscated.types).map weight).sum := by
  have htrees : List.Forall₂ (· ≤ ·) (trees.map count) (es.map fun e => weight e.decl) := by
    rw [List.forall₂_map_left_iff, List.forall₂_map_right_iff]
    exact hreports.imp hcount
  exact htrees.sum_le_sum.trans (sum_le_forestDecls hobfuscated hnodup hes weight)

/-- A root reports a type that is not nested. -/
theorem reports_root (h : m.concordance.Complete) {t : NameTree} (ht : t ∈ m.forest.value.types) :
    ∃ x e, m.concordance.renamed.entry? x = some e ∧ e.declaring = none ∧
      e.fullName = t.renamed := by
  obtain ⟨id, n, e, hn, he, htop, hvalue⟩ := exists_topLevel h ht
  obtain ⟨e', he', hreports⟩ := (shows_tree h hvalue).1.reports
  rw [types_of_pairing? hn, he, Option.some.injEq] at he'
  exact ⟨n.renamed, e, he, htop, he' ▸ hreports.fullName.symm⟩

/-- A tree that is nested in another reports a type that is nested in the other's. -/
theorem reports_nested (h : m.concordance.Complete) (hr : m.concordance.renamed.Sound)
    {t c : NameTree} (ht : t ∈ m.forest.value.all) (hc : c ∈ t.nested) :
    ∃ x e y f, m.concordance.renamed.entry? x = some e ∧ e.fullName = t.renamed ∧
      m.concordance.renamed.entry? y = some f ∧ f.declaring = some x ∧ y ∈ e.nested ∧
      f.fullName = c.renamed := by
  obtain ⟨id, hid⟩ := exists_tree h t ht
  obtain ⟨hshows, hnested⟩ := shows_tree h hid
  rw [hnested, treesBelow, List.mem_filterMap] at hc
  obtain ⟨child, hchild, hc⟩ := hc
  obtain ⟨n, hn, hd⟩ := h.mem_nested_iff.1 hchild
  obtain ⟨e, he, hte⟩ := hshows.reports
  obtain ⟨f, hf, hcf⟩ := (shows_tree h hc).1.reports
  rw [types_of_pairing? hn] at hf
  have hdeclaring : f.declaring = some (m.concordance.types id).1 := by
    rw [h.place hn hf, hd, Option.map_some]
  exact ⟨_, e, _, f, he, hte.fullName.symm, hf, hdeclaring,
    (hr.nested_iff he _).2 ⟨f, hf, hdeclaring⟩, hcf.fullName.symm⟩

end Recovery

open Concordance Recovery

/-- **No type is reported twice.** Recovery succeeds, and the trees that it gives, at any depth,
have different names, which are full names of renamed types. The roots are types that are not
nested. A nested tree is named after the tree that it stands in and a type nested in that tree's
type. So no more types, fields and properties are counted than the renamed module declares. -/
theorem recoverNames_reports_once {clean obfuscated : Module} {reference renamed : Catalog}
    (hclean : Catalog.ofModule clean = .ok reference)
    (hobfuscated : Catalog.ofModule obfuscated = .ok renamed) (seeds : List Seed)
    (settings : Settings) :
    ∃ forest, (recoverNames reference renamed seeds settings).value = .ok forest ∧
      (forest.all.map (·.renamed)).Nodup ∧
      (∀ t ∈ forest.all, ∃ x e, renamed.entry? x = some e ∧ e.fullName = t.renamed) ∧
      (∀ t ∈ forest.types, ∃ x e, renamed.entry? x = some e ∧ e.declaring = none ∧
        e.fullName = t.renamed) ∧
      (∀ t ∈ forest.all, ∀ c ∈ t.nested, ∃ x e y f, renamed.entry? x = some e ∧
        e.fullName = t.renamed ∧ y ∈ e.nested ∧ renamed.entry? y = some f ∧
        c.renamed = t.renamed ++ "/" ++ f.name) ∧
      forest.tally.types ≤ (forestDecls obfuscated.types).length ∧
      forest.tally.fields ≤ ((forestDecls obfuscated.types).map (·.fields.length)).sum ∧
      forest.tally.properties ≤
        ((forestDecls obfuscated.types).map (·.properties.length)).sum := by
  have hr : renamed.Sound := Catalog.sound_of_ofModule hobfuscated
  have hc : reference.Sound := Catalog.sound_of_ofModule hclean
  have hs := (seeded_rooted hr hc seeds settings).2
  obtain ⟨m, hm⟩ : ∃ m, m = recoveryFrom reference renamed seeds settings := ⟨_, rfl⟩
  have h : m.concordance.Complete := hm ▸ hs.complete
  have hren : m.concordance.renamed = renamed := hm ▸ hs.grows.renamed
  obtain ⟨es, hnodup, hentries, hreports⟩ := exists_reported h (hren ▸ hr)
  rw [hren] at hentries
  have hvalue : (recoverNames reference renamed seeds settings).value = .ok m.forest.value := by
    rw [value_recoverNames hr hc, ← hm, value_forest]
  have htally : m.forest.value.tally = flatTally m.forest.value.all := tallyOf_eq _
  refine ⟨m.forest.value, hvalue, ?_, fun t ht => ?_, fun t ht => ?_, fun t ht c hc => ?_, ?_⟩
  · have hnames : m.forest.value.all.map (·.renamed) = es.map (·.fullName) := by
      rw [← List.forall₂_eq_eq_eq, List.forall₂_map_left_iff, List.forall₂_map_right_iff]
      exact hreports.imp fun _ _ => Reports.fullName
    rw [hnames]
    refine (List.Nodup.of_map _ hnodup).map_on fun e he f hf hef => ?_
    have hnumber := hr.unique (hentries e he) (hentries f hf) hef
    exact Option.some.inj ((hentries e he).symm.trans (hnumber ▸ hentries f hf))
  · obtain ⟨e, he, hte⟩ := exists_of_mem_right hreports.flip ht
    exact ⟨e.number, e, hentries e he, hte.fullName.symm⟩
  · rw [← hren]
    exact reports_root h ht
  · obtain ⟨x, e, y, f, he, het, hf, hd, hy, hfc⟩ := reports_nested h (hren ▸ hr) ht hc
    rw [hren] at he hf
    exact ⟨x, e, y, f, he, het, hy, hf, by
      rw [← hfc, ← het, Catalog.fullName_of_nested hobfuscated hf hd he, nestedName]⟩
  · have hsum := sum_le_of_reports hobfuscated hreports hnodup hentries
    rw [htally]
    refine ⟨?_, hsum _ (·.fields.length) fun _ _ => Reports.fields,
      hsum _ (·.properties.length) fun _ _ => Reports.properties⟩
    simpa [flatTally] using hsum (fun _ => 1) (fun _ => 1) fun _ _ _ => Nat.le_refl 1

theorem recoverNames_reports_sample : ∃ reference renamed,
    Catalog.ofModule samplePlayer = .ok reference ∧ Catalog.ofModule sampleRenamed = .ok renamed ∧
      let settings : Settings := { minScore := 1.0, pairByName := true }
      (recoverNames reference renamed sampleSeeds settings).value.toOption.map
        (fun forest => forest.all.map (·.renamed)) =
        some ["ABCDEFGHIJK", "ABCDEFGHIJK/LMNOPQRSTUV"] ∧
      ∃ forest, (recoverNames reference renamed sampleSeeds settings).value = .ok forest ∧
        (forest.all.map (·.renamed)).Nodup ∧
        forest.tally.types ≤ (forestDecls sampleRenamed.types).length := by
  refine ⟨_, _, rfl, rfl, ?_⟩
  intro settings
  obtain ⟨forest, hforest, hnodup, -, -, -, htypes, -⟩ :=
    recoverNames_reports_once (rfl : Catalog.ofModule samplePlayer = .ok _)
      (rfl : Catalog.ofModule sampleRenamed = .ok _) sampleSeeds settings
  exact ⟨by decide +kernel, forest, hforest, hnodup, htypes⟩

end Concord
