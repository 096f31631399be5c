import Concord.Proofs.Building
import Concord.Proofs.Roots

/-!
# Trees depend on the pairs of the roots only

The tree of a pairing is a function of the alignment of its types (`names`, `value_tree`).
What else it depends on are the counterparts of types, by which the names in the signatures of these
types are resolved (`names_congr_on`, `namesAt_on_of_parameters`), and counterparts are the pairs in
the alignments of the roots (`Complete.bindings_perm`). So two complete concordances give the same
trees if their roots have the same types, in whatever order and under whatever numbers
(`names_eq_of_roots`).
-/

set_option autoImplicit false

namespace Concord

open Unfolding

theorem Unfolding.labels_grow {α β : Type} (label : α → β) (children : α → List α) (depth : Nat)
    (a : α) : (grow label children depth a).labels =
      (grow (fun x => x) children depth a).labels.map label := by
  induction depth generalizing a with
  | zero => simp [grow, labels, labelsAll]
  | succ depth ih =>
    simp only [grow, labels, labelsAll_map, List.map_cons, List.map_flatMap, ih]

/-- The names of the parameter types of all methods of a type. -/
def CatalogEntry.parameterTypes (e : CatalogEntry) : List String :=
  e.methods.flatMap MethodDecl.parameterTypes

/-- The names of the parameter types of all methods of a type, if the catalog has it. -/
def Catalog.parameterTypes (c : Catalog) (x : TypeNumber) : List String :=
  ((c.entry? x).map CatalogEntry.parameterTypes).getD []

/-! ## Counterparts -/

namespace Concordance

/-- The reference type that a renamed type is bound to. -/
def referenceOf? (g : Concordance) (x : TypeNumber) : Option TypeNumber :=
  (g.ofType? x).map fun id => (g.types id).2

/-- All pairs of types that are bound to each other. -/
def bindings (g : Concordance) : List (TypeNumber × TypeNumber) := g.numbers.map g.types

variable {g k : Concordance}

theorem WellFormed.referenceOf?_eq_some_iff (hg : g.WellFormed) {x y : TypeNumber} :
    g.referenceOf? x = some y ↔ (x, y) ∈ g.bindings := by
  simp only [referenceOf?, bindings, Option.map_eq_some_iff, List.mem_map, mem_numbers]
  constructor
  · rintro ⟨id, ho, rfl⟩
    obtain ⟨n, hn, rfl⟩ := hg.ofType?_eq_some_iff.1 ho
    exact ⟨id, index_lt_size hn, by rw [types_of_pairing? hn]⟩
  · rintro ⟨id, hid, htypes⟩
    obtain ⟨n, hn⟩ := (g.exists_pairing?_iff id).2 hid
    rw [types_of_pairing? hn, Prod.mk.injEq] at htypes
    refine ⟨id, hg.ofType?_eq_some_iff.2 ⟨n, hn, htypes.1⟩, ?_⟩
    rw [types_of_pairing? hn, htypes.2]

/-- **What is bound** are the pairs in the alignments of the roots. -/
theorem Complete.bindings_perm (h : g.Complete) : g.bindings.Perm
    (g.rootTypes.flatMap fun pair => (align g.renamed g.reference pair).labels) := by
  refine (h.roots_partition.symm.map g.types).trans (.of_eq ?_)
  rw [List.map_flatMap, rootTypes, List.flatMap_map]
  refine List.flatMap_congr fun id hid => ?_
  rw [← h.unfolding_eq_align (h.wellFormed.index_lt_of_mem_roots hid), unfolding, labels_grow]
  rfl

theorem WellFormed.referenceOf?_congr (hg : g.WellFormed) (hk : k.WellFormed)
    (h : k.bindings.Perm g.bindings) : k.referenceOf? = g.referenceOf? := by
  funext x
  refine Option.ext fun y => ?_
  rw [hk.referenceOf?_eq_some_iff, hg.referenceOf?_eq_some_iff, h.mem_iff]

/-- Roots of the same types bind the same types. -/
theorem Complete.referenceOf?_eq (hg : g.Complete) (hk : k.Complete)
    (hrenamed : k.renamed = g.renamed) (hreference : k.reference = g.reference)
    (hroots : k.rootTypes.Perm g.rootTypes) : k.referenceOf? = g.referenceOf? := by
  refine hg.wellFormed.referenceOf?_congr hk.wellFormed ?_
  refine hk.bindings_perm.trans (.trans ?_ hg.bindings_perm.symm)
  rw [hrenamed, hreference]
  exact hroots.flatMap_right _

end Concordance

namespace Recovery

open Concordance

/-! ## Names of an alignment -/

/-- The names of a pair of types, given the trees of the types nested in them. -/
def namesAt (m : Recovery) (pair : TypeNumber × TypeNumber) (nested : List NameTree) :
    Option NameTree :=
  match m.concordance.reference.entry? pair.2, m.concordance.renamed.entry? pair.1 with
  | some reference, some renamed =>
    let tree := m.assemble reference renamed (m.fields reference renamed).value
      (m.properties reference renamed).value (m.methods reference renamed).value nested
    if !m.looksRenamed renamed.name && tree.isEmpty then none else some tree
  | _, _ => none

mutual

/-- The names of a tree of pairs. -/
def names (m : Recovery) : Unfolding (TypeNumber × TypeNumber) → Option NameTree
  | .node pair children => m.namesAt pair (namesOfAll m children)

/-- The names of several trees of pairs. -/
def namesOfAll (m : Recovery) : List (Unfolding (TypeNumber × TypeNumber)) → List NameTree
  | [] => []
  | t :: ts => (m.names t).toList ++ m.namesOfAll ts

end

variable {m : Recovery}

theorem namesOfAll_eq (ts : List (Unfolding (TypeNumber × TypeNumber))) :
    m.namesOfAll ts = ts.filterMap m.names := by
  induction ts with
  | nil => rfl
  | cons t ts ih => rw [namesOfAll, ih, filterMap_cons_toList]

mutual

/-- The names of a tree of pairs depend on those of the single pairs in it only. -/
theorem names_congr_on {m' : Recovery} :
    ∀ t, (∀ pair ∈ t.labels, m'.namesAt pair = m.namesAt pair) → m'.names t = m.names t
  | .node pair children, hat => by
    rw [names, names, hat pair List.mem_cons_self,
      namesOfAll_congr_on children fun p hp => hat p (List.mem_cons_of_mem _ hp)]

theorem namesOfAll_congr_on {m' : Recovery} :
    ∀ ts, (∀ pair ∈ labelsAll ts, m'.namesAt pair = m.namesAt pair) →
      m'.namesOfAll ts = m.namesOfAll ts
  | [], _ => rfl
  | t :: ts, hat => by
    rw [namesOfAll, namesOfAll, names_congr_on t fun p hp => hat p (List.mem_append_left _ hp),
      namesOfAll_congr_on ts fun p hp => hat p (List.mem_append_right _ hp)]

end

theorem value_treeStep {below : PairingNumber → Logged (Option NameTree)} {id : PairingNumber}
    (hid : id.index < m.concordance.size) : (m.treeStep below id).value =
      m.namesAt (m.concordance.types id)
        ((m.concordance.nestedOf id).filterMap fun c => (below c).value) := by
  obtain ⟨n, hn⟩ := (m.concordance.exists_pairing?_iff id).2 hid
  rw [types_of_pairing? hn, nestedOf_of_pairing? hn]
  simp only [treeStep, hn, namesAt]
  cases m.concordance.reference.entry? n.reference with
  | none => rfl
  | some reference =>
    cases m.concordance.renamed.entry? n.renamed with
    | none => rfl
    | some renamed =>
      simp only [Logged.value_bind, Logged.value_mapM, List.filterMap_map, Function.comp_def]
      split <;> rfl

theorem value_treeWithin_unfolding (h : m.concordance.WellFormed) (depth : Nat)
    {id : PairingNumber} (hid : id.index < m.concordance.size) :
    (m.treeWithin (depth + 1) id).value =
      m.names (grow m.concordance.types m.concordance.nestedOf depth id) := by
  induction depth generalizing id with
  | zero =>
    -- nested pairings give no trees here, and the unfolding ends
    have hcut : (m.concordance.nestedOf id).filterMap
        (fun c => (m.treeWithin 0 c).value) = [] := by simp [treeWithin]
    rw [treeWithin_succ, value_treeStep hid, hcut, grow, names, namesOfAll]
  | succ depth ih =>
    rw [treeWithin_succ, value_treeStep hid, grow, names, namesOfAll_eq, List.filterMap_map]
    congr 1
    exact List.filterMap_congr fun c hc => ih (h.index_lt_of_nestedIn hc)

/-- **A tree is a function of the alignment** of its types. -/
theorem value_tree (h : m.concordance.Complete) {id : PairingNumber}
    (hid : id.index < m.concordance.size) : (m.tree id).value =
      m.names (align m.concordance.renamed m.concordance.reference (m.concordance.types id)) := by
  rw [← treeWithin_eq h.acyclic id 1, value_treeWithin_unfolding h.wellFormed _ hid,
    ← h.unfolding_eq_align hid]
  rfl

/-- The types of each root and its tree, in order. -/
def rootTrees (m : Recovery) : List ((TypeNumber × TypeNumber) × Option NameTree) :=
  m.concordance.roots.map fun id => (m.concordance.types id, (m.tree id).value)

theorem value_forest : m.forest.value = { types := m.rootTrees.filterMap (·.2) } := by
  simp only [forest, Logged.value_bind, Logged.value_pure, Logged.value_mapM, rootTrees,
    List.filterMap_map, Function.comp_def]

theorem rootTrees_eq (h : m.concordance.Complete) :
    m.rootTrees = m.concordance.rootTypes.map fun pair =>
      (pair, m.names (align m.concordance.renamed m.concordance.reference pair)) := by
  rw [rootTrees, rootTypes, List.map_map]
  refine List.map_congr_left fun id hid => ?_
  rw [value_tree h (h.wellFormed.index_lt_of_mem_roots hid)]
  rfl

/-! ## Another concordance -/

/-- The same recovery with another concordance. -/
def on (m : Recovery) (k : Concordance) : Recovery := { m with concordance := k }

variable {k : Concordance}

theorem resolve_eq (h : m.concordance.WellFormed) (hr : m.concordance.renamed.Sound)
    (s : String) : m.resolve s = (((m.concordance.renamed.find? s).bind
      m.concordance.referenceOf?).map m.concordance.reference.fullName).getD s := by
  rw [resolve, h.ofName?_eq hr]
  cases hx : m.concordance.renamed.find? s with
  | none => rfl
  | some x =>
    cases ho : m.concordance.ofType? x with
    | none => simp [referenceOf?, ho]
    | some id =>
      obtain ⟨n, hn, -⟩ := h.ofType?_eq_some_iff.1 ho
      simp [referenceOf?, ho, hn, types_of_pairing? hn]

/-- The methods of a type depend on the resolution of the names in its own signatures only. -/
theorem methods_on_of_parameters {renamed : CatalogEntry}
    (hresolve : ∀ s ∈ renamed.parameterTypes, (m.on k).resolve s = m.resolve s)
    (reference : CatalogEntry) :
    (m.on k).methods reference renamed = m.methods reference renamed := by
  have hcandidates : (m.on k).candidates renamed = m.candidates renamed := by
    funext clean
    refine List.filter_congr fun method hmethod => ?_
    have hparameters : method.parameterTypes.map (m.on k).resolve =
        method.parameterTypes.map m.resolve :=
      List.map_congr_left fun s hs => hresolve s
        (List.mem_flatMap.2 ⟨method, List.mem_of_mem_filter hmethod, hs⟩)
    rw [compatible, hparameters]
    rfl
  have hmethod : (m.on k).method renamed = m.method renamed := by
    funext clean
    simp only [method, hcandidates]
  rw [methods, hmethod]
  rfl

theorem methods_on (hresolve : (m.on k).resolve = m.resolve) : (m.on k).methods = m.methods := by
  funext reference renamed
  exact methods_on_of_parameters (fun s _ => congrFun hresolve s) reference

theorem namesAt_on_of_parameters (hrenamed : k.renamed = m.concordance.renamed)
    (hreference : k.reference = m.concordance.reference) {pair : TypeNumber × TypeNumber}
    (hresolve : ∀ s ∈ m.concordance.renamed.parameterTypes pair.1,
      (m.on k).resolve s = m.resolve s) : (m.on k).namesAt pair = m.namesAt pair := by
  funext nested
  simp only [namesAt]
  rw [show (m.on k).concordance = k from rfl, hrenamed, hreference]
  cases m.concordance.reference.entry? pair.2 with
  | none => rfl
  | some reference =>
    cases he : m.concordance.renamed.entry? pair.1 with
    | none => rfl
    | some renamed =>
      rw [Catalog.parameterTypes, he] at hresolve
      simp only [methods_on_of_parameters hresolve]
      rfl

/-- **Roots of the same types give the same names.** -/
theorem names_eq_of_roots (h : m.concordance.Complete) (hr : m.concordance.renamed.Sound)
    (hk : k.Complete) (hrenamed : k.renamed = m.concordance.renamed)
    (hreference : k.reference = m.concordance.reference)
    (hroots : k.rootTypes.Perm m.concordance.rootTypes) : (m.on k).names = m.names := by
  have hreferenceOf := h.referenceOf?_eq hk hrenamed hreference hroots
  have hresolve : (m.on k).resolve = m.resolve := by
    funext s
    rw [resolve_eq h.wellFormed hr, resolve_eq (m := m.on k) hk.wellFormed (hrenamed ▸ hr)]
    rw [show (m.on k).concordance = k from rfl, hreferenceOf, hrenamed, hreference]
  funext t
  exact names_congr_on t fun pair _ =>
    namesAt_on_of_parameters hrenamed hreference fun s _ => congrFun hresolve s

end Recovery

end Concord
