import Concord.Proofs.MethodMatching
import Concord.Proofs.Outlines
import Concord.Proofs.SameShape

/-!
# The order of methods

The methods of two types are compared by signature, so the order in which either type declares them
decides in which order entries are found, and nothing else. A reference method is recovered if it
has one candidate, wherever that stands (`value_method_reordered`), and of the names that
conventions give, those are added that are new, whichever comes first (`addNew_perm`).

* `ofModule_reordered`: modules that differ in the order of methods only have catalogs that do.
* `value_methods_reordered`: the entries for two types are the same up to order.
* `value_methods_of_reordered_renamed`: they stand in the order of the reference methods, if the
  renamed type is not nested.
* `names_reordered`: trees of names differ in the order of methods only.
-/

set_option autoImplicit false

namespace Concord

open Concordance

/-! ## Reordered modules -/

/-- The same type with its methods in another order. -/
structure TypeDecl.Reordered (d d' : TypeDecl) : Prop where
  namespaceName : d'.namespaceName = d.namespaceName
  name : d'.name = d.name
  fields : d'.fields = d.fields
  properties : d'.properties = d.properties
  methods : d'.methods.Perm d.methods

/-- The same type, and the same types nested in it, with their methods in another order. -/
inductive TypeTree.Reordered : TypeTree → TypeTree → Prop
  | node {decl decl' : TypeDecl} {nested nested' : List TypeTree} (hdecl : decl.Reordered decl')
      (hnested : List.Forall₂ TypeTree.Reordered nested nested') :
      TypeTree.Reordered (.node decl nested) (.node decl' nested')

/-- The same module with the methods of its types in another order. -/
structure Module.Reordered (m m' : Module) : Prop where
  name : m'.name = m.name
  types : List.Forall₂ TypeTree.Reordered m.types m'.types

/-- The same listed type with its methods in another order. -/
structure CatalogEntry.Reordered (e e' : CatalogEntry) : Prop where
  outline : e'.outline = e.outline
  fields : e'.fields = e.fields
  properties : e'.properties = e.properties
  methods : e'.methods.Perm e.methods

/-- The same types with their methods in another order. -/
structure Catalog.Reordered (c c' : Catalog) : Prop where
  outline : c'.outline = c.outline
  entry : ∀ {x e}, c.entry? x = some e → ∃ e', c'.entry? x = some e' ∧ e.Reordered e'

/-- The same names, except that those of the methods of single types may stand in another order. -/
inductive NameTree.Reordered : NameTree → NameTree → Prop
  | mk {t t' : NameTree} (renamed : t'.renamed = t.renamed) (recovered : t'.recovered = t.recovered)
      (fields : t'.fields = t.fields) (properties : t'.properties = t.properties)
      (methods : t'.methods.Perm t.methods)
      (nested : List.Forall₂ NameTree.Reordered t.nested t'.nested) : NameTree.Reordered t t'

namespace CatalogEntry.Reordered

variable {e e' : CatalogEntry} (h : e.Reordered e')
include h

theorem fullName_eq : e'.fullName = e.fullName := congrArg (·.fullName) h.outline

theorem name_eq : e'.name = e.name := congrArg (·.name) h.outline

theorem isNested_eq : e'.isNested = e.isNested := congrArg (·.isNested) h.outline

end CatalogEntry.Reordered

theorem Catalog.Reordered.refl (c : Catalog) : c.Reordered c :=
  ⟨rfl, fun {_ e} he => ⟨e, he, rfl, rfl, rfl, .refl _⟩⟩

theorem NameTree.Reordered.isEmpty_eq {t t' : NameTree} (h : t.Reordered t') :
    t'.isEmpty = t.isEmpty := by
  obtain ⟨-, -, hfields, hproperties, hmethods, hnested⟩ := h
  have hlength : t'.nested.isEmpty = t.nested.isEmpty := by
    rw [Bool.eq_iff_iff, List.isEmpty_iff_length_eq_zero, List.isEmpty_iff_length_eq_zero,
      hnested.length_eq]
  rw [isEmpty, isEmpty, hfields, hproperties, hmethods.isEmpty_eq, hlength]

/-! ## Listing the types of a reordered module -/

theorem TypeDecl.Reordered.topLevelName_eq {d d' : TypeDecl} (h : d.Reordered d') :
    d'.topLevelName = d.topLevelName := by
  rw [topLevelName, topLevelName, h.namespaceName, h.name]

mutual

theorem sameShape_of_reordered : ∀ {t t' : TypeTree}, t.Reordered t' → t.SameShape t'
  | .node _ _, .node _ _, .node _ hnested => sameShapes_of_reordered hnested

theorem sameShapes_of_reordered : ∀ {ts ts' : List TypeTree},
    List.Forall₂ TypeTree.Reordered ts ts' → SameShapes ts ts'
  | [], [], _ => trivial
  | _ :: _, _ :: _, .cons h hs => ⟨sameShape_of_reordered h, sameShapes_of_reordered hs⟩

end

mutual

theorem entries_reordered (first : Nat) (declaring : Option TypeNumber) (fullName : String) :
    ∀ {t t' : TypeTree}, t.Reordered t' →
      List.Forall₂ CatalogEntry.Reordered (t.entries first declaring fullName)
        (t'.entries first declaring fullName)
  | .node decl nested, .node decl' nested', .node hdecl hnested => by
    have hnumbers := forestNumbers_eq_of_sameShapes (first + 1) (sameShapes_of_reordered hnested)
    rw [TypeTree.entries, TypeTree.entries, hnumbers]
    refine .cons ⟨?_, hdecl.fields, hdecl.properties, hdecl.methods⟩
      (nestedEntries_reordered _ _ _ hnested)
    simp only [CatalogEntry.outline, hdecl.name]

theorem nestedEntries_reordered (first : Nat) (declaring : TypeNumber) (outer : String) :
    ∀ {ts ts' : List TypeTree}, List.Forall₂ TypeTree.Reordered ts ts' →
      List.Forall₂ CatalogEntry.Reordered (nestedEntries first declaring outer ts)
        (nestedEntries first declaring outer ts')
  | [], [], _ => by
    rw [nestedEntries]
    exact .nil
  | .node decl nested :: ts, .node decl' nested' :: ts', .cons h hs => by
    have hsize := size_eq_of_sameShape (sameShape_of_reordered h)
    have hname : decl'.name = decl.name := by
      cases h with
      | node hdecl _ => exact hdecl.name
    rw [nestedEntries, nestedEntries, hsize, hname]
    exact List.rel_append (entries_reordered _ _ _ h) (nestedEntries_reordered _ _ _ hs)

end

theorem forestEntries_reordered (first : Nat) {ts ts' : List TypeTree}
    (h : List.Forall₂ TypeTree.Reordered ts ts') :
    List.Forall₂ CatalogEntry.Reordered (forestEntries first ts) (forestEntries first ts') := by
  induction h generalizing first with
  | nil => exact .nil
  | @cons t t' _ _ h _ ih =>
    have hsize := size_eq_of_sameShape (sameShape_of_reordered h)
    have hname : t'.decl.topLevelName = t.decl.topLevelName := by
      cases h with
      | node hdecl _ => exact hdecl.topLevelName_eq
    rw [forestEntries, forestEntries, hsize, hname]
    exact List.rel_append (entries_reordered _ _ _ h) (ih _)

theorem map_eq_map_of_reordered {α : Type} {f : CatalogEntry → α}
    (hf : ∀ {e e' : CatalogEntry}, e.Reordered e' → f e' = f e) {es es' : List CatalogEntry}
    (h : List.Forall₂ CatalogEntry.Reordered es es') : es'.map f = es.map f := by
  induction h with
  | nil => rfl
  | cons he _ ih => rw [List.map_cons, List.map_cons, hf he, ih]

namespace Catalog

/-- **Listing reordered modules**: both are refused for the same full name, or both are listed, and
then the catalogs differ in the order of methods only. -/
theorem ofModule_reordered {m m' : Module} (h : m.Reordered m') :
    (∀ e, ofModule m' = .error e ↔ ofModule m = .error e) ∧
      ∀ c, ofModule m = .ok c → ∃ c', ofModule m' = .ok c' ∧ c.Reordered c' := by
  have hentries := forestEntries_reordered 0 h.types
  have hnames : (forestEntries 0 m'.types).map (·.fullName) =
      (forestEntries 0 m.types).map (·.fullName) :=
    map_eq_map_of_reordered (fun he => he.fullName_eq) hentries
  have hroots : forestNumbers 0 m.types = forestNumbers 0 m'.types :=
    forestNumbers_eq_of_sameShapes 0 (sameShapes_of_reordered h.types)
  have hbyName : (forestEntries 0 m'.types).map (fun e => (e.fullName, e.number)) =
      (forestEntries 0 m.types).map fun e => (e.fullName, e.number) :=
    map_eq_map_of_reordered
      (fun he => congrArg (fun e : CatalogEntry => (e.fullName, e.number)) he.outline) hentries
  constructor
  · intro e
    rw [ofModule_eq, ofModule_eq, hnames, h.name]
    split <;> simp
  · intro c hc
    obtain ⟨c', hc'⟩ : ∃ c', ofModule m' = .ok c' := by
      rw [ofModule_eq] at hc ⊢
      rw [hnames]
      split at hc
      · cases hc
      · exact ⟨_, rfl⟩
    refine ⟨c', hc', ?_, fun hx => ?_⟩
    · rw [(ofModule_ok hc').2, (ofModule_ok hc).2, outline, outline]
      simp only [List.map_toArray, hroots, hbyName,
        map_eq_map_of_reordered (fun he => he.outline) hentries]
    · exact exists_entry?_of_forall₂ hc' hc hentries.flip hx

theorem Reordered.entry?_eq_none {c c' : Catalog} (h : c.Reordered c') {x : TypeNumber}
    (hx : c.entry? x = none) : c'.entry? x = none := by
  have houtline := congrArg (fun c => c.entry? x) h.outline
  simpa [hx] using houtline

end Catalog

/-! ## Adding names in another order -/

namespace Recovery

theorem count_addNew (e : MethodName) (seen new : List MethodName) :
    (addNew seen new).count e =
      if e ∈ seen then seen.count e else if e ∈ new then 1 else 0 := by
  induction new generalizing seen with
  | nil =>
    rw [addNew]
    by_cases he : e ∈ seen
    · rw [if_pos he]
    · rw [if_neg he, if_neg List.not_mem_nil, List.count_eq_zero_of_not_mem he]
  | cons a rest ih =>
    rw [addNew]
    by_cases ha : a ∈ seen
    · have hold : seen.contains a = true := by simpa using ha
      rw [if_pos hold, ih]
      by_cases hea : e = a
      · simp [hea, ha]
      · simp [hea]
    · have hnew : ¬ seen.contains a = true := by simpa using ha
      rw [if_neg hnew, ih]
      by_cases hea : e = a
      · simp [hea, ha, List.count_eq_zero_of_not_mem ha]
      · simp [hea, Ne.symm hea]

/-- Which entries are added, and how often, does not depend on their order. -/
theorem addNew_perm {seen seen' new new' : List MethodName} (hseen : seen'.Perm seen)
    (hnew : new'.Perm new) : (addNew seen' new').Perm (addNew seen new) := by
  refine List.perm_iff_count.2 fun e => ?_
  simp only [count_addNew, hseen.mem_iff, hseen.count_eq, hnew.mem_iff]

/-! ## The members of reordered types -/

section
variable (m : Recovery) {reference reference' renamed renamed' : CatalogEntry}
  (hreference : reference.Reordered reference') (hrenamed : renamed.Reordered renamed')

section
include hrenamed

theorem candidates_reordered (clean : MethodDecl) :
    (m.candidates renamed' clean).Perm (m.candidates renamed clean) :=
  (hrenamed.methods.filter _).filter _

/-- A reference method is recovered or not, wherever its candidates stand. -/
theorem value_method_reordered (clean : MethodDecl) :
    (m.method renamed' clean).value = (m.method renamed clean).value := by
  have hkept : renamed'.ordinaryMethods.any (·.name = clean.name) =
      renamed.ordinaryMethods.any (·.name = clean.name) :=
    (hrenamed.methods.filter _).any_eq
  have hcandidates := m.candidates_reordered hrenamed clean
  unfold method
  rw [hkept]
  split
  · rfl
  -- one candidate is the same one, and of several none is taken
  · match hc : m.candidates renamed clean with
    | [] =>
      rw [hc] at hcandidates
      rw [hcandidates.eq_nil]
    | [only] =>
      rw [hc] at hcandidates
      rw [hcandidates.eq_singleton]
    | a :: b :: rest =>
      rw [hc] at hcandidates
      match hc' : m.candidates renamed' clean with
      | [] => simp [hc'] at hcandidates
      | [only] => simp [hc'] at hcandidates
      | a' :: b' :: rest' => rfl

theorem generatedMethods_reordered :
    (m.generatedMethods renamed').Perm (m.generatedMethods renamed) := by
  unfold generatedMethods
  rw [hrenamed.isNested_eq]
  split
  · exact hrenamed.methods.filterMap _
  · exact .nil

/-- The entries stand in the order of the reference methods, if conventions give none. -/
theorem value_methods_of_reordered_renamed (hnested : renamed.isNested = false) :
    (m.methods reference renamed').value = (m.methods reference renamed).value := by
  have hnested' : renamed'.isNested = false := hrenamed.isNested_eq.trans hnested
  rw [value_methods, value_methods, generatedMethods, generatedMethods, hnested, hnested',
    if_neg Bool.false_ne_true, if_neg Bool.false_ne_true]
  simp only [m.value_method_reordered hrenamed]

end

include hreference hrenamed

theorem value_fields_reordered :
    (m.fields reference' renamed').value = (m.fields reference renamed).value := by
  simp only [value_fields, generatedField?, hreference.fields, hrenamed.fields,
    hrenamed.isNested_eq]

theorem value_properties_reordered :
    (m.properties reference' renamed').value = (m.properties reference renamed).value := by
  simp only [value_properties, hreference.properties, hrenamed.properties]

/-- **The entries for reordered types** are the same up to order. -/
theorem value_methods_reordered :
    (m.methods reference' renamed').value.Perm (m.methods reference renamed).value := by
  rw [value_methods, value_methods]
  refine addNew_perm ?_ (m.generatedMethods_reordered hrenamed)
  simp only [m.value_method_reordered hrenamed]
  exact (hreference.methods.filter _).flatMap_right _

/-- The tree of two types, given the trees of the types nested in them. -/
def treeFor (m : Recovery) (reference renamed : CatalogEntry) (nested : List NameTree) : NameTree :=
  m.assemble reference renamed (m.fields reference renamed).value
    (m.properties reference renamed).value (m.methods reference renamed).value nested

theorem treeFor_reordered {nested nested' : List NameTree}
    (hnested : List.Forall₂ NameTree.Reordered nested nested') :
    (m.treeFor reference renamed nested).Reordered (m.treeFor reference' renamed' nested') := by
  have hname : m.recoveredName reference' renamed' = m.recoveredName reference renamed := by
    rw [recoveredName, recoveredName, hreference.name_eq, hrenamed.name_eq]
  refine .mk hrenamed.fullName_eq ?_ (m.value_fields_reordered hreference hrenamed)
    (m.value_properties_reordered hreference hrenamed)
    (m.value_methods_reordered hreference hrenamed) hnested
  simp only [treeFor, assemble, hname, hrenamed.name_eq]

end

/-! ## The names of reordered catalogs -/

theorem namesAt_of_entries {m : Recovery} {pair : TypeNumber × TypeNumber}
    {reference renamed : CatalogEntry} (he : m.concordance.reference.entry? pair.2 = some reference)
    (hf : m.concordance.renamed.entry? pair.1 = some renamed) (nested : List NameTree) :
    m.namesAt pair nested =
      if !m.looksRenamed renamed.name && (m.treeFor reference renamed nested).isEmpty then none
      else some (m.treeFor reference renamed nested) := by
  simp only [namesAt, he, hf]
  rfl

theorem forall₂_toList {α : Type} {R : α → α → Prop} {a b : Option α} (h : Option.Rel R a b) :
    List.Forall₂ R a.toList b.toList := by
  cases h with
  | none => exact .nil
  | some h => exact .cons h .nil

/-- Reordered catalogs give each pair of types the same names up to the order of methods. -/
theorem namesAt_reordered {m : Recovery} {k : Concordance} (hresolve : (m.on k).resolve = m.resolve)
    (hreference : m.concordance.reference.Reordered k.reference)
    (hrenamed : m.concordance.renamed.Reordered k.renamed) (pair : TypeNumber × TypeNumber)
    {nested nested' : List NameTree} (hnested : List.Forall₂ NameTree.Reordered nested nested') :
    Option.Rel NameTree.Reordered (m.namesAt pair nested) ((m.on k).namesAt pair nested') := by
  cases he : m.concordance.reference.entry? pair.2 with
  | none =>
    simp only [namesAt, he, on, hreference.entry?_eq_none he]
    exact .none
  | some reference =>
    obtain ⟨reference', he', hreference'⟩ := hreference.entry he
    cases hf : m.concordance.renamed.entry? pair.1 with
    | none =>
      simp only [namesAt, he, hf, on, he', hrenamed.entry?_eq_none hf]
      exact .none
    | some renamed =>
      obtain ⟨renamed', hf', hrenamed'⟩ := hrenamed.entry hf
      have htree := m.treeFor_reordered hreference' hrenamed' hnested
      have hon : (m.on k).treeFor reference' renamed' nested' =
          m.treeFor reference' renamed' nested' := by
        rw [treeFor, methods_on hresolve]
        rfl
      have hlooks : (m.on k).looksRenamed = m.looksRenamed := rfl
      rw [namesAt_of_entries he hf, namesAt_of_entries (m := m.on k) he' hf', hon, hlooks,
        hrenamed'.name_eq, htree.isEmpty_eq]
      split
      · exact .none
      · exact .some htree

theorem methods_of_namesAt {m : Recovery} {pair : TypeNumber × TypeNumber}
    {reference renamed : CatalogEntry} (he : m.concordance.reference.entry? pair.2 = some reference)
    (hf : m.concordance.renamed.entry? pair.1 = some renamed) {nested : List NameTree}
    {t : NameTree} (ht : m.namesAt pair nested = some t) :
    t.methods = (m.methods reference renamed).value := by
  rw [namesAt_of_entries he hf] at ht
  split at ht
  · cases ht
  · cases ht
    rfl

/-- A pair of types has its methods in the order of the reference methods, if the renamed type is
not nested. -/
theorem methods_namesAt_reordered {m : Recovery} {k : Concordance}
    (hresolve : (m.on k).resolve = m.resolve) (hreference : k.reference = m.concordance.reference)
    (hrenamed : m.concordance.renamed.Reordered k.renamed) {pair : TypeNumber × TypeNumber}
    {reference renamed : CatalogEntry} (he : m.concordance.reference.entry? pair.2 = some reference)
    (hf : m.concordance.renamed.entry? pair.1 = some renamed) (hroot : renamed.declaring = none)
    {nested nested' : List NameTree} (hnested : List.Forall₂ NameTree.Reordered nested nested') :
    ((m.on k).namesAt pair nested').map (·.methods) =
      (m.namesAt pair nested).map (·.methods) := by
  obtain ⟨renamed', hf', hrenamed'⟩ := hrenamed.entry hf
  have hrel := namesAt_reordered hresolve (hreference ▸ .refl _) hrenamed pair hnested
  generalize ht : m.namesAt pair nested = names at hrel ⊢
  generalize ht' : (m.on k).namesAt pair nested' = names' at hrel ⊢
  cases hrel with
  | none => rfl
  | some _ =>
    have hmethods := methods_of_namesAt he hf ht
    have hmethods' := methods_of_namesAt (m := m.on k) (hreference.symm ▸ he) hf' ht'
    have hnot : renamed.isNested = false := by
      rw [CatalogEntry.isNested, hroot]
      rfl
    rw [methods_on hresolve, m.value_methods_of_reordered_renamed hrenamed' hnot] at hmethods'
    rw [Option.map_some, Option.map_some, hmethods, hmethods']

mutual

/-- **Trees of names differ in the order of methods only**, if each pair of types gives names that
do. -/
theorem names_reordered {m m' : Recovery} (hat : ∀ pair {nested nested' : List NameTree},
      List.Forall₂ NameTree.Reordered nested nested' →
        Option.Rel NameTree.Reordered (m.namesAt pair nested) (m'.namesAt pair nested')) :
    ∀ t, Option.Rel NameTree.Reordered (m.names t) (m'.names t)
  | .node pair children => hat pair (namesOfAll_reordered hat children)

theorem namesOfAll_reordered {m m' : Recovery} (hat : ∀ pair {nested nested' : List NameTree},
      List.Forall₂ NameTree.Reordered nested nested' →
        Option.Rel NameTree.Reordered (m.namesAt pair nested) (m'.namesAt pair nested')) :
    ∀ ts, List.Forall₂ NameTree.Reordered (m.namesOfAll ts) (m'.namesOfAll ts)
  | [] => .nil
  | t :: ts =>
    List.rel_append (forall₂_toList (names_reordered hat t)) (namesOfAll_reordered hat ts)

end

end Recovery

/-! ## Recovery from reordered modules -/

section
variable {reference reference' renamed renamed' : Catalog} (hr : renamed.Sound)
  (hc : reference.Sound) (hr' : renamed'.Sound) (hc' : reference'.Sound)
  (hreference : reference.Reordered reference') (hrenamed : renamed.Reordered renamed')
  (seeds : List Seed) (settings : Settings)
include hr hc hr' hc' hreference hrenamed

theorem namesAt_recoveryFrom_reordered (pair : TypeNumber × TypeNumber)
    {nested nested' : List NameTree} (hnested : List.Forall₂ NameTree.Reordered nested nested') :
    Option.Rel NameTree.Reordered
      ((recoveryFrom reference renamed seeds settings).namesAt pair nested)
      ((recoveryFrom reference' renamed' seeds settings).namesAt pair nested') := by
  refine Recovery.namesAt_reordered (m := recoveryFrom reference renamed seeds settings)
    (k := (recoveryFrom reference' renamed' seeds settings).concordance) ?_ ?_ ?_ pair hnested
  · exact resolve_congr hreference.outline hrenamed.outline hr hc hr' hc' seeds settings
  · rw [reference_recoveryFrom hr hc, reference_recoveryFrom hr' hc']
    exact hreference
  · rw [renamed_recoveryFrom hr hc, renamed_recoveryFrom hr' hc']
    exact hrenamed

/-- Two recoveries from reordered catalogs give the same trees, up to the order of methods. -/
theorem rootTrees_reordered :
    List.Forall₂ NameTree.Reordered
      ((recoveryFrom reference renamed seeds settings).rootTrees.filterMap (·.2))
      ((recoveryFrom reference' renamed' seeds settings).rootTrees.filterMap (·.2)) := by
  have htrees := Recovery.namesOfAll_reordered
    (namesAt_recoveryFrom_reordered hr hc hr' hc' hreference hrenamed seeds settings)
    (((seedPairs settings reference renamed seeds).foldl addRoot []).map (align renamed reference))
  rw [rootTrees_recoveryFrom hr hc, rootTrees_recoveryFrom hr' hc',
    seedPairs_congr hreference.outline hrenamed.outline,
    align_congr hreference.outline hrenamed.outline, List.filterMap_map, List.filterMap_map]
  rw [Recovery.namesOfAll_eq, Recovery.namesOfAll_eq, List.filterMap_map, List.filterMap_map]
    at htrees
  exact htrees

end

/-- If only the renamed types are reordered, then the methods of the roots stay in order. -/
theorem methods_of_reordered_renamed {reference renamed renamed' : Catalog} (hr : renamed.Sound)
    (hc : reference.Sound) (hr' : renamed'.Sound) (hrenamed : renamed.Reordered renamed')
    (seeds : List Seed) (settings : Settings) :
    ((recoveryFrom reference renamed' seeds settings).rootTrees.filterMap (·.2)).map (·.methods) =
      ((recoveryFrom reference renamed seeds settings).rootTrees.filterMap (·.2)).map
        (·.methods) := by
  have hat := namesAt_recoveryFrom_reordered hr hc hr' hc (.refl reference) hrenamed seeds settings
  rw [rootTrees_recoveryFrom hr hc, rootTrees_recoveryFrom hr' hc, List.filterMap_map,
    List.filterMap_map, List.map_filterMap, List.map_filterMap,
    seedPairs_congr rfl hrenamed.outline, align_congr rfl hrenamed.outline]
  refine List.filterMap_congr fun pair hpair => ?_
  -- neither type of a root is nested
  obtain ⟨a, b, hx, hy⟩ := root?_of_mem_roots hc hpair
  obtain ⟨f, hf, -, hd⟩ := hr.root?_eq_some_iff.1 hx
  obtain ⟨e, he, -, -⟩ := hc.root?_eq_some_iff.1 hy
  rw [← reference_recoveryFrom hr hc seeds settings] at he
  rw [← renamed_recoveryFrom hr hc seeds settings] at hf
  simp only [Function.comp_apply, align_eq hr, Recovery.names]
  refine Recovery.methods_namesAt_reordered (m := recoveryFrom reference renamed seeds settings)
    (k := (recoveryFrom reference renamed' seeds settings).concordance)
    (resolve_congr rfl hrenamed.outline hr hc hr' hc seeds settings) ?_ ?_ he hf hd
    (Recovery.namesOfAll_reordered hat _)
  · rw [reference_recoveryFrom hr hc, reference_recoveryFrom hr' hc]
  · rw [renamed_recoveryFrom hr hc, renamed_recoveryFrom hr' hc]
    exact hrenamed

/-- **The order of methods does not matter.** Of two modules that differ in the order of methods
only, both are listed or both are refused for the same reason. If they are listed, on both sides,
then the same seeds and settings give the same trees of names, except that the methods of single
types may stand in another order. Where the renamed types are reordered only, even the methods of
the types that are not nested are the same. -/
theorem recoverNames_reordered {clean clean' obfuscated obfuscated' : Module}
    (hclean : clean.Reordered clean') (hobfuscated : obfuscated.Reordered obfuscated') :
    (∀ e, Catalog.ofModule clean' = .error e ↔ Catalog.ofModule clean = .error e) ∧
    (∀ e, Catalog.ofModule obfuscated' = .error e ↔ Catalog.ofModule obfuscated = .error e) ∧
    ∀ reference renamed, Catalog.ofModule clean = .ok reference →
      Catalog.ofModule obfuscated = .ok renamed →
      ∃ reference' renamed', Catalog.ofModule clean' = .ok reference' ∧
        Catalog.ofModule obfuscated' = .ok renamed' ∧
        ∀ seeds settings, ∃ forest forest' : NameForest,
          (recoverNames reference renamed seeds settings).value = .ok forest ∧
          (recoverNames reference' renamed' seeds settings).value = .ok forest' ∧
          List.Forall₂ NameTree.Reordered forest.types forest'.types ∧
          (clean' = clean → forest'.types.map (·.methods) = forest.types.map (·.methods)) := by
  obtain ⟨hrefused, hlisted⟩ := Catalog.ofModule_reordered hclean
  obtain ⟨hrefused', hlisted'⟩ := Catalog.ofModule_reordered hobfuscated
  refine ⟨hrefused, hrefused', fun reference renamed hreference hrenamed => ?_⟩
  obtain ⟨reference', hreference', hcatalog⟩ := hlisted reference hreference
  obtain ⟨renamed', hrenamed', hcatalog'⟩ := hlisted' renamed hrenamed
  have hc := Catalog.sound_of_ofModule hreference
  have hc' := Catalog.sound_of_ofModule hreference'
  have hr := Catalog.sound_of_ofModule hrenamed
  have hr' := Catalog.sound_of_ofModule hrenamed'
  refine ⟨reference', renamed', hreference', hrenamed', fun seeds settings => ?_⟩
  refine ⟨_, _, value_recoverNames hr hc seeds, value_recoverNames hr' hc' seeds,
    rootTrees_reordered hr hc hr' hc' hcatalog hcatalog' seeds settings, fun hsame => ?_⟩
  rw [hsame, hreference, Except.ok.injEq] at hreference'
  subst hreference'
  exact methods_of_reordered_renamed hr hc hr' hcatalog' seeds settings

/-- A method that returns nothing. -/
def sampleStep (name : String) (parameters : List ParameterDecl) : MethodDecl :=
  { name, returnType := "System.Void", parameters }

/-- A type with another nested in it, and the methods of both. -/
def sampleTour (outer inner : String) (methods nested : List MethodDecl) : Module where
  name := "Game.dll"
  types := [.node { name := outer, methods } [.node { name := inner, methods := nested } []]]

theorem sampleTour_reordered (outer inner : String)
    {methods methods' nested nested' : List MethodDecl} (hmethods : methods'.Perm methods)
    (hnested : nested'.Perm nested) :
    (sampleTour outer inner methods nested).Reordered (sampleTour outer inner methods' nested') :=
  ⟨rfl, .cons (.node ⟨rfl, rfl, rfl, rfl, hmethods⟩
    (.cons (.node ⟨rfl, rfl, rfl, rfl, hnested⟩ .nil) .nil)) .nil⟩

theorem recoverNames_sampleTour :
    let depart := sampleStep "Depart" [⟨"day", "System.Int32"⟩]
    let arrive := sampleStep "Arrive" []
    let first := sampleStep "CDEFGHIJKLM" [⟨"day", "System.Int32"⟩]
    let second := sampleStep "DEFGHIJKLMN" []
    let generated := sampleStep "<Rest>b__0" []
    let generated' := sampleStep "<Rest>b__1" []
    let clean := sampleTour "Tour" "Stop" [depart, arrive] []
    let clean' := sampleTour "Tour" "Stop" [arrive, depart] []
    let obfuscate := sampleTour "ABCDEFGHIJK" "BCDEFGHIJKL"
    let obfuscated := obfuscate [first, second] [generated, generated']
    let obfuscated' := obfuscate [second, first] [generated', generated]
    let seeds : List Seed := [⟨"ABCDEFGHIJK", "Tour", 1.0⟩]
    let shown (names : Logged (Except Refusal NameForest)) := names.value.toOption.map fun forest =>
      forest.types.map fun t =>
        (t.methods.map (·.recovered), t.nested.map fun u => u.methods.map (·.renamed))
    clean.Reordered clean' ∧ obfuscated.Reordered obfuscated' ∧
    ∃ reference renamed reference' renamed', Catalog.ofModule clean = .ok reference ∧
      Catalog.ofModule obfuscated = .ok renamed ∧ Catalog.ofModule clean' = .ok reference' ∧
      Catalog.ofModule obfuscated' = .ok renamed' ∧
      shown (recoverNames reference renamed seeds {}) =
        some [(["Depart", "Arrive"], [["<Rest>b__0", "<Rest>b__1"]])] ∧
      shown (recoverNames reference' renamed' seeds {}) =
        some [(["Arrive", "Depart"], [["<Rest>b__1", "<Rest>b__0"]])] ∧
      ∃ forest forest' : NameForest,
        (recoverNames reference renamed seeds {}).value = .ok forest ∧
        (recoverNames reference' renamed' seeds {}).value = .ok forest' ∧
        List.Forall₂ NameTree.Reordered forest.types forest'.types := by
  intro depart arrive first second generated generated' clean clean' obfuscate obfuscated
    obfuscated' seeds shown
  have hclean : clean.Reordered clean' := sampleTour_reordered _ _ (.swap _ _ _) .nil
  have hobfuscated : obfuscated.Reordered obfuscated' :=
    sampleTour_reordered _ _ (.swap _ _ _) (.swap _ _ _)
  refine ⟨hclean, hobfuscated, _, _, _, _, rfl, rfl, rfl, rfl, by decide +kernel,
    by decide +kernel, ?_⟩
  obtain ⟨reference', renamed', hreference', hrenamed', hforests⟩ :=
    (recoverNames_reordered hclean hobfuscated).2.2 _ _ rfl rfl
  cases hreference'
  cases hrenamed'
  obtain ⟨forest, forest', hforest, hforest', hreordered, -⟩ := hforests seeds {}
  exact ⟨forest, forest', hforest, hforest', hreordered⟩

end Concord
