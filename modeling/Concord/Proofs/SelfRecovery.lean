import Concord.Proofs.GeneratedNames
import Concord.Proofs.MemberOrigins
import Concord.Proofs.SameShape

/-!
# A module recovered against itself

Pairing a module with itself by name binds every type to itself, at all depths
(`reference_eq_renamed`). A type that is compared with itself has its members at the same places and
lacks no method, so that nothing is relabelled (`notRelabelled_assemble`): what is reported is what
looks renamed, under its own name, and what the conventions tell of generated names. Without names
of either kind nothing is reported (`not_speaks_of_plain`), which `recoverNames_self` says of the
whole recovery.
-/

set_option autoImplicit false

namespace Concord

/-! ## Names without brackets -/

theorem dropEmptyBrackets_eq_self {cs : List Char} (h : ¬ ['<', '>'] <:+: cs) :
    dropEmptyBrackets cs = cs := by
  fun_induction dropEmptyBrackets cs with
  | case1 rest => exact absurd ⟨[], rest, rfl⟩ h
  | case2 c rest _ ih => rw [ih fun hrest => h (hrest.trans (List.suffix_cons c rest).isInfix)]
  | case3 => rfl

/-! ## Every type is paired with itself -/

theorem namesakes_self {g : Catalog} (hg : g.Sound) :
    namesakes g g = g.roots.map fun x => (x, x) := by
  rw [namesakes, ← List.filterMap_eq_map]
  refine List.filterMap_congr fun x hx => ?_
  rw [namesakePair?, hg.root?_fullName hx]
  rfl

namespace Recovery

open Concordance

section
variable {g : Catalog} (hg : g.Sound) {settings : Settings} (hs : settings.pairByName = true)
include hg hs

theorem rootTypes_self :
    (recoveryFrom g g [] settings).concordance.rootTypes = g.roots.map fun x => (x, x) := by
  have hnodup : ((g.roots.map fun x => (x, x)).map (·.1)).Nodup := by
    simpa [Function.comp_def] using hg.nodup_roots
  refine (seeded_rooted hg hg [] settings).2.roots.trans ?_
  rw [seedPairs, if_pos hs, namesakes_self hg]
  exact foldl_addRoot_of_nodup [] hnodup

/-- **Every type is paired with itself**, and with no other. -/
theorem reference_eq_renamed {id : PairingNumber} {n : Pairing}
    (hn : (recoveryFrom g g [] settings).concordance.pairing? id = some n) :
    n.reference = n.renamed := by
  obtain ⟨k, hk⟩ : ∃ k, k = (recoveryFrom g g [] settings).concordance := ⟨_, rfl⟩
  rw [← hk] at hn
  have hcomplete : k.Complete := hk ▸ (seeded_rooted hg hg [] settings).2.complete
  have hrenamed : k.renamed = g := hk ▸ renamed_recoveryFrom hg hg [] settings
  have hreference : k.reference = g := hk ▸ reference_recoveryFrom hg hg [] settings
  have hroots : ∀ x ∈ k.renamed.roots, ∃ id, id.index < k.size ∧ k.types id = (x, x) := by
    intro x hx
    have hmem : (x, x) ∈ k.rootTypes := by
      rw [hk, rootTypes_self hg hs]
      exact List.mem_map_of_mem (hrenamed ▸ hx)
    obtain ⟨id, hid, htypes⟩ := List.mem_map.1 hmem
    exact ⟨id, hcomplete.wellFormed.index_lt_of_mem_roots hid, htypes⟩
  obtain ⟨f, hf⟩ := Catalog.contains_iff.1 (hcomplete.wellFormed.valid hn).2
  obtain ⟨id', hid', htypes⟩ := hcomplete.bound_to_place (hrenamed ▸ hg)
    (fun {_ e} he => ⟨e, by rw [hreference, ← hrenamed, he], ⟨rfl, rfl, rfl⟩⟩) hroots hf
  -- a renamed type has one pairing only
  obtain ⟨n', hn'⟩ := (k.exists_pairing?_iff id').2 hid'
  rw [types_of_pairing? hn', Prod.mk.injEq] at htypes
  obtain rfl := hcomplete.wellFormed.eq_of_renamed hn hn' htypes.1.symm
  obtain rfl := Option.some.inj (hn.symm.trans hn')
  exact htypes.2

end

/-! ## What is reported of a type that is paired with itself -/

/-- The tree of a type has no name that is not the type's own or told by a generated name. Fields
and methods have generated names only if the type is nested. -/
structure NotRelabelled (t : NameTree) (e : CatalogEntry) : Prop where
  fullName : t.renamed = e.fullName
  recovered : t.recovered ≠ none →
    ['<', '>'] <:+: e.name.toList ∨ ∃ host, GeneratedFor e.name host
  fields : ∀ f ∈ t.fields, (∃ field ∈ e.fields, field.name = f.renamed) ∧
    (f.recovered = f.renamed ∨ e.declaring ≠ none ∧
      (Conventions.csharp.fixedField? f.renamed = some f.recovered ∨
        GeneratedFor f.renamed f.recovered))
  properties : ∀ p ∈ t.properties, (∃ property ∈ e.properties, property.name = p.renamed) ∧
    p.recovered = p.renamed
  methods : ∀ r ∈ t.methods, (∃ method ∈ e.methods, method.name = r.renamed ∧
    method.parameterTypes = r.signature) ∧ e.declaring ≠ none ∧ GeneratedFor r.renamed r.recovered

section
variable {m : Recovery} {e : CatalogEntry} (hm : m.conventions = .csharp)
include hm

theorem recoveredName_self (hbrackets : ¬ ['<', '>'] <:+: e.name.toList)
    (hhost : ∀ host, ¬ GeneratedFor e.name host) : m.recoveredName e e = e.name := by
  rw [recoveredName, hm, Conventions.typeNameOf?_csharp, Conventions.hostOf?_csharp_eq_none hhost]
  simp only [Option.map_none, Option.or_none, Option.getD_none, withoutEmptyBrackets]
  rw [dropEmptyBrackets_eq_self hbrackets, String.ofList_toList]

theorem fields_self {f : MemberName} (hf : f ∈ (m.fields e e).value) :
    (∃ field ∈ e.fields, field.name = f.renamed) ∧
      (m.looksRenamed f.renamed = true ∧ f.recovered = f.renamed ∨ e.declaring ≠ none ∧
        (Conventions.csharp.fixedField? f.renamed = some f.recovered ∨
          GeneratedFor f.renamed f.recovered)) := by
  obtain ⟨i, -, ⟨field, hfield, hname⟩, hfrom⟩ := (value_fields_places m e e).exists_place hf
  refine ⟨⟨field, List.mem_of_getElem? hfield, hname⟩, ?_⟩
  rcases hfrom with ⟨hlooks, clean, hclean, hrecovered⟩ | ⟨hnested, htold⟩
  · -- the field at the same place is the field itself
    obtain rfl := Option.some.inj (hfield.symm.trans hclean)
    exact .inl ⟨hlooks, hrecovered.symm.trans hname⟩
  · rw [TellsField, hm] at htold
    exact .inr ⟨hnested, htold.imp_right fun h => Conventions.hostOf?_csharp_eq_some_iff.1 h.2⟩

omit hm in
theorem properties_self {p : MemberName} (hp : p ∈ (m.properties e e).value) :
    (∃ property ∈ e.properties, property.name = p.renamed) ∧ m.looksRenamed p.renamed = true ∧
      p.recovered = p.renamed := by
  obtain ⟨i, -, ⟨property, hproperty, hname⟩, hlooks, clean, hclean, hrecovered⟩ :=
    (value_properties_places m e e).exists_place hp
  obtain rfl := Option.some.inj (hproperty.symm.trans hclean)
  exact ⟨⟨property, List.mem_of_getElem? hproperty, hname⟩, hlooks, hrecovered.symm.trans hname⟩

/-- A type lacks none of its own methods, so that signatures give no name. -/
theorem methods_self {r : MethodName} (hr : r ∈ (m.methods e e).value) :
    (∃ method ∈ e.methods, method.name = r.renamed ∧ method.parameterTypes = r.signature) ∧
      e.declaring ≠ none ∧ GeneratedFor r.renamed r.recovered := by
  obtain ⟨method, hmethod, hname, hsignature, hfrom⟩ := methodFrom_of_mem hr
  refine ⟨⟨method, hmethod, hname.symm, hsignature.symm⟩, ?_⟩
  rcases hfrom with ⟨-, ⟨clean, hclean, hrecovered⟩, hlacks⟩ | ⟨hnested, hhost⟩
  · exact absurd hrecovered (hlacks clean hclean)
  · rw [hm] at hhost
    exact ⟨hnested, hname ▸ Conventions.hostOf?_csharp_eq_some_iff.1 hhost⟩

theorem notRelabelled_assemble (nested : List NameTree) :
    NotRelabelled (m.assemble e e (m.fields e e).value (m.properties e e).value
      (m.methods e e).value nested) e where
  fullName := rfl
  recovered h := by
    by_contra hplain
    obtain ⟨hbrackets, hhost⟩ := not_or.1 hplain
    exact h (if_pos (recoveredName_self hm hbrackets (not_exists.1 hhost)))
  fields f hf := (fields_self hm hf).imp_right fun h => h.imp_left And.right
  properties p hp := (properties_self hp).imp_right And.right
  methods r hr := methods_self hm hr

end

/-- No name that the type declares looks renamed or has an angle bracket. -/
def Plain (looksRenamed : RenameTest) (decl : TypeDecl) : Prop :=
  ∀ name ∈ decl.name :: (decl.fields.map (·.name) ++ decl.properties.map (·.name) ++
    decl.methods.map (·.name)), looksRenamed name = false ∧ '<' ∉ name.toList

section
variable {m : Recovery} {e : CatalogEntry}

/-- **Nothing is to be said of plain names.** -/
theorem not_speaks_of_plain (hm : m.conventions = .csharp) {id : PairingNumber}
    (hentries : m.entries? id = some (e, e)) (hplain : Plain m.looksRenamed e.decl) :
    m.speaks id = false := by
  have hname : m.looksRenamed e.name = false := (hplain e.decl.name List.mem_cons_self).1
  have hfields : (m.fields e e).value = [] := by
    refine List.eq_nil_iff_forall_not_mem.2 fun f hf => ?_
    obtain ⟨⟨field, hmem, heq⟩, hsource⟩ := fields_self hm hf
    obtain ⟨hlooks, hlt⟩ := hplain f.renamed (List.mem_cons_of_mem _ (List.mem_append_left _
      (List.mem_append_left _ (heq ▸ List.mem_map_of_mem hmem))))
    rcases hsource with ⟨hlooks', -⟩ | ⟨-, hfixed | hhost⟩
    · rw [hlooks] at hlooks'
      cases hlooks'
    · exact hlt (Conventions.mem_lt_of_fixedField? hfixed)
    · exact hlt hhost.mem_lt
  have hproperties : (m.properties e e).value = [] := by
    refine List.eq_nil_iff_forall_not_mem.2 fun p hp => ?_
    obtain ⟨⟨property, hmem, heq⟩, hlooks', -⟩ := properties_self hp
    have hlooks := (hplain p.renamed (List.mem_cons_of_mem _ (List.mem_append_left _
      (List.mem_append_right _ (heq ▸ List.mem_map_of_mem hmem))))).1
    rw [hlooks] at hlooks'
    cases hlooks'
  have hmethods : (m.methods e e).value = [] := by
    refine List.eq_nil_iff_forall_not_mem.2 fun r hr => ?_
    obtain ⟨⟨method, hmem, heq, -⟩, -, hhost⟩ := methods_self hm hr
    exact (hplain r.renamed (List.mem_cons_of_mem _ (List.mem_append_right _
      (heq ▸ List.mem_map_of_mem hmem)))).2 hhost.mem_lt
  simp [speaks, hentries, hname, hfields, hproperties, hmethods]

end

end Recovery

open Recovery Concordance

/-- **A module recovered against itself is not relabelled.** Recovery succeeds whatever the other
settings. Every tree that it gives, at any depth, is that of a type of the module and relabels
nothing of it: properties keep their names, fields do unless their names are generated, methods are
reported for generated names only, and a type gets a new name only if its own is generated or marks
an anonymous type. Nothing is reported at all of a module with plain names. -/
theorem recoverNames_self {module : Module} {g : Catalog} (h : Catalog.ofModule module = .ok g)
    (settings : Settings) :
    ∃ forest, (recoverNames g g [] { settings with pairByName := true }).value = .ok forest ∧
      (∀ t ∈ forest.all, ∃ x e, g.entry? x = some e ∧ NotRelabelled t e) ∧
      ((∀ decl ∈ forestDecls module.types, Plain settings.looksRenamed decl) →
        forest.types = []) := by
  have hg : g.Sound := Catalog.sound_of_ofModule h
  obtain ⟨m, hm⟩ : ∃ m, m = recoveryFrom g g [] { settings with pairByName := true } := ⟨_, rfl⟩
  have hcomplete : m.concordance.Complete := hm ▸ (seeded_rooted hg hg [] _).2.complete
  have hrenamed : m.concordance.renamed = g := hm ▸ renamed_recoveryFrom hg hg [] _
  have hreference : m.concordance.reference = g := hm ▸ reference_recoveryFrom hg hg [] _
  have hconventions : m.conventions = .csharp := hm ▸ rfl
  have hself : ∀ {id n c r}, m.concordance.pairing? id = some n →
      m.concordance.reference.entry? n.reference = some c →
      m.concordance.renamed.entry? n.renamed = some r → c = r ∧ g.entry? n.renamed = some r := by
    intro id n c r hn hc hr
    rw [hreference, reference_eq_renamed hg rfl (hm ▸ hn)] at hc
    rw [hrenamed] at hr
    exact ⟨Option.some.inj (hc.symm.trans hr), hr⟩
  refine ⟨m.forest.value, by rw [value_recoverNames hg hg, ← hm, value_forest], fun t ht => ?_,
    fun hplain => List.eq_nil_iff_forall_not_mem.2 fun t ht => ?_⟩
  · obtain ⟨id, hid⟩ := exists_tree hcomplete t ht
    obtain ⟨n, c, r, hn, hc, hr, htree⟩ := (shows_tree hcomplete hid).1.eq_assemble
    obtain ⟨rfl, hr⟩ := hself hn hc hr
    exact ⟨n.renamed, c, hr, htree ▸ notRelabelled_assemble hconventions _⟩
  · -- a root is kept only if a pairing under it speaks
    obtain ⟨id, -, -, -, -, -, hid⟩ := exists_topLevel hcomplete ht
    have hkept : m.kept id = true := by rw [← isSome_tree hcomplete, hid, Option.isSome_some]
    obtain ⟨x, -, hspeaks⟩ := (kept_iff hcomplete).1 hkept
    obtain ⟨hsome, -⟩ := (Option.any_eq_true_iff_get _ _).1 hspeaks
    obtain ⟨⟨c, r⟩, hentries⟩ := Option.isSome_iff_exists.1 hsome
    obtain ⟨n, hn, hc, hr⟩ := exists_pairing_of_entries? hentries
    obtain ⟨rfl, hr⟩ := hself hn hc hr
    have hdecl : c.decl ∈ forestDecls module.types := by
      rw [← map_decl_forestEntries 0]
      exact List.mem_map_of_mem ((Catalog.entry?_eq_some_iff h).1 hr).1
    have hlooks : m.looksRenamed = settings.looksRenamed := hm ▸ rfl
    rw [not_speaks_of_plain hconventions hentries (hlooks ▸ hplain _ hdecl)] at hspeaks
    cases hspeaks

/-- A module with generated names and names that look renamed, and one with plain names. -/
theorem recoverNames_self_sample : ∃ g g',
    Catalog.ofModule (sampleWaiting "Timer" "KLMNOPQRSTU" "MoveNext" "<Wait>b__0") = .ok g ∧
    Catalog.ofModule (sampleHud "height") = .ok g' ∧
      (recoverNames g g [] { pairByName := true }).value.toOption.map
          (fun forest => forest.all.map fun t => (t.recovered, t.fields, t.methods)) =
        some [(none, [⟨"KLMNOPQRSTU", "KLMNOPQRSTU"⟩], []),
          (some "Wait__d", [⟨"<>1__state", "__state"⟩, ⟨"KLMNOPQRSTU", "KLMNOPQRSTU"⟩],
            [⟨"<Wait>b__0", "Wait", []⟩])] ∧
      (∃ forest, (recoverNames g g [] { pairByName := true }).value = .ok forest ∧
        ∀ t ∈ forest.all, ∃ x e, g.entry? x = some e ∧ NotRelabelled t e) ∧
      ∃ forest, (recoverNames g' g' [] { pairByName := true }).value = .ok forest ∧
        forest.types = [] := by
  refine ⟨_, _, rfl, rfl, by decide +kernel, ?_, ?_⟩
  · obtain ⟨forest, hvalue, htrees, -⟩ := recoverNames_self
      (rfl : Catalog.ofModule (sampleWaiting "Timer" "KLMNOPQRSTU" "MoveNext" "<Wait>b__0") =
        .ok _) {}
    exact ⟨forest, hvalue, htrees⟩
  · obtain ⟨forest, hvalue, -, hempty⟩ :=
      recoverNames_self (rfl : Catalog.ofModule (sampleHud "height") = .ok _) {}
    exact ⟨forest, hvalue, hempty (by unfold Plain; decide +kernel)⟩

end Concord
