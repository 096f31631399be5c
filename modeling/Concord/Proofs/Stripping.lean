import Concord.Proofs.MethodMatching
import Concord.Proofs.Outlines
import Concord.Proofs.SameShape

/-!
# What recovery does not look at

Stripping a module blanks what must not matter to recovery: its name, the types of fields and
properties, the names of parameters, the namespaces of nested types and the access flags of
methods. Two modules differ in nothing else if they are the same when stripped.

* `ofModule_strip`: listing the types commutes with stripping, refusals included.
* `value_fields_strip`, `value_properties_strip`, `value_methods_strip`: stripped types have the
  same members recovered, given the same resolution of names.
* `recoverNames_of_strip`: modules that are the same when stripped are recovered alike.
-/

set_option autoImplicit false

namespace Concord

open Concordance

/-! ## Stripping -/

/-- A method without its access flags and the names of its parameters. -/
def MethodDecl.strip (method : MethodDecl) : MethodDecl :=
  { method with
    flags := method.flags.withoutAccess
    parameters := method.parameters.map fun p => { p with name := "" } }

/-- A type without what recovery must not look at. Only nested types lose their namespace. -/
def TypeDecl.strip (isNested : Bool) (decl : TypeDecl) : TypeDecl where
  namespaceName := if isNested then "" else decl.namespaceName
  name := decl.name
  fields := decl.fields.map fun f => { f with type := "" }
  properties := decl.properties.map fun p => { p with type := "" }
  methods := decl.methods.map MethodDecl.strip

mutual

/-- Strips a type and the types nested in it. -/
def TypeTree.strip (isNested : Bool) : TypeTree → TypeTree
  | .node decl nested => .node (decl.strip isNested) (stripNested nested)

/-- Strips types that are nested in another. -/
def stripNested : List TypeTree → List TypeTree
  | [] => []
  | t :: ts => t.strip true :: stripNested ts

end

/-- A module without what recovery must not look at. -/
def Module.strip (m : Module) : Module where
  name := ""
  types := m.types.map (TypeTree.strip false)

/-- A listed type without what recovery must not look at. -/
def CatalogEntry.strip (e : CatalogEntry) : CatalogEntry :=
  { e with decl := e.decl.strip e.isNested }

/-- A catalog without what recovery must not look at. -/
def Catalog.strip (g : Catalog) : Catalog where
  name := ""
  entries := g.entries.map CatalogEntry.strip
  roots := g.roots
  byName := g.byName

/-! ## Listing the types of a stripped module -/

mutual

theorem sameShape_strip (isNested : Bool) : ∀ t : TypeTree, (t.strip isNested).SameShape t
  | .node _ nested => sameShapes_stripNested nested

theorem sameShapes_stripNested : ∀ ts : List TypeTree, SameShapes (stripNested ts) ts
  | [] => trivial
  | t :: ts => ⟨sameShape_strip true t, sameShapes_stripNested ts⟩

end

theorem sameShapes_map_strip : ∀ ts : List TypeTree, SameShapes (ts.map (TypeTree.strip false)) ts
  | [] => trivial
  | t :: ts => ⟨sameShape_strip false t, sameShapes_map_strip ts⟩

theorem TypeTree.topLevelName_strip : ∀ t : TypeTree,
    (t.strip false).decl.topLevelName = t.decl.topLevelName
  | .node _ _ => rfl

mutual

/-- The entries of a stripped tree. It is stripped as nested just if it has a declaring type. -/
theorem entries_strip (first : Nat) (declaring : Option TypeNumber) (fullName : String) :
    ∀ t : TypeTree, (t.strip declaring.isSome).entries first declaring fullName =
      (t.entries first declaring fullName).map CatalogEntry.strip
  | .node decl nested => by
    rw [TypeTree.strip, TypeTree.entries, TypeTree.entries, List.map_cons,
      forestNumbers_eq_of_sameShapes _ (sameShapes_stripNested nested),
      nestedEntries_strip _ _ _ nested]
    rfl

theorem nestedEntries_strip (first : Nat) (declaring : TypeNumber) (outer : String) :
    ∀ ts : List TypeTree, nestedEntries first declaring outer (stripNested ts) =
      (nestedEntries first declaring outer ts).map CatalogEntry.strip
  | [] => by simp [stripNested, nestedEntries]
  | .node decl nested :: ts => by
    have hsize := size_eq_of_sameShape (sameShape_strip true (.node decl nested))
    have hentries := entries_strip first (some declaring) (nestedName outer decl.name)
      (.node decl nested)
    rw [stripNested, TypeTree.strip, nestedEntries, nestedEntries, List.map_append, ← hentries,
      ← nestedEntries_strip _ _ _ ts, ← hsize]
    rfl

end

theorem forestEntries_strip (first : Nat) : ∀ ts : List TypeTree,
    forestEntries first (ts.map (TypeTree.strip false)) =
      (forestEntries first ts).map CatalogEntry.strip
  | [] => rfl
  | t :: ts => by
    rw [List.map_cons, forestEntries, forestEntries, List.map_append, t.topLevelName_strip,
      size_eq_of_sameShape (sameShape_strip false t), forestEntries_strip _ ts,
      ← entries_strip first none]
    rfl

namespace Catalog

/-- **Listing commutes with stripping**: a stripped module is refused for the same full name, and
else its types are listed as stripped. -/
theorem ofModule_strip (m : Module) : ofModule m.strip =
    match ofModule m with
    | .ok g => .ok g.strip
    | .error e => .error { e with moduleName := "" } := by
  have hnames : (forestEntries 0 m.strip.types).map (·.fullName) =
      (forestEntries 0 m.types).map (·.fullName) := by
    rw [Module.strip, forestEntries_strip, List.map_map]
    rfl
  have hroots : forestNumbers 0 m.strip.types = forestNumbers 0 m.types :=
    forestNumbers_eq_of_sameShapes 0 (sameShapes_map_strip m.types)
  have hbyName : (forestEntries 0 m.strip.types).map (fun e => (e.fullName, e.number)) =
      (forestEntries 0 m.types).map fun e => (e.fullName, e.number) := by
    rw [Module.strip, forestEntries_strip, List.map_map]
    rfl
  rw [ofModule_eq, ofModule_eq, hnames, hroots, hbyName]
  cases firstRepeated? [] ((forestEntries 0 m.types).map (·.fullName)) with
  | some fullName => rfl
  | none => simp [strip, Module.strip, forestEntries_strip]

section
variable {m m' : Module} (h : m.strip = m'.strip)
include h

theorem strip_eq_of_strip {g g' : Catalog} (hg : ofModule m = .ok g) (hg' : ofModule m' = .ok g') :
    g.strip = g'.strip := by
  have hok := ofModule_strip m
  rw [h, ofModule_strip m', hg, hg'] at hok
  exact (Except.ok.inj hok).symm

theorem listed_iff_of_strip :
    (∃ g, ofModule m = .ok g) ↔ ∃ g', ofModule m' = .ok g' := by
  have hiff : ∀ m : Module, (∃ g, ofModule m = .ok g) ↔ ∃ g, ofModule m.strip = .ok g := by
    intro m
    rw [ofModule_strip]
    cases ofModule m <;> simp
  rw [hiff m, hiff m', h]

end

theorem outline_strip (g : Catalog) : g.strip.outline = g.outline := by
  simp only [strip, outline, Array.map_map]
  rfl

theorem entry?_strip (g : Catalog) (x : TypeNumber) :
    g.strip.entry? x = (g.entry? x).map CatalogEntry.strip := by
  simp [strip, entry?]

end Catalog

/-! ## The members of stripped types -/

theorem MethodFlags.withoutAccess_withoutAccess (a : MethodFlags) :
    a.withoutAccess.withoutAccess = a.withoutAccess := by
  simp [withoutAccess, UInt16.and_assoc]

theorem MethodDecl.parameterTypes_strip (method : MethodDecl) :
    method.strip.parameterTypes = method.parameterTypes := by
  simp [parameterTypes, strip]

theorem CatalogEntry.ordinaryMethods_strip (e : CatalogEntry) :
    e.strip.ordinaryMethods = e.ordinaryMethods.map MethodDecl.strip :=
  List.filter_map

namespace Recovery

variable (m : Recovery)

theorem value_fields_strip (reference renamed : CatalogEntry) :
    (m.fields reference.strip renamed.strip).value = (m.fields reference renamed).value := by
  have hfields : ∀ e : CatalogEntry, e.strip.fields = e.fields.map fun f => { f with type := "" } :=
    fun _ => rfl
  rw [value_fields, value_fields, hfields, hfields, List.length_map, List.length_map,
    List.zip_map, List.filterMap_map]
  rfl

theorem value_properties_strip (reference renamed : CatalogEntry) :
    (m.properties reference.strip renamed.strip).value =
      (m.properties reference renamed).value := by
  have hproperties : ∀ e : CatalogEntry,
      e.strip.properties = e.properties.map fun p => { p with type := "" } := fun _ => rfl
  rw [value_properties, value_properties, hproperties, hproperties, List.length_map,
    List.length_map, List.zip_map, List.filterMap_map]
  rfl

theorem methodName_strip (method : MethodDecl) : methodName method.strip = methodName method := by
  funext recovered
  simp only [methodName, MethodDecl.parameterTypes_strip]
  rfl

theorem generatedMethods_strip (renamed : CatalogEntry) :
    m.generatedMethods renamed.strip = m.generatedMethods renamed := by
  have hmethods : renamed.strip.methods = renamed.methods.map MethodDecl.strip := rfl
  rw [generatedMethods, hmethods, List.filterMap_map]
  simp only [Function.comp_def, methodName_strip]
  rfl

section
variable {m} (hflags : m.signatureFlags = MethodFlags.withoutAccess)
include hflags

theorem compatible_strip (clean method : MethodDecl) :
    m.compatible clean.strip method.strip = m.compatible clean method := by
  have hstrip : ∀ method : MethodDecl,
      method.strip.flags.withoutAccess = method.flags.withoutAccess :=
    fun method => method.flags.withoutAccess_withoutAccess
  rw [compatible, compatible, hflags, hstrip, hstrip, MethodDecl.parameterTypes_strip,
    MethodDecl.parameterTypes_strip]
  rfl

theorem candidates_strip (renamed : CatalogEntry) (clean : MethodDecl) :
    m.candidates renamed.strip clean.strip = (m.candidates renamed clean).map MethodDecl.strip := by
  rw [candidates, candidates, CatalogEntry.ordinaryMethods_strip, List.filter_map]
  simp only [Function.comp_def, compatible_strip hflags]
  rfl

theorem value_method_strip (renamed : CatalogEntry) (clean : MethodDecl) :
    (m.method renamed.strip clean.strip).value = (m.method renamed clean).value := by
  have hany : renamed.strip.ordinaryMethods.any (·.name = clean.strip.name) =
      renamed.ordinaryMethods.any (·.name = clean.name) := by
    rw [CatalogEntry.ordinaryMethods_strip, List.any_map]
    rfl
  unfold method
  rw [hany, candidates_strip hflags]
  split
  · rfl
  · match m.candidates renamed clean with
    | [] => rfl
    | [only] => exact congrArg (fun name => [name clean.name]) (methodName_strip only)
    | _ :: _ :: _ => rfl

theorem value_methods_strip (reference renamed : CatalogEntry) :
    (m.methods reference.strip renamed.strip).value = (m.methods reference renamed).value := by
  simp only [value_methods, CatalogEntry.ordinaryMethods_strip, List.flatMap_map,
    value_method_strip hflags, generatedMethods_strip]

end

/-- A pair of stripped types has the same names recovered. -/
theorem namesAt_strip {m : Recovery} {k : Concordance}
    (hflags : m.signatureFlags = MethodFlags.withoutAccess)
    (hresolve : (m.on k).resolve = m.resolve)
    (hreference : k.reference = m.concordance.reference.strip)
    (hrenamed : k.renamed = m.concordance.renamed.strip) : (m.on k).namesAt = m.namesAt := by
  funext pair nested
  simp only [namesAt, methods_on hresolve]
  rw [show (m.on k).concordance = k from rfl, hreference, hrenamed, Catalog.entry?_strip,
    Catalog.entry?_strip]
  cases m.concordance.reference.entry? pair.2 with
  | none => rfl
  | some reference =>
    cases m.concordance.renamed.entry? pair.1 with
    | none => rfl
    | some renamed =>
      simp only [Option.map_some, ← m.value_fields_strip reference,
        ← m.value_properties_strip reference, ← value_methods_strip hflags reference]
      rfl

end Recovery

/-! ## Recovery from stripped catalogs -/

theorem value_recoverNames_strip {clean obfuscated : Module} {reference renamed : Catalog}
    (hc : Catalog.ofModule clean = .ok reference) (hr : Catalog.ofModule obfuscated = .ok renamed)
    (seeds : List Seed) (settings : Settings) :
    (recoverNames reference.strip renamed.strip seeds settings).value =
      (recoverNames reference renamed seeds settings).value := by
  have hsound := Catalog.sound_of_ofModule hc
  have hsound' := Catalog.sound_of_ofModule hr
  -- the stripped catalogs are those of the stripped modules
  have hstrip : reference.strip.Sound :=
    Catalog.sound_of_ofModule (by rw [Catalog.ofModule_strip, hc])
  have hstrip' : renamed.strip.Sound :=
    Catalog.sound_of_ofModule (by rw [Catalog.ofModule_strip, hr])
  have hs := (seeded_rooted hsound' hsound seeds settings).2.grows
  have ht := (seeded_rooted hstrip' hstrip seeds settings).2.grows
  refine value_recoverNames_congr reference.outline_strip renamed.outline_strip hsound' hsound
    hstrip' hstrip seeds settings ?_
  refine Recovery.namesAt_strip (m := recoveryFrom reference renamed seeds settings)
    (k := (seeded reference.strip renamed.strip seeds settings).concordance) rfl ?_ ?_ ?_
  · exact resolve_congr reference.outline_strip renamed.outline_strip hsound' hsound hstrip' hstrip
      seeds settings
  · exact ht.reference.trans (congrArg Catalog.strip hs.reference.symm)
  · exact ht.renamed.trans (congrArg Catalog.strip hs.renamed.symm)

/-- **What is stripped does not matter.** Of two modules that are the same when stripped, both are
listed or both are refused. If they are listed, on both sides, then the same seeds and settings
give the same names. -/
theorem recoverNames_of_strip {clean clean' obfuscated obfuscated' : Module}
    (hclean : clean.strip = clean'.strip) (hobfuscated : obfuscated.strip = obfuscated'.strip) :
    ((∃ c, Catalog.ofModule clean = .ok c) ↔ ∃ c', Catalog.ofModule clean' = .ok c') ∧
    ((∃ r, Catalog.ofModule obfuscated = .ok r) ↔ ∃ r', Catalog.ofModule obfuscated' = .ok r') ∧
    ∀ reference reference' renamed renamed', Catalog.ofModule clean = .ok reference →
      Catalog.ofModule clean' = .ok reference' → Catalog.ofModule obfuscated = .ok renamed →
      Catalog.ofModule obfuscated' = .ok renamed' → ∀ seeds settings, ∃ forest,
        (recoverNames reference renamed seeds settings).value = .ok forest ∧
        (recoverNames reference' renamed' seeds settings).value = .ok forest := by
  refine ⟨Catalog.listed_iff_of_strip hclean, Catalog.listed_iff_of_strip hobfuscated, ?_⟩
  intro reference reference' renamed renamed' hc hc' hr hr' seeds settings
  obtain ⟨forest, hforest⟩ :
      ∃ forest, (recoverNames reference renamed seeds settings).value = .ok forest :=
    ⟨_, value_recoverNames (Catalog.sound_of_ofModule hr) (Catalog.sound_of_ofModule hc) seeds⟩
  refine ⟨forest, hforest, ?_⟩
  rw [← hforest, ← value_recoverNames_strip hc hr, ← value_recoverNames_strip hc' hr',
    Catalog.strip_eq_of_strip hclean hc hc', Catalog.strip_eq_of_strip hobfuscated hr hr']

/-- A type with another nested in it. What must not matter is filled with `note` and `access`. -/
def sampleGate (outer inner field method note : String) (access : UInt16) : Module where
  name := note
  types :=
    [.node
      { namespaceName := "Game", name := outer, fields := [⟨field, note⟩]
        methods := [{ name := method, returnType := "System.Void", flags := ⟨0x80 ||| access⟩
                      parameters := [⟨note, "System.Int32"⟩] }] }
      [.node { namespaceName := note, name := inner, properties := [⟨"Size", note⟩] } []]]

theorem recoverNames_sampleGate :
    let clean := sampleGate "Gate" "Hinge" "angle" "Open"
    let obfuscated := sampleGate "ABCDEFGHIJK" "BCDEFGHIJKL" "CDEFGHIJKLM" "DEFGHIJKLMN"
    let seeds : List Seed := [⟨"Game.ABCDEFGHIJK", "Game.Gate", 1.0⟩]
    (clean "old" 6).strip = (clean "new" 1).strip ∧
    (obfuscated "first" 1).strip = (obfuscated "second" 3).strip ∧
    ∃ reference reference' renamed renamed', Catalog.ofModule (clean "old" 6) = .ok reference ∧
      Catalog.ofModule (clean "new" 1) = .ok reference' ∧
      Catalog.ofModule (obfuscated "first" 1) = .ok renamed ∧
      Catalog.ofModule (obfuscated "second" 3) = .ok renamed' ∧
      (recoverNames reference renamed seeds {}).value.toOption.map (fun forest =>
        forest.types.map fun t => (t.recovered, t.fields.length, t.methods.length,
          t.nested.map (·.recovered))) = some [(some "Gate", 1, 1, [some "Hinge"])] ∧
      ∃ forest, (recoverNames reference renamed seeds {}).value = .ok forest ∧
        (recoverNames reference' renamed' seeds {}).value = .ok forest := by
  intro clean obfuscated seeds
  have hclean : (clean "old" 6).strip = (clean "new" 1).strip := rfl
  have hobfuscated : (obfuscated "first" 1).strip = (obfuscated "second" 3).strip := rfl
  refine ⟨hclean, hobfuscated, _, _, _, _, rfl, rfl, rfl, rfl, by decide +kernel, ?_⟩
  exact (recoverNames_of_strip hclean hobfuscated).2.2 _ _ _ _ rfl rfl rfl rfl seeds {}

end Concord
