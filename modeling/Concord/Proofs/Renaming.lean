import Concord.Proofs.CapitalNames
import Concord.Proofs.MethodMatching
import Concord.Proofs.SameShape
import Mathlib.Data.List.Perm.Basic

/-!
# Recovery undoes a consistent renaming

A consistent renaming keeps the places of types and members and gives the types new names by one
function, which maps no name onto another one that the module mentions (`ConsistentRenaming`).
Seeded with the pairs of types that are not nested, `recoverNames` gives every type and every member
of it the name that stands at the same place of the reference module, and nothing else
(`recoverNames_of_renaming`). The names by place (`treeByPlace`) are a recursion over the two
modules that knows no concordance and searches no candidates.

The heart is the matching of methods. A renamed method is compatible with a reference method just if
it has the signature of the true counterpart and the names in that signature can be resolved
(`Aligned.compatible_iff`), so the only candidate is the true one:

* `Aligned.resolve_renamed`: what is resolved to a name of the module is its new name.
* `Aligned.resolve_renamed_iff`: a new name is resolved if it is the old one or that of a type.
* `Aligned.value_methods`, `Aligned.value_treeWithin`: methods and trees by place.
-/

set_option autoImplicit false

namespace Concord

/-! ## Consistent renamings -/

/-- A full name, a return type or the type of a parameter in a module. -/
def Module.Mentions (m : Module) (x : String) : Prop :=
  ∃ e ∈ forestEntries 0 m.types, x = e.fullName ∨
    ∃ method ∈ e.methods, x = method.returnType ∨ x ∈ method.parameterTypes

instance (m : Module) (x : String) : Decidable (m.Mentions x) := by
  unfold Module.Mentions
  infer_instance

/-- The full names of the types of a module. -/
def Module.fullNames (m : Module) : List String := (forestEntries 0 m.types).map (·.fullName)

section
variable (t : String → String) (looksRenamed : RenameTest)

/-- A method after a renaming that maps the names of types by `t`. -/
structure RenamedMethod (clean method : MethodDecl) : Prop where
  returnType : method.returnType = t clean.returnType
  parameterTypes : method.parameterTypes = clean.parameterTypes.map t
  flags : method.flags.withoutAccess = clean.flags.withoutAccess
  name : method.name = clean.name ∨
    clean.isConstructor = false ∧ looksRenamed method.name = true

/-- A type after a renaming. -/
structure RenamedType (e f : CatalogEntry) : Prop where
  fullName : f.fullName = t e.fullName
  fields : f.fields.length = e.fields.length
  properties : f.properties.length = e.properties.length
  methods : List.Forall₂ (RenamedMethod t looksRenamed) e.methods f.methods

/-- `renamed` is a consistent renaming of `clean`: types and members keep their places, and a name
of a type stays or becomes one that is not mentioned. -/
structure ConsistentRenaming (clean renamed : Module) : Prop where
  shape : SameShapes clean.types renamed.types
  types : List.Forall₂ (RenamedType t looksRenamed) (forestEntries 0 clean.types)
    (forestEntries 0 renamed.types)
  fresh : ∀ x, t x = x ∨ ¬ clean.Mentions (t x)

end

/-! ## Names by place -/

section
variable (looksRenamed : RenameTest) (t : String → String) (names : List String)

/-- The names of fields: the one that a convention gives in a nested type, else that of the
reference field if the name looks renamed. -/
def fieldsByPlace (isNested : Bool) (clean renamed : TypeDecl) : List MemberName :=
  (clean.fields.zip renamed.fields).filterMap fun (c, f) =>
    let generated :=
      if isNested then
        (Conventions.csharp.fixedField? f.name).or (Conventions.csharp.hostOf? f.name)
      else none
    (generated.or (if looksRenamed f.name then some c.name else none)).map (MemberName.mk f.name)

/-- The names of properties that look renamed. -/
def propertiesByPlace (clean renamed : TypeDecl) : List MemberName :=
  (clean.properties.zip renamed.properties).filterMap fun (c, p) =>
    if looksRenamed p.name then some ⟨p.name, c.name⟩ else none

/-- The signature of a reference method can be told from that of the renamed one: the return type
kept its name, and every parameter type kept its name or is a type of the module. -/
def resolvable (clean : MethodDecl) : Bool :=
  t clean.returnType = clean.returnType &&
    clean.parameterTypes.all fun x => t x = x || names.contains x

/-- The methods of a renamed type that look renamed and have the signature of one of them. -/
def twins (renamed : TypeDecl) (method : MethodDecl) : List MethodDecl :=
  renamed.ordinaryMethods.filter fun other => looksRenamed other.name &&
    (other.returnType = method.returnType &&
      other.flags.withoutAccess = method.flags.withoutAccess &&
      other.parameterTypes = method.parameterTypes)

/-- The name of a method: that of the reference method, if that is no constructor, the renamed type
has no method of this name, and the signature tells the method from all others. -/
def methodByPlace? (renamed : TypeDecl) (clean method : MethodDecl) : Option MethodName :=
  if !clean.isConstructor && !renamed.ordinaryMethods.any (·.name = clean.name) &&
      resolvable t names clean && (twins looksRenamed renamed method).length = 1 then
    some (Recovery.methodName method clean.name)
  else none

/-- The names of methods, and behind them those that a convention gives in a nested type. -/
def methodsByPlace (isNested : Bool) (clean renamed : TypeDecl) : List MethodName :=
  Recovery.addNew
    ((clean.methods.zip renamed.methods).filterMap fun (c, method) =>
      methodByPlace? looksRenamed t names renamed c method)
    (if isNested then
      renamed.methods.filterMap fun method =>
        (Conventions.csharp.hostOf? method.name).map (Recovery.methodName method)
    else [])

/-- The name of a type: the one that a convention gives, else that of the reference type. -/
def typeNameByPlace (clean renamed : TypeDecl) : String :=
  ((Conventions.csharp.typeNameOf? clean.name).or
    (Conventions.csharp.typeNameOf? renamed.name)).getD (withoutEmptyBrackets clean.name)

/-- The names of a type, given those of the types nested in it. There are none if the name of the
type does not look renamed and nothing else is there. -/
def nodeByPlace (isNested : Bool) (fullName : String) (clean renamed : TypeDecl)
    (nested : List NameTree) : Option NameTree :=
  let name := typeNameByPlace clean renamed
  let tree : NameTree :=
    { renamed := fullName
      recovered := if name = renamed.name then none else some name
      fields := fieldsByPlace looksRenamed isNested clean renamed
      properties := propertiesByPlace looksRenamed clean renamed
      methods := methodsByPlace looksRenamed t names isNested clean renamed
      nested }
  if !looksRenamed renamed.name && tree.isEmpty then none else some tree

mutual

/-- The names of a type and of all that is declared in it. -/
def treeByPlace (isNested : Bool) (fullName : String) : TypeTree → TypeTree → Option NameTree
  | .node clean nested, .node renamed nested' =>
    nodeByPlace looksRenamed t names isNested fullName clean renamed
      (nestedByPlace fullName nested nested')

/-- The names of the types nested in one of full name `outer`. -/
def nestedByPlace (outer : String) : List TypeTree → List TypeTree → List NameTree
  | c :: cs, .node renamed nested' :: rs =>
    (treeByPlace true (nestedName outer renamed.name) c (.node renamed nested')).toList ++
      nestedByPlace outer cs rs
  | _, _ => []

end

end

/-! ## Resolving names -/

namespace Recovery

/-- A recovery of a consistent renaming whose concordance binds every type to its own place. -/
structure Aligned (m : Recovery) (t : String → String) (clean renamed : Module) : Prop where
  consistent : ConsistentRenaming t m.looksRenamed clean renamed
  ofClean : Catalog.ofModule clean = .ok m.concordance.reference
  ofRenamed : Catalog.ofModule renamed = .ok m.concordance.renamed
  complete : m.concordance.Complete
  bound : ∀ {x f}, m.concordance.renamed.entry? x = some f →
    ∃ id, id.index < m.concordance.size ∧ m.concordance.types id = (x, x)
  ordinary : ∀ {method : MethodDecl}, m.looksRenamed method.name = true →
    method.isConstructor = false
  signatureFlags : m.signatureFlags = MethodFlags.withoutAccess
  conventions : m.conventions = .csharp

namespace Aligned

variable {m : Recovery} {t : String → String} {clean renamed : Module}

theorem exists_clean (h : m.Aligned t clean renamed) {x : TypeNumber} {f : CatalogEntry}
    (hf : m.concordance.renamed.entry? x = some f) :
    ∃ e, m.concordance.reference.entry? x = some e ∧ RenamedType t m.looksRenamed e f :=
  Catalog.exists_entry?_of_forall₂ h.ofClean h.ofRenamed h.consistent.types hf

theorem exists_renamed (h : m.Aligned t clean renamed) {x : TypeNumber} {e : CatalogEntry}
    (he : m.concordance.reference.entry? x = some e) :
    ∃ f, m.concordance.renamed.entry? x = some f ∧ RenamedType t m.looksRenamed e f :=
  Catalog.exists_entry?_of_forall₂ h.ofRenamed h.ofClean h.consistent.types.flip he

theorem mem_fullNames (h : m.Aligned t clean renamed) {s : String} :
    s ∈ clean.fullNames ↔ ∃ x e, m.concordance.reference.entry? x = some e ∧ e.fullName = s := by
  simp only [Module.fullNames, List.mem_map]
  constructor
  · rintro ⟨e, he, hs⟩
    exact ⟨e.number, e, (Catalog.entry?_eq_some_iff h.ofClean).2 ⟨he, rfl⟩, hs⟩
  · rintro ⟨x, e, he, hs⟩
    exact ⟨e, ((Catalog.entry?_eq_some_iff h.ofClean).1 he).1, hs⟩

/-- The full name of a renamed type is resolved to that of its counterpart. -/
theorem resolve_fullName (h : m.Aligned t clean renamed) {x : TypeNumber} {e f : CatalogEntry}
    (he : m.concordance.reference.entry? x = some e)
    (hf : m.concordance.renamed.entry? x = some f) : m.resolve f.fullName = e.fullName := by
  have hr := Catalog.sound_of_ofModule h.ofRenamed
  have hwf := h.complete.wellFormed
  obtain ⟨id, hid, htypes⟩ := h.bound hf
  obtain ⟨n, hn⟩ := (m.concordance.exists_pairing?_iff id).2 hid
  rw [Concordance.types_of_pairing? hn, Prod.mk.injEq] at htypes
  have hname : m.concordance.ofName? f.fullName = some n := by
    rw [hwf.ofName?_eq hr, hr.find?_eq_some_iff.2 ⟨f, hf, rfl⟩, Option.bind_some,
      hwf.ofType?_eq_some_iff.2 ⟨n, hn, htypes.1⟩, Option.bind_some, hn]
  rw [resolve, hname]
  show m.concordance.reference.fullName n.reference = e.fullName
  rw [htypes.2, Catalog.fullName_of_entry? he]

/-- A name that no renamed type has is resolved to itself. -/
theorem resolve_other (h : m.Aligned t clean renamed) {s : String}
    (hs : ∀ x f, m.concordance.renamed.entry? x = some f → f.fullName ≠ s) :
    m.resolve s = s := by
  have hr := Catalog.sound_of_ofModule h.ofRenamed
  have hfind : m.concordance.renamed.find? s = none := by
    refine Option.eq_none_iff_forall_ne_some.2 fun x hx => ?_
    obtain ⟨f, hf, hfs⟩ := hr.find?_eq_some_iff.1 hx
    exact hs x f hf hfs
  rw [resolve, h.complete.wellFormed.ofName?_eq hr, hfind]
  rfl

/-- A new name is the full name of a renamed type and resolved to that of its counterpart, or it is
resolved to itself. -/
theorem resolve_cases (h : m.Aligned t clean renamed) (y : String) :
    (∃ x e, m.concordance.reference.entry? x = some e ∧ t e.fullName = t y ∧
      m.resolve (t y) = e.fullName) ∨ m.resolve (t y) = t y := by
  by_cases hfull : ∃ x f, m.concordance.renamed.entry? x = some f ∧ f.fullName = t y
  · obtain ⟨x, f, hf, hfy⟩ := hfull
    obtain ⟨e, he, hef⟩ := h.exists_clean hf
    exact .inl ⟨x, e, he, hef.fullName ▸ hfy, hfy ▸ h.resolve_fullName he hf⟩
  · exact .inr (h.resolve_other fun x f hf hfy => hfull ⟨x, f, hf, hfy⟩)

/-- **What is resolved to a name of the module is its new name.** -/
theorem resolve_renamed (h : m.Aligned t clean renamed) {x y : String} (hx : clean.Mentions x)
    (hy : m.resolve (t y) = x) : t x = t y := by
  obtain ⟨_, e, _, hty, hresolve⟩ | hresolve := h.resolve_cases y
  · rw [← hy, hresolve, hty]
  · -- a new name that the module mentions is an old one
    have hxy : t y = x := hresolve ▸ hy
    rcases h.consistent.fresh y with hfix | hnot
    · rw [← hxy, hfix, hfix]
    · exact absurd (hxy ▸ hx) hnot

/-- **A new name is resolved** if it is the old one or that of a type of the module. -/
theorem resolve_renamed_iff (h : m.Aligned t clean renamed) {x : String} (hx : clean.Mentions x) :
    m.resolve (t x) = x ↔ t x = x ∨ x ∈ clean.fullNames := by
  constructor
  · intro hresolve
    obtain ⟨_, e, he, -, hex⟩ | hself := h.resolve_cases x
    · exact .inr (h.mem_fullNames.2 ⟨_, e, he, hex.symm.trans hresolve⟩)
    · exact .inl (hself ▸ hresolve)
  · rintro (hfix | hname)
    · obtain ⟨_, e, he, hex, hresolve⟩ | hself := h.resolve_cases x
      · -- the type of this new name has not changed it either
        rw [hfix] at hex
        rcases h.consistent.fresh e.fullName with hkept | hnot
        · rw [hresolve, ← hkept, hex]
        · exact absurd (hex ▸ hx) hnot
      · rw [hself, hfix]
    · obtain ⟨_, e, he, rfl⟩ := h.mem_fullNames.1 hname
      obtain ⟨f, hf, hef⟩ := h.exists_renamed he
      rw [← hef.fullName]
      exact h.resolve_fullName he hf

/-! ## Matching methods -/

/-- **Whatever is compatible has the signature of the true counterpart**, and the true counterpart
is compatible then. -/
theorem compatible_iff (h : m.Aligned t clean renamed) {c c' method method' : MethodDecl}
    (hm : RenamedMethod t m.looksRenamed c method) (hm' : RenamedMethod t m.looksRenamed c' method')
    (hreturn : clean.Mentions c.returnType) (hparams : ∀ x ∈ c.parameterTypes, clean.Mentions x) :
    m.compatible c method' = true ↔ resolvable t clean.fullNames c = true ∧
      (method'.returnType = method.returnType ∧
        method'.flags.withoutAccess = method.flags.withoutAccess ∧
        method'.parameterTypes = method.parameterTypes) := by
  have hresolvable : resolvable t clean.fullNames c = true ↔ t c.returnType = c.returnType ∧
      c.parameterTypes.map (fun x => m.resolve (t x)) = c.parameterTypes := by
    have hself : (∀ x ∈ c.parameterTypes, m.resolve (t x) = x) ↔
        c.parameterTypes.map (fun x => m.resolve (t x)) = c.parameterTypes := by
      simpa using (List.map_inj_left (f := fun x => m.resolve (t x)) (g := id)).symm
    rw [resolvable, Bool.and_eq_true, decide_eq_true_iff, List.all_eq_true, ← hself]
    refine and_congr_right fun _ => forall_congr' fun x => forall_congr' fun hx => ?_
    rw [h.resolve_renamed_iff (hparams x hx)]
    simp
  rw [hresolvable, Recovery.compatible_iff, signature, Prod.mk.injEq, Prod.mk.injEq,
    h.signatureFlags, hm.flags, hm.returnType, hm.parameterTypes]
  constructor
  · rintro ⟨hret, hflags, hpar⟩
    -- the return type of the candidate is mentioned, so it is an old name
    have hold : t c'.returnType = c'.returnType := by
      rcases h.consistent.fresh c'.returnType with hfix | hnot
      · exact hfix
      · rw [hret, hm'.returnType] at hreturn
        exact absurd hreturn hnot
    rw [hm'.returnType, hold] at hret
    rw [hm'.parameterTypes, List.map_map] at hpar
    have hsame : ∀ y ∈ c'.parameterTypes, t (m.resolve (t y)) = t y := by
      intro y hy
      refine h.resolve_renamed (hparams _ ?_) rfl
      rw [hpar]
      exact List.mem_map_of_mem (f := m.resolve ∘ t) hy
    have hnew : c'.parameterTypes.map t = c.parameterTypes.map t := by
      rw [hpar, List.map_map]
      exact List.map_congr_left fun y hy => (hsame y hy).symm
    refine ⟨⟨by rw [hret, hold], ?_⟩, by rw [hm'.returnType, hret], hflags.symm,
      by rw [hm'.parameterTypes, hnew]⟩
    calc c.parameterTypes.map (fun x => m.resolve (t x))
        = (c.parameterTypes.map t).map m.resolve := by rw [List.map_map]; rfl
      _ = (c'.parameterTypes.map t).map m.resolve := by rw [hnew]
      _ = c.parameterTypes := by rw [List.map_map, hpar]
  · rintro ⟨⟨hfix, hpar⟩, hret, hflags, hparams'⟩
    refine ⟨by rw [hret, hfix], hflags.symm, ?_⟩
    rw [hparams', List.map_map]
    exact hpar.symm

/-- The candidates for a reference method are the methods with the signature of its counterpart. -/
theorem candidates_eq (h : m.Aligned t clean renamed) {e f : CatalogEntry}
    (he : e ∈ forestEntries 0 clean.types) (hef : RenamedType t m.looksRenamed e f)
    {c method : MethodDecl} (hc : c ∈ e.methods) (hm : RenamedMethod t m.looksRenamed c method) :
    m.candidates f c = if resolvable t clean.fullNames c then
      twins m.looksRenamed f.decl method else [] := by
  have hreturn : clean.Mentions c.returnType := ⟨e, he, .inr ⟨c, hc, .inl rfl⟩⟩
  have hparams : ∀ x ∈ c.parameterTypes, clean.Mentions x :=
    fun x hx => ⟨e, he, .inr ⟨c, hc, .inr hx⟩⟩
  have hcompatible : ∀ other ∈ f.ordinaryMethods, m.compatible c other =
      (resolvable t clean.fullNames c && (other.returnType = method.returnType &&
        other.flags.withoutAccess = method.flags.withoutAccess &&
        other.parameterTypes = method.parameterTypes)) := by
    intro other hother
    obtain ⟨c', -, hm'⟩ := exists_of_mem_right hef.methods (List.mem_of_mem_filter hother)
    rw [Bool.eq_iff_iff, h.compatible_iff hm hm' hreturn hparams]
    simp [and_assoc]
  rw [candidates, List.filter_congr fun other hother => by rw [hcompatible other hother]]
  cases resolvable t clean.fullNames c with
  | false => simp
  | true => simp [twins, CatalogEntry.ordinaryMethods]

/-- **The only candidate is the true counterpart.** -/
theorem value_method (h : m.Aligned t clean renamed) {e f : CatalogEntry}
    (he : e ∈ forestEntries 0 clean.types) (hef : RenamedType t m.looksRenamed e f)
    {c method : MethodDecl} (hcm : (c, method) ∈ e.methods.zip f.methods)
    (hordinary : c.isConstructor = false) : (m.method f c).value =
      (methodByPlace? m.looksRenamed t clean.fullNames f.decl c method).toList := by
  have hm := List.forall₂_zip hef.methods hcm
  obtain ⟨hc, hmethod⟩ := List.of_mem_zip hcm
  unfold Recovery.method methodByPlace?
  by_cases hkept : f.ordinaryMethods.any (·.name = c.name)
  · simp [hkept, show f.decl.ordinaryMethods = f.ordinaryMethods from rfl]
  -- the name of the counterpart has changed, so it is among the candidates
  have htwin : method ∈ twins m.looksRenamed f.decl method := by
    have hlooks : m.looksRenamed method.name = true := by
      rcases hm.name with hname | ⟨-, hlooks⟩
      · refine absurd (List.any_eq_true.2 ⟨method, List.mem_filter.2 ⟨hmethod, ?_⟩, ?_⟩) hkept
        · rw [MethodDecl.isConstructor, hname, ← MethodDecl.isConstructor, hordinary]
          rfl
        · simpa using hname
      · exact hlooks
    have hordinary' : method ∈ f.ordinaryMethods :=
      List.mem_filter.2 ⟨hmethod, by rw [h.ordinary hlooks]; rfl⟩
    exact List.mem_filter.2 ⟨hordinary', by simp [hlooks]⟩
  rw [h.candidates_eq he hef hc hm, if_neg hkept]
  rw [Bool.not_eq_true] at hkept
  rw [show f.decl.ordinaryMethods = f.ordinaryMethods from rfl, hkept, hordinary]
  cases resolvable t clean.fullNames c with
  | false => simp
  | true =>
    revert htwin
    cases twins m.looksRenamed f.decl method with
    | nil => simp
    | cons only rest =>
      cases rest with
      | nil =>
        intro htwin
        rw [List.mem_singleton.1 htwin]
        simp
      | cons _ _ => simp

theorem flatMap_filter_fst {α β γ : Type} {l : List (α × β)} {p : α → Bool} {F : α → List γ}
    {G : α × β → Option γ} (h : ∀ x ∈ l, (if p x.1 then F x.1 else []) = (G x).toList) :
    ((l.map (·.1)).filter p).flatMap F = l.filterMap G := by
  rw [List.filterMap_eq_flatMap_toList]
  induction l with
  | nil => rfl
  | cons x l ih =>
    rw [List.map_cons, List.flatMap_cons, ← h x List.mem_cons_self,
      ← ih fun y hy => h y (List.mem_cons_of_mem _ hy), List.filter_cons]
    split <;> rfl

theorem value_methods (h : m.Aligned t clean renamed) {e f : CatalogEntry}
    (he : e ∈ forestEntries 0 clean.types) (hef : RenamedType t m.looksRenamed e f) :
    (m.methods e f).value =
      methodsByPlace m.looksRenamed t clean.fullNames f.isNested e.decl f.decl := by
  have hordinary : e.ordinaryMethods =
      ((e.methods.zip f.methods).map (·.1)).filter (!·.isConstructor) := by
    rw [List.map_fst_zip (Nat.le_of_eq hef.methods.length_eq)]
    rfl
  have hmatched : e.ordinaryMethods.flatMap (fun c => (m.method f c).value) =
      (e.methods.zip f.methods).filterMap fun (c, method) =>
        methodByPlace? m.looksRenamed t clean.fullNames f.decl c method := by
    rw [hordinary]
    refine flatMap_filter_fst fun x hx => ?_
    obtain ⟨c, method⟩ := x
    cases hc : c.isConstructor with
    | false => simpa [hc] using h.value_method he hef hx hc
    | true => simp [methodByPlace?, hc]
  rw [Recovery.value_methods, hmatched, generatedMethods, h.conventions]
  rfl

/-! ## Fields and properties -/

theorem value_fields (h : m.Aligned t clean renamed) {e f : CatalogEntry}
    (hef : RenamedType t m.looksRenamed e f) :
    (m.fields e f).value = fieldsByPlace m.looksRenamed f.isNested e.decl f.decl := by
  rw [Recovery.value_fields, if_pos hef.fields]
  simp only [generatedField?, h.conventions]
  rfl

theorem value_properties {e f : CatalogEntry} (hef : RenamedType t m.looksRenamed e f) :
    (m.properties e f).value = propertiesByPlace m.looksRenamed e.decl f.decl := by
  rw [Recovery.value_properties, if_pos hef.properties]
  rfl

/-! ## Trees -/

/-- One level of a tree. -/
theorem value_treeWithin_succ (h : m.Aligned t clean renamed) {e f : CatalogEntry}
    {x : TypeNumber} (he : m.concordance.reference.entry? x = some e)
    (hf : m.concordance.renamed.entry? x = some f) {id : PairingNumber} {n : Pairing}
    (hn : m.concordance.pairing? id = some n) (htypes : m.concordance.types id = (x, x))
    (depth : Nat) : (m.treeWithin (depth + 1) id).value =
      nodeByPlace m.looksRenamed t clean.fullNames f.isNested f.fullName e.decl f.decl
        (n.nested.filterMap fun child => (m.treeWithin depth child).value) := by
  have hef : RenamedType t m.looksRenamed e f := by
    obtain ⟨e', he', hef⟩ := h.exists_clean hf
    rw [he, Option.some.injEq] at he'
    exact he' ▸ hef
  have hmem := ((Catalog.entry?_eq_some_iff h.ofClean).1 he).1
  have hname : m.recoveredName e f = typeNameByPlace e.decl f.decl := by
    rw [recoveredName, h.conventions]
    rfl
  rw [Concordance.types_of_pairing? hn, Prod.mk.injEq] at htypes
  rw [treeWithin, treeStep]
  simp only [hn, htypes.1, htypes.2, he, hf, Logged.value_bind, Logged.value_mapM,
    h.value_fields hef, value_properties hef, h.value_methods hmem hef, List.filterMap_map,
    assemble, hname]
  rw [apply_ite Logged.value]
  rfl

mutual

/-- **Trees by place.** A pairing at one place gives the tree of names by place. -/
theorem value_treeWithin (h : m.Aligned t clean renamed) : ∀ {c r : TypeTree} {first : Nat}
    {declaring : Option TypeNumber} {outer fullName : String}, c.SameShape r →
    (∀ e ∈ c.entries first declaring outer, e ∈ forestEntries 0 clean.types) →
    (∀ f ∈ r.entries first declaring fullName, f ∈ forestEntries 0 renamed.types) →
    ∀ {id : PairingNumber} {depth : Nat}, id.index < m.concordance.size →
    m.concordance.size ≤ id.index + depth → m.concordance.types id = (⟨first⟩, ⟨first⟩) →
    (m.treeWithin depth id).value =
      treeByPlace m.looksRenamed t clean.fullNames declaring.isSome fullName c r
  | .node decl nested, .node decl' nested', first, declaring, outer, fullName, hshape, hc, hr,
      id, depth, hid, hdepth, htypes => by
    rw [TypeTree.entries] at hc hr
    have he := (Catalog.entry?_eq_some_iff h.ofClean).2 ⟨hc _ List.mem_cons_self, rfl⟩
    have hf := (Catalog.entry?_eq_some_iff h.ofRenamed).2 ⟨hr _ List.mem_cons_self, rfl⟩
    obtain ⟨n, hn⟩ := (m.concordance.exists_pairing?_iff id).2 hid
    cases depth with
    | zero => omega
    | succ depth =>
      -- the nested pairings stand at the places of the nested types
      have hchildren := h.complete.map_nestedOf hid
      rw [htypes, Concordance.nestedOf_of_pairing? hn, Concordance.nestedPairs_self hf he
        ⟨rfl, rfl, forestNumbers_eq_of_sameShapes (first + 1) hshape⟩] at hchildren
      have hbelow : ∀ child ∈ n.nested, child.index < m.concordance.size ∧
          m.concordance.size ≤ child.index + depth := by
        intro child hchild
        obtain ⟨k, hk, hd, -⟩ := h.complete.child hn hchild
        have hlt := h.complete.index_lt ⟨k, hk, hd⟩
        exact ⟨Concordance.index_lt_size hk, by omega⟩
      rw [h.value_treeWithin_succ he hf hn htypes, treeByPlace,
        h.value_nested hshape (fun e he => hc e (List.mem_cons_of_mem _ he))
          (fun f hf => hr f (List.mem_cons_of_mem _ hf)) hchildren hbelow]
      rfl

theorem value_nested (h : m.Aligned t clean renamed) : ∀ {cs rs : List TypeTree} {first : Nat}
    {declaring : TypeNumber} {outer outer' : String}, SameShapes cs rs →
    (∀ e ∈ nestedEntries first declaring outer cs, e ∈ forestEntries 0 clean.types) →
    (∀ f ∈ nestedEntries first declaring outer' rs, f ∈ forestEntries 0 renamed.types) →
    ∀ {ids : List PairingNumber} {depth : Nat},
    (ids.map m.concordance.types = (forestNumbers first rs).map fun y => (y, y)) →
    (∀ id ∈ ids, id.index < m.concordance.size ∧ m.concordance.size ≤ id.index + depth) →
    (ids.filterMap fun id => (m.treeWithin depth id).value) =
      nestedByPlace m.looksRenamed t clean.fullNames outer' cs rs
  | [], [], first, _, _, outer', _, _, _, ids, depth, hids, _ => by
    rw [forestNumbers, List.map_nil, List.map_eq_nil_iff] at hids
    rw [hids, nestedByPlace]
    · rfl
    · simp
  | .node decl nested :: cs, .node decl' nested' :: rs, first, declaring, outer, outer', hshape,
      hc, hr, ids, depth, hids, hbelow => by
    rw [nestedEntries] at hc hr
    rw [forestNumbers, List.map_cons] at hids
    obtain ⟨id, ids, rfl, hid, hrest⟩ := List.map_eq_cons_iff.1 hids
    obtain ⟨hlt, hdepth⟩ := hbelow id List.mem_cons_self
    have htree := h.value_treeWithin hshape.1 (fun e he => hc e (List.mem_append_left _ he))
      (fun f hf => hr f (List.mem_append_left _ hf)) hlt hdepth hid
    rw [size_eq_of_sameShape hshape.1] at hc
    have htrees := h.value_nested hshape.2 (fun e he => hc e (List.mem_append_right _ he))
      (fun f hf => hr f (List.mem_append_right _ hf)) hrest
      fun i hi => hbelow i (List.mem_cons_of_mem _ hi)
    rw [nestedByPlace, ← htrees, List.filterMap_cons, htree, Option.isSome_some]
    cases treeByPlace m.looksRenamed t clean.fullNames true (nestedName outer' decl'.name)
      (.node decl nested) (.node decl' nested') <;> rfl

end

end Aligned

end Recovery

/-! ## The whole recovery -/

theorem forall₂_mem {α β : Type} {R : α → β → Prop} {as : List α} {bs : List β}
    (h : List.Forall₂ R as bs) : List.Forall₂ (fun a b => a ∈ as ∧ b ∈ bs ∧ R a b) as bs := by
  rw [List.forall₂_iff_zip] at h ⊢
  exact ⟨h.1, fun {a b} hab => ⟨(List.of_mem_zip hab).1, (List.of_mem_zip hab).2, h.2 hab⟩⟩

/-- The full names, on the renamed and on the reference side, of two types that are not nested. -/
def topLevelNames (pair : TypeTree × TypeTree) : String × String :=
  (pair.2.decl.topLevelName, pair.1.decl.topLevelName)

/-- The head of a listing stands under its number. -/
theorem entry?_of_entries {m : Module} {c : Catalog} (hc : Catalog.ofModule m = .ok c)
    {t : TypeTree} {x : TypeNumber}
    (h : ∀ e ∈ t.entries x.index none t.decl.topLevelName, e ∈ forestEntries 0 m.types) :
    ∃ e, c.entry? x = some e ∧ e.fullName = t.decl.topLevelName ∧ e.declaring = none := by
  obtain ⟨decl, nested⟩ := t
  rw [TypeTree.entries] at h
  exact ⟨_, (Catalog.entry?_eq_some_iff hc).2 ⟨h _ List.mem_cons_self, rfl⟩, rfl, rfl⟩

/-- The pairs of types under their numbers, in the order of their seeds. -/
theorem exists_places {clean renamed : Module} (h : SameShapes clean.types renamed.types)
    {seeds : List Seed} (hseeds : (seeds.map fun s => (s.renamed, s.reference)).Perm
      ((clean.types.zip renamed.types).map topLevelNames)) :
    ∃ places : List (TypeNumber × TypeTree × TypeTree),
      places.Perm (rootPairs 0 clean.types renamed.types) ∧
      List.Forall₂ (fun (s : Seed) p => (s.renamed, s.reference) = topLevelNames p.2) seeds
        places := by
  rw [← map_snd_rootPairs 0 h, List.map_map] at hseeds
  have hnames : List.Forall₂ (fun names (p : TypeNumber × TypeTree × TypeTree) =>
      names = topLevelNames p.2) ((rootPairs 0 clean.types renamed.types).map _)
      (rootPairs 0 clean.types renamed.types) :=
    List.forall₂_map_left_iff.2 (List.forall₂_same.2 fun p _ => rfl)
  obtain ⟨places, hplaces, hperm⟩ := List.perm_comp_forall₂ hseeds hnames
  exact ⟨places, hperm, List.forall₂_map_left_iff.1 hplaces⟩

section
variable {clean renamed : Module} {places : List (TypeNumber × TypeTree × TypeTree)}

theorem seedAt_places {c r : Catalog} (hc : Catalog.ofModule clean = .ok c)
    (hr : Catalog.ofModule renamed = .ok r) (h : SameShapes clean.types renamed.types)
    (hperm : places.Perm (rootPairs 0 clean.types renamed.types)) {seeds : List Seed}
    (hseeds : List.Forall₂ (fun (s : Seed) p => (s.renamed, s.reference) = topLevelNames p.2)
      seeds places) :
    List.Forall₂ (Concordance.SeedAt c r) seeds (places.map (·.1)) := by
  rw [List.forall₂_map_right_iff]
  refine (forall₂_mem hseeds).imp ?_
  rintro s ⟨x, t, u⟩ ⟨-, hp, hnames⟩
  obtain ⟨-, ht, hu⟩ := mem_rootPairs h (hperm.mem_iff.1 hp)
  obtain ⟨e, he, hes, hed⟩ := entry?_of_entries hc ht
  obtain ⟨f, hf, hfs, hfd⟩ := entry?_of_entries hr hu
  obtain ⟨hsr, hsc⟩ := Prod.mk.inj hnames
  exact ⟨⟨f, hf, hfs.trans hsr.symm, hfd⟩, ⟨e, he, hes.trans hsc.symm, hed⟩⟩

/-- **The trees of all roots by place.** -/
theorem Recovery.Aligned.value_forest {m : Recovery} {t : String → String}
    (h : m.Aligned t clean renamed)
    (hperm : places.Perm (rootPairs 0 clean.types renamed.types))
    (hroots : m.concordance.roots.map m.concordance.types = places.map fun p => (p.1, p.1)) :
    m.forest.value.types = places.filterMap fun p =>
      treeByPlace m.looksRenamed t clean.fullNames false p.2.2.decl.topLevelName p.2.1 p.2.2 := by
  have hpairs : List.Forall₂ (fun id p => m.concordance.types id = (p.1, p.1))
      m.concordance.roots places := by
    rw [← List.forall₂_eq_eq_eq, List.forall₂_map_left_iff, List.forall₂_map_right_iff] at hroots
    exact hroots
  have htrees : (m.concordance.roots.map fun id => (m.tree id).value) = places.map fun p =>
      treeByPlace m.looksRenamed t clean.fullNames false p.2.2.decl.topLevelName p.2.1 p.2.2 := by
    rw [← List.forall₂_eq_eq_eq, List.forall₂_map_left_iff, List.forall₂_map_right_iff]
    refine (forall₂_mem hpairs).imp ?_
    rintro id ⟨x, c, r⟩ ⟨hid, hp, htypes⟩
    obtain ⟨hshape, hc, hr⟩ := mem_rootPairs h.consistent.shape (hperm.mem_iff.1 hp)
    exact h.value_treeWithin hshape hc hr (h.complete.wellFormed.index_lt_of_mem_roots hid)
      (Nat.le_add_left _ _) htypes
  rw [Recovery.forest]
  simp only [Logged.value_bind, Logged.value_mapM, Logged.value_pure, htrees, List.filterMap_map]
  rfl

end

/-- **Recovery undoes a consistent renaming.** With one seed for every pair of types that are not
nested, in any order, none of them below the least score, the recovery succeeds. It gives the names
by place, tree by tree in the order of the seeds. -/
theorem recoverNames_of_renaming {clean renamed : Module} {c r : Catalog}
    (hc : Catalog.ofModule clean = .ok c) (hr : Catalog.ofModule renamed = .ok r)
    {t : String → String} (settings : Settings)
    (h : ConsistentRenaming t settings.looksRenamed clean renamed) (seeds : List Seed)
    (hseeds : (seeds.map fun s => (s.renamed, s.reference)).Perm
      ((clean.types.zip renamed.types).map topLevelNames))
    (hscores : ∀ s ∈ seeds, ¬ s.score < settings.minScore) :
    ∃ order : List (TypeTree × TypeTree), order.Perm (clean.types.zip renamed.types) ∧
      (seeds.map fun s => (s.renamed, s.reference)) = order.map topLevelNames ∧
      (recoverNames c r seeds settings).value = .ok
        { types := order.filterMap fun pair =>
            treeByPlace settings.looksRenamed t clean.fullNames false
              pair.2.decl.topLevelName pair.1 pair.2 } := by
  obtain ⟨places, hperm, hplaces⟩ := exists_places h.shape hseeds
  have hxs : (places.map (·.1)).Perm r.roots := by
    rw [(Catalog.ofModule_ok hr).2, ← map_fst_rootPairs 0 h.shape]
    exact hperm.map _
  obtain ⟨hanswer, hcomplete, hreference, hrenamed, hroots, hbound⟩ :=
    Concordance.seeded_spec (Catalog.sound_of_ofModule hr) (Catalog.sound_of_ofModule hc)
      (Catalog.exists_entry?_of_forall₂ hc hr (samePlace_forestEntries 0 h.shape))
      (seedAt_places hc hr h.shape hperm hplaces) hscores hxs
  let m : Recovery :=
    { concordance := (seeded c r seeds settings).concordance
      looksRenamed := settings.looksRenamed }
  have haligned : m.Aligned t clean renamed :=
    { consistent := h
      ofClean := hc.trans (congrArg Except.ok hreference.symm)
      ofRenamed := hr.trans (congrArg Except.ok hrenamed.symm)
      complete := hcomplete
      bound := fun hf => hbound (hrenamed ▸ hf)
      ordinary := isConstructor_of_capitals
      signatureFlags := rfl
      conventions := rfl }
  rw [List.map_map] at hroots
  refine ⟨places.map (·.2), ?_, ?_, ?_⟩
  · rw [← map_snd_rootPairs 0 h.shape]
    exact hperm.map _
  · rw [List.map_map, ← List.forall₂_eq_eq_eq, List.forall₂_map_left_iff,
      List.forall₂_map_right_iff]
    exact hplaces
  · have hforest := haligned.value_forest hperm hroots
    rw [recoverNames, hanswer]
    rw [List.filterMap_map]
    exact congrArg (fun types => Except.ok (NameForest.mk types)) hforest

/-- A module with a nested type, a constructor, overloads and types of its own in signatures. -/
def sampleArena : Module where
  name := "Arena.dll"
  types :=
    [.node
      { namespaceName := "Arena", name := "Player", fields := [⟨"health", "System.Int32"⟩]
        methods :=
          [⟨".ctor", "System.Void", ⟨6⟩, []⟩, ⟨"Hit", "System.Void", ⟨6⟩, [⟨"by", "Arena.Weapon"⟩]⟩,
            ⟨"Hit", "System.Void", ⟨6⟩, [⟨"power", "System.Int32"⟩]⟩,
            ⟨"Owner", "Arena.Player", ⟨6⟩, []⟩] }
      [.node
        { name := "Stats", methods := [⟨"Of", "System.Int32", .none, [⟨"p", "Arena.Player"⟩]⟩] }
        []],
      .node { namespaceName := "Arena", name := "Weapon" } []]

/-- The same module, renamed. -/
def sampleArenaRenamed : Module where
  name := "Arena.dll"
  types :=
    [.node
      { name := "ABCDEFGHIJK", fields := [⟨"BCDEFGHIJKL", "System.Int32"⟩]
        methods :=
          [⟨".ctor", "System.Void", ⟨6⟩, []⟩,
            ⟨"CDEFGHIJKLM", "System.Void", ⟨1⟩, [⟨"", "FGHIJKLMNOP"⟩]⟩,
            ⟨"CDEFGHIJKLM", "System.Void", ⟨1⟩, [⟨"", "System.Int32"⟩]⟩,
            ⟨"DEFGHIJKLMN", "ABCDEFGHIJK", ⟨1⟩, []⟩] }
      [.node
        { name := "Stats"
          methods := [⟨"EFGHIJKLMNO", "System.Int32", .none, [⟨"", "ABCDEFGHIJK"⟩]⟩] }
        []],
      .node { name := "FGHIJKLMNOP" } []]

/-- How its types were renamed. -/
def sampleArenaNames (x : String) : String :=
  if x = "Arena.Player" then "ABCDEFGHIJK"
  else if x = "Arena.Player/Stats" then "ABCDEFGHIJK/Stats"
  else if x = "Arena.Weapon" then "FGHIJKLMNOP"
  else x

/-- Its seeds, not in the order of declaration. -/
def sampleArenaSeeds : List Seed :=
  [{ renamed := "FGHIJKLMNOP", reference := "Arena.Weapon" },
    { renamed := "ABCDEFGHIJK", reference := "Arena.Player", score := 2.5 }]

theorem sampleArena_renaming : ConsistentRenaming sampleArenaNames (RenameTest.capitals 11)
    sampleArena sampleArenaRenamed where
  shape := ⟨⟨trivial, trivial⟩, trivial, trivial⟩
  types := by
    refine .cons ⟨by decide, rfl, rfl, ?_⟩
      (.cons ⟨by decide, rfl, rfl, ?_⟩ (.cons ⟨by decide, rfl, rfl, .nil⟩ .nil))
    · exact .cons ⟨by decide, by decide, by decide, .inl rfl⟩
        (.cons ⟨by decide, by decide, by decide, .inr (by decide)⟩
        (.cons ⟨by decide, by decide, by decide, .inr (by decide)⟩
        (.cons ⟨by decide, by decide, by decide, .inr (by decide)⟩ .nil)))
    · exact .cons ⟨by decide, by decide, by decide, .inr (by decide)⟩ .nil
  fresh x := by
    unfold sampleArenaNames
    split
    · exact .inr (by decide)
    · split
      · exact .inr (by decide)
      · split
        · exact .inr (by decide)
        · exact .inl rfl

theorem recoverNames_of_renaming_sample : ∃ c r, ∃ order : List (TypeTree × TypeTree),
    Catalog.ofModule sampleArena = .ok c ∧ Catalog.ofModule sampleArenaRenamed = .ok r ∧
      order.Perm (sampleArena.types.zip sampleArenaRenamed.types) ∧
      (recoverNames c r sampleArenaSeeds {}).value = .ok
        { types := order.filterMap fun pair =>
            treeByPlace (RenameTest.capitals 11) sampleArenaNames sampleArena.fullNames false
              pair.2.decl.topLevelName pair.1 pair.2 } ∧
      ((sampleArena.types.zip sampleArenaRenamed.types).map fun pair =>
        methodsByPlace (RenameTest.capitals 11) sampleArenaNames sampleArena.fullNames false
          pair.1.decl pair.2.decl) =
        [[⟨"CDEFGHIJKLM", "Hit", ["FGHIJKLMNOP"]⟩, ⟨"CDEFGHIJKLM", "Hit", ["System.Int32"]⟩],
          []] := by
  obtain ⟨c, hc⟩ : ∃ c, Catalog.ofModule sampleArena = .ok c := ⟨_, rfl⟩
  obtain ⟨r, hr⟩ : ∃ c, Catalog.ofModule sampleArenaRenamed = .ok c := ⟨_, rfl⟩
  have hseeds : (sampleArenaSeeds.map fun s => (s.renamed, s.reference)).Perm
      ((sampleArena.types.zip sampleArenaRenamed.types).map topLevelNames) := by decide
  have hscores : ∀ s ∈ sampleArenaSeeds, ¬ s.score < ({} : Settings).minScore := by decide
  obtain ⟨order, hperm, -, hvalue⟩ :=
    recoverNames_of_renaming hc hr {} sampleArena_renaming sampleArenaSeeds hseeds hscores
  exact ⟨c, r, order, hc, hr, hperm, hvalue, by decide⟩

end Concord
