import Concord.Recovery.Members
import Mathlib.Data.List.Nodup

/-!
# Where recovered members come from

Fields and properties come from the same place on both sides (`value_fields`, `value_properties`).
The entries for the methods of a type are texts, and two methods may be written alike. `matched` and
`generated` give the entries back together with the declarations that they are made from, by their
places; `value_methods_eq`: these are all entries, in order.

`methods_shared_only_by_signature`: two reference methods are recovered onto one renamed method
only if they agree in all that a signature is compared by, and then they always are if one of them
is. That they can be is `methods_two_for_one`.

* `signature_eq_of_compatible`: two reference methods with a counterpart in common have the same
  signature, because compatibility equates each part of it with one of the renamed method.
* `newOnes_spec`: what is added behind a list is neither in it nor there twice.
* `newOnes_first`: what is added is kept where it occurs first.
-/

set_option autoImplicit false

namespace Concord.Recovery

/-! ## Fields and properties -/

theorem value_fields (m : Recovery) (reference renamed : CatalogEntry) :
    (m.fields reference renamed).value =
      if renamed.fields.length = reference.fields.length then
        (reference.fields.zip renamed.fields).filterMap fun (clean, field) =>
          ((m.generatedField? renamed field.name).or
            (if m.looksRenamed field.name then some clean.name else none)).map
              (MemberName.mk field.name)
      else [] := by
  have hfield : ∀ clean field : FieldDecl, (m.field renamed clean field).value =
      (((m.generatedField? renamed field.name).or
        (if m.looksRenamed field.name then some clean.name else none)).map
          (MemberName.mk field.name)).toList := by
    intro clean field
    unfold Recovery.field
    cases m.generatedField? renamed field.name with
    | some name => rfl
    | none => cases m.looksRenamed field.name <;> rfl
  rw [fields]
  split
  · simp only [Logged.value_bind, Logged.value_pure, Logged.value_mapM, hfield,
      List.filterMap_eq_flatMap_toList, List.flatMap_def]
  · rfl

theorem value_properties (m : Recovery) (reference renamed : CatalogEntry) :
    (m.properties reference renamed).value =
      if renamed.properties.length = reference.properties.length then
        (reference.properties.zip renamed.properties).filterMap fun (clean, property) =>
          if m.looksRenamed property.name then some ⟨property.name, clean.name⟩ else none
      else [] := by
  rw [properties]
  split <;> rfl

/-! ## The value of a match -/

/-- The methods of a type that are no constructors, with their places among its methods. -/
def placed (e : CatalogEntry) : List (MethodDecl × Nat) :=
  e.methods.zipIdx.filter fun method => !method.1.isConstructor

theorem map_placed (e : CatalogEntry) : (placed e).map (·.1) = e.ordinaryMethods := by
  rw [placed, CatalogEntry.ordinaryMethods, TypeDecl.ordinaryMethods,
    show e.decl.methods = e.methods.zipIdx.map (·.1) from (List.zipIdx_map_fst 0 _).symm,
    List.filter_map]
  rfl

theorem mem_placed_iff {e : CatalogEntry} {method : MethodDecl × Nat} : method ∈ placed e ↔
    e.methods[method.2]? = some method.1 ∧ method.1.isConstructor = false := by
  rw [placed, List.mem_filter, Bool.not_eq_true', ← List.mk_mem_zipIdx_iff_getElem?]

/-- The renamed methods that can be the counterpart of a reference method, with their places. -/
def counterparts (m : Recovery) (renamed : CatalogEntry) (clean : MethodDecl) :
    List (MethodDecl × Nat) :=
  (placed renamed).filter fun method =>
    m.looksRenamed method.1.name && m.compatible clean method.1

/-- The counterpart of a reference method, if there is exactly one and the method needs it. -/
def counterpart? (m : Recovery) (renamed : CatalogEntry) (clean : MethodDecl) :
    Option (MethodDecl × Nat) :=
  if renamed.ordinaryMethods.any (·.name = clean.name) then none
  else
    match m.counterparts renamed clean with
    | [only] => some only
    | _ => none

theorem map_counterparts (m : Recovery) (renamed : CatalogEntry) (clean : MethodDecl) :
    (m.counterparts renamed clean).map (·.1) = m.candidates renamed clean := by
  rw [candidates, ← map_placed, List.filter_map]
  rfl

theorem value_method (m : Recovery) (renamed : CatalogEntry) (clean : MethodDecl) :
    (m.method renamed clean).value =
      (m.counterpart? renamed clean).toList.map fun c => methodName c.1 clean.name := by
  unfold method counterpart?
  split
  · rfl
  · rw [← map_counterparts]
    cases m.counterparts renamed clean with
    | nil => rfl
    | cons c rest => cases rest <;> rfl

theorem value_methods (m : Recovery) (reference renamed : CatalogEntry) :
    (m.methods reference renamed).value =
      addNew (reference.ordinaryMethods.flatMap fun clean => (m.method renamed clean).value)
        (m.generatedMethods renamed) := by
  simp [methods, List.flatMap_def]

/-! ## Adding what is new -/

section
variable {α : Type} (entry : α → MethodName)

/-- The elements whose entries are not among `seen` and not those of earlier elements. -/
def newOnes : List MethodName → List α → List α
  | _, [] => []
  | seen, a :: rest =>
    if seen.contains (entry a) then newOnes seen rest else a :: newOnes (seen ++ [entry a]) rest

theorem addNew_map (seen : List MethodName) (as : List α) :
    addNew seen (as.map entry) = seen ++ (newOnes entry seen as).map entry := by
  induction as generalizing seen with
  | nil => simp [addNew, newOnes]
  | cons a rest ih =>
    rw [List.map_cons, addNew, newOnes]
    split
    · exact ih seen
    · rw [ih, List.map_cons, List.append_assoc, List.singleton_append]

theorem newOnes_sublist (seen : List MethodName) (as : List α) :
    (newOnes entry seen as).Sublist as := by
  induction as generalizing seen with
  | nil => exact .refl _
  | cons a rest ih =>
    rw [newOnes]
    split
    · exact (ih seen).cons a
    · exact (ih _).cons_cons a

theorem newOnes_spec (seen : List MethodName) (as : List α) :
    ((newOnes entry seen as).map entry).Nodup ∧
      ∀ e ∈ (newOnes entry seen as).map entry, e ∉ seen := by
  induction as generalizing seen with
  | nil => simp [newOnes]
  | cons a rest ih =>
    rw [newOnes]
    split
    · exact ih seen
    · rename_i hnew
      obtain ⟨hnodup, hfresh⟩ := ih (seen ++ [entry a])
      rw [List.map_cons]
      refine ⟨List.nodup_cons.2 ⟨fun hm => ?_, hnodup⟩, fun e he => ?_⟩
      · exact hfresh _ hm (by simp)
      · rcases List.mem_cons.1 he with rfl | he
        · simpa using hnew
        · exact fun hs => hfresh e he (List.mem_append_left _ hs)

theorem mem_newOnes_iff (seen : List MethodName) (as : List α) (e : MethodName) :
    e ∈ (newOnes entry seen as).map entry ↔ e ∉ seen ∧ e ∈ as.map entry := by
  induction as generalizing seen with
  | nil => simp [newOnes]
  | cons a rest ih =>
    rw [newOnes]
    split
    · grind
    · grind

/-- **What is new is kept where it occurs first**: what makes the same entry comes later. -/
theorem newOnes_first {R : α → α → Prop} (seen : List MethodName) {as : List α}
    (has : as.Pairwise R) {a b : α} (ha : a ∈ newOnes entry seen as) (hb : b ∈ as)
    (h : entry b = entry a) : b = a ∨ R a b := by
  -- what is kept was not seen before, so nothing that stands before it makes the same entry
  have hfresh : ∀ (seen : List MethodName) (as : List α), a ∈ newOnes entry seen as →
      entry a ∉ seen := fun seen as ha => (newOnes_spec entry seen as).2 _ (List.mem_map_of_mem ha)
  induction as generalizing seen with
  | nil => cases hb
  | cons first rest ih =>
    obtain ⟨hfirst, hrest⟩ := List.pairwise_cons.1 has
    rw [newOnes] at ha
    split at ha
    · rename_i hseen
      rcases List.mem_cons.1 hb with rfl | hb
      · exact absurd (by simpa [h] using hseen) (hfresh _ _ ha)
      · exact ih seen hrest ha hb
    · rcases List.mem_cons.1 ha with rfl | ha
      · rcases List.mem_cons.1 hb with rfl | hb
        · exact .inl rfl
        · exact .inr (hfirst b hb)
      · rcases List.mem_cons.1 hb with rfl | hb
        · exact absurd (by simp [h]) (hfresh _ _ ha)
        · exact ih _ hrest ha hb

end

/-! ## The entries with their declarations -/

/-- A reference method that is recovered and its counterpart, with their places. -/
structure MethodMatch where
  clean : MethodDecl × Nat
  method : MethodDecl × Nat
deriving DecidableEq

/-- The entry for a match. -/
def MethodMatch.entry (s : MethodMatch) : MethodName := methodName s.method.1 s.clean.1.name

/-- A renamed method, with its place, and the host that its name tells. -/
structure GeneratedMethod where
  method : MethodDecl × Nat
  host : String

/-- The entry for a generated method. -/
def GeneratedMethod.entry (s : GeneratedMethod) : MethodName := methodName s.method.1 s.host

/-- The reference methods that are recovered, in order. -/
def matched (m : Recovery) (reference renamed : CatalogEntry) : List MethodMatch :=
  (placed reference).filterMap fun clean =>
    (m.counterpart? renamed clean.1).map fun method => { clean, method }

/-- The renamed methods that a convention gives a name to, in order. -/
def hosted (m : Recovery) (renamed : CatalogEntry) : List GeneratedMethod :=
  if renamed.isNested then
    renamed.methods.zipIdx.filterMap fun method =>
      (m.conventions.hostOf? method.1.name).map fun host => { method, host }
  else []

/-- Those of them that make a new entry. -/
def generated (m : Recovery) (reference renamed : CatalogEntry) : List GeneratedMethod :=
  newOnes GeneratedMethod.entry ((m.matched reference renamed).map MethodMatch.entry)
    (m.hosted renamed)

theorem map_entry_matched (m : Recovery) (reference renamed : CatalogEntry) :
    (m.matched reference renamed).map MethodMatch.entry =
      reference.ordinaryMethods.flatMap fun clean => (m.method renamed clean).value := by
  rw [← map_placed, List.flatMap_map, matched, List.map_filterMap,
    List.filterMap_eq_flatMap_toList]
  refine List.flatMap_congr fun clean _ => ?_
  rw [value_method, Option.map_map, Option.toList_map]
  rfl

theorem map_entry_hosted (m : Recovery) (renamed : CatalogEntry) :
    (m.hosted renamed).map GeneratedMethod.entry = m.generatedMethods renamed := by
  unfold hosted generatedMethods
  split
  · have hmethods : renamed.methods = renamed.methods.zipIdx.map (·.1) :=
      (List.zipIdx_map_fst 0 _).symm
    conv_rhs => rw [hmethods]
    rw [List.map_filterMap, List.filterMap_map]
    refine List.filterMap_congr fun method _ => ?_
    rw [Option.map_map]
    rfl
  · rfl

/-- The entries are those of the matches, and behind them those of the generated methods. -/
theorem value_methods_eq (m : Recovery) (reference renamed : CatalogEntry) :
    (m.methods reference renamed).value =
      (m.matched reference renamed).map MethodMatch.entry ++
        (m.generated reference renamed).map GeneratedMethod.entry := by
  rw [value_methods, ← map_entry_matched, ← map_entry_hosted, addNew_map, generated]

/-! ## Signatures -/

/-- What a signature is compared by. -/
def signature (m : Recovery) (method : MethodDecl) : String × MethodFlags × List String :=
  (method.returnType, m.signatureFlags method.flags, method.parameterTypes)

theorem compatible_iff {m : Recovery} {clean method : MethodDecl} :
    m.compatible clean method = true ↔
      m.signature clean = (method.returnType, m.signatureFlags method.flags,
        method.parameterTypes.map m.resolve) := by
  simp [compatible, signature, and_assoc]

theorem signature_eq_of_compatible {m : Recovery} {clean clean' method : MethodDecl}
    (h : m.compatible clean method = true) (h' : m.compatible clean' method = true) :
    m.signature clean = m.signature clean' := by
  rw [compatible_iff] at h h'
  rw [h, h']

theorem counterparts_congr {m : Recovery} {clean clean' : MethodDecl} (renamed : CatalogEntry)
    (h : m.signature clean = m.signature clean') :
    m.counterparts renamed clean = m.counterparts renamed clean' := by
  have hcompatible : ∀ method, m.compatible clean method = m.compatible clean' method := by
    intro method
    rw [Bool.eq_iff_iff, compatible_iff, compatible_iff, h]
  simp only [counterparts, hcompatible]

theorem counterpart?_eq_some_iff {m : Recovery} {renamed : CatalogEntry} {clean : MethodDecl}
    {method : MethodDecl × Nat} : m.counterpart? renamed clean = some method ↔
      renamed.ordinaryMethods.any (·.name = clean.name) = false ∧
        m.counterparts renamed clean = [method] := by
  unfold counterpart?
  split
  · rename_i hkept
    simp [hkept]
  · rename_i hkept
    rw [Bool.not_eq_true] at hkept
    split <;> simp_all

theorem mem_matched {m : Recovery} {reference renamed : CatalogEntry} {s : MethodMatch} :
    s ∈ m.matched reference renamed ↔
      s.clean ∈ placed reference ∧ m.counterpart? renamed s.clean.1 = some s.method := by
  simp only [matched, List.mem_filterMap, Option.map_eq_some_iff]
  constructor
  · rintro ⟨clean, hclean, method, hmethod, rfl⟩
    exact ⟨hclean, hmethod⟩
  · rintro ⟨hclean, hmethod⟩
    exact ⟨s.clean, hclean, s.method, hmethod, rfl⟩

theorem counterpart_spec {m : Recovery} {renamed : CatalogEntry} {clean : MethodDecl}
    {method : MethodDecl × Nat} (h : m.counterpart? renamed clean = some method) :
    method ∈ placed renamed ∧ m.looksRenamed method.1.name = true ∧
      m.compatible clean method.1 = true := by
  have hm : method ∈ m.counterparts renamed clean := by
    rw [(counterpart?_eq_some_iff.1 h).2]
    exact List.mem_singleton_self _
  simpa [counterparts] using hm

/-! ## Places -/

theorem zipIdx_places {α : Type} (as : List α) : as.zipIdx.Pairwise fun a b => a.2 < b.2 := by
  have hplaces : (as.zipIdx.map (·.2)).Pairwise (· < ·) := by
    rw [List.zipIdx_map_snd]
    exact List.pairwise_lt_range'
  exact List.pairwise_map.1 hplaces

theorem matched_places (m : Recovery) (reference renamed : CatalogEntry) :
    (m.matched reference renamed).Pairwise fun s u => s.clean.2 < u.clean.2 := by
  refine ((zipIdx_places reference.methods).filter _).filterMap _ fun a a' hlt s hs u hu => ?_
  obtain ⟨-, -, rfl⟩ := Option.map_eq_some_iff.1 hs
  obtain ⟨-, -, rfl⟩ := Option.map_eq_some_iff.1 hu
  exact hlt

theorem hosted_places (m : Recovery) (renamed : CatalogEntry) :
    (m.hosted renamed).Pairwise fun s u => s.method.2 < u.method.2 := by
  unfold hosted
  split
  · refine (zipIdx_places renamed.methods).filterMap _ fun a a' hlt s hs u hu => ?_
    obtain ⟨-, -, rfl⟩ := Option.map_eq_some_iff.1 hs
    obtain ⟨-, -, rfl⟩ := Option.map_eq_some_iff.1 hu
    exact hlt
  · exact .nil

theorem mem_hosted {m : Recovery} {renamed : CatalogEntry} {s : GeneratedMethod}
    (h : s ∈ m.hosted renamed) : renamed.methods[s.method.2]? = some s.method.1 ∧
      m.conventions.hostOf? s.method.1.name = some s.host := by
  unfold hosted at h
  split at h
  · obtain ⟨method, hmethod, hs⟩ := List.mem_filterMap.1 h
    obtain ⟨host, hhost, rfl⟩ := Option.map_eq_some_iff.1 hs
    exact ⟨List.mk_mem_zipIdx_iff_getElem?.1 hmethod, hhost⟩
  · cases h

/-! ## Which entries share a declaration -/

/-- What stands at one place is one method. -/
theorem decl_eq_of_place {methods : List MethodDecl} {a b : MethodDecl × Nat}
    (ha : methods[a.2]? = some a.1) (hb : methods[b.2]? = some b.1) (h : a.2 = b.2) :
    a.1 = b.1 := by
  rw [h, hb, Option.some.injEq] at ha
  exact ha.symm

theorem matched_spec {m : Recovery} {reference renamed : CatalogEntry} {s : MethodMatch}
    (hs : s ∈ m.matched reference renamed) :
    reference.methods[s.clean.2]? = some s.clean.1 ∧
      renamed.methods[s.method.2]? = some s.method.1 ∧
      m.looksRenamed s.method.1.name = true ∧ m.compatible s.clean.1 s.method.1 = true := by
  obtain ⟨hclean, hmethod⟩ := mem_matched.1 hs
  obtain ⟨hplaced, hlooks, hcompatible⟩ := counterpart_spec hmethod
  exact ⟨(mem_placed_iff.1 hclean).1, (mem_placed_iff.1 hplaced).1, hlooks, hcompatible⟩

/-- **Methods share a counterpart only by signature.** Every entry is made from one renamed method,
as the only counterpart of a reference method or by a convention. The matches come in the order of
the reference methods, at most one for each. Two of them share a renamed method only if their
signatures agree, and a reference method with the signature of a matched one has the same match,
unless the renamed type still has its name. A convention gives a renamed method at most one entry,
none that is there already, and one to a method that is matched only if its name looks renamed as
well as generated and the two names recovered for it differ. -/
theorem methods_shared_only_by_signature (m : Recovery) (reference renamed : CatalogEntry) :
    let matched := m.matched reference renamed
    let generated := m.generated reference renamed
    (m.methods reference renamed).value =
      matched.map MethodMatch.entry ++ generated.map GeneratedMethod.entry ∧
    (∀ s ∈ matched, reference.methods[s.clean.2]? = some s.clean.1 ∧
      renamed.methods[s.method.2]? = some s.method.1 ∧
      m.compatible s.clean.1 s.method.1 = true ∧ m.counterparts renamed s.clean.1 = [s.method]) ∧
    matched.Pairwise (fun s u => s.clean.2 < u.clean.2) ∧
    (∀ s ∈ matched, ∀ u ∈ matched, s.method.2 = u.method.2 →
      m.signature s.clean.1 = m.signature u.clean.1) ∧
    (∀ s ∈ matched, ∀ clean ∈ placed reference, m.signature clean.1 = m.signature s.clean.1 →
      renamed.ordinaryMethods.any (·.name = clean.1.name) = false →
      { clean, method := s.method } ∈ matched) ∧
    (∀ s ∈ generated, renamed.methods[s.method.2]? = some s.method.1 ∧
      m.conventions.hostOf? s.method.1.name = some s.host) ∧
    generated.Pairwise (fun s u => s.method.2 < u.method.2) ∧
    (matched.map MethodMatch.entry).Disjoint (generated.map GeneratedMethod.entry) ∧
    (generated.map GeneratedMethod.entry).Nodup ∧
    ∀ s ∈ matched, ∀ u ∈ generated, s.method.2 = u.method.2 →
      m.looksRenamed s.method.1.name = true ∧
        (m.conventions.hostOf? s.method.1.name).isSome = true ∧ s.clean.1.name ≠ u.host := by
  intro matched generated
  have hsub : generated.Sublist (m.hosted renamed) := newOnes_sublist _ _ _
  obtain ⟨hnodup, hfresh⟩ := newOnes_spec GeneratedMethod.entry
    (matched.map MethodMatch.entry) (m.hosted renamed)
  refine ⟨value_methods_eq m reference renamed, fun s hs => ?_, matched_places m reference renamed,
    fun s hs u hu hplace => ?_, fun s hs clean hclean hsignature hname => ?_,
    fun s hs => mem_hosted (hsub.subset hs), (hosted_places m renamed).sublist hsub,
    fun e he he' => hfresh e he' he, hnodup, fun s hs u hu hplace => ?_⟩
  · obtain ⟨hclean, hmethod, -, hcompatible⟩ := matched_spec hs
    have honly := (counterpart?_eq_some_iff.1 (mem_matched.1 hs).2).2
    exact ⟨hclean, hmethod, hcompatible, honly⟩
  · obtain ⟨-, hsm, -, hsc⟩ := matched_spec hs
    obtain ⟨-, hum, -, huc⟩ := matched_spec hu
    exact signature_eq_of_compatible hsc (decl_eq_of_place hsm hum hplace ▸ huc)
  · obtain ⟨-, hcounterpart⟩ := mem_matched.1 hs
    refine mem_matched.2 ⟨hclean, counterpart?_eq_some_iff.2 ⟨hname, ?_⟩⟩
    rw [counterparts_congr renamed hsignature]
    exact (counterpart?_eq_some_iff.1 hcounterpart).2
  · obtain ⟨-, hsm, hlooks, -⟩ := matched_spec hs
    obtain ⟨hum, hhost⟩ := mem_hosted (hsub.subset hu)
    have hsame := decl_eq_of_place hsm hum hplace
    refine ⟨hlooks, by rw [hsame, hhost]; rfl, fun hname => ?_⟩
    -- equal names would make equal entries, and the second one would not have been added
    have hentry : s.entry = u.entry := by
      rw [MethodMatch.entry, GeneratedMethod.entry, hsame, hname]
    exact hfresh u.entry (List.mem_map_of_mem hu) (hentry ▸ List.mem_map_of_mem hs)

/-- Two methods without parameters that differ in their names only. -/
def sampleTwins : CatalogEntry where
  number := ⟨0⟩
  fullName := "Game.Player"
  declaring := none
  nested := []
  decl :=
    { namespaceName := "Game", name := "Player"
      methods := [⟨"Die", "System.Void", .none, []⟩, ⟨"Revive", "System.Void", .none, []⟩] }

/-- One method of the same signature, under a name that looks renamed. -/
def sampleOnly : CatalogEntry where
  number := ⟨0⟩
  fullName := "ABCDEFGHIJK"
  declaring := none
  nested := []
  decl := { name := "ABCDEFGHIJK", methods := [⟨"LMNOPQRSTUV", "System.Void", .none, []⟩] }

/-- A recovery of these two types. -/
def sampleRecovery : Recovery where
  concordance := .empty
    { name := "clean", entries := #[sampleTwins], roots := [⟨0⟩], byName := [("Game.Player", ⟨0⟩)] }
    { name := "renamed", entries := #[sampleOnly], roots := [⟨0⟩],
      byName := [("ABCDEFGHIJK", ⟨0⟩)] }
  looksRenamed := .capitals 11

theorem methods_shared_sample :
    ∃ s ∈ sampleRecovery.matched sampleTwins sampleOnly,
      ∃ u ∈ sampleRecovery.matched sampleTwins sampleOnly,
        s.clean.2 ≠ u.clean.2 ∧ s.method.2 = u.method.2 ∧
          sampleRecovery.signature s.clean.1 = sampleRecovery.signature u.clean.1 := by
  obtain ⟨-, -, -, hshared, -⟩ :=
    methods_shared_only_by_signature sampleRecovery sampleTwins sampleOnly
  let only : MethodDecl × Nat := (⟨"LMNOPQRSTUV", "System.Void", .none, []⟩, 0)
  let s : MethodMatch := ⟨(⟨"Die", "System.Void", .none, []⟩, 0), only⟩
  let u : MethodMatch := ⟨(⟨"Revive", "System.Void", .none, []⟩, 1), only⟩
  have hs : s ∈ sampleRecovery.matched sampleTwins sampleOnly := by decide
  have hu : u ∈ sampleRecovery.matched sampleTwins sampleOnly := by decide
  exact ⟨s, hs, u, hu, by decide, rfl, hshared s hs u hu rfl⟩

/-- Two reference methods are recovered onto one renamed method. -/
theorem methods_two_for_one :
    sampleOnly.methods.length = 1 ∧
    (sampleRecovery.methods sampleTwins sampleOnly).value =
      [⟨"LMNOPQRSTUV", "Die", []⟩, ⟨"LMNOPQRSTUV", "Revive", []⟩] ∧
    ¬ ((sampleRecovery.matched sampleTwins sampleOnly).map fun s => s.method.2).Nodup := by
  decide

end Concord.Recovery
