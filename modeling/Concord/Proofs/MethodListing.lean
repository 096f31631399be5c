import Concord.Proofs.Signatures
import Mathlib.Data.List.Sort

/-!
# The methods of a type, listed

`methods_eq_iff`: the entries for the methods of two types are those found by signature
(`BySignature`), and behind them those that names tell (`ToldAt`). The former stand in the order of
the reference methods, one for each that has exactly one counterpart. The latter stand in the order
in which the renamed type first tells them, without those that were found already.

* `counterparts_eq_singleton_iff`: one counterpart is one place, however the methods are written.
* `generated_toldBefore`: what is told is listed in the order in which it is told first.
-/

set_option autoImplicit false

namespace Concord

/-- For each of `as` in turn, `bs` holds what it is related to, and nothing if there is nothing. -/
inductive ListedBy {α β : Type} (R : α → β → Prop) : List α → List β → Prop
  | nil : ListedBy R [] []
  | found {a : α} {as : List α} {b : β} {bs : List β} (hab : R a b) (rest : ListedBy R as bs) :
      ListedBy R (a :: as) (b :: bs)
  | missed {a : α} {as : List α} {bs : List β} (ha : ∀ b, ¬ R a b) (rest : ListedBy R as bs) :
      ListedBy R (a :: as) bs

theorem listedBy_iff {α β : Type} {R : α → β → Prop} {f : α → Option β}
    (hf : ∀ a b, f a = some b ↔ R a b) {as : List α} {bs : List β} :
    ListedBy R as bs ↔ as.filterMap f = bs := by
  constructor
  · intro h
    induction h with
    | nil => rfl
    | found hab _ ih => rw [List.filterMap_cons_some ((hf _ _).2 hab), ih]
    | missed ha _ ih =>
      rw [List.filterMap_cons_none (Option.eq_none_iff_forall_ne_some.2 fun b hb =>
        ha b ((hf _ _).1 hb)), ih]
  · rintro rfl
    induction as with
    | nil => exact .nil
    | cons a as ih =>
      cases ha : f a with
      | none =>
        rw [List.filterMap_cons_none ha]
        exact .missed (fun b hab => by simp [(hf a b).2 hab] at ha) ih
      | some b =>
        rw [List.filterMap_cons_some ha]
        exact .found ((hf a b).1 ha) ih

namespace Recovery

/-! ## Found by signature -/

/-- The renamed method at place `i` can be the counterpart of a reference method: it is no
constructor, its name looks renamed, and the two have the same signature. -/
structure FitsAt (m : Recovery) (renamed : CatalogEntry) (clean : MethodDecl) (i : Nat)
    (method : MethodDecl) : Prop where
  place : renamed.methods[i]? = some method
  ordinary : method.isConstructor = false
  looksRenamed : m.looksRenamed method.name = true
  returnType : clean.returnType = method.returnType
  flags : m.signatureFlags clean.flags = m.signatureFlags method.flags
  count : clean.parameters.length = method.parameters.length
  types : ∀ (k : Nat) (c p : ParameterDecl), clean.parameters[k]? = some c →
    method.parameters[k]? = some p → c.type = m.resolve p.type

/-- The entry of a reference method whose name the renamed type does not have, and which exactly
one renamed method fits. -/
def BySignature (m : Recovery) (renamed : CatalogEntry) (clean : MethodDecl)
    (entry : MethodName) : Prop :=
  (∀ method ∈ renamed.ordinaryMethods, method.name ≠ clean.name) ∧
    ∃ i method, m.FitsAt renamed clean i method ∧
      (∀ j other, m.FitsAt renamed clean j other → j = i) ∧
      entry = ⟨method.name, clean.name, method.parameters.map (·.type)⟩

variable {m : Recovery} {reference renamed : CatalogEntry}

theorem mem_counterparts_iff {clean : MethodDecl} {method : MethodDecl × Nat} :
    method ∈ m.counterparts renamed clean ↔ m.FitsAt renamed clean method.2 method.1 := by
  rw [counterparts, List.mem_filter, mem_placed_iff, Bool.and_eq_true, compatible_iff_parts]
  constructor
  · rintro ⟨⟨hplace, hordinary⟩, hlooks, hreturn, hflags, hcount, htypes⟩
    exact ⟨hplace, hordinary, hlooks, hreturn, hflags, hcount, htypes⟩
  · rintro ⟨hplace, hordinary, hlooks, hreturn, hflags, hcount, htypes⟩
    exact ⟨⟨hplace, hordinary⟩, hlooks, hreturn, hflags, hcount, htypes⟩

/-- **One counterpart is one place.** -/
theorem counterparts_eq_singleton_iff {clean : MethodDecl} {method : MethodDecl × Nat} :
    m.counterparts renamed clean = [method] ↔ m.FitsAt renamed clean method.2 method.1 ∧
      ∀ j other, m.FitsAt renamed clean j other → j = method.2 := by
  -- places tell the counterparts apart, so that they are one if they have one member
  have hne : ∀ {a b : MethodDecl × Nat}, a.2 < b.2 → a ≠ b := by
    rintro a b hlt rfl
    exact Nat.lt_irrefl _ hlt
  have hnodup : (m.counterparts renamed clean).Nodup :=
    List.Nodup.filter _ (List.Nodup.filter _ ((zipIdx_places renamed.methods).imp hne))
  rw [← List.perm_singleton, List.perm_ext_iff_of_nodup hnodup (List.nodup_singleton _)]
  simp only [mem_counterparts_iff, List.mem_singleton]
  constructor
  · intro h
    exact ⟨(h method).2 rfl, fun j other hfits => congrArg Prod.snd ((h (other, j)).1 hfits)⟩
  · rintro ⟨hmethod, honly⟩ other
    refine ⟨fun hfits => ?_, fun heq => heq ▸ hmethod⟩
    have hplace := honly _ _ hfits
    exact Prod.ext (decl_eq_of_place hfits.place hmethod.place hplace) hplace

theorem bySignature_iff {clean : MethodDecl} {entry : MethodName} :
    ((m.counterpart? renamed clean).map fun c => methodName c.1 clean.name) = some entry ↔
      m.BySignature renamed clean entry := by
  simp only [Option.map_eq_some_iff, counterpart?_eq_some_iff, counterparts_eq_singleton_iff,
    List.any_eq_false, decide_eq_true_eq]
  constructor
  · rintro ⟨⟨method, i⟩, ⟨hname, hfits, honly⟩, rfl⟩
    exact ⟨hname, i, method, hfits, honly, rfl⟩
  · rintro ⟨hname, i, method, hfits, honly, rfl⟩
    exact ⟨(method, i), ⟨hname, hfits, honly⟩, rfl⟩

theorem listedBy_bySignature_iff {entries : List MethodName} :
    ListedBy (m.BySignature renamed) reference.ordinaryMethods entries ↔
      (m.matched reference renamed).map MethodMatch.entry = entries := by
  rw [listedBy_iff fun _ _ => bySignature_iff, map_entry_matched, List.filterMap_eq_flatMap_toList]
  simp only [value_method, Option.toList_map]

/-! ## Told by names -/

/-- The renamed type is nested and the name of its method at place `i` tells a host, after which
`entry` names the method. -/
def ToldAt (m : Recovery) (renamed : CatalogEntry) (i : Nat) (entry : MethodName) : Prop :=
  renamed.declaring ≠ none ∧ ∃ method host, renamed.methods[i]? = some method ∧
    m.conventions.hostOf? method.name = some host ∧
    entry = ⟨method.name, host, method.parameters.map (·.type)⟩

/-- `e` is told before `e'` is told at all. -/
def ToldBefore (m : Recovery) (renamed : CatalogEntry) (e e' : MethodName) : Prop :=
  ∃ i, m.ToldAt renamed i e ∧ ∀ j, m.ToldAt renamed j e' → i < j

theorem toldAt_iff {i : Nat} {e : MethodName} :
    m.ToldAt renamed i e ↔ ∃ s ∈ m.hosted renamed, s.method.2 = i ∧ s.entry = e := by
  constructor
  · rintro ⟨hnested, method, host, hplace, hhost, rfl⟩
    have hnested : renamed.isNested = true := Option.isSome_iff_ne_none.2 hnested
    refine ⟨⟨(method, i), host⟩, ?_, rfl, rfl⟩
    rw [hosted, if_pos hnested]
    exact List.mem_filterMap.2 ⟨(method, i), List.mk_mem_zipIdx_iff_getElem?.2 hplace, by
      rw [hhost, Option.map_some]⟩
  · rintro ⟨s, hs, rfl, rfl⟩
    obtain ⟨hplace, hhost⟩ := mem_hosted hs
    have hnested : renamed.isNested = true := by
      by_contra hnested
      simp [hosted, hnested] at hs
    exact ⟨Option.isSome_iff_ne_none.1 hnested, s.method.1, s.host, hplace, hhost, rfl⟩

theorem mem_generated_iff {e : MethodName} :
    e ∈ (m.generated reference renamed).map GeneratedMethod.entry ↔
      e ∉ (m.matched reference renamed).map MethodMatch.entry ∧ ∃ i, m.ToldAt renamed i e := by
  rw [generated, mem_newOnes_iff]
  simp only [toldAt_iff, List.mem_map, and_congr_right_iff]
  intro _
  constructor
  · rintro ⟨s, hs, rfl⟩
    exact ⟨_, s, hs, rfl, rfl⟩
  · rintro ⟨-, s, hs, -, rfl⟩
    exact ⟨s, hs, rfl⟩

theorem generated_toldBefore (m : Recovery) (reference renamed : CatalogEntry) :
    ((m.generated reference renamed).map GeneratedMethod.entry).Pairwise
      (m.ToldBefore renamed) := by
  have hsub : (m.generated reference renamed).Sublist (m.hosted renamed) := newOnes_sublist _ _ _
  refine List.pairwise_map.2 (((hosted_places m renamed).sublist hsub).imp_of_mem ?_)
  intro s u hs hu hlt
  refine ⟨s.method.2, toldAt_iff.2 ⟨s, hsub.subset hs, rfl, rfl⟩, fun j hj => ?_⟩
  obtain ⟨v, hv, rfl, hentry⟩ := toldAt_iff.1 hj
  rcases newOnes_first _ _ (hosted_places m renamed) hu hv hentry with rfl | hlater
  · exact hlt
  · exact Nat.lt_trans hlt hlater

/-- There is one way to list entries in the order in which they are told. -/
theorem eq_of_toldBefore {es es' : List MethodName} (h : es.Pairwise (m.ToldBefore renamed))
    (h' : es'.Pairwise (m.ToldBefore renamed)) (hmem : ∀ e, e ∈ es ↔ e ∈ es') : es = es' := by
  have hasymm : ∀ e e', m.ToldBefore renamed e e' → ¬ m.ToldBefore renamed e' e := by
    rintro e e' ⟨i, hi, hbefore⟩ ⟨j, hj, hbefore'⟩
    exact Nat.lt_asymm (hbefore j hj) (hbefore' i hi)
  have : Std.Irrefl (m.ToldBefore renamed) := ⟨fun e he => hasymm e e he he⟩
  have : Std.Antisymm (m.ToldBefore renamed) := ⟨fun e e' h h' => absurd h' (hasymm e e' h)⟩
  exact h.eq_of_mem_iff h' hmem

/-- **The methods of a type, listed.** The entries for two types are exactly these: in the order of
the reference methods that are no constructors, one for each whose name no such method of the
renamed type has and which exactly one of them fits; and behind them, if the renamed type is
nested, what its methods tell by their names and is not there yet, once each, in the order in
which it is told first. -/
theorem methods_eq_iff (m : Recovery) (reference renamed : CatalogEntry)
    (entries : List MethodName) : (m.methods reference renamed).value = entries ↔
      ∃ bySignature told, entries = bySignature ++ told ∧
        ListedBy (m.BySignature renamed) reference.ordinaryMethods bySignature ∧
        (∀ e, e ∈ told ↔ e ∉ bySignature ∧ ∃ i, m.ToldAt renamed i e) ∧
        told.Pairwise (m.ToldBefore renamed) := by
  rw [value_methods_eq]
  constructor
  · rintro rfl
    exact ⟨_, _, rfl, listedBy_bySignature_iff.2 rfl, fun e => mem_generated_iff,
      generated_toldBefore m reference renamed⟩
  · rintro ⟨bySignature, told, rfl, hlisted, hmem, hordered⟩
    obtain rfl := listedBy_bySignature_iff.1 hlisted
    rw [eq_of_toldBefore (generated_toldBefore m reference renamed) hordered fun e => by
      rw [mem_generated_iff, hmem]]

end Recovery

end Concord
