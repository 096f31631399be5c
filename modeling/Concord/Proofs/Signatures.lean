import Concord.Proofs.MethodMatching
import Concord.Proofs.WellFormed

/-!
# What signatures are compared by

A renamed method has the signature of a reference method if return types and flags agree and each
parameter type of the one stands for that of the other (`Concordance.StandsFor`): a type that is
bound stands for its counterpart and for nothing else, all other names for themselves.
`compatible_iff_standsFor` is this account, without the index by which names are looked up.

A name that is bound is replaced, so that it does not stand for itself any more. One that could be
read either way (`Concordance.MayStandFor`) makes a difference just where a renamed type has the
name of a reference type other than its counterpart; `compatible_refuses_own_name` is such a case.

* `WellFormed.ofName?_eq_some_iff`: a name leads to the pairing of the type that bears it.
* `resolve_eq_iff`: resolution finds what a name stands for.
* `compatible_iff_parts`: compatibility part by part.
-/

set_option autoImplicit false

namespace Concord

/-- Two lists are mapped to the same one if they are at each place. -/
theorem map_eq_map_iff_getElem? {α β γ : Type} {f : α → γ} {g : β → γ} {as : List α} {bs : List β} :
    as.map f = bs.map g ↔ as.length = bs.length ∧
      ∀ (i : Nat) (a : α) (b : β), as[i]? = some a → bs[i]? = some b → f a = g b := by
  constructor
  · intro h
    refine ⟨by simpa using congrArg List.length h, fun i a b ha hb => ?_⟩
    have hi := congrArg (·[i]?) h
    simpa [ha, hb] using hi
  · rintro ⟨hlength, h⟩
    refine List.ext_getElem (by simpa using hlength) fun i hi hi' => ?_
    rw [List.length_map] at hi hi'
    rw [List.getElem_map, List.getElem_map]
    exact h i _ _ (List.getElem?_eq_getElem hi) (List.getElem?_eq_getElem hi')

/-! ## What a name stands for -/

namespace Concordance

/-- The renamed type of full name `s` is bound to the reference type of full name `name`. -/
def BindsName (g : Concordance) (s name : String) : Prop :=
  ∃ id n, g.pairing? id = some n ∧ g.renamed.fullName n.renamed = s ∧
    g.reference.fullName n.reference = name

/-- On the reference side, `name` is what `s` stands for: the counterpart of the renamed type `s`
if it is bound, and `s` itself if not. -/
def StandsFor (g : Concordance) (s name : String) : Prop :=
  g.BindsName s name ∨ name = s ∧ ∀ other, ¬ g.BindsName s other

/-- The looser reading, by which a name may stand for itself even if its type is bound. -/
def MayStandFor (g : Concordance) (s name : String) : Prop := name = s ∨ g.BindsName s name

variable {g : Concordance}

/-- **Names lead to pairings**: the one whose renamed type bears the name. -/
theorem WellFormed.ofName?_eq_some_iff (hg : g.WellFormed) (hr : g.renamed.Sound) {s : String}
    {n : Pairing} : g.ofName? s = some n ↔
      ∃ id, g.pairing? id = some n ∧ g.renamed.fullName n.renamed = s := by
  simp only [hg.ofName?_eq hr, Option.bind_eq_some_iff, hr.find?_eq_some_iff]
  constructor
  · rintro ⟨id, ⟨x, ⟨e, he, hname⟩, ho⟩, hn⟩
    obtain ⟨n', hn', rfl⟩ := hg.ofType?_eq_some_iff.1 ho
    rw [hn, Option.some.injEq] at hn'
    exact ⟨id, hn, by rw [hn', Catalog.fullName_of_entry? he, hname]⟩
  · rintro ⟨id, hn, hname⟩
    obtain ⟨e, he⟩ := Catalog.contains_iff.1 (hg.valid hn).2
    rw [Catalog.fullName_of_entry? he] at hname
    exact ⟨id, ⟨n.renamed, ⟨e, he, hname⟩, hg.ofType?_eq_some_iff.2 ⟨n, hn, rfl⟩⟩, hn⟩

theorem WellFormed.bindsName_iff (hg : g.WellFormed) (hr : g.renamed.Sound) {s name : String} :
    g.BindsName s name ↔ ∃ n, g.ofName? s = some n ∧ g.reference.fullName n.reference = name := by
  simp only [hg.ofName?_eq_some_iff hr]
  constructor
  · rintro ⟨id, n, hn, hs, hname⟩
    exact ⟨n, ⟨id, hn, hs⟩, hname⟩
  · rintro ⟨n, ⟨id, hn, hs⟩, hname⟩
    exact ⟨id, n, hn, hs, hname⟩

theorem WellFormed.bindsName_unique (hg : g.WellFormed) (hr : g.renamed.Sound)
    {s name other : String} (h : g.BindsName s name) (h' : g.BindsName s other) : name = other := by
  obtain ⟨n, hn, rfl⟩ := (hg.bindsName_iff hr).1 h
  obtain ⟨n', hn', rfl⟩ := (hg.bindsName_iff hr).1 h'
  rw [hn, Option.some.injEq] at hn'
  rw [hn']

theorem StandsFor.mayStandFor {s name : String} (h : g.StandsFor s name) :
    g.MayStandFor s name := by
  rcases h with hbound | ⟨hname, -⟩
  · exact .inr hbound
  · exact .inl hname

/-- **Where the two readings differ**: at a name that is bound to another one. -/
theorem WellFormed.mayStandFor_not_standsFor_iff (hg : g.WellFormed) (hr : g.renamed.Sound)
    {s name : String} : g.MayStandFor s name ∧ ¬ g.StandsFor s name ↔
      name = s ∧ ∃ other, g.BindsName s other ∧ other ≠ s := by
  constructor
  · rintro ⟨rfl | hbound, hnot⟩
    · refine ⟨rfl, Classical.byContradiction fun hnone => hnot (.inr ⟨rfl, fun other hother => ?_⟩)⟩
      by_cases hself : other = name
      · exact hnot (.inl (hself ▸ hother))
      · exact hnone ⟨other, hother, hself⟩
    · exact absurd (.inl hbound) hnot
  · rintro ⟨rfl, other, hother, hne⟩
    refine ⟨.inl rfl, ?_⟩
    rintro (hself | ⟨-, hfree⟩)
    · exact hne (hg.bindsName_unique hr hother hself)
    · exact hfree other hother

end Concordance

/-! ## Compatible methods -/

namespace Recovery

open Concordance

variable {m : Recovery}

/-- **Resolution finds what a name stands for.** -/
theorem resolve_eq_iff (hg : m.concordance.WellFormed) (hr : m.concordance.renamed.Sound)
    {s name : String} : m.resolve s = name ↔ m.concordance.StandsFor s name := by
  simp only [StandsFor, hg.bindsName_iff hr, resolve]
  cases m.concordance.ofName? s with
  | none => simp [eq_comm]
  | some n => simp

/-- Compatibility part by part. -/
theorem compatible_iff_parts {clean method : MethodDecl} : m.compatible clean method = true ↔
    clean.returnType = method.returnType ∧
      m.signatureFlags clean.flags = m.signatureFlags method.flags ∧
      clean.parameters.length = method.parameters.length ∧
      ∀ (i : Nat) (c p : ParameterDecl), clean.parameters[i]? = some c →
        method.parameters[i]? = some p → c.type = m.resolve p.type := by
  rw [compatible_iff, signature, Prod.mk.injEq, Prod.mk.injEq, MethodDecl.parameterTypes,
    MethodDecl.parameterTypes, List.map_map, map_eq_map_iff_getElem?]
  rfl

/-- **What signatures are compared by.** In every concordance that requests lead to, a renamed
method has the signature of a reference method just if their return types are equal, their flags
are as far as they count, and they have equally many parameters, of which each type of the renamed
method stands for that of the reference method. The looser reading of a parameter type admits all
that this one does, and besides the own name of a type that is bound to one of another name. -/
theorem compatible_iff_standsFor {obfuscated : Module} {renamed : Catalog}
    (hobfuscated : Catalog.ofModule obfuscated = .ok renamed) (reference : Catalog)
    (qs : List Request) (m : Recovery) (hm : m.concordance = (empty reference renamed).run qs) :
    (∀ clean method : MethodDecl, m.compatible clean method = true ↔
      clean.returnType = method.returnType ∧
        m.signatureFlags clean.flags = m.signatureFlags method.flags ∧
        clean.parameters.length = method.parameters.length ∧
        ∀ (i : Nat) (c p : ParameterDecl), clean.parameters[i]? = some c →
          method.parameters[i]? = some p → m.concordance.StandsFor p.type c.type) ∧
    (∀ s name, m.concordance.StandsFor s name → m.concordance.MayStandFor s name) ∧
    ∀ s name, m.concordance.MayStandFor s name ∧ ¬ m.concordance.StandsFor s name ↔
      name = s ∧ ∃ other, m.concordance.BindsName s other ∧ other ≠ s := by
  have hg : m.concordance.WellFormed := hm ▸ run_wellFormed reference renamed qs
  have hr : m.concordance.renamed.Sound := by
    rw [hm, (run_grows _ qs).renamed]
    exact Catalog.sound_of_ofModule hobfuscated
  refine ⟨fun clean method => ?_, fun s name h => h.mayStandFor,
    fun s name => hg.mayStandFor_not_standsFor_iff hr⟩
  simp only [compatible_iff_parts, ← resolve_eq_iff hg hr, eq_comm (b := m.resolve _)]

/-- A bag that takes an item of the given type. -/
def sampleBag (type method parameter : String) : TypeTree :=
  .node { name := type, methods := [⟨method, "System.Void", .none, [⟨"item", parameter⟩]⟩] } []

/-- Bags of items, and gear. -/
def sampleBags : Module where
  name := "Bags.dll"
  types := [.node { name := "Item" } [], .node { name := "Gear" } [], sampleBag "Bag" "Put" "Item",
    sampleBag "Chest" "Store" "Gear"]

/-- The same module, in which bags and their methods are renamed, and gear is called an item. -/
def sampleSacks : Module where
  name := "Sacks.dll"
  types := [.node { name := "Item" } [], sampleBag "ABCDEFGHIJK" "LMNOPQRSTUV" "Item"]

/-- A method that takes one item. -/
def sampleTakes (name parameter : String) : MethodDecl :=
  ⟨name, "System.Void", .none, [⟨"item", parameter⟩]⟩

theorem compatible_iff_standsFor_sample : ∃ reference renamed,
    Catalog.ofModule sampleBags = .ok reference ∧ Catalog.ofModule sampleSacks = .ok renamed ∧
      let m : Recovery :=
        { concordance := (empty reference renamed).run [.plantByName "Item" "Gear" 1.0]
          looksRenamed := .capitals 11 }
      m.compatible (sampleTakes "Store" "Gear") (sampleTakes "LMNOPQRSTUV" "Item") = true ∧
        m.concordance.StandsFor "Item" "Gear" ∧
        m.concordance.MayStandFor "Item" "Item" ∧ ¬ m.concordance.StandsFor "Item" "Item" := by
  refine ⟨_, _, rfl, rfl, ?_⟩
  intro m
  obtain ⟨hcompatible, -, hdiffer⟩ := compatible_iff_standsFor
    (rfl : Catalog.ofModule sampleSacks = .ok _) _ [.plantByName "Item" "Gear" 1.0] m rfl
  have hstore : m.compatible (sampleTakes "Store" "Gear") (sampleTakes "LMNOPQRSTUV" "Item") =
      true := by decide +kernel
  have hgear : m.concordance.StandsFor "Item" "Gear" :=
    ((hcompatible _ _).1 hstore).2.2.2 0 _ _ rfl rfl
  have hbound : m.concordance.BindsName "Item" "Gear" :=
    hgear.resolve_right fun hself => absurd hself.1 (by decide)
  exact ⟨hstore, hgear, (hdiffer "Item" "Item").2 ⟨rfl, "Gear", hbound, by decide⟩⟩

/-- The own name of a parameter type that is bound to another one does not count: both methods take
an `Item`, and the one on the renamed side is still no counterpart. -/
theorem compatible_refuses_own_name : ∃ reference renamed,
    Catalog.ofModule sampleBags = .ok reference ∧ Catalog.ofModule sampleSacks = .ok renamed ∧
      let m : Recovery :=
        { concordance := (empty reference renamed).run [.plantByName "Item" "Gear" 1.0]
          looksRenamed := .capitals 11 }
      let clean := sampleTakes "Put" "Item"
      let method := sampleTakes "LMNOPQRSTUV" "Item"
      clean.returnType = method.returnType ∧ clean.flags = method.flags ∧
        clean.parameters.length = method.parameters.length ∧
        (∀ (i : Nat) (c p : ParameterDecl), clean.parameters[i]? = some c →
          method.parameters[i]? = some p → m.concordance.MayStandFor p.type c.type) ∧
        m.compatible clean method = false := by
  refine ⟨_, _, rfl, rfl, rfl, rfl, rfl, fun i c p hc hp => ?_, by decide +kernel⟩
  have hsame : (sampleTakes "Put" "Item").parameters =
      (sampleTakes "LMNOPQRSTUV" "Item").parameters := rfl
  rw [hsame, hp, Option.some.injEq] at hc
  rw [hc]
  exact .inl rfl

end Recovery

end Concord
