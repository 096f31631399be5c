import Concord.Proofs.Alignment
import Concord.Proofs.Refusals
import Concord.Recovery.Basic
import Mathlib.Data.List.Forall2

/-!
# Which roots seeding makes

A seed stands for a pair of types that are not nested, or for none if it cannot be used
(`Seed.pair?`). Reference types and their namesakes are such pairs too (`namesakes`). Seeding is
never refused, and its roots are all these pairs in order, except those whose renamed type has a
root already (`seeded_rooted`).
-/

set_option autoImplicit false

namespace Concord

/-! ## Pairs of types -/

/-- The type of a full name, if it is not nested. -/
def Catalog.root? (c : Catalog) (name : String) : Option TypeNumber :=
  (c.find? name).filter (!c.isNested ·)

theorem Catalog.Sound.root?_eq_some_iff {c : Catalog} (hc : c.Sound) {name : String}
    {x : TypeNumber} :
    c.root? name = some x ↔ ∃ e, c.entry? x = some e ∧ e.fullName = name ∧ e.declaring = none := by
  simp only [root?, Option.filter_eq_some_iff, hc.find?_eq_some_iff, Bool.not_eq_true']
  constructor
  · rintro ⟨⟨e, he, hname⟩, hroot⟩
    exact ⟨e, he, hname, (isNested_eq_false_iff he).1 hroot⟩
  · rintro ⟨e, he, hname, hd⟩
    exact ⟨⟨e, he, hname⟩, (isNested_eq_false_iff he).2 hd⟩

/-- Only one full name leads to a type. -/
theorem Catalog.Sound.root?_inj {c : Catalog} (hc : c.Sound) {a b : String} {x : TypeNumber}
    (ha : c.root? a = some x) (hb : c.root? b = some x) : a = b := by
  obtain ⟨e, he, hea, -⟩ := hc.root?_eq_some_iff.1 ha
  obtain ⟨f, hf, hfb, -⟩ := hc.root?_eq_some_iff.1 hb
  rw [he, Option.some.injEq] at hf
  rw [← hea, hf, hfb]

/-- The full name of a type that is not nested leads back to it. -/
theorem Catalog.Sound.root?_fullName {c : Catalog} (hc : c.Sound) {y : TypeNumber}
    (hy : y ∈ c.roots) : c.root? (c.fullName y) = some y := by
  obtain ⟨e, he, hd⟩ := (hc.roots_iff y).1 hy
  exact hc.root?_eq_some_iff.2 ⟨e, he, (Catalog.fullName_of_entry? he).symm, hd⟩

/-- The pair of types that a seed stands for. There is none if its score is too low, or if one of
its names is not that of a type or is that of a nested type. -/
def Seed.pair? (settings : Settings) (reference renamed : Catalog) (s : Seed) :
    Option (TypeNumber × TypeNumber) :=
  if s.score < settings.minScore then none
  else (renamed.root? s.renamed).bind fun x => (reference.root? s.reference).map fun y => (x, y)

/-- The pair of a reference type and its namesake. -/
def namesakePair? (reference renamed : Catalog) (y : TypeNumber) :
    Option (TypeNumber × TypeNumber) :=
  (renamed.root? (reference.fullName y)).map fun x => (x, y)

/-- The pairs of types that are not nested and have the same full name. -/
def namesakes (reference renamed : Catalog) : List (TypeNumber × TypeNumber) :=
  reference.roots.filterMap (namesakePair? reference renamed)

/-- The pairs that seeding goes through, in order. -/
def seedPairs (settings : Settings) (reference renamed : Catalog) (seeds : List Seed) :
    List (TypeNumber × TypeNumber) :=
  seeds.filterMap (Seed.pair? settings reference renamed) ++
    if settings.pairByName then namesakes reference renamed else []

/-- Adds a pair behind others, unless there is one with its renamed type. -/
def addRoot (pairs : List (TypeNumber × TypeNumber)) (pair : TypeNumber × TypeNumber) :
    List (TypeNumber × TypeNumber) :=
  if pair.1 ∈ pairs.map (·.1) then pairs else pairs ++ [pair]

theorem Seed.pair?_eq_some_iff {settings : Settings} {reference renamed : Catalog} {s : Seed}
    {x y : TypeNumber} : s.pair? settings reference renamed = some (x, y) ↔
      ¬ s.score < settings.minScore ∧ renamed.root? s.renamed = some x ∧
        reference.root? s.reference = some y := by
  unfold pair?
  split
  · simp_all
  · cases renamed.root? s.renamed <;> cases reference.root? s.reference <;> simp_all

section
variable {settings : Settings} {reference renamed : Catalog} {s : Seed}
  {pair : TypeNumber × TypeNumber}

theorem Seed.root?_renamed (h : s.pair? settings reference renamed = some pair) :
    renamed.root? s.renamed = some pair.1 :=
  (Seed.pair?_eq_some_iff.1 h).2.1

theorem Seed.root?_reference (h : s.pair? settings reference renamed = some pair) :
    reference.root? s.reference = some pair.2 :=
  (Seed.pair?_eq_some_iff.1 h).2.2

end

theorem mem_map_fst_addRoot {x : TypeNumber} {pairs : List (TypeNumber × TypeNumber)}
    {pair : TypeNumber × TypeNumber} :
    x ∈ (addRoot pairs pair).map (·.1) ↔ x ∈ pairs.map (·.1) ∨ x = pair.1 := by
  unfold addRoot
  split
  · rename_i hm
    exact ⟨.inl, fun h => h.elim id fun hx => hx ▸ hm⟩
  · simp

theorem mem_of_mem_foldl_addRoot {pair : TypeNumber × TypeNumber}
    {acc pairs : List (TypeNumber × TypeNumber)} (h : pair ∈ pairs.foldl addRoot acc) :
    pair ∈ acc ∨ pair ∈ pairs := by
  induction pairs generalizing acc with
  | nil => exact .inl h
  | cons first rest ih =>
    rcases ih h with hacc | hrest
    · unfold addRoot at hacc
      split at hacc
      · exact .inl hacc
      · rcases List.mem_append.1 hacc with hacc | hfirst
        · exact .inl hacc
        · exact .inr (List.mem_cons.2 (.inl (List.mem_singleton.1 hfirst)))
    · exact .inr (List.mem_cons_of_mem _ hrest)

/-- Of pairs with different renamed types those are added whose renamed type is new. -/
theorem foldl_addRoot_eq_append (acc : List (TypeNumber × TypeNumber))
    {pairs : List (TypeNumber × TypeNumber)} (h : (pairs.map (·.1)).Nodup) :
    pairs.foldl addRoot acc = acc ++ pairs.filter fun pair => pair.1 ∉ acc.map (·.1) := by
  induction pairs generalizing acc with
  | nil => rw [List.foldl_nil, List.filter_nil, List.append_nil]
  | cons pair rest ih =>
    rw [List.map_cons, List.nodup_cons] at h
    rw [List.foldl_cons, ih _ h.2, addRoot]
    by_cases hm : pair.1 ∈ acc.map (·.1)
    · rw [if_pos hm, List.filter_cons_of_neg (by simpa using hm)]
    · have hrest : ∀ p ∈ rest, p.1 ≠ pair.1 :=
        fun p hp heq => h.1 (List.mem_map.2 ⟨p, hp, heq⟩)
      rw [if_neg hm, List.filter_cons_of_pos (by simpa using hm), List.append_assoc,
        List.singleton_append]
      congr 2
      refine List.filter_congr fun p hp => ?_
      simp [hrest p hp]

/-- Pairs with new renamed types are all added. -/
theorem foldl_addRoot_of_nodup (acc : List (TypeNumber × TypeNumber))
    {pairs : List (TypeNumber × TypeNumber)} (h : ((acc ++ pairs).map (·.1)).Nodup) :
    pairs.foldl addRoot acc = acc ++ pairs := by
  rw [List.map_append, List.nodup_append] at h
  rw [foldl_addRoot_eq_append acc h.2.1, List.filter_eq_self.2]
  intro pair hpair
  exact decide_eq_true fun hm => h.2.2 _ hm _ (List.mem_map_of_mem hpair) rfl

theorem foldl_addRoot_eq_self {acc pairs : List (TypeNumber × TypeNumber)}
    (h : ∀ pair ∈ pairs, pair.1 ∈ acc.map (·.1)) : pairs.foldl addRoot acc = acc := by
  induction pairs with
  | nil => rfl
  | cons pair rest ih =>
    rw [List.foldl_cons, addRoot, if_pos (h pair List.mem_cons_self)]
    exact ih fun p hp => h p (List.mem_cons_of_mem _ hp)

theorem foldl_addRoot_perm {acc acc' : List (TypeNumber × TypeNumber)} (h : acc.Perm acc')
    (pairs : List (TypeNumber × TypeNumber)) :
    (pairs.foldl addRoot acc).Perm (pairs.foldl addRoot acc') := by
  induction pairs generalizing acc acc' with
  | nil => exact h
  | cons pair rest ih =>
    refine ih ?_
    simp only [addRoot, (h.map (·.1)).mem_iff]
    split
    · exact h
    · exact h.append_right [pair]

section
variable {settings : Settings} {reference renamed : Catalog} (hc : reference.Sound)
include hc

theorem mem_namesakes_iff {x y : TypeNumber} :
    (x, y) ∈ namesakes reference renamed ↔
      ∃ b, renamed.root? b = some x ∧ reference.root? b = some y := by
  simp only [namesakes, List.mem_filterMap, namesakePair?, Option.map_eq_some_iff, Prod.mk.injEq]
  constructor
  · rintro ⟨y', hy, x', hx, rfl, rfl⟩
    exact ⟨_, hx, hc.root?_fullName hy⟩
  · rintro ⟨b, hx, hy⟩
    obtain ⟨e, he, rfl, hd⟩ := hc.root?_eq_some_iff.1 hy
    refine ⟨y, (hc.roots_iff y).2 ⟨e, he, hd⟩, x, ?_, rfl, rfl⟩
    rwa [Catalog.fullName_of_entry? he]

/-- The types of a root are not nested. -/
theorem root?_of_mem_roots {seeds : List Seed} {pair : TypeNumber × TypeNumber}
    (h : pair ∈ (seedPairs settings reference renamed seeds).foldl addRoot []) :
    ∃ a b, renamed.root? a = some pair.1 ∧ reference.root? b = some pair.2 := by
  rcases mem_of_mem_foldl_addRoot h with hnil | hpair
  · cases hnil
  rcases List.mem_append.1 hpair with hseed | hnamesake
  · obtain ⟨s, -, hp⟩ := List.mem_filterMap.1 hseed
    exact ⟨_, _, Seed.root?_renamed hp, Seed.root?_reference hp⟩
  · split at hnamesake
    · obtain ⟨b, hx, hy⟩ := (mem_namesakes_iff hc).1 hnamesake
      exact ⟨b, b, hx, hy⟩
    · cases hnamesake

end

theorem filterMap_cons_toList {α β : Type} (f : α → Option β) (a : α) (as : List α) :
    (a :: as).filterMap f = (f a).toList ++ as.filterMap f := by
  rw [List.filterMap_cons]
  cases f a <;> rfl

theorem exists_of_mem_right {α β : Type} {R : α → β → Prop} {as : List α} {bs : List β}
    (h : List.Forall₂ R as bs) {b : β} (hb : b ∈ bs) : ∃ a ∈ as, R a b := by
  obtain ⟨i, hi, rfl⟩ := List.mem_iff_getElem.1 hb
  have hi' : i < as.length := h.length_eq ▸ hi
  exact ⟨as[i], List.getElem_mem hi', h.get hi' hi⟩

namespace Concordance

/-! ## Roots -/

/-- The types of the roots, in order. -/
def rootTypes (g : Concordance) : List (TypeNumber × TypeNumber) := g.roots.map g.types

/-- `k` is `g` with the given pairs added as roots. -/
structure Rooted (g k : Concordance) (pairs : List (TypeNumber × TypeNumber)) : Prop where
  complete : k.Complete
  grows : Grows g k
  roots : k.rootTypes = pairs.foldl addRoot g.rootTypes

theorem Rooted.refl {g : Concordance} (h : g.Complete) : Rooted g g [] := ⟨h, .refl g, rfl⟩

theorem Rooted.trans {g h k : Concordance} {xs ys : List (TypeNumber × TypeNumber)}
    (hgh : Rooted g h xs) (hhk : Rooted h k ys) : Rooted g k (xs ++ ys) where
  complete := hhk.complete
  grows := hgh.grows.trans hhk.grows
  roots := by rw [hhk.roots, hgh.roots, List.foldl_append]

section
variable {g : Concordance}

/-- A type that is not nested is bound only as a root. -/
theorem Complete.ofType?_eq_none_iff (h : g.Complete) {x : TypeNumber} {f : CatalogEntry}
    (hf : g.renamed.entry? x = some f) (hd : f.declaring = none) :
    g.ofType? x = none ↔ x ∉ g.rootTypes.map (·.1) := by
  rw [h.wellFormed.ofType?_eq_none_iff, rootTypes, List.map_map, List.mem_map]
  constructor
  · rintro hnone ⟨id, hid, hx⟩
    obtain ⟨n, hn, -⟩ := h.wellFormed.mem_roots_iff.1 hid
    rw [Function.comp, types_of_pairing? hn] at hx
    exact hnone id n hn hx
  · rintro hnew id n hn rfl
    have hroot : n.declaring = none := by
      have hplace := h.place hn hf
      rw [hd] at hplace
      exact Option.map_eq_none_iff.1 hplace.symm
    refine hnew ⟨id, h.wellFormed.mem_roots_iff.2 ⟨n, hn, hroot⟩, ?_⟩
    rw [Function.comp, types_of_pairing? hn]

theorem NewRoot.rootTypes_eq {k : Concordance} {x y : TypeNumber} {score : Float}
    (hg : g.Complete) (h : NewRoot g k x y score) (hgrows : Grows g k) :
    k.rootTypes = g.rootTypes ++ [(x, y)] := by
  have hold : g.roots.map k.types = g.roots.map g.types :=
    List.map_congr_left fun id hid => hgrows.types_eq (hg.wellFormed.index_lt_of_mem_roots hid)
  rw [rootTypes, h.roots, List.map_append, hold, List.map_singleton, h.types, rootTypes]

/-- **Planting a pair** of types that are not nested adds it as a root. -/
theorem Complete.plant_rooted (h : g.Complete) (hr : g.renamed.Sound) (hc : g.reference.Sound)
    {x y : TypeNumber} {e f : CatalogEntry} (score : Float)
    (hf : g.renamed.entry? x = some f) (hfd : f.declaring = none)
    (he : g.reference.entry? y = some e) (hed : e.declaring = none) :
    (∃ id, (g.plant x y score).answer = .ok id) ∧
      Rooted g (g.plant x y score).concordance [(x, y)] := by
  have hx := Catalog.contains_iff.2 ⟨f, hf⟩
  have hy := Catalog.contains_iff.2 ⟨e, he⟩
  have hxn := (Catalog.isNested_eq_false_iff hf).2 hfd
  have hyn := (Catalog.isNested_eq_false_iff he).2 hed
  have hok := plant_ok h.wellFormed hr hc score hx hy hxn hyn
  refine ⟨hok, ?_⟩
  obtain ⟨id, hid⟩ := hok
  obtain ⟨_, ha, -⟩ | ⟨id', -, ho, -, hk⟩ | ⟨hseed, hrefusal, ho, -⟩ := g.plant_cases x y score
  · rw [ha] at hid
    cases hid
  · have hm : x ∈ g.rootTypes.map (·.1) := by
      refine Decidable.not_not.1 fun hm => ?_
      rw [← h.ofType?_eq_none_iff hf hfd, ho] at hm
      cases hm
    rw [hk]
    exact ⟨h, .refl g, (if_pos hm).symm⟩
  · have hnew := (h.plant_new hr hc score hseed hrefusal ho).2
    have hgrows := (g.plant_moves x y score).grows
    refine ⟨hnew.complete, hgrows, (hnew.rootTypes_eq h hgrows).trans (Eq.symm ?_)⟩
    exact if_neg ((h.ofType?_eq_none_iff hf hfd).1 ho)

/-! ## Seeds -/

/-- **One seed** adds the pair that it stands for. -/
theorem Complete.useSeed_rooted (h : g.Complete) (hr : g.renamed.Sound) (hc : g.reference.Sound)
    (settings : Settings) (s : Seed) :
    (useSeed settings g s).answer = .ok () ∧ Rooted g (useSeed settings g s).concordance
      (s.pair? settings g.reference g.renamed).toList := by
  unfold useSeed Seed.pair?
  by_cases hscore : s.score < settings.minScore
  · simp only [if_pos hscore]
    exact ⟨trivial, .refl h⟩
  simp only [if_neg hscore, plantByName, Catalog.root?]
  -- a name that is unknown or nested is passed over, and then no pair is to be added
  cases hx : g.renamed.find? s.renamed with
  | none => exact ⟨rfl, .refl h⟩
  | some x =>
    cases hy : g.reference.find? s.reference with
    | none => simp [Refusal.isSeedFault, Rooted.refl h]
    | some y =>
      obtain ⟨f, hf, -⟩ := hr.find?_eq_some_iff.1 hx
      obtain ⟨e, he, -⟩ := hc.find?_eq_some_iff.1 hy
      cases hxn : g.renamed.isNested x with
      | true =>
        simp [Concordance.plant, seedRefusal?, hxn, Refusal.isSeedFault, Option.filter_some,
          Rooted.refl h]
      | false =>
        cases hyn : g.reference.isNested y with
        | true =>
          simp [Concordance.plant, seedRefusal?, hxn, hyn, Refusal.isSeedFault,
            Option.filter_some, Rooted.refl h]
        | false =>
          obtain ⟨⟨id, ha⟩, hrooted⟩ := h.plant_rooted hr hc s.score hf
            ((Catalog.isNested_eq_false_iff hf).1 hxn) he ((Catalog.isNested_eq_false_iff he).1 hyn)
          simp [ha, hxn, hyn, Option.filter_some, hrooted]

/-- **Seeds** add the pairs that they stand for. -/
theorem Complete.useSeeds_rooted (h : g.Complete) (hr : g.renamed.Sound) (hc : g.reference.Sound)
    (settings : Settings) (seeds : List Seed) :
    (useSeeds settings seeds g).answer = .ok () ∧ Rooted g (useSeeds settings seeds g).concordance
      (seeds.filterMap (Seed.pair? settings g.reference g.renamed)) := by
  induction seeds generalizing g with
  | nil => exact ⟨rfl, .refl h⟩
  | cons s seeds ih =>
    obtain ⟨ha, hs⟩ := h.useSeed_rooted hr hc settings s
    have hgrows := hs.grows
    obtain ⟨ha', hrest⟩ := ih hs.complete (hgrows.renamed ▸ hr) (hgrows.reference ▸ hc)
    rw [hgrows.renamed, hgrows.reference] at hrest
    rw [useSeeds, Reply.answer_andThen ha, Reply.concordance_andThen ha, filterMap_cons_toList]
    exact ⟨ha', hs.trans hrest⟩

/-! ## Namesakes -/

theorem Complete.plantEach_rooted (h : g.Complete) (hr : g.renamed.Sound) (hc : g.reference.Sound)
    (score : Float) {references : List TypeNumber}
    (hrefs : ∀ y ∈ references, y ∈ g.reference.roots) :
    (Concordance.plantEach score references g).answer = .ok () ∧
      Rooted g (Concordance.plantEach score references g).concordance
        (references.filterMap (namesakePair? g.reference g.renamed)) := by
  induction references generalizing g with
  | nil => exact ⟨rfl, .refl h⟩
  | cons y rest ih =>
    have hrest := fun z hz => hrefs z (List.mem_cons_of_mem y hz)
    have hnamesake : namesakePair? g.reference g.renamed y = (g.namesake? y).map fun x => (x, y) :=
      rfl
    rw [Concordance.plantEach]
    cases hx : g.namesake? y with
    | none =>
      rw [hx, Option.map_none] at hnamesake
      rw [List.filterMap_cons_none hnamesake]
      exact ih h hr hc hrest
    | some x =>
      rw [hx, Option.map_some] at hnamesake
      obtain ⟨f, hf, -, hfd⟩ := hr.root?_eq_some_iff.1 hx
      obtain ⟨e, he, hed⟩ := (hc.roots_iff y).1 (hrefs y List.mem_cons_self)
      obtain ⟨⟨id, ha⟩, hs⟩ := h.plant_rooted hr hc score hf hfd he hed
      have hgrows := hs.grows
      obtain ⟨ha', hrooted⟩ := ih hs.complete (hgrows.renamed ▸ hr) (hgrows.reference ▸ hc)
        (by rw [hgrows.reference]; exact hrest)
      rw [hgrows.renamed, hgrows.reference] at hrooted
      simp only [Reply.answer_andThen ha, Reply.concordance_andThen ha,
        List.filterMap_cons_some hnamesake]
      exact ⟨ha', hs.trans hrooted⟩

theorem Complete.useNamesakes_rooted (h : g.Complete) (hr : g.renamed.Sound)
    (hc : g.reference.Sound) (settings : Settings) :
    (useNamesakes settings g).answer = .ok () ∧ Rooted g (useNamesakes settings g).concordance
      (if settings.pairByName then namesakes g.reference g.renamed else []) := by
  unfold useNamesakes
  split
  · obtain ⟨ha, hrooted⟩ := h.plantEach_rooted hr hc namesakeScore fun _ hy => hy
    obtain ⟨count, hcount⟩ := plantNamesakes_ok h.wellFormed hr hc namesakeScore
    rw [Reply.answer_andThen hcount, Reply.concordance_andThen hcount]
    refine ⟨rfl, ?_⟩
    rw [concordance_plantNamesakes]
    exact hrooted
  · exact ⟨rfl, .refl h⟩

end

/-- **Seeding** is never refused. Its roots are the pairs that seeds and namesakes stand for, the
first one for each renamed type. -/
theorem seeded_rooted {reference renamed : Catalog} (hr : renamed.Sound) (hc : reference.Sound)
    (seeds : List Seed) (settings : Settings) :
    (seeded reference renamed seeds settings).answer = .ok () ∧
      Rooted (empty reference renamed) (seeded reference renamed seeds settings).concordance
        (seedPairs settings reference renamed seeds) := by
  obtain ⟨ha, hseeds⟩ :=
    (complete_empty reference renamed).useSeeds_rooted hr hc settings seeds
  have hgrows := hseeds.grows
  obtain ⟨ha', hnamesakes⟩ := hseeds.complete.useNamesakes_rooted (hgrows.renamed ▸ hr)
    (hgrows.reference ▸ hc) settings
  rw [hgrows.renamed, hgrows.reference] at hnamesakes
  rw [seeded, Reply.answer_andThen ha, Reply.concordance_andThen ha, Reply.answer_andThen ha',
    Reply.concordance_andThen ha']
  exact ⟨rfl, hseeds.trans hnamesakes⟩

end Concordance

end Concord
