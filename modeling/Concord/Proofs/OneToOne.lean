import Concord.Proofs.Namesakes

/-!
# When a concordance is one to one

A renamed type never has two pairings. A reference type can have two, because nothing but its seeds
says which renamed type it belongs to.

* `Complete.bindsOnce_reference_iff`: in a complete concordance no reference type is bound twice
  just if no two roots share one. Pairings of one nested reference type are nested in pairings of
  its declaring type, so the induction goes up to the roots.
* `seeded_bindsOnce`: seeds that share no name make no such roots on their own. Namesakes
  can: a seed may give a reference type away to a type of another name, and then its namesake, if no
  seed uses it, gets the reference type as well.
-/

set_option autoImplicit false

namespace Concord

namespace Concordance

/-! ## Reference types of pairings -/

/-- No two pairings have the same type on a side. -/
def BindsOnce (g : Concordance) (side : Pairing → TypeNumber) : Prop :=
  ∀ i j n m, g.pairing? i = some n → g.pairing? j = some m → side n = side m → i = j

section
variable {g : Concordance}

theorem bindsOnce_iff_nodup {side : Pairing → TypeNumber} :
    g.BindsOnce side ↔ (g.pairings.toList.map side).Nodup := by
  rw [List.nodup_iff_getElem?_ne_getElem?]
  simp only [List.getElem?_map, Array.getElem?_toList, List.length_map, Array.length_toList]
  constructor
  · intro honce i j hij hj heq
    have hi : i < g.pairings.size := by omega
    rw [Array.getElem?_eq_getElem hi, Array.getElem?_eq_getElem hj, Option.map_some,
      Option.map_some, Option.some.injEq] at heq
    have := congrArg PairingNumber.index (honce ⟨i⟩ ⟨j⟩ _ _ (Array.getElem?_eq_getElem hi)
      (Array.getElem?_eq_getElem hj) heq)
    exact Nat.ne_of_lt hij this
  · intro hne i j n m hn hm hnm
    have hi := index_lt_size hn
    have hj := index_lt_size hm
    have heq : (g.pairings[i.index]?).map side = (g.pairings[j.index]?).map side := by
      rw [show g.pairings[i.index]? = some n from hn, show g.pairings[j.index]? = some m from hm,
        Option.map_some, Option.map_some, hnm]
    obtain ⟨i⟩ := i
    obtain ⟨j⟩ := j
    rcases Nat.lt_trichotomy i j with hij | rfl | hij
    · exact absurd heq (hne i j hij hj)
    · rfl
    · exact absurd heq.symm (hne j i hij hi)

instance (side : Pairing → TypeNumber) : Decidable (g.BindsOnce side) :=
  decidable_of_iff _ bindsOnce_iff_nodup.symm

theorem WellFormed.bindsOnce_renamed (hg : g.WellFormed) : g.BindsOnce Pairing.renamed :=
  fun _ _ _ _ hn hm hnm => hg.eq_of_renamed hn hm hnm

/-- The types of a pairing are a nested pair of those of its declaring pairing. -/
theorem Complete.types_mem_nestedPairs (h : g.Complete) {id p : PairingNumber} {n : Pairing}
    (hn : g.pairing? id = some n) (hd : n.declaring = some p) :
    (n.renamed, n.reference) ∈ nestedPairs g.renamed g.reference (g.types p) := by
  obtain ⟨-, q, hq, hm⟩ := h.wellFormed.declaring hn hd
  rw [← h.map_nestedOf (index_lt_size hq), nestedOf_of_pairing? hq, ← types_of_pairing? hn]
  exact List.mem_map_of_mem hm

/-- Pairings of one reference type that are nested in the same pairing are the same. -/
theorem Complete.eq_of_declaring (h : g.Complete) (hr : g.renamed.Sound) (hc : g.reference.Sound)
    {i j p : PairingNumber} {n m : Pairing} (hn : g.pairing? i = some n)
    (hm : g.pairing? j = some m) (hi : n.declaring = some p) (hj : m.declaring = some p)
    (href : n.reference = m.reference) : i = j := by
  have hin : i ∈ g.nestedOf p := h.mem_nested_iff.2 ⟨n, hn, hi⟩
  have hjn : j ∈ g.nestedOf p := h.mem_nested_iff.2 ⟨m, hm, hj⟩
  obtain ⟨hlt, q, hq, -⟩ := h.wellFormed.declaring hn hi
  have hnd := (nodup_nestedPairs hr hc (g.types p)).2
  rw [← h.map_nestedOf (index_lt_size hq), List.map_map] at hnd
  refine List.inj_on_of_nodup_map hnd hin hjn ?_
  simp only [Function.comp, types_of_pairing? hn, types_of_pairing? hm, href]

/-- The reference type of a pairing is declared where its declaring pairing says. -/
theorem Complete.place_reference (h : g.Complete) (hc : g.reference.Sound)
    (hroots : ∀ pair ∈ g.rootTypes, ∃ e, g.reference.entry? pair.2 = some e ∧ e.declaring = none)
    {id : PairingNumber} {n : Pairing} (hn : g.pairing? id = some n) :
    ∃ e, g.reference.entry? n.reference = some e ∧
      e.declaring = n.declaring.map fun p => (g.types p).2 := by
  cases hd : n.declaring with
  | none =>
    have hid := h.wellFormed.mem_roots_iff.2 ⟨n, hn, hd⟩
    have hroot := hroots (g.types id) (List.mem_map_of_mem hid)
    rwa [types_of_pairing? hn] at hroot
  | some p => exact declaring_reference hc (h.types_mem_nestedPairs hn hd)

/-- **A reference type is bound once** unless two roots share one. -/
theorem Complete.bindsOnce_reference_iff (h : g.Complete) (hr : g.renamed.Sound)
    (hc : g.reference.Sound)
    (hroots : ∀ pair ∈ g.rootTypes, ∃ e, g.reference.entry? pair.2 = some e ∧ e.declaring = none) :
    g.BindsOnce Pairing.reference ↔ (g.rootTypes.map (·.2)).Nodup := by
  have htypes : g.rootTypes.map (·.2) = g.roots.map fun id => (g.types id).2 := List.map_map
  rw [htypes]
  constructor
  · intro honce
    refine h.wellFormed.nodup_roots.map_on fun i hi j hj hij => ?_
    obtain ⟨n, hn, -⟩ := h.wellFormed.mem_roots_iff.1 hi
    obtain ⟨m, hm, -⟩ := h.wellFormed.mem_roots_iff.1 hj
    rw [types_of_pairing? hn, types_of_pairing? hm] at hij
    exact honce i j n m hn hm hij
  · intro hnd i j n m hn hm href
    induction hk : i.index using Nat.strongRecOn generalizing i j n m with
    | ind k ih =>
      -- the declaring pairings bind one reference type as well
      obtain ⟨e, he, hen⟩ := h.place_reference hc hroots hn
      obtain ⟨f, hf, hfm⟩ := h.place_reference hc hroots hm
      rw [← href, he, Option.some.injEq] at hf
      rw [← hf, hen] at hfm
      cases hi : n.declaring with
      | none =>
        rw [hi, Option.map_none] at hfm
        have hj : m.declaring = none := Option.map_eq_none_iff.1 hfm.symm
        refine List.inj_on_of_nodup_map hnd (h.wellFormed.mem_roots_iff.2 ⟨n, hn, hi⟩)
          (h.wellFormed.mem_roots_iff.2 ⟨m, hm, hj⟩) ?_
        rw [types_of_pairing? hn, types_of_pairing? hm, href]
      | some p =>
        rw [hi, Option.map_some] at hfm
        obtain ⟨q, hj, hqp⟩ := Option.map_eq_some_iff.1 hfm.symm
        obtain ⟨hlt, n', hn', -⟩ := h.wellFormed.declaring hn hi
        obtain ⟨-, m', hm', -⟩ := h.wellFormed.declaring hm hj
        rw [types_of_pairing? hn', types_of_pairing? hm'] at hqp
        obtain rfl := ih p.index (by omega) p q n' m' hn' hm' hqp.symm rfl
        exact h.eq_of_declaring hr hc hn hm hi hj href

end

end Concordance

/-! ## Seeds -/

section
variable {settings : Settings} {reference renamed : Catalog}

/-- The types on one side that seeds bind, by name. -/
theorem mem_types_of_seeds {c : Catalog} (hc : c.Sound) {name : Seed → String}
    {type : TypeNumber × TypeNumber → TypeNumber}
    (hside : ∀ {s pair}, s.pair? settings reference renamed = some pair →
      c.root? (name s) = some (type pair))
    {seeds : List Seed} {a : String} {x : TypeNumber} (hx : c.root? a = some x) :
    x ∈ (seeds.filterMap (Seed.pair? settings reference renamed)).map type ↔
      ∃ s ∈ seeds, (s.pair? settings reference renamed).isSome ∧ name s = a := by
  simp only [List.mem_map, List.mem_filterMap, Option.isSome_iff_exists]
  constructor
  · rintro ⟨pair, ⟨s, hs, hp⟩, rfl⟩
    exact ⟨s, hs, ⟨_, hp⟩, hc.root?_inj (hside hp) hx⟩
  · rintro ⟨s, hs, ⟨pair, hp⟩, rfl⟩
    have htype := hside hp
    rw [hx, Option.some.injEq] at htype
    exact ⟨pair, ⟨s, hs, hp⟩, htype.symm⟩

/-- Namesakes are pairs of different types on both sides, as the seeds that name them are. -/
theorem nodup_namesakes (hr : renamed.Sound) (hc : reference.Sound) :
    ((namesakes reference renamed).map (·.1)).Nodup ∧
      ((namesakes reference renamed).map (·.2)).Nodup := by
  have hnames : (reference.roots.map reference.fullName).Nodup := by
    refine hc.nodup_roots.map_on fun y hy y' hy' hname => ?_
    have hyy := hc.root?_fullName hy
    rw [hname, hc.root?_fullName hy', Option.some.injEq] at hyy
    exact hyy.symm
  have hrenamed : Seed.renamed ∘ Seed.namesake = id := rfl
  have hreference : Seed.reference ∘ Seed.namesake = id := rfl
  rw [namesakes_eq_seeds hc {}]
  exact ⟨nodup_types_of_seeds hr Seed.root?_renamed (by rwa [List.map_map, hrenamed, List.map_id]),
    nodup_types_of_seeds hc Seed.root?_reference (by rwa [List.map_map, hreference, List.map_id])⟩

/-- Seeds that share no name make roots that share a reference type only if a namesake brings one
in that a seed has already. -/
theorem nodup_root_references (hr : renamed.Sound) (hc : reference.Sound) {seeds : List Seed}
    (hrenamed : (seeds.map (·.renamed)).Nodup) (hreference : (seeds.map (·.reference)).Nodup)
    {pairs : List (TypeNumber × TypeNumber)}
    (hpairs : seeds.filterMap (Seed.pair? settings reference renamed) = pairs) :
    (((seedPairs settings reference renamed seeds).foldl addRoot []).map (·.2)).Nodup ↔
      (settings.pairByName = true → ∀ pair ∈ namesakes reference renamed,
        pair.2 ∈ pairs.map (·.2) → pair.1 ∈ pairs.map (·.1)) := by
  have hfst : (pairs.map (·.1)).Nodup :=
    hpairs ▸ nodup_types_of_seeds hr Seed.root?_renamed hrenamed
  have hsnd : (pairs.map (·.2)).Nodup :=
    hpairs ▸ nodup_types_of_seeds hc Seed.root?_reference hreference
  obtain ⟨hnfst, hnsnd⟩ := nodup_namesakes hr hc
  rw [seedPairs, hpairs, List.foldl_append, foldl_addRoot_of_nodup [] (by simpa using hfst),
    List.nil_append]
  cases settings.pairByName with
  | false => simpa using hsnd
  | true =>
    have hadded : (((namesakes reference renamed).filter
        fun pair => pair.1 ∉ pairs.map (·.1)).map (·.2)).Nodup :=
      hnsnd.sublist (List.filter_sublist.map _)
    rw [if_pos rfl, foldl_addRoot_eq_append _ hnfst, List.map_append, List.nodup_append]
    simp only [forall_const]
    constructor
    · rintro ⟨-, -, hdisjoint⟩ pair hpair hm
      refine Decidable.not_not.1 fun hnew => hdisjoint _ hm _ ?_ rfl
      exact List.mem_map_of_mem (List.mem_filter.2 ⟨hpair, decide_eq_true hnew⟩)
    · intro h
      refine ⟨hsnd, hadded, fun y hy y' hy' hyy => ?_⟩
      obtain ⟨pair, hpair, rfl⟩ := List.mem_map.1 hy'
      obtain ⟨hpair, hnew⟩ := List.mem_filter.1 hpair
      exact of_decide_eq_true hnew (h pair hpair (hyy ▸ hy))

/-- A seed gives a reference type to a type of another name, while the renamed type that has its
name is in no seed. -/
def Displaces (settings : Settings) (reference renamed : Catalog) (seeds : List Seed) : Prop :=
  ∃ s ∈ seeds, (s.pair? settings reference renamed).isSome ∧ (renamed.root? s.reference).isSome ∧
    ∀ t ∈ seeds, (t.pair? settings reference renamed).isSome → t.renamed ≠ s.reference

instance (settings : Settings) (reference renamed : Catalog) (seeds : List Seed) :
    Decidable (Displaces settings reference renamed seeds) :=
  inferInstanceAs (Decidable (∃ s ∈ seeds, _ ∧ _ ∧ ∀ t ∈ seeds, _ → _ ≠ _))

theorem not_displaces_iff (hr : renamed.Sound) (hc : reference.Sound) {seeds : List Seed}
    {pairs : List (TypeNumber × TypeNumber)}
    (hpairs : seeds.filterMap (Seed.pair? settings reference renamed) = pairs) :
    (∀ pair ∈ namesakes reference renamed,
      pair.2 ∈ pairs.map (·.2) → pair.1 ∈ pairs.map (·.1)) ↔
      ¬ Displaces settings reference renamed seeds := by
  subst hpairs
  constructor
  · rintro h ⟨s, hs, hp, hx, hnone⟩
    obtain ⟨x, hx⟩ := Option.isSome_iff_exists.1 hx
    obtain ⟨pair, hpair⟩ := Option.isSome_iff_exists.1 hp
    have hy := Seed.root?_reference hpair
    have hm := h (x, pair.2) ((mem_namesakes_iff hc).2 ⟨_, hx, hy⟩)
      ((mem_types_of_seeds hc Seed.root?_reference hy).2 ⟨s, hs, hp, rfl⟩)
    obtain ⟨t, ht, htp, htname⟩ := (mem_types_of_seeds hr Seed.root?_renamed hx).1 hm
    exact hnone t ht htp htname
  · rintro h ⟨x, y⟩ hpair hm
    obtain ⟨b, hx, hy⟩ := (mem_namesakes_iff hc).1 hpair
    obtain ⟨s, hs, hp, rfl⟩ := (mem_types_of_seeds hc Seed.root?_reference hy).1 hm
    refine Decidable.not_not.1 fun hnew => h ⟨s, hs, hp, by simp [hx], fun t ht htp htname => ?_⟩
    exact hnew ((mem_types_of_seeds hr Seed.root?_renamed hx).2 ⟨t, ht, htp, htname⟩)

end

/-- **Seeds that share no name bind no type twice**, with one exception: a reference type that a
seed gives away is bound to its namesake as well, if types are paired by name. -/
theorem seeded_bindsOnce {clean obfuscated : Module} {reference renamed : Catalog}
    (hclean : Catalog.ofModule clean = .ok reference)
    (hobfuscated : Catalog.ofModule obfuscated = .ok renamed) {seeds : List Seed}
    (hrenamed : (seeds.map (·.renamed)).Nodup) (hreference : (seeds.map (·.reference)).Nodup)
    (settings : Settings) :
    let reply := seeded reference renamed seeds settings
    let g := reply.concordance
    reply.answer = .ok () ∧
      (∀ id n, g.pairing? id = some n →
        reference.contains n.reference = true ∧ renamed.contains n.renamed = true) ∧
      g.BindsOnce Pairing.renamed ∧
      (g.BindsOnce Pairing.reference ↔
        ¬ (settings.pairByName = true ∧ Displaces settings reference renamed seeds)) := by
  intro reply g
  have hr : renamed.Sound := Catalog.sound_of_ofModule hobfuscated
  have hc : reference.Sound := Catalog.sound_of_ofModule hclean
  obtain ⟨hanswer, hrooted⟩ := Concordance.seeded_rooted hr hc seeds settings
  have hg : g.Complete := hrooted.complete
  have hgr : g.renamed = renamed := hrooted.grows.renamed
  have hgc : g.reference = reference := hrooted.grows.reference
  have hroots : g.rootTypes = (seedPairs settings reference renamed seeds).foldl addRoot [] :=
    hrooted.roots
  refine ⟨hanswer, fun id n hn => ?_, hg.wellFormed.bindsOnce_renamed, ?_⟩
  · rw [← hgc, ← hgr]
    exact hg.wellFormed.valid hn
  · rw [hg.bindsOnce_reference_iff (hgr ▸ hr) (hgc ▸ hc), hroots,
      nodup_root_references hr hc hrenamed hreference rfl, not_displaces_iff hr hc rfl, not_and]
    intro pair hpair
    rw [hroots] at hpair
    rw [hgc]
    obtain ⟨-, b, -, hb⟩ := root?_of_mem_roots hc hpair
    obtain ⟨e, he, -, hd⟩ := hc.root?_eq_some_iff.1 hb
    exact ⟨e, he, hd⟩

def sampleOwner : Module where
  name := "Game.dll"
  types := [.node { name := "ABCDEFGHIJK" } [.node { name := "Inner" } []],
    .node { name := "Other" } [], .node { name := "Kept" } []]

/-- The second type has the name that the first one had. -/
def sampleTaken : Module where
  name := "Renamed.dll"
  types := [.node { name := "LMNOPQRSTUV" } [.node { name := "WXYZABCDEFG" } []],
    .node { name := "ABCDEFGHIJK" } [.node { name := "HIJKLMNOPQR" } []],
    .node { name := "Kept" } []]

theorem seeded_bindsOnce_sample : ∃ reference renamed,
    Catalog.ofModule sampleOwner = .ok reference ∧ Catalog.ofModule sampleTaken = .ok renamed ∧
      let seeds : List Seed := [⟨"LMNOPQRSTUV", "ABCDEFGHIJK", 4.0⟩, ⟨"ABCDEFGHIJK", "Other", 3.0⟩]
      let g := (seeded reference renamed seeds { pairByName := true }).concordance
      (seeds.map (·.renamed)).Nodup ∧ (seeds.map (·.reference)).Nodup ∧
        (g.pairings.toList.map fun n => (n.renamed.index, n.reference.index)) =
          [(0, 0), (1, 1), (2, 2), (4, 3)] ∧
        g.BindsOnce Pairing.renamed ∧ g.BindsOnce Pairing.reference := by
  refine ⟨_, _, rfl, rfl, ?_⟩
  intro seeds g
  have hrenamed : (seeds.map (·.renamed)).Nodup := by decide
  have hreference : (seeds.map (·.reference)).Nodup := by decide
  obtain ⟨-, -, honce, hiff⟩ := seeded_bindsOnce (rfl : Catalog.ofModule sampleOwner = .ok _)
    (rfl : Catalog.ofModule sampleTaken = .ok _) hrenamed hreference { pairByName := true }
  exact ⟨hrenamed, hreference, by decide +kernel, honce, hiff.2 (by decide +kernel)⟩

/-- Seeds that share no name, and a reference type that is bound twice, with its nested type. -/
theorem seeded_binds_twice : ∃ reference renamed,
    Catalog.ofModule sampleOwner = .ok reference ∧ Catalog.ofModule sampleTaken = .ok renamed ∧
      let seeds : List Seed := [⟨"LMNOPQRSTUV", "ABCDEFGHIJK", 4.0⟩]
      let g := (seeded reference renamed seeds { pairByName := true }).concordance
      (seeds.map (·.renamed)).Nodup ∧ (seeds.map (·.reference)).Nodup ∧
        (g.pairings.toList.map fun n => (n.renamed.index, n.reference.index)) =
          [(0, 0), (1, 1), (2, 0), (3, 1), (4, 3)] ∧
        ¬ g.BindsOnce Pairing.reference :=
  ⟨_, _, rfl, rfl, by decide, by decide, by decide +kernel, by decide +kernel⟩

end Concord
