import Concord.Proofs.Seeding

/-!
# Seeding is recursive alignment

Two types are aligned by pairing them and then, where both declare equally many nested types,
aligning those one by one (`align`, with `align_eq` its recursion). Seeding does the same with a
work list and numbered pairings. `seeding_aligns`: for every concordance that seeding leads to,
unfolding the nested pairings from a root gives the alignment of the root's types, and every pairing
stands in exactly one of these trees, once, with the score of the seed.

Both sides grow a tree from a step that gives the children of a place (`Unfolding.grow`), so they
are equal as soon as one step of the concordance is one step of the alignment
(`Unfolding.grow_simulate`). That no pairing stands in two places follows from the declaring pairing
being unique: the places above a pairing form a chain (`disjoint_numbersUnder`).
-/

set_option autoImplicit false

namespace Concord

open Relation

/-! ## Unfoldings -/

/-- A tree of labels. -/
inductive Unfolding (β : Type) where
  | node (label : β) (children : List (Unfolding β))

namespace Unfolding

variable {α β γ : Type}

mutual

/-- The labels of a tree, each one before those below it. -/
def labels : Unfolding β → List β
  | .node label children => label :: labelsAll children

/-- The labels of several trees. -/
def labelsAll : List (Unfolding β) → List β
  | [] => []
  | t :: ts => t.labels ++ labelsAll ts

end

/-- The tree that grows from a place when `children` gives the places below each one, cut off
`depth` levels below. -/
def grow (label : α → β) (children : α → List α) : Nat → α → Unfolding β
  | 0, a => .node (label a) []
  | depth + 1, a => .node (label a) ((children a).map (grow label children depth))

theorem labelsAll_map (f : α → Unfolding β) (as : List α) :
    labelsAll (as.map f) = as.flatMap fun a => (f a).labels := by
  induction as with
  | nil => rfl
  | cons a as ih => rw [List.map_cons, labelsAll, ih, List.flatMap_cons]

/-- Nothing is cut off as deep as a rank that falls from each place to those below it. -/
theorem grow_stable {label : α → β} {children : α → List α} {rank : α → Nat}
    (hrank : ∀ a, ∀ c ∈ children a, rank c < rank a) {d e : Nat} {a : α} (hd : rank a ≤ d)
    (he : rank a ≤ e) : grow label children d a = grow label children e a := by
  have hleaf : ∀ a, rank a = 0 → children a = [] := by
    intro a h0
    refine List.eq_nil_iff_forall_not_mem.2 fun c hc => ?_
    have := hrank a c hc
    omega
  induction d generalizing a e with
  | zero =>
    have h0 := hleaf a (by omega)
    cases e with
    | zero => rfl
    | succ e => rw [grow, grow, h0, List.map_nil]
  | succ d ih =>
    cases e with
    | zero => rw [grow, grow, hleaf a (by omega), List.map_nil]
    | succ e =>
      rw [grow, grow]
      congr 1
      refine List.map_congr_left fun c hc => ?_
      have := hrank a c hc
      exact ih (by omega) (by omega)

theorem grow_eq {label : α → β} {children : α → List α} {rank : α → Nat}
    (hrank : ∀ a, ∀ c ∈ children a, rank c < rank a) {d : Nat} {a : α} (hd : rank a ≤ d) :
    grow label children d a = .node (label a) ((children a).map (grow label children d)) := by
  rw [grow_stable hrank hd (Nat.le_succ_of_le hd), grow]

/-- A step that simulates another grows the same tree. -/
theorem grow_simulate {children : α → List α} {children' : γ → List γ} {f : α → γ} {P : α → Prop}
    (hkeep : ∀ a, P a → ∀ c ∈ children a, P c)
    (hstep : ∀ a, P a → (children a).map f = children' (f a)) (d : Nat) {a : α} (ha : P a) :
    grow f children d a = grow (fun x => x) children' d (f a) := by
  induction d generalizing a with
  | zero => rfl
  | succ d ih =>
    rw [grow, grow, ← hstep a ha, List.map_map]
    congr 1
    exact List.map_congr_left fun c hc => ih (hkeep a ha c hc)

end Unfolding

open Unfolding

/-! ## Alignment of types -/

/-- The alignment of two types: the pair of them and, below it, the alignments of the types nested
in them. Types are nested less deep than there are any. -/
def align (renamed reference : Catalog) (pair : TypeNumber × TypeNumber) :
    Unfolding (TypeNumber × TypeNumber) :=
  grow (fun x => x) (nestedPairs renamed reference) renamed.size pair

theorem nestedPairs_rank {renamed reference : Catalog} (hr : renamed.Sound)
    (pair : TypeNumber × TypeNumber) : ∀ x ∈ nestedPairs renamed reference pair,
      renamed.size - x.1.index < renamed.size - pair.1.index := by
  intro x hx
  have hlt := index_lt_of_mem_nestedPairs hr hx
  obtain ⟨e, he, -⟩ := declaring_renamed hr hx
  have hc := Catalog.contains_iff.2 ⟨e, he⟩
  rw [Catalog.contains, decide_eq_true_iff] at hc
  omega

/-- **Alignment is recursive.** -/
theorem align_eq {renamed reference : Catalog} (hr : renamed.Sound)
    (pair : TypeNumber × TypeNumber) : align renamed reference pair =
      .node pair ((nestedPairs renamed reference pair).map (align renamed reference)) :=
  grow_eq (nestedPairs_rank hr) (Nat.sub_le _ _)

namespace Concordance

/-! ## Unfolding a concordance -/

/-- The pairings nested in a pairing, those nested in these, and so on, each one under a label.
Pairings are nested less deep than there are any. -/
def unfolding {β : Type} (g : Concordance) (label : PairingNumber → β) (id : PairingNumber) :
    Unfolding β :=
  grow label g.nestedOf g.size id

/-- The numbers of a pairing and of all that are nested in it. -/
def numbersUnder (g : Concordance) (id : PairingNumber) : List PairingNumber :=
  (g.unfolding (fun x => x) id).labels

/-- `id` is declared by `parent`. -/
def DeclaredBy (g : Concordance) (id parent : PairingNumber) : Prop :=
  ∃ n, g.pairing? id = some n ∧ n.declaring = some parent

section
variable {g : Concordance} (h : g.Complete)
include h

theorem Complete.index_lt {id parent : PairingNumber} (hd : g.DeclaredBy id parent) :
    parent.index < id.index := by
  obtain ⟨n, hn, hp⟩ := hd
  exact (h.wellFormed.declaring hn hp).1

theorem Complete.nestedOf_rank (id : PairingNumber) :
    ∀ c ∈ g.nestedOf id, g.size - c.index < g.size - id.index := by
  intro c hc
  obtain ⟨n, hn, hd⟩ := h.mem_nested_iff.1 hc
  have hlt := h.index_lt ⟨n, hn, hd⟩
  have := index_lt_size hn
  omega

theorem Complete.unfolding_eq {β : Type} (label : PairingNumber → β) (id : PairingNumber) :
    g.unfolding label id = .node (label id) ((g.nestedOf id).map (g.unfolding label)) :=
  grow_eq h.nestedOf_rank (Nat.sub_le _ _)

theorem Complete.numbersUnder_eq (id : PairingNumber) :
    g.numbersUnder id = id :: (g.nestedOf id).flatMap g.numbersUnder := by
  rw [numbersUnder, h.unfolding_eq, labels, labelsAll_map]
  rfl

/-- What is under a pairing leads up to it. -/
theorem Complete.mem_numbersUnder_iff {x id : PairingNumber} :
    x ∈ g.numbersUnder id ↔ ReflTransGen g.DeclaredBy x id := by
  constructor
  · intro hx
    -- the pairings left below `id` are ever fewer
    induction hk : g.size - id.index using Nat.strongRecOn generalizing id with
    | ind k ih =>
      rw [h.numbersUnder_eq, List.mem_cons, List.mem_flatMap] at hx
      rcases hx with rfl | ⟨c, hc, hx⟩
      · exact .refl
      · have hlt := h.nestedOf_rank id c hc
        exact (ih _ (hk ▸ hlt) hx rfl).tail (h.mem_nested_iff.1 hc)
  · intro hx
    induction hx with
    | refl =>
      rw [h.numbersUnder_eq]
      exact List.mem_cons_self
    | @tail c p _ hc ih =>
      rw [h.numbersUnder_eq]
      exact List.mem_cons_of_mem _ (List.mem_flatMap.2 ⟨c, h.mem_nested_iff.2 hc, ih⟩)

theorem Complete.index_le {x id : PairingNumber} (hx : ReflTransGen g.DeclaredBy x id) :
    id.index ≤ x.index := by
  induction hx with
  | refl => exact Nat.le_refl _
  | tail _ hc ih => exact Nat.le_trans (Nat.le_of_lt (h.index_lt hc)) ih

/-- Two pairings, neither of which can be under the other, have nothing in common under them. -/
theorem Complete.disjoint_numbersUnder {c c' : PairingNumber} (hne : c ≠ c')
    (h1 : ∀ p, g.DeclaredBy c p → p.index < c'.index)
    (h2 : ∀ p, g.DeclaredBy c' p → p.index < c.index) :
    (g.numbersUnder c).Disjoint (g.numbersUnder c') := by
  intro x hx hx'
  rw [h.mem_numbersUnder_iff] at hx hx'
  have hunique : Relator.RightUnique g.DeclaredBy := by
    rintro id p p' ⟨n, hn, hp⟩ ⟨n', hn', hp'⟩
    rw [hn, Option.some.injEq] at hn'
    rw [← hn', hp, Option.some.injEq] at hp'
    exact hp'
  rcases ReflTransGen.total_of_right_unique hunique hx hx' with hcc | hcc
  · rcases hcc.cases_head with heq | ⟨p, hp, hpc⟩
    · exact hne heq
    · have := h.index_le hpc
      have := h1 p hp
      omega
  · rcases hcc.cases_head with heq | ⟨p, hp, hpc⟩
    · exact hne heq.symm
    · have := h.index_le hpc
      have := h2 p hp
      omega

/-- No pairing is twice under another. -/
theorem Complete.nodup_numbersUnder (id : PairingNumber) : (g.numbersUnder id).Nodup := by
  induction hk : g.size - id.index using Nat.strongRecOn generalizing id with
  | ind k ih =>
    rw [h.numbersUnder_eq]
    have hbelow : ∀ c ∈ g.nestedOf id, id.index < c.index :=
      fun c hc => h.index_lt (h.mem_nested_iff.1 hc)
    have hparent : ∀ c ∈ g.nestedOf id, ∀ p, g.DeclaredBy c p → p = id := by
      rintro c hc p ⟨n, hn, hp⟩
      obtain ⟨m, hm, hd⟩ := h.mem_nested_iff.1 hc
      rw [hn, Option.some.injEq] at hm
      rw [← hm, hp, Option.some.injEq] at hd
      exact hd
    refine List.nodup_cons.2 ⟨fun hm => ?_, List.nodup_flatMap.2 ⟨fun c hc => ?_, ?_⟩⟩
    · obtain ⟨c, hc, hx⟩ := List.mem_flatMap.1 hm
      have := h.index_le (h.mem_numbersUnder_iff.1 hx)
      have := hbelow c hc
      omega
    · exact ih _ (hk ▸ h.nestedOf_rank id c hc) c rfl
    · have hnd : (g.nestedOf id).Nodup := by
        cases hn : g.pairing? id with
        | none => simp [nestedOf, hn]
        | some n =>
          rw [nestedOf_of_pairing? hn]
          exact (h.wellFormed.nested hn).1
      refine hnd.imp_of_mem fun {c c'} hc hc' hne => ?_
      refine h.disjoint_numbersUnder hne (fun p hp => ?_) (fun p hp => ?_)
      · rw [hparent c hc p hp]
        exact hbelow c' hc'
      · rw [hparent c' hc' p hp]
        exact hbelow c hc

/-- Every pairing is under a root. -/
theorem Complete.exists_root {id : PairingNumber} (hid : id.index < g.size) :
    ∃ root ∈ g.roots, ReflTransGen g.DeclaredBy id root := by
  induction hk : id.index using Nat.strongRecOn generalizing id with
  | ind k ih =>
    obtain ⟨n, hn⟩ := (g.exists_pairing?_iff id).2 hid
    cases hd : n.declaring with
    | none => exact ⟨id, h.wellFormed.mem_roots_iff.2 ⟨n, hn, hd⟩, .refl⟩
    | some p =>
      have hdecl : g.DeclaredBy id p := ⟨n, hn, hd⟩
      have hlt := h.index_lt hdecl
      obtain ⟨root, hroot, hp⟩ := ih p.index (by omega) (show p.index < g.size by omega) rfl
      exact ⟨root, hroot, hp.head hdecl⟩

/-- **Every pairing is under exactly one root**, and there once. -/
theorem Complete.roots_partition : (g.roots.flatMap g.numbersUnder).Perm g.numbers := by
  have hroot : ∀ r ∈ g.roots, ∀ p, ¬ g.DeclaredBy r p := by
    rintro r hr p ⟨n, hn, hp⟩
    obtain ⟨m, hm, hd⟩ := h.wellFormed.mem_roots_iff.1 hr
    rw [hn, Option.some.injEq] at hm
    rw [← hm, hp] at hd
    cases hd
  have hnd : (g.roots.flatMap g.numbersUnder).Nodup := by
    refine List.nodup_flatMap.2 ⟨fun r _ => h.nodup_numbersUnder r, ?_⟩
    refine h.wellFormed.nodup_roots.imp_of_mem fun {r r'} hr hr' hne => ?_
    exact h.disjoint_numbersUnder hne (fun p hp => absurd hp (hroot r hr p))
      (fun p hp => absurd hp (hroot r' hr' p))
  refine (List.perm_ext_iff_of_nodup hnd g.nodup_numbers).2 fun x => ?_
  rw [List.mem_flatMap, mem_numbers]
  constructor
  · rintro ⟨r, hr, hx⟩
    rw [h.mem_numbersUnder_iff] at hx
    rcases hx.cases_head with rfl | ⟨p, ⟨n, hn, -⟩, -⟩
    · exact h.wellFormed.index_lt_of_mem_roots hr
    · exact index_lt_size hn
  · intro hx
    obtain ⟨r, hr, hup⟩ := h.exists_root hx
    exact ⟨r, hr, h.mem_numbersUnder_iff.2 hup⟩

/-- A pairing has the score of every pairing that it is under. -/
theorem Complete.score_eq {x id : PairingNumber} (hx : x ∈ g.numbersUnder id) :
    (g.pairing? x).map (·.score) = (g.pairing? id).map (·.score) := by
  rw [h.mem_numbersUnder_iff] at hx
  induction hx with
  | refl => rfl
  | @tail c p _ hc ih =>
    obtain ⟨n, hn, hd⟩ := hc
    obtain ⟨-, q, hq, hm⟩ := h.wellFormed.declaring hn hd
    obtain ⟨m, hm, -, hs⟩ := h.child hq hm
    rw [ih, hm, hq, Option.map_some, Option.map_some, hs]

/-- One step of a concordance is one step of the alignment. -/
theorem Complete.map_nestedOf {id : PairingNumber} (hid : id.index < g.size) :
    (g.nestedOf id).map g.types = nestedPairs g.renamed g.reference (g.types id) := by
  obtain ⟨n, hn⟩ := (g.exists_pairing?_iff id).2 hid
  rw [nestedOf_of_pairing? hn, h.nested hn]
  simp [dueBut]

/-- **Unfolding a concordance gives the alignment of types.** -/
theorem Complete.unfolding_eq_align {id : PairingNumber} (hid : id.index < g.size) :
    g.unfolding g.types id = align g.renamed g.reference (g.types id) := by
  have hkeep : ∀ id : PairingNumber, id.index < g.size →
      ∀ c ∈ g.nestedOf id, c.index < g.size := by
    intro id _ c hc
    obtain ⟨n, hn, -⟩ := h.mem_nested_iff.1 hc
    exact index_lt_size hn
  -- the depth that pairings reach is also enough for their types
  have hdeep : grow g.types g.nestedOf g.size id =
      grow g.types g.nestedOf g.renamed.size id :=
    grow_stable h.nestedOf_rank (Nat.sub_le _ _)
      (Nat.le_trans (Nat.sub_le _ _) h.wellFormed.size_le)
  rw [unfolding, hdeep]
  exact grow_simulate hkeep (fun _ => h.map_nestedOf) g.renamed.size hid

end

/-! ## The score of a seed -/

/-- Every pairing has the score of the request that bound its type. -/
theorem Complete.bound_by {g : Concordance} (h : g.Complete) (hr : g.renamed.Sound)
    (hc : g.reference.Sound) {qs : List Request} (hqs : ∀ q ∈ qs, q.isSeeding = true)
    {id : PairingNumber} {n : Pairing} (hn : (g.run qs).pairing? id = some n)
    (hid : g.size ≤ id.index) :
    ∃ before q after, qs = before ++ q :: after ∧ q.score? = some n.score ∧
      (g.run before).ofType? n.renamed = none ∧
      (g.run (before ++ [q])).ofType? n.renamed = some id := by
  induction qs generalizing g with
  | nil => exact absurd (index_lt_size hn) (Nat.not_lt.2 hid)
  | cons q qs ih =>
    have hgrows := (q.apply_moves g).grows
    have hrest : ∀ r ∈ qs, r.isSeeding = true := fun r hm => hqs r (List.mem_cons_of_mem _ hm)
    have hstep := h.apply hr hc (hqs q List.mem_cons_self)
    have hcomplete : (q.apply g).Complete := by
      rcases hstep with heq | ⟨score, -, hs⟩
      · rw [heq]
        exact h
      · exact hs.complete
    rcases Nat.lt_or_ge id.index (q.apply g).size with hlt | hge
    · -- `q` has made the pairing
      obtain ⟨m, hm⟩ := ((q.apply g).exists_pairing?_iff id).2 hlt
      have hkeep := (run_grows (q.apply g) qs).keeps hm hn
      refine ⟨[], q, qs, rfl, ?_, ?_, ?_⟩
      · rcases hstep with heq | ⟨score, hscore, hs⟩
        · rw [heq] at hlt
          omega
        · rw [hscore, hkeep.score, hs.score id m hm hid]
      · rw [Concordance.run, h.wellFormed.ofType?_eq_none_iff]
        intro j k hk hkn
        obtain ⟨k', hk', hkk⟩ := hgrows.pairing hk
        have hj := index_lt_size hk
        have := hcomplete.wellFormed.eq_of_renamed hk' hm
          (hkk.renamed.trans (hkn.trans hkeep.renamed))
        rw [this] at hj
        omega
      · exact hcomplete.wellFormed.ofType?_eq_some_iff.2 ⟨m, hm, hkeep.renamed.symm⟩
    · obtain ⟨before, r, after, rfl, h1, h2, h3⟩ :=
        ih hcomplete (hgrows.renamed ▸ hr) (hgrows.reference ▸ hc) hrest hn hge
      exact ⟨q :: before, r, after, rfl, h1, h2, h3⟩

/-- **Seeding is recursive alignment.** In every concordance that seeding leads to, whatever was
asked and refused: unfolding a root gives the alignment of its types; every pairing stands under
exactly one root, once; nested and declaring pairings are inverse to each other; and a pairing has
the score of its root, which is that of the request that bound it first. -/
theorem seeding_aligns {clean obfuscated : Module} {reference renamed : Catalog}
    (hclean : Catalog.ofModule clean = .ok reference)
    (hobfuscated : Catalog.ofModule obfuscated = .ok renamed) (qs : List Request)
    (hqs : ∀ q ∈ qs, q.isSeeding = true) :
    let g := (empty reference renamed).run qs
    (∀ pair, align renamed reference pair =
      .node pair ((nestedPairs renamed reference pair).map (align renamed reference))) ∧
    (∀ id, g.unfolding g.types id =
      .node (g.types id) ((g.nestedOf id).map (g.unfolding g.types))) ∧
    (∀ root ∈ g.roots, g.unfolding g.types root = align renamed reference (g.types root)) ∧
    (g.roots.flatMap fun root => (g.unfolding (fun id => id) root).labels).Perm g.numbers ∧
    (∀ p id, id ∈ g.nestedOf p ↔ ∃ n, g.pairing? id = some n ∧ n.declaring = some p) ∧
    (∀ root ∈ g.roots, ∀ id ∈ (g.unfolding (fun id => id) root).labels,
      (g.pairing? id).map (·.score) = (g.pairing? root).map (·.score)) ∧
    ∀ id n, g.pairing? id = some n → ∃ before q after, qs = before ++ q :: after ∧
      q.score? = some n.score ∧ ((empty reference renamed).run before).ofType? n.renamed = none ∧
      ((empty reference renamed).run (before ++ [q])).ofType? n.renamed = some id := by
  intro g
  have hr : renamed.Sound := Catalog.sound_of_ofModule hobfuscated
  have hc : reference.Sound := Catalog.sound_of_ofModule hclean
  have hgrows : Grows (empty reference renamed) g := run_grows _ qs
  have h : g.Complete := (complete_empty reference renamed).run hr hc hqs
  refine ⟨align_eq hr, h.unfolding_eq g.types, fun root hroot => ?_, h.roots_partition,
    fun p id => h.mem_nested_iff, fun root _ id hid => h.score_eq hid, fun id n hn => ?_⟩
  · have ha := h.unfolding_eq_align (h.wellFormed.index_lt_of_mem_roots hroot)
    rwa [hgrows.renamed, hgrows.reference] at ha
  · exact (complete_empty reference renamed).bound_by hr hc hqs hn (Nat.zero_le _)

/-- Seeds that are nested, repeated, unknown or by name, and nested types paired once more. -/
def sampleSeeding : List Request :=
  [.plantByName "ABCDEFGHIJK/LMNOPQRSTUV" "Game.Hud" 2.5,
    .plantByName "ABCDEFGHIJK" "Game.Player" 1.5, .plant ⟨0⟩ ⟨2⟩ 0.5, .pairNested ⟨1⟩,
    .pairNested ⟨9⟩, .plantByName "Missing" "Game.Player" 1.5, .plantNamesakes 0.0]

/-- The nested type that was asked for first goes with its declaring type all the same. -/
theorem seeding_aligns_sample : ∃ reference renamed,
    Catalog.ofModule samplePlayer = .ok reference ∧ Catalog.ofModule sampleRenamed = .ok renamed ∧
      let g := (empty reference renamed).run sampleSeeding
      g.roots = [⟨0⟩, ⟨2⟩] ∧
      g.roots.map (g.unfolding g.types) =
        [.node (⟨0⟩, ⟨0⟩) [.node (⟨1⟩, ⟨1⟩) []], .node (⟨2⟩, ⟨2⟩) []] ∧
      (∀ root ∈ g.roots, g.unfolding g.types root = align renamed reference (g.types root)) ∧
      (g.roots.flatMap fun root => (g.unfolding (fun id => id) root).labels).Perm g.numbers := by
  refine ⟨_, _, rfl, rfl, ?_⟩
  intro g
  have hseeding : ∀ q ∈ sampleSeeding, q.isSeeding = true := by decide
  obtain ⟨-, -, htrees, hpartition, -⟩ :=
    seeding_aligns (rfl : Catalog.ofModule samplePlayer = .ok _)
      (rfl : Catalog.ofModule sampleRenamed = .ok _) sampleSeeding hseeding
  exact ⟨by decide +kernel, rfl, htrees, hpartition⟩

end Concordance

end Concord
