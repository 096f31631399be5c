import Concord.Proofs.Outlines

/-!
# Independent seeds

Every seed adds to one concordance, and names in signatures are resolved by all that is bound there.
So a seed can change what is recovered in the tree of another one: a method may find or lose its
counterpart, or there may suddenly be two. This is the only way. Two lists of seeds that bind
different types, none of which is named in the signatures of what the other list binds, can be used
together or apart (`recoverNames_append`).

* `roots_append`, `bindings_append`: the roots of both lists, one behind the other, and all that is
  bound under them.
* `resolve_of_extended`: a name is resolved as before, unless it is that of a type bound since.
* `names_of_extended`: a tree stays as it was, unless such a name stands in one of its signatures.
-/

set_option autoImplicit false

namespace Concord

open Concordance Unfolding

/-- The renamed types that are bound, nested ones included. -/
def Concordance.boundTypes (g : Concordance) : List TypeNumber := g.bindings.map (·.1)

/-- The renamed types that seeding with a list of seeds binds. -/
def typesBoundBy (settings : Settings) (reference renamed : Catalog) (seeds : List Seed) :
    List TypeNumber :=
  (seeded reference renamed seeds settings).concordance.boundTypes

/-! ## Roots of two lists -/

theorem mem_map_fst_foldl_addRoot {x : TypeNumber} {acc pairs : List (TypeNumber × TypeNumber)} :
    x ∈ (pairs.foldl addRoot acc).map (·.1) ↔ x ∈ acc.map (·.1) ∨ x ∈ pairs.map (·.1) := by
  induction pairs generalizing acc with
  | nil => simp
  | cons pair rest ih =>
    rw [List.foldl_cons, ih, mem_map_fst_addRoot, List.map_cons, List.mem_cons, or_assoc]

/-- Pairs are added behind others whose renamed types they do not share as they are without them. -/
theorem foldl_addRoot_append {start pairs : List (TypeNumber × TypeNumber)}
    (h : ∀ pair ∈ pairs, pair.1 ∉ start.map (·.1)) (acc : List (TypeNumber × TypeNumber)) :
    pairs.foldl addRoot (start ++ acc) = start ++ pairs.foldl addRoot acc := by
  induction pairs generalizing acc with
  | nil => rfl
  | cons pair rest ih =>
    have hpair := h pair List.mem_cons_self
    have hfirst : addRoot (start ++ acc) pair = start ++ addRoot acc pair := by
      simp only [addRoot, List.map_append, List.mem_append, hpair, false_or]
      split
      · rfl
      · rw [List.append_assoc]
    rw [List.foldl_cons, List.foldl_cons, hfirst]
    exact ih (fun p hp => h p (List.mem_cons_of_mem _ hp)) _

theorem mem_labels_align {renamed reference : Catalog} (hr : renamed.Sound)
    (pair : TypeNumber × TypeNumber) : pair ∈ (align renamed reference pair).labels := by
  rw [align_eq hr, labels]
  exact List.mem_cons_self

section
variable {reference renamed : Catalog} (hr : renamed.Sound) (hc : reference.Sound)
  {settings : Settings}
include hr hc

/-- What stands in the alignment of a root is bound. -/
theorem mem_typesBoundBy {seeds : List Seed} {root pair : TypeNumber × TypeNumber}
    (hroot : root ∈ (seedPairs settings reference renamed seeds).foldl addRoot [])
    (hpair : pair ∈ (align renamed reference root).labels) :
    pair.1 ∈ typesBoundBy settings reference renamed seeds := by
  have hbound := (bindings_seeded hr hc seeds settings).mem_iff.2
    (List.mem_flatMap.2 ⟨root, hroot, hpair⟩)
  exact List.mem_map_of_mem hbound

/-- The renamed types of the roots, and those that seeds stand for, are bound. -/
theorem mem_typesBoundBy_of_seed {seeds : List Seed} {x : TypeNumber}
    (hx : x ∈ (seedPairs settings reference renamed seeds).map (·.1)) :
    x ∈ typesBoundBy settings reference renamed seeds := by
  have hm : x ∈ ((seedPairs settings reference renamed seeds).foldl addRoot []).map (·.1) :=
    mem_map_fst_foldl_addRoot.2 (.inr hx)
  obtain ⟨root, hroot, rfl⟩ := List.mem_map.1 hm
  exact mem_typesBoundBy hr hc hroot (mem_labels_align hr root)

section
variable (hpairs : settings.pairByName = false) {first second : List Seed}
  (hdisjoint : ∀ x ∈ typesBoundBy settings reference renamed first,
    x ∉ typesBoundBy settings reference renamed second)
include hpairs hdisjoint

/-- **The roots of two lists** of seeds that bind different types, one behind the other. -/
theorem roots_append :
    (seedPairs settings reference renamed (first ++ second)).foldl addRoot [] =
      (seedPairs settings reference renamed first).foldl addRoot [] ++
        (seedPairs settings reference renamed second).foldl addRoot [] := by
  have happend : seedPairs settings reference renamed (first ++ second) =
      seedPairs settings reference renamed first ++
        seedPairs settings reference renamed second := by
    simp [seedPairs, hpairs]
  rw [happend, List.foldl_append]
  conv_lhs => rw [← List.append_nil ((seedPairs settings reference renamed first).foldl addRoot [])]
  refine foldl_addRoot_append (fun pair hpair hm => ?_) []
  have hfirst : pair.1 ∈ (seedPairs settings reference renamed first).map (·.1) := by
    simpa using mem_map_fst_foldl_addRoot.1 hm
  exact hdisjoint _ (mem_typesBoundBy_of_seed hr hc hfirst)
    (mem_typesBoundBy_of_seed hr hc (List.mem_map_of_mem hpair))

theorem bindings_append :
    (seeded reference renamed (first ++ second) settings).concordance.bindings.Perm
      ((seeded reference renamed first settings).concordance.bindings ++
        (seeded reference renamed second settings).concordance.bindings) := by
  refine (bindings_seeded hr hc _ settings).trans ?_
  rw [roots_append hr hc hpairs hdisjoint, List.flatMap_append]
  exact ((bindings_seeded hr hc first settings).append (bindings_seeded hr hc second settings)).symm

end

/-! ## Trees among other trees -/

section
variable {seeds part : List Seed} {rest : List (TypeNumber × TypeNumber)}
  (hbindings : (seeded reference renamed seeds settings).concordance.bindings.Perm
    ((seeded reference renamed part settings).concordance.bindings ++ rest))
include hbindings

/-- A name is resolved as before if it is not that of a type bound since. -/
theorem resolve_of_extended {s : String} (hs : ∀ x ∈ rest.map (·.1), renamed.fullName x ≠ s) :
    (recoveryFrom reference renamed seeds settings).resolve s =
      (recoveryFrom reference renamed part settings).resolve s := by
  have hseeds := (seeded_rooted hr hc seeds settings).2.complete.wellFormed
  have hpart := (seeded_rooted hr hc part settings).2.complete.wellFormed
  rw [resolve_recoveryFrom hr hc, resolve_recoveryFrom hr hc]
  cases hx : renamed.find? s with
  | none => rfl
  | some x =>
    obtain ⟨e, he, rfl⟩ := hr.find?_eq_some_iff.1 hx
    have hnew : x ∉ rest.map (·.1) := fun hm => hs x hm (Catalog.fullName_of_entry? he)
    have hsame : (seeded reference renamed seeds settings).concordance.referenceOf? x =
        (seeded reference renamed part settings).concordance.referenceOf? x := by
      refine Option.ext fun y => ?_
      rw [hseeds.referenceOf?_eq_some_iff, hpart.referenceOf?_eq_some_iff, hbindings.mem_iff,
        List.mem_append]
      exact ⟨fun h => h.resolve_right fun hm => hnew (List.mem_map_of_mem hm), .inl⟩
    rw [Option.bind_some, Option.bind_some, hsame]

/-- **A tree stays as it was** when more is bound, unless a name in a signature of its types is that
of a type bound since. -/
theorem names_of_extended
    (hapart : ∀ x ∈ typesBoundBy settings reference renamed part, ∀ y ∈ rest.map (·.1),
      renamed.fullName y ∉ renamed.parameterTypes x)
    {root : TypeNumber × TypeNumber}
    (hroot : root ∈ (seedPairs settings reference renamed part).foldl addRoot []) :
    (recoveryFrom reference renamed seeds settings).names (align renamed reference root) =
      (recoveryFrom reference renamed part settings).names (align renamed reference root) := by
  refine Recovery.names_congr_on _ fun pair hpair => ?_
  refine Recovery.namesAt_on_of_parameters (m := recoveryFrom reference renamed part settings)
    (k := (seeded reference renamed seeds settings).concordance)
    ((renamed_recoveryFrom hr hc seeds _).trans (renamed_recoveryFrom hr hc part _).symm)
    ((reference_recoveryFrom hr hc seeds _).trans (reference_recoveryFrom hr hc part _).symm)
    fun s hs => ?_
  rw [renamed_recoveryFrom hr hc] at hs
  refine resolve_of_extended hr hc hbindings fun y hy hname => ?_
  exact hapart _ (mem_typesBoundBy hr hc hroot hpair) y hy (hname ▸ hs)

end

end

/-- **Independent seeds compose.** If two lists of seeds bind different types, and no method of a
type that one of them binds has a parameter of a type that the other one binds, then they give
together the trees that they give apart, one behind the other. -/
theorem recoverNames_append {clean obfuscated : Module} {reference renamed : Catalog}
    (hclean : Catalog.ofModule clean = .ok reference)
    (hobfuscated : Catalog.ofModule obfuscated = .ok renamed) {settings : Settings}
    (hpairs : settings.pairByName = false) (first second : List Seed)
    (hdisjoint : ∀ x ∈ typesBoundBy settings reference renamed first,
      x ∉ typesBoundBy settings reference renamed second)
    (hfirst : ∀ x ∈ typesBoundBy settings reference renamed first,
      ∀ y ∈ typesBoundBy settings reference renamed second,
        renamed.fullName y ∉ renamed.parameterTypes x)
    (hsecond : ∀ y ∈ typesBoundBy settings reference renamed second,
      ∀ x ∈ typesBoundBy settings reference renamed first,
        renamed.fullName x ∉ renamed.parameterTypes y) :
    ∃ forest forest' : NameForest,
      (recoverNames reference renamed first settings).value = .ok forest ∧
      (recoverNames reference renamed second settings).value = .ok forest' ∧
      (recoverNames reference renamed (first ++ second) settings).value =
        .ok { types := forest.types ++ forest'.types } := by
  have hr : renamed.Sound := Catalog.sound_of_ofModule hobfuscated
  have hc : reference.Sound := Catalog.sound_of_ofModule hclean
  refine ⟨_, _, value_recoverNames hr hc first, value_recoverNames hr hc second, ?_⟩
  have hbindings := bindings_append hr hc hpairs hdisjoint
  have htrees : (recoveryFrom reference renamed (first ++ second) settings).rootTrees =
      (recoveryFrom reference renamed first settings).rootTrees ++
        (recoveryFrom reference renamed second settings).rootTrees := by
    simp only [rootTrees_recoveryFrom hr hc, roots_append hr hc hpairs hdisjoint,
      List.map_append]
    congr 1
    · refine List.map_congr_left fun root hroot => ?_
      rw [names_of_extended hr hc hbindings hfirst hroot]
    · refine List.map_congr_left fun root hroot => ?_
      rw [names_of_extended hr hc (hbindings.trans List.perm_append_comm) hsecond hroot]
  rw [value_recoverNames hr hc, htrees, List.filterMap_append]

/-- A type with a method that takes another one of its kind, and with a type nested in it, beside a
type with a method that takes a number. -/
def sampleParty (host inner greet guest leave : String) : Module where
  name := "Game.dll"
  types :=
    [.node
      { namespaceName := "Game", name := host
        methods := [{ name := greet, returnType := "System.Void"
                      parameters := [⟨"other", "Game." ++ host⟩] }] }
      [.node { name := inner } []],
    .node
      { namespaceName := "Game", name := guest
        methods := [{ name := leave, returnType := "System.Void"
                      parameters := [⟨"after", "System.Int32"⟩] }] }
      []]

theorem recoverNames_append_sample :
    let clean := sampleParty "Host" "Hall" "Greet" "Guest" "Leave"
    let obfuscated :=
      sampleParty "ABCDEFGHIJK" "BCDEFGHIJKL" "CDEFGHIJKLM" "DEFGHIJKLMN" "EFGHIJKLMNO"
    let first : List Seed := [⟨"Game.ABCDEFGHIJK", "Game.Host", 1.0⟩]
    let second : List Seed := [⟨"Game.DEFGHIJKLMN", "Game.Guest", 1.0⟩]
    ∃ reference renamed, Catalog.ofModule clean = .ok reference ∧
      Catalog.ofModule obfuscated = .ok renamed ∧
      typesBoundBy {} reference renamed first = [⟨0⟩, ⟨1⟩] ∧
      typesBoundBy {} reference renamed second = [⟨2⟩] ∧
      (recoverNames reference renamed (first ++ second) {}).value.toOption.map (fun forest =>
        forest.types.map fun t => (t.recovered, t.methods.map (·.recovered))) =
          some [(some "Host", ["Greet"]), (some "Guest", ["Leave"])] ∧
      ∃ forest forest' : NameForest,
        (recoverNames reference renamed first {}).value = .ok forest ∧
        (recoverNames reference renamed second {}).value = .ok forest' ∧
        (recoverNames reference renamed (first ++ second) {}).value =
          .ok { types := forest.types ++ forest'.types } := by
  intro clean obfuscated first second
  refine ⟨_, _, rfl, rfl, by decide +kernel, by decide +kernel, by decide +kernel, ?_⟩
  exact recoverNames_append (rfl : Catalog.ofModule clean = .ok _)
    (rfl : Catalog.ofModule obfuscated = .ok _) rfl first second (by decide +kernel)
    (by decide +kernel) (by decide +kernel)

end Concord
