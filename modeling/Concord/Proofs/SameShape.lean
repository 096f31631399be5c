import Concord.Proofs.Roots
import Mathlib.Data.List.Forall2

/-!
# Seeding modules of the same shape

Two modules have the same shape if their types stand at the same places. Types at the same place
have the same number (`samePlace_forestEntries`), so that seeding with the pairs of types that are
not nested binds every renamed type to the reference type of its own number:

* `pairs_of_seedAt`: each of these seeds stands for the pair of types at its place.
* `Complete.bound_to_place`: in a complete concordance the nested types follow their declaring
  types, by induction on the number.
* `seeded_spec`: planting namesakes changes nothing, because no renamed type is left.
-/

set_option autoImplicit false

namespace Concord

/-! ## Shapes -/

mutual

/-- Two types have types nested in them at the same places. -/
def TypeTree.SameShape : TypeTree → TypeTree → Prop
  | .node _ nested, .node _ nested' => SameShapes nested nested'

/-- Two lists of types have the same shapes, one by one. -/
def SameShapes : List TypeTree → List TypeTree → Prop
  | [], [] => True
  | t :: ts, u :: us => t.SameShape u ∧ SameShapes ts us
  | _, _ => False

end

mutual

theorem size_eq_of_sameShape : ∀ {t u : TypeTree}, t.SameShape u → t.size = u.size
  | .node _ _, .node _ _, h => by
    rw [TypeTree.size, TypeTree.size, forestSize_eq_of_sameShapes h]

theorem forestSize_eq_of_sameShapes : ∀ {ts us : List TypeTree}, SameShapes ts us →
    forestSize ts = forestSize us
  | [], [], _ => rfl
  | _ :: _, _ :: _, h => by
    rw [forestSize, forestSize, size_eq_of_sameShape h.1, forestSize_eq_of_sameShapes h.2]

end

theorem forestNumbers_eq_of_sameShapes : ∀ {ts us : List TypeTree} (first : Nat), SameShapes ts us →
    forestNumbers first ts = forestNumbers first us
  | [], [], _, _ => rfl
  | _ :: _, _ :: _, first, h => by
    rw [forestNumbers, forestNumbers, size_eq_of_sameShape h.1,
      forestNumbers_eq_of_sameShapes _ h.2]

/-- Two entries stand at the same place of their catalogs. -/
structure SamePlace (e f : CatalogEntry) : Prop where
  number : e.number = f.number
  declaring : e.declaring = f.declaring
  nested : e.nested = f.nested

mutual

theorem samePlace_entries : ∀ {t u : TypeTree} (first : Nat) (declaring : Option TypeNumber)
    (n n' : String), t.SameShape u →
      List.Forall₂ SamePlace (t.entries first declaring n) (u.entries first declaring n')
  | .node _ _, .node _ _, first, declaring, n, n', h => by
    rw [TypeTree.entries, TypeTree.entries]
    exact .cons ⟨rfl, rfl, forestNumbers_eq_of_sameShapes _ h⟩ (samePlace_nestedEntries _ _ _ _ h)

theorem samePlace_nestedEntries : ∀ {ts us : List TypeTree} (first : Nat) (declaring : TypeNumber)
    (n n' : String), SameShapes ts us →
      List.Forall₂ SamePlace (nestedEntries first declaring n ts)
        (nestedEntries first declaring n' us)
  | [], [], _, _, _, _, _ => by
    rw [nestedEntries, nestedEntries]
    exact .nil
  | .node _ _ :: _, .node _ _ :: _, first, declaring, n, n', h => by
    rw [nestedEntries, nestedEntries, size_eq_of_sameShape h.1]
    exact List.rel_append (samePlace_entries _ _ _ _ h.1) (samePlace_nestedEntries _ _ _ _ h.2)

end

/-- Types at the same place have the same number. -/
theorem samePlace_forestEntries : ∀ {ts us : List TypeTree} (first : Nat), SameShapes ts us →
    List.Forall₂ SamePlace (forestEntries first ts) (forestEntries first us)
  | [], [], _, _ => .nil
  | _ :: _, _ :: _, first, h => by
    rw [forestEntries, forestEntries, size_eq_of_sameShape h.1]
    exact List.rel_append (samePlace_entries _ _ _ _ h.1) (samePlace_forestEntries _ h.2)

theorem length_forestNumbers (first : Nat) (ts : List TypeTree) :
    (forestNumbers first ts).length = ts.length := by
  induction ts generalizing first with
  | nil => rfl
  | cons t ts ih => rw [forestNumbers, List.length_cons, ih, List.length_cons]

theorem length_eq_of_sameShapes : ∀ {ts us : List TypeTree}, SameShapes ts us →
    ts.length = us.length
  | [], [], _ => rfl
  | _ :: _, _ :: _, h => congrArg (· + 1) (length_eq_of_sameShapes h.2)

/-- The types of two modules that are not nested, under their numbers. -/
def rootPairs (first : Nat) (ts us : List TypeTree) : List (TypeNumber × TypeTree × TypeTree) :=
  (forestNumbers first us).zip (ts.zip us)

theorem length_zip_of_sameShapes {ts us : List TypeTree} (first : Nat) (h : SameShapes ts us) :
    (forestNumbers first us).length = (ts.zip us).length := by
  rw [length_forestNumbers, List.length_zip, length_eq_of_sameShapes h, Nat.min_self]

theorem map_fst_rootPairs {ts us : List TypeTree} (first : Nat) (h : SameShapes ts us) :
    (rootPairs first ts us).map (·.1) = forestNumbers first us :=
  List.map_fst_zip (Nat.le_of_eq (length_zip_of_sameShapes first h))

theorem map_snd_rootPairs {ts us : List TypeTree} (first : Nat) (h : SameShapes ts us) :
    (rootPairs first ts us).map (·.2) = ts.zip us :=
  List.map_snd_zip (Nat.le_of_eq (length_zip_of_sameShapes first h).symm)

/-- What is listed for a type that is not nested is a part of the listing of the module. -/
theorem mem_rootPairs : ∀ {ts us : List TypeTree} {first : Nat}, SameShapes ts us →
    ∀ {x : TypeNumber} {t u : TypeTree}, (x, t, u) ∈ rootPairs first ts us → t.SameShape u ∧
      (∀ e ∈ t.entries x.index none t.decl.topLevelName, e ∈ forestEntries first ts) ∧
      ∀ f ∈ u.entries x.index none u.decl.topLevelName, f ∈ forestEntries first us
  | [], [], _, _, _, _, _, hx => by cases hx
  | t :: ts, u :: us, first, h, x, t', u', hx => by
    rw [rootPairs, forestNumbers, List.zip_cons_cons, List.zip_cons_cons] at hx
    rw [forestEntries, forestEntries]
    rcases List.mem_cons.1 hx with heq | hx
    · cases heq
      exact ⟨h.1, fun e he => List.mem_append_left _ he, fun f hf => List.mem_append_left _ hf⟩
    · obtain ⟨hshape, he, hf⟩ := mem_rootPairs h.2 hx
      rw [size_eq_of_sameShape h.1]
      exact ⟨hshape, fun e hm => List.mem_append_right _ (he e hm),
        fun f hm => List.mem_append_right _ (hf f hm)⟩

/-- What relates the listings of two modules one by one relates the entries of one number. -/
theorem Catalog.exists_entry?_of_forall₂ {m m' : Module} {c r : Catalog} (hc : ofModule m = .ok c)
    (hr : ofModule m' = .ok r) {R : CatalogEntry → CatalogEntry → Prop}
    (h : List.Forall₂ R (forestEntries 0 m.types) (forestEntries 0 m'.types)) {x : TypeNumber}
    {f : CatalogEntry} (hf : r.entry? x = some f) : ∃ e, c.entry? x = some e ∧ R e f := by
  rw [(ofModule_ok hr).2] at hf
  rw [(ofModule_ok hc).2]
  simp only [List.getElem?_toArray, entry?] at hf ⊢
  obtain ⟨hx, rfl⟩ := List.getElem?_eq_some_iff.1 hf
  have hx' : x.index < (forestEntries 0 m.types).length := h.length_eq ▸ hx
  exact ⟨_, List.getElem?_eq_getElem hx', h.get hx' hx⟩

/-! ## Every type is bound to its own place -/

namespace Concordance

variable {g : Concordance}

theorem nestedPairs_self {renamed reference : Catalog} {x : TypeNumber} {e f : CatalogEntry}
    (hf : renamed.entry? x = some f) (he : reference.entry? x = some e) (hplace : SamePlace e f) :
    nestedPairs renamed reference (x, x) = f.nested.map fun y => (y, y) := by
  simp only [nestedPairs, hf, he, hplace.nested, if_true]
  induction f.nested with
  | nil => rfl
  | cons y ys ih => rw [List.zip_cons_cons, ih, List.map_cons]

/-- Every type is bound to its own place as soon as those are that are not nested. -/
theorem Complete.bound_to_place (h : g.Complete) (hr : g.renamed.Sound)
    (hplace : ∀ {x f}, g.renamed.entry? x = some f →
      ∃ e, g.reference.entry? x = some e ∧ SamePlace e f)
    (hroots : ∀ x ∈ g.renamed.roots, ∃ id, id.index < g.size ∧ g.types id = (x, x))
    {x : TypeNumber} {f : CatalogEntry} (hf : g.renamed.entry? x = some f) :
    ∃ id, id.index < g.size ∧ g.types id = (x, x) := by
  -- the declaring type has a smaller number
  induction hk : x.index using Nat.strongRecOn generalizing x f with
  | ind k ih =>
    cases hd : f.declaring with
    | none => exact hroots x ((hr.roots_iff x).2 ⟨f, hf, hd⟩)
    | some p =>
      obtain ⟨q, hq⟩ := Option.isSome_iff_exists.1 (hr.declared hf hd)
      have hx : x ∈ q.nested := (hr.nested_iff hq x).2 ⟨f, hf, hd⟩
      have hlt : p.index < x.index := (List.pairwise_cons.1 (hr.nested_sorted hq)).1 x hx
      obtain ⟨parent, hparent, htypes⟩ := ih p.index (hk ▸ hlt) hq rfl
      obtain ⟨e, he, hpq⟩ := hplace hq
      have hchildren := h.map_nestedOf hparent
      rw [htypes, nestedPairs_self hq he hpq] at hchildren
      have hm : (x, x) ∈ (g.nestedOf parent).map g.types := by
        rw [hchildren]
        exact List.mem_map_of_mem hx
      obtain ⟨id, hid, hidx⟩ := List.mem_map.1 hm
      obtain ⟨n, hn, -⟩ := h.mem_nested_iff.1 hid
      exact ⟨id, index_lt_size hn, hidx⟩

/-! ## Using seeds -/

/-- A seed names the types at one place, which is not nested. -/
structure SeedAt (reference renamed : Catalog) (s : Seed) (x : TypeNumber) : Prop where
  renamed : ∃ f, renamed.entry? x = some f ∧ f.fullName = s.renamed ∧ f.declaring = none
  reference : ∃ e, reference.entry? x = some e ∧ e.fullName = s.reference ∧ e.declaring = none

section
variable {settings : Settings} {reference renamed : Catalog}

/-- Seeds for places stand for the pairs of types there. -/
theorem pairs_of_seedAt (hr : renamed.Sound) (hc : reference.Sound) {seeds : List Seed}
    {xs : List TypeNumber} (hseeds : List.Forall₂ (SeedAt reference renamed) seeds xs)
    (hscores : ∀ s ∈ seeds, ¬ s.score < settings.minScore) :
    seeds.filterMap (Seed.pair? settings reference renamed) = xs.map fun x => (x, x) := by
  induction hseeds with
  | nil => rfl
  | @cons s x seeds xs hs _ ih =>
    have hpair : s.pair? settings reference renamed = some (x, x) :=
      Seed.pair?_eq_some_iff.2 ⟨hscores s List.mem_cons_self, hr.root?_eq_some_iff.2 hs.renamed,
        hc.root?_eq_some_iff.2 hs.reference⟩
    rw [List.filterMap_cons_some hpair, List.map_cons,
      ih fun t ht => hscores t (List.mem_cons_of_mem _ ht)]

/-- **Seeding modules of the same shape** binds every type to its own place. -/
theorem seeded_spec (hr : renamed.Sound) (hc : reference.Sound)
    (hplace : ∀ {x f}, renamed.entry? x = some f →
      ∃ e, reference.entry? x = some e ∧ SamePlace e f)
    {seeds : List Seed} {xs : List TypeNumber}
    (hseeds : List.Forall₂ (SeedAt reference renamed) seeds xs)
    (hscores : ∀ s ∈ seeds, ¬ s.score < settings.minScore) (hxs : xs.Perm renamed.roots) :
    (seeded reference renamed seeds settings).answer = .ok () ∧
    let g := (seeded reference renamed seeds settings).concordance
    g.Complete ∧ g.reference = reference ∧ g.renamed = renamed ∧
      g.roots.map g.types = (xs.map fun x => (x, x)) ∧
      ∀ {x f}, renamed.entry? x = some f → ∃ id, id.index < g.size ∧ g.types id = (x, x) := by
  obtain ⟨hanswer, hcomplete, hgrows, hroots⟩ := seeded_rooted hr hc seeds settings
  refine ⟨hanswer, ?_⟩
  intro g
  have hgr : g.renamed = renamed := hgrows.renamed
  have hgc : g.reference = reference := hgrows.reference
  have hfst : (xs.map fun x => (x, x)).map (·.1) = xs := by simp [Function.comp_def]
  have hnodup : xs.Nodup := hxs.nodup_iff.2 hr.nodup_roots
  -- no renamed type is left to namesakes
  have hnamesakes : ∀ pair ∈ (if settings.pairByName then namesakes reference renamed else []),
      pair.1 ∈ (xs.map fun x => (x, x)).map (·.1) := by
    intro pair hm
    rw [hfst, hxs.mem_iff, hr.roots_iff]
    split at hm
    · obtain ⟨y, -, hpair⟩ := List.mem_filterMap.1 hm
      obtain ⟨x, hx, rfl⟩ := Option.map_eq_some_iff.1 hpair
      obtain ⟨f, hf, -, hd⟩ := hr.root?_eq_some_iff.1 hx
      exact ⟨f, hf, hd⟩
    · cases hm
  have hroots' : g.roots.map g.types = xs.map fun x => (x, x) := by
    refine hroots.trans ?_
    rw [seedPairs, List.foldl_append, pairs_of_seedAt hr hc hseeds hscores]
    have hseeded : (xs.map fun x => (x, x)).foldl addRoot (empty reference renamed).rootTypes =
        xs.map fun x => (x, x) := foldl_addRoot_of_nodup [] (hfst.symm ▸ hnodup)
    rw [hseeded]
    exact foldl_addRoot_eq_self hnamesakes
  have hbound : ∀ y ∈ renamed.roots, ∃ id, id.index < g.size ∧ g.types id = (y, y) := by
    intro y hy
    have hm : (y, y) ∈ g.roots.map g.types := by
      rw [hroots']
      exact List.mem_map_of_mem (hxs.mem_iff.2 hy)
    obtain ⟨id, hid, hidy⟩ := List.mem_map.1 hm
    exact ⟨id, hcomplete.wellFormed.index_lt_of_mem_roots hid, hidy⟩
  refine ⟨hcomplete, hgc, hgr, hroots', fun {x f} hf => ?_⟩
  rw [← hgr] at hr hplace hf hbound
  rw [← hgc] at hplace
  exact hcomplete.bound_to_place hr hplace hbound hf

end

end Concordance

end Concord
