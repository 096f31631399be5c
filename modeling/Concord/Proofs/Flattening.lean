import Concord.Proofs.Catalog
import Mathlib.Data.List.Sort

/-!
# Catalogs lose nothing of a module

`Catalog.Lists g m` says what it means that `g` lists the module `m`: its entries are the types of
`m` in depth-first order (`forestDecls`), each one under its place in this order, under the full
name that its place in the module gives it and linked with its declaring type and those nested in
it. `lists_of_ofModule`: every catalog of a module does. In particular nothing is lost, because
putting the nested types back under each type (`Catalog.tree?`) rebuilds the module.

The listing hands numbers and names down the trees, so each part is an induction over them:

* `map_decl_forestEntries`: the order of the entries.
* `fullName_forestEntries`: a full name is that of the declaring entry, a slash and the name.
* `filterMap_of_forestEntries`: trees whose entries are in a catalog are rebuilt from it.
-/

set_option autoImplicit false

namespace Concord

/-! ## Depth-first order -/

mutual

/-- The types of a tree, each one before those nested in it. -/
def TypeTree.decls : TypeTree → List TypeDecl
  | .node decl nested => decl :: forestDecls nested

/-- The types of several trees. -/
def forestDecls : List TypeTree → List TypeDecl
  | [] => []
  | t :: ts => t.decls ++ forestDecls ts

end

mutual

theorem map_decl_entries (first : Nat) (declaring : Option TypeNumber) (fullName : String) :
    ∀ t : TypeTree, (t.entries first declaring fullName).map (·.decl) = t.decls
  | .node decl nested => by
    rw [TypeTree.entries, List.map_cons, map_decl_nestedEntries, TypeTree.decls]

theorem map_decl_nestedEntries (first : Nat) (declaring : TypeNumber) (outer : String) :
    ∀ ts : List TypeTree, (nestedEntries first declaring outer ts).map (·.decl) = forestDecls ts
  | [] => by rw [nestedEntries, forestDecls, List.map_nil]
  | .node decl nested :: ts => by
    rw [nestedEntries, List.map_append, map_decl_entries, map_decl_nestedEntries, forestDecls]

end

theorem map_decl_forestEntries (first : Nat) (ts : List TypeTree) :
    (forestEntries first ts).map (·.decl) = forestDecls ts := by
  induction ts generalizing first with
  | nil => rw [forestEntries, forestDecls, List.map_nil]
  | cons t ts ih => rw [forestEntries, List.map_append, map_decl_entries, ih, forestDecls]

/-! ## Full names -/

/-- `e` is nested in an entry of `es` and has its full name from it. -/
def NamedIn (es : List CatalogEntry) (e : CatalogEntry) : Prop :=
  ∃ p ∈ es, e.declaring = some p.number ∧ e.fullName = nestedName p.fullName e.name

theorem NamedIn.mono {es es' : List CatalogEntry} {e : CatalogEntry} (h : NamedIn es e)
    (hsub : es ⊆ es') : NamedIn es' e := by
  obtain ⟨p, hp, hd, hname⟩ := h
  exact ⟨p, hsub hp, hd, hname⟩

mutual

theorem fullName_entries (first : Nat) (declaring : Option TypeNumber) (fullName : String) :
    ∀ t : TypeTree, ∀ e ∈ t.entries first declaring fullName,
      (e.declaring = declaring ∧ e.fullName = fullName ∧ e.decl = t.decl) ∨
        NamedIn (t.entries first declaring fullName) e
  | .node decl nested, e, he => by
    rw [TypeTree.entries] at he ⊢
    rcases List.mem_cons.1 he with rfl | he
    · exact .inl ⟨rfl, rfl, rfl⟩
    · rcases fullName_nestedEntries _ _ _ nested e he with ⟨hd, hname⟩ | hin
      · exact .inr ⟨_, List.mem_cons_self, hd, hname⟩
      · exact .inr (hin.mono (List.subset_cons_self _ _))

theorem fullName_nestedEntries (first : Nat) (declaring : TypeNumber) (outer : String) :
    ∀ ts : List TypeTree, ∀ e ∈ nestedEntries first declaring outer ts,
      (e.declaring = some declaring ∧ e.fullName = nestedName outer e.name) ∨
        NamedIn (nestedEntries first declaring outer ts) e
  | [], e, he => by
    rw [nestedEntries] at he
    cases he
  | .node decl nested :: ts, e, he => by
    rw [nestedEntries] at he ⊢
    rcases List.mem_append.1 he with he | he
    · rcases fullName_entries _ _ _ (.node decl nested) e he with ⟨hd, hname, hdecl⟩ | hin
      · exact .inl ⟨hd, by rw [hname, CatalogEntry.name, hdecl, TypeTree.decl]⟩
      · exact .inr (hin.mono (List.subset_append_left _ _))
    · rcases fullName_nestedEntries _ _ _ ts e he with hhead | hin
      · exact .inl hhead
      · exact .inr (hin.mono (List.subset_append_right _ _))

end

/-- A full name is made from the namespace and the name, or from the declaring entry. -/
theorem fullName_forestEntries (first : Nat) (ts : List TypeTree) :
    ∀ e ∈ forestEntries first ts, (e.declaring = none ∧ e.fullName = e.decl.topLevelName) ∨
      NamedIn (forestEntries first ts) e := by
  induction ts generalizing first with
  | nil => simp [forestEntries]
  | cons t ts ih =>
    intro e he
    rw [forestEntries] at he ⊢
    rcases List.mem_append.1 he with he | he
    · rcases fullName_entries _ _ _ t e he with ⟨hd, hname, hdecl⟩ | hin
      · exact .inl ⟨hd, by rw [hname, hdecl]⟩
      · exact .inr (hin.mono (List.subset_append_left _ _))
    · rcases ih _ e he with hhead | hin
      · exact .inl hhead
      · exact .inr (hin.mono (List.subset_append_right _ _))

namespace Catalog

section
variable {m : Module} {g : Catalog} (h : ofModule m = .ok g)
include h

theorem fullName_of_topLevel {x : TypeNumber} {e : CatalogEntry} (he : g.entry? x = some e)
    (hd : e.declaring = none) : e.fullName = e.decl.topLevelName := by
  rcases fullName_forestEntries 0 m.types e ((entry?_eq_some_iff h).1 he).1 with
    ⟨-, hname⟩ | ⟨p, -, hp, -⟩
  · exact hname
  · rw [hd] at hp
    cases hp

theorem fullName_of_nested {x p : TypeNumber} {e q : CatalogEntry} (he : g.entry? x = some e)
    (hd : e.declaring = some p) (hq : g.entry? p = some q) :
    e.fullName = nestedName q.fullName e.name := by
  rcases fullName_forestEntries 0 m.types e ((entry?_eq_some_iff h).1 he).1 with
    ⟨hnone, -⟩ | ⟨p', hp', hd', hname⟩
  · rw [hd] at hnone
    cases hnone
  · rw [hd, Option.some.injEq] at hd'
    have hq' : g.entry? p = some p' := (entry?_eq_some_iff h).2 ⟨hp', hd'.symm⟩
    rw [hq, Option.some.injEq] at hq'
    rw [hname, hq']

end

/-! ## Numbers in order -/

/-- Numbers in ascending order are those of the entries that they belong to, as listed. -/
theorem eq_filter_of_sorted {m : Module} {g : Catalog} (h : ofModule m = .ok g)
    {xs : List TypeNumber} (hsorted : xs.Pairwise (·.index < ·.index)) {p : CatalogEntry → Bool}
    (hmem : ∀ x, x ∈ xs ↔ ∃ e, g.entry? x = some e ∧ p e = true) :
    xs = (g.entries.toList.filter p).map (·.number) := by
  have hentries : g.entries.toList = forestEntries 0 m.types := by rw [(ofModule_ok h).2]
  have hlisted : (g.entries.toList.map (·.number)).Pairwise (·.index < ·.index) := by
    rw [hentries, (forest_block 0 m.types).numbers, List.pairwise_map]
    exact List.pairwise_lt_range'
  have hsorted' : ((g.entries.toList.filter p).map (·.number)).Pairwise (·.index < ·.index) :=
    hlisted.sublist (List.filter_sublist.map _)
  have hmem' : ∀ x, x ∈ (g.entries.toList.filter p).map (·.number) ↔ x ∈ xs := by
    intro x
    rw [hmem, List.mem_map, hentries]
    simp only [List.mem_filter, entry?_eq_some_iff h]
    constructor
    · rintro ⟨e, ⟨he, hp⟩, hx⟩
      exact ⟨e, ⟨he, hx⟩, hp⟩
    · rintro ⟨e, ⟨he, hx⟩, hp⟩
      exact ⟨e, ⟨he, hp⟩, hx⟩
  have hne : ∀ {a b : TypeNumber}, a.index < b.index → a ≠ b := by
    rintro a b hlt rfl
    exact Nat.lt_irrefl _ hlt
  refine List.Perm.eq_of_pairwise (fun a b _ _ hab hba => ?_) hsorted hsorted' ?_
  · omega
  · exact (List.perm_ext_iff_of_nodup (hsorted.imp hne) (hsorted'.imp hne)).2
      fun x => (hmem' x).symm

/-! ## Putting types back together -/

/-- The tree of a type, given a tree for each type nested in it. -/
def attach (g : Catalog) (below : TypeNumber → Option TypeTree) (x : TypeNumber) :
    Option TypeTree :=
  (g.entry? x).map fun e => .node e.decl (e.nested.filterMap below)

/-- The tree of a type in which others are nested less than `depth` deep. -/
def treeWithin (g : Catalog) : Nat → TypeNumber → Option TypeTree
  | 0, _ => none
  | depth + 1, x => g.attach (g.treeWithin depth) x

/-- The tree of a type, put together from the entries. Types are nested less deep than there are
any. -/
def tree? (g : Catalog) (x : TypeNumber) : Option TypeTree := g.treeWithin g.size x

theorem attach_congr {g : Catalog} {x : TypeNumber} {f f' : TypeNumber → Option TypeTree}
    (h : ∀ e, g.entry? x = some e → ∀ y ∈ e.nested, f y = f' y) : g.attach f x = g.attach f' x := by
  unfold attach
  cases he : g.entry? x with
  | none => rfl
  | some e => rw [Option.map_some, Option.map_some, List.filterMap_congr (h e he)]

theorem treeWithin_of_missing {g : Catalog} {x : TypeNumber} (h : g.size ≤ x.index) (depth : Nat) :
    g.treeWithin depth x = none := by
  have hx : g.entry? x = none := Array.getElem?_eq_none h
  cases depth with
  | zero => rfl
  | succ depth => rw [treeWithin, attach, hx, Option.map_none]

theorem Sound.treeWithin_stable {g : Catalog} (hg : g.Sound) {d d' : Nat} {x : TypeNumber}
    (hd : g.size - x.index ≤ d) (hd' : g.size - x.index ≤ d') :
    g.treeWithin d x = g.treeWithin d' x := by
  induction d generalizing d' x with
  | zero =>
    rw [treeWithin_of_missing (by omega), treeWithin_of_missing (by omega)]
  | succ d ih =>
    cases d' with
    | zero => rw [treeWithin_of_missing (by omega), treeWithin_of_missing (by omega)]
    | succ d' =>
      rw [treeWithin, treeWithin]
      refine attach_congr fun e he y hy => ?_
      -- a nested type has a larger number, so there are fewer types behind it
      have hlt : x.index < y.index := (List.pairwise_cons.1 (hg.nested_sorted he)).1 y hy
      have hx : x.index < g.size := of_decide_eq_true (contains_iff.2 ⟨e, he⟩)
      exact ih (by omega) (by omega)

/-- **Trees are put together from those of the nested types**, as deep as these go. -/
theorem Sound.tree?_eq {g : Catalog} (hg : g.Sound) (x : TypeNumber) :
    g.tree? x = g.attach g.tree? x := by
  rw [tree?, hg.treeWithin_stable (Nat.sub_le _ _) (Nat.le_succ_of_le (Nat.sub_le _ _)), treeWithin]
  rfl

section
variable {g : Catalog} {f : TypeNumber → Option TypeTree}

mutual

theorem eq_some_of_entries (hf : ∀ x, f x = g.attach f x) {first : Nat}
    {declaring : Option TypeNumber} {fullName : String} :
    ∀ {t : TypeTree}, (∀ e ∈ t.entries first declaring fullName, g.entry? e.number = some e) →
      f ⟨first⟩ = some t
  | .node decl nested, h => by
    rw [TypeTree.entries] at h
    have hhead := h _ List.mem_cons_self
    have hnested := filterMap_of_nestedEntries hf fun e he => h e (List.mem_cons_of_mem _ he)
    rw [hf, attach, hhead, Option.map_some, hnested]

theorem filterMap_of_nestedEntries (hf : ∀ x, f x = g.attach f x) {first : Nat}
    {declaring : TypeNumber} {outer : String} :
    ∀ {ts : List TypeTree},
      (∀ e ∈ nestedEntries first declaring outer ts, g.entry? e.number = some e) →
      (forestNumbers first ts).filterMap f = ts
  | [], _ => by rw [forestNumbers, List.filterMap_nil]
  | .node decl nested :: ts, h => by
    rw [nestedEntries] at h
    have hhead := eq_some_of_entries hf fun e he => h e (List.mem_append_left _ he)
    have hrest := filterMap_of_nestedEntries hf fun e he => h e (List.mem_append_right _ he)
    rw [forestNumbers, List.filterMap_cons_some hhead, hrest]

end

theorem filterMap_of_forestEntries (hf : ∀ x, f x = g.attach f x) {first : Nat}
    {ts : List TypeTree} (h : ∀ e ∈ forestEntries first ts, g.entry? e.number = some e) :
    (forestNumbers first ts).filterMap f = ts := by
  induction ts generalizing first with
  | nil => rw [forestNumbers, List.filterMap_nil]
  | cons t ts ih =>
    rw [forestEntries] at h
    have hhead := eq_some_of_entries hf fun e he => h e (List.mem_append_left _ he)
    rw [forestNumbers, List.filterMap_cons_some hhead,
      ih fun e he => h e (List.mem_append_right _ he)]

end

/-- **Nothing is lost**: the trees of the roots are the types of the module. -/
theorem filterMap_tree?_roots {m : Module} {g : Catalog} (h : ofModule m = .ok g) :
    g.roots.filterMap g.tree? = m.types := by
  have hroots : g.roots = forestNumbers 0 m.types := by rw [(ofModule_ok h).2]
  rw [hroots]
  exact filterMap_of_forestEntries (sound_of_ofModule h).tree?_eq
    fun e he => (entry?_eq_some_iff h).2 ⟨he, rfl⟩

/-! ## Catalogs and modules -/

/-- The catalog lists the types of a module, and the module can be read off it. -/
structure Lists (g : Catalog) (m : Module) : Prop where
  name : g.name = m.name
  order : g.entries.toList.map (·.decl) = forestDecls m.types
  numbered : ∀ {i : Nat} {e : CatalogEntry}, g.entries[i]? = some e → e.number = ⟨i⟩
  topLevelName : ∀ {x e}, g.entry? x = some e → e.declaring = none →
    e.fullName = if e.decl.namespaceName = "" then e.decl.name
      else e.decl.namespaceName ++ "." ++ e.decl.name
  nestedName : ∀ {x e p q}, g.entry? x = some e → e.declaring = some p → g.entry? p = some q →
    e.fullName = q.fullName ++ "/" ++ e.decl.name
  inverse : ∀ {p x}, (∃ e, g.entry? p = some e ∧ x ∈ e.nested) ↔
    ∃ f, g.entry? x = some f ∧ f.declaring = some p
  declaring_lt : ∀ {p x e}, g.entry? p = some e → x ∈ e.nested → p.index < x.index
  nested : ∀ {p e}, g.entry? p = some e →
    e.nested = (g.entries.toList.filter (·.declaring = some p)).map (·.number)
  roots : g.roots = (g.entries.toList.filter (·.declaring = none)).map (·.number)
  distinct : (g.entries.toList.map (·.fullName)).Nodup
  find : ∀ {s x}, g.find? s = some x ↔ ∃ e, g.entry? x = some e ∧ e.fullName = s
  tree : ∀ x, g.tree? x = (g.entry? x).map fun e => .node e.decl (e.nested.filterMap g.tree?)
  rebuilt : g.roots.filterMap g.tree? = m.types

/-- **Every catalog of a module lists it.** -/
theorem lists_of_ofModule {m : Module} {g : Catalog} (h : ofModule m = .ok g) : g.Lists m := by
  have hg := sound_of_ofModule h
  have hentries : g.entries.toList = forestEntries 0 m.types := by rw [(ofModule_ok h).2]
  constructor
  case name => rw [(ofModule_ok h).2]
  case order => rw [hentries, map_decl_forestEntries]
  case numbered => exact fun {i} {e} he => hg.numbered (x := ⟨i⟩) he
  case topLevelName => exact fun he hd => fullName_of_topLevel h he hd
  case nestedName => exact fun he hd hq => fullName_of_nested h he hd hq
  case inverse =>
    intro p x
    constructor
    · rintro ⟨e, he, hx⟩
      exact (hg.nested_iff he x).1 hx
    · rintro ⟨f, hf, hd⟩
      obtain ⟨e, he⟩ := Option.isSome_iff_exists.1 (hg.declared hf hd)
      exact ⟨e, he, (hg.nested_iff he x).2 ⟨f, hf, hd⟩⟩
  case declaring_lt => exact fun he hx => (List.pairwise_cons.1 (hg.nested_sorted he)).1 _ hx
  case nested =>
    intro p e he
    refine eq_filter_of_sorted h (List.pairwise_cons.1 (hg.nested_sorted he)).2 fun x => ?_
    simpa using hg.nested_iff he x
  case roots => exact eq_filter_of_sorted h hg.roots_sorted fun x => by simpa using hg.roots_iff x
  case distinct =>
    rw [hentries]
    exact (ofModule_ok h).1
  case find => exact hg.find?_eq_some_iff
  case tree => exact hg.tree?_eq
  case rebuilt => exact filterMap_tree?_roots h

/-- Separators stand in names, a nested type has a namespace, and types are nested twice. -/
def sampleNest : Module where
  name := "Nest.dll"
  types :=
    [.node { namespaceName := "A.B", name := "C", fields := [⟨"f", "System.Int32"⟩] }
      [.node { namespaceName := "N", name := "D/E" } [.node { name := "F" } []],
        .node { name := "D" } []],
      .node { name := "A.B.C/D.E" } []]

theorem lists_sampleNest : ∃ g, ofModule sampleNest = .ok g ∧ g.Lists sampleNest ∧
    g.entries.toList.map (fun e => (e.number.index, e.fullName, e.declaring.map (·.index))) =
      [(0, "A.B.C", none), (1, "A.B.C/D/E", some 0), (2, "A.B.C/D/E/F", some 1),
        (3, "A.B.C/D", some 0), (4, "A.B.C/D.E", none)] := by
  obtain ⟨g, hg⟩ : ∃ g, ofModule sampleNest = .ok g := ⟨_, rfl⟩
  refine ⟨g, hg, lists_of_ofModule hg, ?_⟩
  cases hg
  decide

end Catalog

end Concord
