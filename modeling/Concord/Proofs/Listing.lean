import Concord.Module.Catalog
import Mathlib.Data.List.Nodup

/-!
# Inserting types lists them

The entries of a forest can be told without inserting anything: the number of a type follows from
the sizes of the trees before it, and the types nested in it are known from the start
(`TypeTree.entries`, `forestEntries`, `forestNumbers`). Inserting gives these entries, and it is
refused just if one of their full names is taken, for the first one that is (`firstRepeated?`):
`insert_eq`, `insertNested_eq` and, for whole modules, `ofModule_eq`.

The numbers of nested types are noted one after another while inserting goes on. That comes to the
same as noting all of them at the end (`nestAll`), because entries that are added behind others
leave these alone (`extend_nestAll`).
-/

set_option autoImplicit false

namespace Concord

/-! ## The entries of trees -/

mutual

/-- The number of types in a tree. -/
def TypeTree.size : TypeTree → Nat
  | .node _ nested => forestSize nested + 1

/-- The number of types in a forest. -/
def forestSize : List TypeTree → Nat
  | [] => 0
  | t :: ts => t.size + forestSize ts

end

/-- The numbers of the roots of a forest that starts at number `first`. -/
def forestNumbers (first : Nat) : List TypeTree → List TypeNumber
  | [] => []
  | t :: ts => ⟨first⟩ :: forestNumbers (first + t.size) ts

mutual

/-- The entries of a tree in depth-first order, from number `first` on. -/
def TypeTree.entries (first : Nat) (declaring : Option TypeNumber) (fullName : String) :
    TypeTree → List CatalogEntry
  | .node decl nested =>
    { number := ⟨first⟩, fullName, declaring, nested := forestNumbers (first + 1) nested, decl } ::
      nestedEntries (first + 1) ⟨first⟩ fullName nested

/-- The entries of the types nested in one of full name `outer`. -/
def nestedEntries (first : Nat) (declaring : TypeNumber) (outer : String) :
    List TypeTree → List CatalogEntry
  | [] => []
  | .node decl nested :: ts =>
    TypeTree.entries first (some declaring) (nestedName outer decl.name) (.node decl nested) ++
      nestedEntries (first + TypeTree.size (.node decl nested)) declaring outer ts

end

/-- The entries of the types that are not nested in others. -/
def forestEntries (first : Nat) : List TypeTree → List CatalogEntry
  | [] => []
  | t :: ts =>
    t.entries first none t.decl.topLevelName ++ forestEntries (first + t.size) ts

mutual

theorem length_entries (first : Nat) (declaring : Option TypeNumber) (fullName : String) :
    ∀ t : TypeTree, (t.entries first declaring fullName).length = t.size
  | .node decl nested => by
    rw [TypeTree.entries, List.length_cons, length_nestedEntries, TypeTree.size]

theorem length_nestedEntries (first : Nat) (declaring : TypeNumber) (outer : String) :
    ∀ ts : List TypeTree, (nestedEntries first declaring outer ts).length = forestSize ts
  | [] => by simp [nestedEntries, forestSize]
  | .node decl nested :: ts => by
    rw [nestedEntries, List.length_append, length_entries, length_nestedEntries, forestSize]

end

/-! ## Repeated names -/

/-- The first text of a list that is among `seen` or equals an earlier one. -/
def firstRepeated? (seen : List String) : List String → Option String
  | [] => none
  | s :: rest => if seen.contains s then some s else firstRepeated? (s :: seen) rest

theorem firstRepeated?_eq_none {seen l : List String} (h : firstRepeated? seen l = none) :
    l.Nodup ∧ ∀ s ∈ l, s ∉ seen := by
  induction l generalizing seen with
  | nil => simp
  | cons s rest ih =>
    simp only [firstRepeated?] at h
    split at h
    · cases h
    · rename_i hs
      simp only [List.contains_eq_mem, decide_eq_true_eq] at hs
      obtain ⟨hnd, hrest⟩ := ih h
      have hfresh : s ∉ rest := fun hm => hrest s hm List.mem_cons_self
      refine ⟨List.nodup_cons.2 ⟨hfresh, hnd⟩, fun u hu => ?_⟩
      rcases List.mem_cons.1 hu with rfl | hu
      · exact hs
      · exact fun hm => hrest u hu (List.mem_cons_of_mem _ hm)

theorem firstRepeated?_append (seen l l' : List String) : firstRepeated? seen (l ++ l') =
    (firstRepeated? seen l).or (firstRepeated? (l.reverse ++ seen) l') := by
  induction l generalizing seen with
  | nil => rfl
  | cons s l ih =>
    rw [List.cons_append, firstRepeated?, firstRepeated?]
    split
    · rfl
    · rw [ih, List.reverse_cons, List.append_assoc]
      rfl

namespace Catalog

variable {g : Catalog} {es es' : List CatalogEntry} {outer : TypeNumber}

/-- Two catalogs with the same entries, place by place, are equal if their other parts are. -/
theorem eq_of_entries {g' : Catalog} (hentries : ∀ i : Nat, g.entries[i]? = g'.entries[i]?)
    (hname : g.name = g'.name) (hroots : g.roots = g'.roots) (hbyName : g.byName = g'.byName) :
    g = g' := by
  cases g
  cases g'
  rw [mk.injEq]
  exact ⟨hname, Array.ext_getElem? hentries, hroots, hbyName⟩

/-! ## Adding entries -/

/-- The catalog with entries behind its own. -/
def append (g : Catalog) (es : List CatalogEntry) : Catalog :=
  { g with
    entries := g.entries ++ es.toArray
    byName := (es.map fun e => (e.fullName, e.number)).reverse ++ g.byName }

/-- The catalog with entries behind its own. It is refused if one of their full names is taken. -/
def extend (g : Catalog) (es : List CatalogEntry) : Except DuplicateName Catalog :=
  match firstRepeated? (g.byName.map (·.1)) (es.map (·.fullName)) with
  | some fullName => .error { moduleName := g.name, fullName }
  | none => .ok (g.append es)

theorem size_append : (g.append es).size = g.size + es.length := by
  simp [append, size]

theorem fullName_append {x : TypeNumber} (hx : x.index < g.size) :
    (g.append es).fullName x = g.fullName x := by
  have hentry : entry? (g.append es) x = g.entry? x := Array.getElem?_append_left hx
  rw [fullName, hentry, fullName]

theorem append_append : (g.append es).append es' = g.append (es ++ es') := by
  simp [append]

theorem extend_nil : g.extend [] = .ok g := by
  simp [extend, append, firstRepeated?]

theorem extend_eq_ok {g' : Catalog} (h : g.extend es = .ok g') : g' = g.append es := by
  rw [extend] at h
  split at h
  · cases h
  · exact (Except.ok.inj h).symm

/-- Entries may be added in two parts. -/
theorem extend_append : g.extend (es ++ es') = g.extend es >>= fun g => g.extend es' := by
  have hnames : (g.append es).byName.map (·.1) =
      (es.map (·.fullName)).reverse ++ g.byName.map (·.1) := by
    simp [append, Function.comp_def]
  rw [extend, List.map_append, firstRepeated?_append, extend]
  cases firstRepeated? (g.byName.map (·.1)) (es.map (·.fullName)) with
  | some fullName => rfl
  | none =>
    show _ = (g.append es).extend es'
    rw [extend, hnames, append_append]
    rfl

theorem find?_isSome_eq (g : Catalog) (s : String) :
    (g.find? s).isSome = (g.byName.map (·.1)).contains s := by
  rw [find?, Bool.eq_iff_iff, List.contains_iff_mem, Option.isSome_iff_ne_none, ne_eq,
    List.lookup_eq_none_iff]
  simp

/-! ## Noting nested types -/

/-- Notes types behind those that are nested in another. -/
def nestAll (g : Catalog) (outer : TypeNumber) (inner : List TypeNumber) : Catalog :=
  { g with
    entries := g.entries.modify outer.index fun e => { e with nested := e.nested ++ inner } }

theorem size_nestAll (inner : List TypeNumber) : (g.nestAll outer inner).size = g.size := by
  simp [nestAll, size]

theorem entry?_nestAll (inner : List TypeNumber) (x : TypeNumber) :
    entry? (g.nestAll outer inner) x = if outer.index = x.index then
      (g.entry? x).map fun e => { e with nested := e.nested ++ inner } else g.entry? x :=
  Array.getElem?_modify

theorem fullName_nestAll (inner : List TypeNumber) (x : TypeNumber) :
    (g.nestAll outer inner).fullName x = g.fullName x := by
  rw [fullName, entry?_nestAll, fullName]
  split
  · rw [Option.map_map]
    rfl
  · rfl

theorem nestAll_nil : g.nestAll outer [] = g := by
  refine eq_of_entries (fun i => ?_) rfl rfl rfl
  simp [nestAll, Array.getElem?_modify]

theorem nest_eq_nestAll (inner : TypeNumber) : g.nest outer inner = g.nestAll outer [inner] := rfl

theorem nestAll_nestAll {inner inner' : List TypeNumber} :
    (g.nestAll outer inner).nestAll outer inner' = g.nestAll outer (inner ++ inner') := by
  refine eq_of_entries (fun i => ?_) rfl rfl rfl
  simp only [nestAll, Array.getElem?_modify]
  split
  · simp [Function.comp_def]
  · rfl

/-- Entries that are added behind others leave these alone. -/
theorem append_nestAll (houter : outer.index < g.size) (inner : List TypeNumber) :
    (g.nestAll outer inner).append es = (g.append es).nestAll outer inner := by
  refine eq_of_entries (fun i => ?_) rfl rfl rfl
  rw [size] at houter
  simp only [nestAll, append, Array.getElem?_modify, Array.getElem?_append, Array.size_modify]
  grind

theorem extend_nestAll (houter : outer.index < g.size) (inner : List TypeNumber) :
    (g.nestAll outer inner).extend es = (g.extend es).map (·.nestAll outer inner) := by
  have hbyName : (g.nestAll outer inner).byName = g.byName := rfl
  rw [extend, extend, append_nestAll houter, hbyName]
  cases firstRepeated? (g.byName.map (·.1)) (es.map (·.fullName)) with
  | some fullName => rfl
  | none => rfl

/-! ## Inserting -/

section
variable (fullName : String) (declaring : Option TypeNumber) (decl : TypeDecl)

theorem size_push : (g.push fullName declaring decl).size = g.size + 1 := by
  simp [push, size]

theorem fullName_push : (g.push fullName declaring decl).fullName g.nextNumber = fullName := by
  simp [push, Catalog.fullName, entry?, nextNumber, size]

/-- An entry is added by entering its type and noting later what is nested in it. -/
theorem nestAll_push (inner : List TypeNumber) :
    ((g.push fullName declaring decl).append es).nestAll g.nextNumber inner =
      g.append ({ number := g.nextNumber, fullName, declaring, nested := inner, decl } :: es) := by
  refine eq_of_entries (fun i => ?_) rfl rfl ?_
  · simp only [nestAll, append, push, nextNumber, size, Array.getElem?_modify,
      Array.getElem?_append, Array.getElem?_push, Array.size_push]
    grind
  · simp [nestAll, append, push]

theorem extend_cons (inner : List TypeNumber) :
    g.extend ({ number := g.nextNumber, fullName, declaring, nested := inner, decl } :: es) =
      if (g.find? fullName).isSome then .error { moduleName := g.name, fullName }
      else ((g.push fullName declaring decl).extend es).map (·.nestAll g.nextNumber inner) := by
  have hbyName : (g.push fullName declaring decl).byName.map (·.1) =
      fullName :: g.byName.map (·.1) := rfl
  rw [extend, extend, List.map_cons, firstRepeated?, find?_isSome_eq, hbyName]
  by_cases htaken : (g.byName.map (·.1)).contains fullName = true
  · rw [if_pos htaken, if_pos htaken]
  · rw [if_neg htaken, if_neg htaken]
    cases firstRepeated? (fullName :: g.byName.map (·.1)) (es.map (·.fullName)) with
    | some repeated => rfl
    | none => exact congrArg Except.ok (nestAll_push fullName declaring decl inner).symm

end

mutual

/-- **Inserting a type** adds the entries of its tree, or is refused for the first full name of them
that is taken. -/
theorem insert_eq (g : Catalog) (declaring : Option TypeNumber) : ∀ t : TypeTree,
    g.insert declaring t =
      (g.extend (t.entries g.size declaring (g.nameUnder declaring t.decl))).map
        fun entered => (entered, g.nextNumber)
  | .node decl nested => by
    have houter : g.nextNumber.index <
        (g.push (g.nameUnder declaring decl) declaring decl).size := by
      rw [size_push]
      exact Nat.lt_succ_self _
    rw [insert, TypeTree.entries, TypeTree.decl, ← nextNumber, extend_cons]
    by_cases htaken : (g.find? (g.nameUnder declaring decl)).isSome = true
    · rw [if_pos htaken, if_pos htaken]
      rfl
    · rw [if_neg htaken, if_neg htaken, insertNested_eq _ _ houter, size_push, fullName_push]
      cases Catalog.extend _ _ with
      | error e => rfl
      | ok entered => rfl

theorem insertNested_eq (g : Catalog) (outer : TypeNumber) (houter : outer.index < g.size) :
    ∀ ts : List TypeTree, g.insertNested outer ts =
      (g.extend (nestedEntries g.size outer (g.fullName outer) ts)).map
        (·.nestAll outer (forestNumbers g.size ts))
  | [] => by
    rw [insertNested, nestedEntries, forestNumbers, extend_nil]
    exact congrArg Except.ok nestAll_nil.symm
  | .node decl nested :: ts => by
    have hname : g.nameUnder (some outer) (TypeTree.decl (.node decl nested)) =
        nestedName (g.fullName outer) decl.name := rfl
    rw [insertNested, nestedEntries, forestNumbers, insert_eq, hname, extend_append]
    cases hentered : g.extend (TypeTree.entries g.size (some outer)
        (nestedName (g.fullName outer) decl.name) (.node decl nested)) with
    | error e => rfl
    | ok entered =>
      obtain rfl := extend_eq_ok hentered
      have hsize : (g.append (TypeTree.entries g.size (some outer)
          (nestedName (g.fullName outer) decl.name) (.node decl nested))).size =
            g.size + TypeTree.size (.node decl nested) := by rw [size_append, length_entries]
      have houter' : outer.index < g.size + TypeTree.size (.node decl nested) :=
        Nat.lt_of_lt_of_le houter (Nat.le_add_right _ _)
      show ((g.append _).nest outer g.nextNumber).insertNested outer ts = Except.map _ (extend _ _)
      rw [nest_eq_nestAll, insertNested_eq _ _ (by rw [size_nestAll, hsize]; exact houter'),
        extend_nestAll (by rw [hsize]; exact houter'), size_nestAll, fullName_nestAll,
        fullName_append houter, hsize]
      cases extend _ _ with
      | error e => rfl
      | ok entered => exact congrArg Except.ok nestAll_nestAll

end

/-- Which types are roots is not looked at. -/
theorem extend_roots (roots : List TypeNumber) :
    { g with roots }.extend es = (g.extend es).map fun g => { g with roots } := by
  have hbyName : ({ g with roots } : Catalog).byName = g.byName := rfl
  rw [extend, extend, hbyName]
  cases firstRepeated? (g.byName.map (·.1)) (es.map (·.fullName)) with
  | some fullName => rfl
  | none => rfl

theorem insertRoots_eq (g : Catalog) (ts : List TypeTree) : g.insertRoots ts =
    (g.extend (forestEntries g.size ts)).map fun entered =>
      { entered with roots := g.roots ++ forestNumbers g.size ts } := by
  induction ts generalizing g with
  | nil =>
    rw [insertRoots, forestEntries, forestNumbers, extend_nil, List.append_nil]
    rfl
  | cons t ts ih =>
    have hname : g.nameUnder none t.decl = t.decl.topLevelName := rfl
    rw [insertRoots, forestEntries, forestNumbers, insert_eq, hname, extend_append]
    cases hentered : g.extend (t.entries g.size none t.decl.topLevelName) with
    | error e => rfl
    | ok entered =>
      obtain rfl := extend_eq_ok hentered
      have hsize : ({ g.append (t.entries g.size none t.decl.topLevelName) with
          roots := g.roots ++ [g.nextNumber] } : Catalog).size = g.size + t.size := by
        show (g.append _).size = _
        rw [size_append, length_entries]
      show insertRoots { g.append _ with roots := g.roots ++ [g.nextNumber] } ts =
        Except.map _ (extend _ _)
      rw [ih, hsize, extend_roots, List.append_assoc]
      cases extend _ _ with
      | error e => rfl
      | ok entered => rfl

/-- **The catalog of a module** has the entries of its forest, and an index of their full names. A
module has none if a full name is repeated. -/
theorem ofModule_eq (m : Module) : ofModule m =
    match firstRepeated? [] ((forestEntries 0 m.types).map (·.fullName)) with
    | some fullName => .error { moduleName := m.name, fullName }
    | none => .ok
      { name := m.name
        entries := (forestEntries 0 m.types).toArray
        roots := forestNumbers 0 m.types
        byName := ((forestEntries 0 m.types).map fun e => (e.fullName, e.number)).reverse } := by
  rw [ofModule, insertRoots_eq]
  show Except.map _ (extend _ (forestEntries 0 m.types)) = _
  rw [extend]
  show Except.map _ (match firstRepeated? [] ((forestEntries 0 m.types).map (·.fullName)) with
    | some fullName => _
    | none => _) = _
  cases firstRepeated? [] ((forestEntries 0 m.types).map (·.fullName)) with
  | some fullName => rfl
  | none => simp [Except.map, append, size]

end Catalog

end Concord
