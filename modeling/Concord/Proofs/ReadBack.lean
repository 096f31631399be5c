import Concord.Proofs.DecodedValues
import Concord.Proofs.MemberOrigins
import Concord.Proofs.WrittenNames

/-!
# All that is written can be read back

Recovered names are written as records and lists that are nested in each other, and a reader
follows these to a limited depth. `recoverNames_readBack`: names that are recovered from two modules
which have been read are never nested too deep, so that they are read as they were written.

The argument compares depths at three places. A type that has been read is nested no deeper than
the reader follows (`TypeTree.depth_le_of_decode`), a tree of names is nested no deeper than the
type of its pairing (`depth_toValue_le`), and the text has the depth of the value that it is
written for (`textDepth_pretty`). There is nothing to spare in the second: names and types open the
same lists and records around what is nested in them, and the bound holds because a list that would
be empty is left out, and the names of parameter types stand in a plain list.
-/

set_option autoImplicit false

namespace Concord

open Json Command Concordance

/-! ## Depths of written names -/

theorem itemsDepth_le_iff {vs : List Value} {n : Nat} :
    itemsDepth vs ≤ n ↔ ∀ v ∈ vs, v.depth ≤ n := by
  induction vs with
  | nil => simp [itemsDepth]
  | cons v vs ih => simp [itemsDepth, ih]

theorem membersDepth_append (ms ms' : List (String × Value)) :
    membersDepth (ms ++ ms') = max (membersDepth ms) (membersDepth ms') := by
  induction ms with
  | nil => simp [membersDepth]
  | cons m ms ih => simp [membersDepth, ih, Nat.max_assoc]

@[simp] theorem membersDepth_textMember (key : String) (s : Option String) :
    membersDepth (textMember key s) = 0 := by
  cases s <;> rfl

/-- A list is left out if it is empty, and opens one level around its items if not. -/
theorem membersDepth_listMember_le_iff {key : String} {vs : List Value} {n : Nat} :
    membersDepth (listMember key vs) ≤ n ↔ ∀ v ∈ vs, v.depth < n := by
  cases vs with
  | nil => simp [listMember, membersDepth]
  | cons v vs =>
    have hdepth : membersDepth (listMember key (v :: vs)) = itemsDepth (v :: vs) + 1 := by
      simp [listMember, membersDepth, Value.depth]
    rw [hdepth]
    cases n with
    | zero => exact ⟨by omega, fun h => absurd (h v List.mem_cons_self) (Nat.not_lt_zero _)⟩
    | succ n => simp only [Nat.add_le_add_iff_right, itemsDepth_le_iff, Nat.lt_succ_iff]

theorem MemberName.depth_toValue (e : MemberName) : e.toValue.depth = 1 := rfl

theorem MethodName.depth_toValue_le_iff {e : MethodName} {n : Nat} :
    e.toValue.depth ≤ n + 1 ↔ ∀ s ∈ e.signature, 0 < n := by
  rw [toValue, Value.depth, membersDepth_append, Nat.succ_le_succ_iff, Nat.max_le,
    membersDepth_listMember_le_iff]
  simp [membersDepth, Value.depth]

theorem NameTree.depth_toValue_le_iff {t : NameTree} {n : Nat} : t.toValue.depth ≤ n + 1 ↔
    (∀ e ∈ t.fields, 1 < n) ∧ (∀ e ∈ t.properties, 1 < n) ∧
      (∀ e ∈ t.methods, e.toValue.depth < n) ∧ ∀ c ∈ t.nested, c.toValue.depth < n := by
  cases t
  simp only [toValue, Value.depth, membersDepth_append, membersDepth_textMember,
    Nat.succ_le_succ_iff, Nat.max_le, membersDepth_listMember_le_iff, treeValues_eq_map,
    List.forall_mem_map, MemberName.depth_toValue]
  simp [membersDepth, Value.depth, and_assoc]

theorem NameForest.depth_toValue_le_iff {forest : NameForest} {n : Nat} :
    forest.toValue.depth ≤ n + 2 ↔ ∀ t ∈ forest.types, t.toValue.depth ≤ n := by
  simp only [toValue, Value.depth, membersDepth, treeValues_eq_map, Nat.max_zero,
    Nat.add_le_add_iff_right, itemsDepth_le_iff, List.forall_mem_map]

/-! ## Depths of types -/

/-- The depth of a list whose items have the given depths. It is left out if it is empty. -/
def listDepth : List Nat → Nat
  | [] => 0
  | d :: ds => max (d + 1) (listDepth ds)

theorem listDepth_le_iff {ds : List Nat} {n : Nat} : listDepth ds ≤ n ↔ ∀ d ∈ ds, d < n := by
  induction ds with
  | nil => simp [listDepth]
  | cons d ds ih =>
    simp only [listDepth, Nat.max_le, Nat.succ_le_iff, ih, List.forall_mem_cons]

/-- How deep the description of a method is nested at least. -/
def MethodDecl.depth (method : MethodDecl) : Nat :=
  listDepth (method.parameters.map fun _ => 1) + 1

mutual

/-- How deep the description of a type is nested at least, with the types nested in it. -/
def TypeTree.depth : TypeTree → Nat
  | .node decl nested =>
    max (max (listDepth (decl.fields.map fun _ => 1)) (listDepth (decl.properties.map fun _ => 1)))
      (max (listDepth (decl.methods.map MethodDecl.depth)) (listDepth (treeDepths nested))) + 1

/-- The depths of several types. -/
def treeDepths : List TypeTree → List Nat
  | [] => []
  | t :: ts => t.depth :: treeDepths ts

end

theorem treeDepths_eq_map (ts : List TypeTree) : treeDepths ts = ts.map TypeTree.depth := by
  induction ts with
  | nil => rfl
  | cons t ts ih => rw [treeDepths, ih, List.map_cons]

theorem MethodDecl.depth_le_iff {method : MethodDecl} {n : Nat} :
    method.depth ≤ n + 1 ↔ ∀ p ∈ method.parameters, 1 < n := by
  simp only [depth, Nat.add_le_add_iff_right, listDepth_le_iff, List.forall_mem_map]

theorem TypeTree.depth_le_iff {decl : TypeDecl} {nested : List TypeTree} {n : Nat} :
    (node decl nested).depth ≤ n + 1 ↔
      (∀ f ∈ decl.fields, 1 < n) ∧ (∀ p ∈ decl.properties, 1 < n) ∧
        (∀ method ∈ decl.methods, method.depth < n) ∧ ∀ c ∈ nested, c.depth < n := by
  simp only [depth, Nat.add_le_add_iff_right, Nat.max_le, listDepth_le_iff, treeDepths_eq_map,
    List.forall_mem_map, and_assoc]

/-! ## Types that have been read -/

/-- The items of a list that may be left out have been read. -/
theorem listField_ok {α : Type} {depth : Nat} {item : Decoder α} {xs : List α}
    (h : Fields.Holds (list depth item) (some []) none xs) :
    ∀ x ∈ xs, 0 < depth ∧ ∃ d, item d = .ok x := by
  cases h with
  | known h => cases h
  | byDefault h =>
    cases h
    simp
  | read d hd =>
    obtain ⟨hpos, hitems⟩ := list_ok hd
    exact fun x hx => ⟨hpos, hitems x hx⟩

theorem recordListField_ok {α : Type} {depth level : Nat} {item : Fields α} {record : String}
    {xs : List α} (h : Fields.Holds (list depth (item.decode record level)) (some []) none xs) :
    ∀ x ∈ xs, 0 < level := by
  intro x hx
  obtain ⟨-, d, hd⟩ := listField_ok h x hx
  exact (Fields.decode_ok hd).1

theorem MethodDecl.depth_le_of_decode {depth : Nat} {d : Doc} {method : MethodDecl}
    (h : MethodDecl.decode depth d = .ok method) : method.depth ≤ depth := by
  obtain ⟨hpos, _, _, -, ⟨_, _, -, ⟨_, _, -, ⟨parameters, _, hparameters, rfl, rfl⟩, rfl⟩, rfl⟩,
    rfl⟩ := Fields.decode_ok h
  obtain ⟨n, rfl⟩ : ∃ n, depth = n + 1 := ⟨depth - 1, by omega⟩
  refine depth_le_iff.2 fun p hp => ?_
  have := recordListField_ok hparameters p hp
  omega

/-- A type is nested as deep as the reader follows, if those nested in it are two levels less. -/
theorem TypeTree.depth_le_of_fields {depth : Nat} {item : Decoder TypeTree} {d : Doc} {t : TypeTree}
    (h : (fields depth (list (depth - 1) item)).decode "TypeDef" depth d = .ok t)
    (hitem : ∀ d c, item d = .ok c → c.depth ≤ depth - 2) : t.depth ≤ depth := by
  obtain ⟨hpos, _, _, -, ⟨_, _, -, ⟨fields, _, hfields, ⟨properties, _, hproperties,
    ⟨methods, _, hmethods, ⟨nested, _, hnested, rfl, rfl⟩, rfl⟩, rfl⟩, rfl⟩, rfl⟩, rfl⟩ :=
    Fields.decode_ok h
  obtain ⟨n, rfl⟩ : ∃ n, depth = n + 1 := ⟨depth - 1, by omega⟩
  refine depth_le_iff.2 ⟨fun f hf => ?_, fun p hp => ?_, fun method hm => ?_, fun c hc => ?_⟩
  · have := recordListField_ok hfields f hf
    omega
  · have := recordListField_ok hproperties p hp
    omega
  · obtain ⟨hopen, d', hd'⟩ := listField_ok hmethods method hm
    have := MethodDecl.depth_le_of_decode hd'
    omega
  · obtain ⟨hopen, d', hd'⟩ := listField_ok hnested c hc
    have := hitem d' c hd'
    omega

/-- **A type that has been read** is nested no deeper than the reader follows. -/
theorem TypeTree.depth_le_of_decode : ∀ {depth : Nat} {d : Doc} {t : TypeTree},
    TypeTree.decode depth d = .ok t → t.depth ≤ depth
  -- there is no room for a nested type at the last two levels
  | 0, _, _, h => depth_le_of_fields h fun _ _ hc => nomatch hc
  | 1, _, _, h => depth_le_of_fields h fun _ _ hc => nomatch hc
  | _ + 2, _, _, h => depth_le_of_fields h fun _ _ hc => depth_le_of_decode hc

theorem Module.depth_of_ofText {s : String} {m : Module} (h : Module.ofText s = .ok m) :
    ∀ t ∈ m.types, t.depth + 2 ≤ maxDepth := by
  unfold ofText decodeText decodeTokens at h
  dsimp only at h
  split at h
  · cases h
  · rename_i hd
    split at h
    · cases h
      obtain ⟨-, _, _, -, ⟨types, _, htypes, rfl, rfl⟩, rfl⟩ := Fields.decode_ok hd
      intro t ht
      obtain ⟨-, d', hd'⟩ := listField_ok htypes t ht
      have := TypeTree.depth_le_of_decode hd'
      simp only [maxDepth] at this ⊢
      omega
    · cases h

/-! ## Names that have been recovered -/

theorem Catalog.Sound.tree?_of_entry? {g : Catalog} (hg : g.Sound) {x : TypeNumber}
    {e : CatalogEntry} (he : g.entry? x = some e) :
    g.tree? x = some (.node e.decl (e.nested.filterMap g.tree?)) := by
  rw [hg.tree?_eq, attach, he, Option.map_some]

namespace Recovery

variable {m : Recovery} {reference renamed : CatalogEntry}

theorem exists_mem_of_length_le {α β : Type} {as : List α} {bs : List β} {a : α}
    (h : as.length ≤ bs.length) (ha : a ∈ as) : ∃ b, b ∈ bs :=
  List.exists_mem_of_length_pos (Nat.lt_of_lt_of_le (List.length_pos_of_mem ha) h)

/-- The entry for a method is nested no deeper than the method itself. -/
theorem MethodFrom.depth_toValue_le {e : MethodName} (h : m.MethodFrom reference renamed e) :
    ∃ method ∈ renamed.methods, e.toValue.depth ≤ method.depth := by
  obtain ⟨method, hmethod, -, hsignature, -⟩ := h
  obtain ⟨n, hn⟩ : ∃ n, method.depth = n + 1 := ⟨_, rfl⟩
  refine ⟨method, hmethod, hn ▸ MethodName.depth_toValue_le_iff.2 fun s hs => ?_⟩
  rw [hsignature, List.mem_map] at hs
  obtain ⟨p, hp, -⟩ := hs
  have := MethodDecl.depth_le_iff.1 (Nat.le_of_eq hn) p hp
  omega

/-- **A tree of names** is nested no deeper than the type that it is recovered for. -/
theorem depth_toValue_le (h : m.concordance.Complete) (hr : m.concordance.renamed.Sound)
    {id : PairingNumber} {n : Pairing} {t : NameTree} {type : TypeTree}
    (hn : m.concordance.pairing? id = some n) (ht : (m.tree id).value = some t)
    (htype : m.concordance.renamed.tree? n.renamed = some type) :
    t.toValue.depth ≤ type.depth := by
  induction id using (acyclic_iff_wellFounded.1 h.acyclic).induction generalizing n t type with
  | _ id ih =>
    obtain ⟨hshows, hnested⟩ := shows_tree h ht
    obtain ⟨n', c, r, hn', -, hentry, htree⟩ := hshows.eq_assemble
    obtain rfl : n' = n := Option.some.inj (hn'.symm.trans hn)
    obtain rfl := Option.some.inj ((hr.tree?_of_entry? hentry).symm.trans htype)
    obtain ⟨k, hk⟩ : ∃ k, (TypeTree.node r.decl
        (r.nested.filterMap m.concordance.renamed.tree?)).depth = k + 1 := by
      rw [TypeTree.depth]
      exact ⟨_, rfl⟩
    obtain ⟨hfields, hproperties, hmethods, hbelow⟩ := TypeTree.depth_le_iff.1 (Nat.le_of_eq hk)
    rw [hk, NameTree.depth_toValue_le_iff]
    refine ⟨fun e he => ?_, fun e he => ?_, fun e he => ?_, fun child hchild => ?_⟩
    · rw [htree] at he
      obtain ⟨f, hf⟩ := exists_mem_of_length_le (m.length_fields_le c r) he
      exact hfields f hf
    · rw [htree] at he
      obtain ⟨p, hp⟩ := exists_mem_of_length_le (m.length_properties_le c r) he
      exact hproperties p hp
    · rw [htree] at he
      obtain ⟨method, hmethod, hle⟩ := (methodFrom_of_mem he).depth_toValue_le
      exact Nat.lt_of_le_of_lt hle (hmethods method hmethod)
    · -- its pairing is nested in this one, so its type is declared by the type of this one
      rw [hnested, treesBelow, List.mem_filterMap] at hchild
      obtain ⟨child', hmem, hvalue⟩ := hchild
      obtain ⟨nc, hnc, hd⟩ := h.mem_nested_iff.1 hmem
      obtain ⟨f, hf⟩ := Catalog.contains_iff.1 (h.wellFormed.valid hnc).2
      have htypec := hr.tree?_of_entry? hf
      have hdeclaring : f.declaring = some n'.renamed := by
        rw [h.place hnc hf, hd, Option.map_some, types_of_pairing? hn]
      have hlisted : nc.renamed ∈ r.nested := (hr.nested_iff hentry _).2 ⟨f, hf, hdeclaring⟩
      exact Nat.lt_of_le_of_lt (ih child' hmem hnc hvalue htypec)
        (hbelow _ (List.mem_filterMap.2 ⟨_, hlisted, htypec⟩))

/-- The trees of all roots are nested no deeper than the types of the renamed module. -/
theorem depth_toValue_of_root (h : m.concordance.Complete) {obfuscated : Module}
    (hobfuscated : Catalog.ofModule obfuscated = .ok m.concordance.renamed) {t : NameTree}
    (ht : t ∈ m.forest.value.types) :
    ∃ type ∈ obfuscated.types, t.toValue.depth ≤ type.depth := by
  have hr := Catalog.sound_of_ofModule hobfuscated
  obtain ⟨id, n, r, hn, hentry, htop, hvalue⟩ := exists_topLevel h ht
  have htype := hr.tree?_of_entry? hentry
  refine ⟨_, ?_, depth_toValue_le h hr hn hvalue htype⟩
  rw [← Catalog.filterMap_tree?_roots hobfuscated]
  exact List.mem_filterMap.2 ⟨_, (hr.roots_iff _).2 ⟨r, hentry, htop⟩, htype⟩

end Recovery

open Recovery

theorem catalogOfText_ok {path text : String} {g : Catalog} (h : catalogOfText path text = .ok g) :
    ∃ module, Module.ofText text = .ok module ∧ Catalog.ofModule module = .ok g := by
  unfold catalogOfText at h
  split at h
  · cases h
  · rename_i module hmodule
    split at h
    · cases h
    · rename_i hg
      exact ⟨module, hmodule, Except.ok.inj h ▸ hg⟩

/-- **All that is written can be read back.** Whatever two modules are described by texts that can
be read, whatever the seeds and the settings, recovery succeeds, the lists and records of the text
written for the recovered names are nested at most 127 deep, and reading this text gives the same
names. -/
theorem recoverNames_readBack {cleanPath obfuscatedPath cleanText obfuscatedText : String}
    {reference renamed : Catalog} (hclean : catalogOfText cleanPath cleanText = .ok reference)
    (hobfuscated : catalogOfText obfuscatedPath obfuscatedText = .ok renamed) (seeds : List Seed)
    (settings : Settings) :
    ∃ forest, (recoverNames reference renamed seeds settings).value = .ok forest ∧
      textDepth forest.render ≤ 127 ∧ NameForest.ofText forest.render = .ok forest := by
  obtain ⟨clean, -, hreference⟩ := catalogOfText_ok hclean
  obtain ⟨obfuscated, htext, hrenamed⟩ := catalogOfText_ok hobfuscated
  have hr : renamed.Sound := Catalog.sound_of_ofModule hrenamed
  have hc : reference.Sound := Catalog.sound_of_ofModule hreference
  have hs := (seeded_rooted hr hc seeds settings).2
  obtain ⟨m, hm⟩ : ∃ m, m = recoveryFrom reference renamed seeds settings := ⟨_, rfl⟩
  have h : m.concordance.Complete := hm ▸ hs.complete
  have hren : m.concordance.renamed = renamed := hm ▸ hs.grows.renamed
  have hvalue : (recoverNames reference renamed seeds settings).value = .ok m.forest.value := by
    rw [value_recoverNames hr hc, ← hm, value_forest]
  have hdepth : textDepth m.forest.value.render ≤ maxDepth := by
    rw [NameForest.render, textDepth_pretty]
    refine NameForest.depth_toValue_le_iff.2 fun t ht => ?_
    obtain ⟨type, htype, hle⟩ := depth_toValue_of_root h (hren ▸ hrenamed) ht
    have := Module.depth_of_ofText htext type htype
    simp only [maxDepth] at this
    omega
  exact ⟨m.forest.value, hvalue, hdepth, by rw [NameForest.ofText_render, if_pos hdepth]⟩

/-- A value that describes a module gives a text that can be read. -/
theorem exists_catalogOfText (path : String) {v : Value}
    (h : ((Module.decode maxDepth v.doc).toOption.bind fun module =>
      (Catalog.ofModule module).toOption).isSome = true) :
    ∃ g, catalogOfText path (v.pretty ++ "\n") = .ok g := by
  rw [catalogOfText, Module.ofText, decodeText_pretty]
  cases hmodule : Module.decode maxDepth v.doc with
  | error fault => simp [hmodule, Except.toOption] at h
  | ok module =>
    cases hg : Catalog.ofModule module with
    | error duplicate => simp [hmodule, hg, Except.toOption] at h
    | ok g => exact ⟨g, by simp [hg]⟩

/-- A type with types nested in each other, `depth` of them. -/
def sampleChain (name : String) : Nat → Value
  | 0 => .record [("name", .text name)]
  | depth + 1 => .record [("name", .text name), ("nested_types", .list [sampleChain name depth])]

/-- The description of a module with types nested as deep as can be read. -/
def sampleDeep (name : String) : Value :=
  .record [("name", .text "Deep.dll"), ("types", .list [sampleChain name 62])]

/-- Modules of the greatest depth that can be read. -/
theorem recoverNames_readBack_sample : ∃ reference renamed,
    catalogOfText "clean.json" ((sampleDeep "B").pretty ++ "\n") = .ok reference ∧
    catalogOfText "renamed.json" ((sampleDeep "A").pretty ++ "\n") = .ok renamed ∧
    textDepth ((sampleDeep "A").pretty ++ "\n") = 127 ∧
      let seeds : List Seed := [{ renamed := "A", reference := "B", score := 1.0 }]
      ∃ forest, (recoverNames reference renamed seeds { renamedLength := 1 }).value = .ok forest ∧
        textDepth forest.render ≤ 127 ∧ NameForest.ofText forest.render = .ok forest := by
  obtain ⟨reference, hreference⟩ := exists_catalogOfText "clean.json"
    (show ((Module.decode maxDepth (sampleDeep "B").doc).toOption.bind fun module =>
      (Catalog.ofModule module).toOption).isSome = true by decide +kernel)
  obtain ⟨renamed, hrenamed⟩ := exists_catalogOfText "renamed.json"
    (show ((Module.decode maxDepth (sampleDeep "A").doc).toOption.bind fun module =>
      (Catalog.ofModule module).toOption).isSome = true by decide +kernel)
  exact ⟨reference, renamed, hreference, hrenamed, (textDepth_pretty _).trans (by decide +kernel),
    recoverNames_readBack hreference hrenamed _ _⟩

end Concord
