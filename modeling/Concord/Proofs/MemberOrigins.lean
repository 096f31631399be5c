import Concord.Proofs.MethodListing
import Concord.Proofs.ReportedTypes

/-!
# Where the names of members come from

No name is made up: what a tree says of the members of a type stands in one of the two types that
it is recovered from, or is told by the name of the member itself (`members_have_origins`). Fields
and properties take their names from the same place on the reference side (`FieldFrom`,
`PropertyFrom`), methods from a method that the renamed type lacks (`MethodFrom`). A member whose
name does not look renamed is left alone, unless its type is nested and a convention tells a name.

* `exists_places_filterMap`: what is picked from a list stands at places in increasing order.
* `value_fields_places`, `value_properties_places`, `methodFrom_of_mem`: one for each kind of
  members, of any two types.
-/

set_option autoImplicit false

namespace Concord

/-- What is picked from a list stands at places in increasing order, and every place from which
something can be picked is one of them. -/
theorem exists_places_filterMap {α β : Type} (f : α → Option β) (as : List α) :
    ∃ places : List Nat, places.Pairwise (· < ·) ∧
      List.Forall₂ (fun i b => ∃ a, as[i]? = some a ∧ f a = some b) places (as.filterMap f) ∧
      ∀ i a, as[i]? = some a → (f a).isSome = true → i ∈ places := by
  let picked := as.zipIdx.filterMap fun a => (f a.1).map fun b => (a.2, b)
  have hmem : ∀ i b, (i, b) ∈ picked ↔ ∃ a, as[i]? = some a ∧ f a = some b := by
    intro i b
    simp only [picked, List.mem_filterMap, Option.map_eq_some_iff, Prod.mk.injEq]
    constructor
    · rintro ⟨⟨a, j⟩, ha, b, hb, rfl, rfl⟩
      exact ⟨a, List.mk_mem_zipIdx_iff_getElem?.1 ha, hb⟩
    · rintro ⟨a, ha, hb⟩
      exact ⟨(a, i), List.mk_mem_zipIdx_iff_getElem?.2 ha, b, hb, rfl, rfl⟩
  have hpicked : picked.map (·.2) = as.filterMap f := by
    conv_rhs => rw [← List.zipIdx_map_fst 0 as, List.filterMap_map]
    simp [picked, List.map_filterMap, Function.comp_def]
  refine ⟨picked.map (·.1), ?_, ?_, fun i a ha hb => ?_⟩
  · refine List.pairwise_map.2
      ((Recovery.zipIdx_places as).filterMap _ fun a a' hlt p hp q hq => ?_)
    obtain ⟨-, -, rfl⟩ := Option.map_eq_some_iff.1 hp
    obtain ⟨-, -, rfl⟩ := Option.map_eq_some_iff.1 hq
    exact hlt
  · rw [← hpicked, List.forall₂_map_left_iff, List.forall₂_map_right_iff, List.forall₂_same]
    exact fun p hp => (hmem _ _).1 hp
  · obtain ⟨b, hb⟩ := Option.isSome_iff_exists.1 hb
    exact List.mem_map.2 ⟨(i, b), (hmem i b).2 ⟨a, ha, hb⟩, rfl⟩

/-- The entries stand for places in increasing order, and there is one for every place that can
have one. -/
def AtPlaces (R : Nat → MemberName → Prop) (entries : List MemberName) : Prop :=
  ∃ places : List Nat, places.Pairwise (· < ·) ∧ List.Forall₂ R places entries ∧
    ∀ i e, R i e → i ∈ places

theorem atPlaces_nil {R : Nat → MemberName → Prop} (h : ∀ i e, ¬ R i e) : AtPlaces R [] :=
  ⟨[], .nil, .nil, fun i e he => absurd he (h i e)⟩

theorem AtPlaces.exists_place {R : Nat → MemberName → Prop} {entries : List MemberName}
    (h : AtPlaces R entries) {e : MemberName} (he : e ∈ entries) : ∃ i, R i e := by
  obtain ⟨places, -, hentries, -⟩ := h
  obtain ⟨i, -, hi⟩ := exists_of_mem_right hentries he
  exact ⟨i, hi⟩

/-- Members of two types that are paired off stand for their places. -/
theorem atPlaces_zip {α : Type} {R : Nat → MemberName → Prop} {f : α × α → Option MemberName}
    {as bs : List α}
    (hfrom : ∀ i a b e, as[i]? = some a → bs[i]? = some b → f (a, b) = some e → R i e)
    (hto : ∀ i e, R i e → ∃ a b, as[i]? = some a ∧ bs[i]? = some b ∧ (f (a, b)).isSome = true) :
    AtPlaces R ((as.zip bs).filterMap f) := by
  obtain ⟨places, hordered, hentries, hall⟩ := exists_places_filterMap f (as.zip bs)
  refine ⟨places, hordered, hentries.imp fun i e => ?_, fun i e he => ?_⟩
  · rintro ⟨⟨a, b⟩, hab, hf⟩
    obtain ⟨ha, hb⟩ := List.getElem?_zip_eq_some.1 hab
    exact hfrom i a b e ha hb hf
  · obtain ⟨a, b, ha, hb, hf⟩ := hto i e he
    exact hall i (a, b) (List.getElem?_zip_eq_some.2 ⟨ha, hb⟩) hf

namespace Recovery

open Concordance

/-! ## Origins -/

/-- A convention gives the field this name: it is a fixed one or, if it is not, tells its host. -/
def TellsField (m : Recovery) (field name : String) : Prop :=
  m.conventions.fixedField? field = some name ∨
    m.conventions.fixedField? field = none ∧ m.conventions.hostOf? field = some name

/-- An entry for the field at place `i`. It takes its name from the reference field at this place,
if the name of the renamed field looks renamed, or from a convention, if the renamed type is
nested. -/
def FieldFrom (m : Recovery) (reference renamed : CatalogEntry) (i : Nat) (e : MemberName) : Prop :=
  renamed.fields.length = reference.fields.length ∧
    (∃ field, renamed.fields[i]? = some field ∧ field.name = e.renamed) ∧
    (m.looksRenamed e.renamed = true ∧
        (∃ clean, reference.fields[i]? = some clean ∧ clean.name = e.recovered) ∨
      renamed.declaring ≠ none ∧ m.TellsField e.renamed e.recovered)

/-- An entry for the property at place `i`, whose name looks renamed. It takes its name from the
reference property at this place. -/
def PropertyFrom (m : Recovery) (reference renamed : CatalogEntry) (i : Nat) (e : MemberName) :
    Prop :=
  renamed.properties.length = reference.properties.length ∧
    (∃ property, renamed.properties[i]? = some property ∧ property.name = e.renamed) ∧
    m.looksRenamed e.renamed = true ∧
    ∃ clean, reference.properties[i]? = some clean ∧ clean.name = e.recovered

/-- An entry for a method of the renamed type. It takes its name from a reference method that the
renamed type lacks, if the name of the renamed method looks renamed, or from a convention, if the
renamed type is nested. -/
def MethodFrom (m : Recovery) (reference renamed : CatalogEntry) (e : MethodName) : Prop :=
  ∃ method ∈ renamed.methods, e.renamed = method.name ∧
    e.signature = method.parameters.map (·.type) ∧
    (m.looksRenamed method.name = true ∧
        (∃ clean ∈ reference.ordinaryMethods, clean.name = e.recovered) ∧
        (∀ other ∈ renamed.ordinaryMethods, other.name ≠ e.recovered) ∨
      renamed.declaring ≠ none ∧ m.conventions.hostOf? method.name = some e.recovered)

/-! ## Members of two types -/

variable {m : Recovery} {reference renamed : CatalogEntry}

theorem generatedField?_eq_some_iff {field name : String} :
    m.generatedField? renamed field = some name ↔
      renamed.declaring ≠ none ∧ m.TellsField field name := by
  unfold generatedField? TellsField
  rw [CatalogEntry.isNested, ← Option.isSome_iff_ne_none]
  cases renamed.declaring.isSome with
  | false => simp
  | true => cases m.conventions.fixedField? field <;> simp

theorem value_fields_places (m : Recovery) (reference renamed : CatalogEntry) :
    AtPlaces (m.FieldFrom reference renamed) (m.fields reference renamed).value := by
  rw [value_fields]
  split
  · rename_i hcount
    refine atPlaces_zip (fun i clean field e hclean hfield he => ?_) fun i e he => ?_
    · obtain ⟨name, hname, rfl⟩ := Option.map_eq_some_iff.1 he
      refine ⟨hcount, ⟨field, hfield, rfl⟩, ?_⟩
      cases htold : m.generatedField? renamed field.name with
      | some told =>
        rw [htold, Option.some_or, Option.some.injEq] at hname
        exact .inr (generatedField?_eq_some_iff.1 (hname ▸ htold))
      | none =>
        rw [htold, Option.none_or] at hname
        split at hname
        · rename_i hlooks
          exact .inl ⟨hlooks, clean, hclean, Option.some.inj hname⟩
        · cases hname
    · obtain ⟨-, ⟨field, hfield, hrenamed⟩, hsource⟩ := he
      have hi : i < reference.fields.length := by
        rw [← hcount]
        exact (List.getElem?_eq_some_iff.1 hfield).1
      refine ⟨_, field, List.getElem?_eq_getElem hi, hfield, ?_⟩
      rw [Option.isSome_map]
      rcases hsource with ⟨hlooks, -⟩ | htold
      · simp [hrenamed, hlooks]
      · simp [hrenamed, generatedField?_eq_some_iff.2 htold]
  · rename_i hcount
    exact atPlaces_nil fun i e he => hcount he.1

theorem value_properties_places (m : Recovery) (reference renamed : CatalogEntry) :
    AtPlaces (m.PropertyFrom reference renamed) (m.properties reference renamed).value := by
  rw [value_properties]
  split
  · rename_i hcount
    refine atPlaces_zip (fun i clean property e hclean hproperty he => ?_) fun i e he => ?_
    · dsimp only at he
      split at he
      · rename_i hlooks
        cases he
        exact ⟨hcount, ⟨property, hproperty, rfl⟩, hlooks, clean, hclean, rfl⟩
      · cases he
    · obtain ⟨-, ⟨property, hproperty, hrenamed⟩, hlooks, clean, hclean, -⟩ := he
      exact ⟨clean, property, hclean, hproperty, by simp [hrenamed, hlooks]⟩
  · rename_i hcount
    exact atPlaces_nil fun i e he => hcount he.1

theorem methodFrom_of_mem {e : MethodName} (he : e ∈ (m.methods reference renamed).value) :
    m.MethodFrom reference renamed e := by
  rw [value_methods_eq] at he
  rcases List.mem_append.1 he with he | he
  · obtain ⟨s, hs, rfl⟩ := List.mem_map.1 he
    obtain ⟨hclean, hcounterpart⟩ := mem_matched.1 hs
    obtain ⟨-, hmethod, hlooks, -⟩ := matched_spec hs
    have habsent := (counterpart?_eq_some_iff.1 hcounterpart).1
    refine ⟨s.method.1, List.mem_of_getElem? hmethod, rfl, rfl, .inl ⟨hlooks, ⟨s.clean.1, ?_, rfl⟩,
      by simpa [MethodMatch.entry, methodName] using habsent⟩⟩
    rw [← map_placed]
    exact List.mem_map_of_mem hclean
  · obtain ⟨i, hnested, method, host, hmethod, hhost, rfl⟩ := (mem_generated_iff.1 he).2
    exact ⟨method, List.mem_of_getElem? hmethod, rfl, rfl, .inr ⟨hnested, hhost⟩⟩

/-! ## Members of all types -/

/-- **Names of members have origins.** In every concordance that seeding leads to, and whatever
members are compared by, a tree at any depth is that of a pairing, and each name that it gives to a
member comes from the two types of this pairing: to a field or property from the same place, in
increasing order of places, or to a field of a nested type by a convention; to a method from a
method that is lacking, or in a nested type by a convention. There are no fields if both types have
not equally many, and no properties likewise. -/
theorem members_have_origins {clean obfuscated : Module} {reference renamed : Catalog}
    (hclean : Catalog.ofModule clean = .ok reference)
    (hobfuscated : Catalog.ofModule obfuscated = .ok renamed) (qs : List Request)
    (hqs : ∀ q ∈ qs, q.isSeeding = true) (m : Recovery)
    (hm : m.concordance = (empty reference renamed).run qs) :
    ∀ t ∈ m.forest.value.all, ∃ id n c r, m.concordance.pairing? id = some n ∧
      reference.entry? n.reference = some c ∧ renamed.entry? n.renamed = some r ∧
      (m.tree id).value = some t ∧ t.renamed = r.fullName ∧
      AtPlaces (m.FieldFrom c r) t.fields ∧
      AtPlaces (m.PropertyFrom c r) t.properties ∧
      (∀ e ∈ t.methods, m.MethodFrom c r e) ∧
      (r.fields.length ≠ c.fields.length → t.fields = []) ∧
      (r.properties.length ≠ c.properties.length → t.properties = []) := by
  have hr : renamed.Sound := Catalog.sound_of_ofModule hobfuscated
  have hc : reference.Sound := Catalog.sound_of_ofModule hclean
  have h : m.concordance.Complete := hm ▸ (complete_empty reference renamed).run hr hc hqs
  have hreference : m.concordance.reference = reference := hm ▸ (run_grows _ qs).reference
  have hrenamed : m.concordance.renamed = renamed := hm ▸ (run_grows _ qs).renamed
  intro t ht
  obtain ⟨id, hid⟩ := exists_tree h t ht
  obtain ⟨n, c, r, hn, hcn, hrn, htree⟩ := (shows_tree h hid).1.eq_assemble
  rw [hreference] at hcn
  rw [hrenamed] at hrn
  refine ⟨id, n, c, r, hn, hcn, hrn, hid, ?_, ?_, ?_, ?_, ?_, ?_⟩ <;> rw [htree]
  · rfl
  · exact value_fields_places m c r
  · exact value_properties_places m c r
  · exact fun e => methodFrom_of_mem
  · intro hcount
    rw [assemble, value_fields, if_neg hcount]
  · intro hcount
    rw [assemble, value_properties, if_neg hcount]

/-- A type that waits, with the state machine that is generated for it. -/
def sampleWaiting (outer field method waiting : String) : Module where
  name := "Waiting.dll"
  types :=
    [.node { name := outer, fields := [⟨field, "System.Int32"⟩] }
      [.node { name := "<Wait>d__4"
               fields := [⟨"<>1__state", "System.Int32"⟩, ⟨field, "System.Int32"⟩]
               methods := [⟨method, "System.Void", .none, []⟩,
                 ⟨waiting, "System.Int32", .none, []⟩] } []]]

theorem members_have_origins_sample : ∃ reference renamed,
    Catalog.ofModule (sampleWaiting "Timer" "ticks" "MoveNext" "<Wait>b__0") = .ok reference ∧
    Catalog.ofModule (sampleWaiting "ABCDEFGHIJK" "KLMNOPQRSTU" "LMNOPQRSTUV" "<Wait>b__0") =
      .ok renamed ∧
      let m : Recovery :=
        { concordance := (empty reference renamed).run [.plantByName "ABCDEFGHIJK" "Timer" 1.0]
          looksRenamed := .capitals 11 }
      m.forest.value.all.map (fun t => (t.fields, t.methods)) =
        [([⟨"KLMNOPQRSTU", "ticks"⟩], []),
          ([⟨"<>1__state", "__state"⟩, ⟨"KLMNOPQRSTU", "ticks"⟩],
            [⟨"LMNOPQRSTUV", "MoveNext", []⟩, ⟨"<Wait>b__0", "Wait", []⟩])] ∧
      ∀ t ∈ m.forest.value.all, ∃ id n c r, m.concordance.pairing? id = some n ∧
        reference.entry? n.reference = some c ∧ renamed.entry? n.renamed = some r ∧
        (m.tree id).value = some t ∧ AtPlaces (m.FieldFrom c r) t.fields ∧
        ∀ e ∈ t.methods, m.MethodFrom c r e := by
  refine ⟨_, _, rfl, rfl, ?_⟩
  intro m
  have horigins := members_have_origins
    (rfl : Catalog.ofModule (sampleWaiting "Timer" "ticks" "MoveNext" "<Wait>b__0") = .ok _)
    (rfl : Catalog.ofModule
      (sampleWaiting "ABCDEFGHIJK" "KLMNOPQRSTU" "LMNOPQRSTUV" "<Wait>b__0") = .ok _)
    [.plantByName "ABCDEFGHIJK" "Timer" 1.0] (by decide) m rfl
  refine ⟨by decide +kernel, fun t ht => ?_⟩
  obtain ⟨id, n, c, r, hn, hc, hr, hid, -, hfields, -, hmethods, -⟩ := horigins t ht
  exact ⟨id, n, c, r, hn, hc, hr, hid, hfields, hmethods⟩

end Recovery

end Concord
