import Concord.Concordance.Planting
import Mathlib.Logic.Relation

/-!
# What requests do to a concordance

A `Request` is any call that may change a concordance; `Concordance.run` makes one after another,
whatever they answer. However many changes a request makes, each of them is one of three moves
(`Move`): a type that has no pairing is bound (`add`), a pairing is put under another one (`nest`),
or a type is bound as a root that has a score of its own (`root`).

* `run_moves`: the concordance after any requests is reached by moves. So what moves keep, all
  requests keep (`Moves.keep`).
* `run_grows`: pairings are never removed or bound anew (`Grows`).
-/

set_option autoImplicit false

namespace Concord

/-! ## Replies -/

namespace Reply

variable {α β : Type} {first : Reply α} {next : α → Concordance → Reply β}

theorem answer_andThen {a : α} (h : first.answer = .ok a) :
    (first.andThen next).answer = (next a first.concordance).answer := by
  simp only [andThen, h]

theorem concordance_andThen {a : α} (h : first.answer = .ok a) :
    (first.andThen next).concordance = (next a first.concordance).concordance := by
  simp only [andThen, h]

theorem answer_andThen_error {e : Refusal} (h : first.answer = .error e) :
    (first.andThen next).answer = .error e := by
  simp only [andThen, h]

theorem concordance_andThen_error {e : Refusal} (h : first.answer = .error e) :
    (first.andThen next).concordance = first.concordance := by
  simp only [andThen, h]

/-- What holds after the first request and is kept by the next one holds after both. -/
theorem andThen_keeps {P : Concordance → Prop} (h : P first.concordance)
    (hnext : ∀ a, first.answer = .ok a → P (next a first.concordance).concordance) :
    P (first.andThen next).concordance := by
  cases ha : first.answer with
  | error e => rw [concordance_andThen_error ha]; exact h
  | ok a => rw [concordance_andThen ha]; exact hnext a ha

/-- The request is granted with the answer `a` and leaves the concordance as it was. -/
structure Idle (reply : Reply α) (g : Concordance) (a : α) : Prop where
  answer : reply.answer = .ok a
  concordance : reply.concordance = g

theorem Idle.andThen {g : Concordance} {a : α} {b : β} (h : first.Idle g a)
    (hnext : (next a g).Idle g b) : (first.andThen next).Idle g b := by
  obtain ⟨ha, rfl⟩ := h
  exact ⟨(answer_andThen ha).trans hnext.answer, (concordance_andThen ha).trans hnext.concordance⟩

@[simp] theorem concordance_map (f : α → β) (reply : Reply α) :
    (reply.map f).concordance = reply.concordance := rfl

@[simp] theorem answer_map (f : α → β) (reply : Reply α) :
    (reply.map f).answer = reply.answer.map f := rfl

end Reply

namespace Concordance

/-! ## The changes -/

section
variable (g : Concordance) (renamed reference : TypeNumber) (id parent x : PairingNumber)
  (declaring : Option PairingNumber) (score : Float)

theorem pairing?_eq_none_iff : g.pairing? id = none ↔ g.size ≤ id.index := by
  simp [pairing?, size]

theorem exists_pairing?_iff : (∃ n, g.pairing? id = some n) ↔ id.index < g.size := by
  rw [← Option.ne_none_iff_exists', ne_eq, pairing?_eq_none_iff, Nat.not_le]

theorem index_lt_size {g : Concordance} {id : PairingNumber} {n : Pairing}
    (hn : g.pairing? id = some n) : id.index < g.size :=
  (g.exists_pairing?_iff id).1 ⟨n, hn⟩

@[simp] theorem pairing?_nextNumber : g.pairing? g.nextNumber = none :=
  (g.pairing?_eq_none_iff _).2 (Nat.le_refl _)

@[simp] theorem size_add : (g.add renamed reference declaring).size = g.size + 1 := by
  simp [add, size]

@[simp] theorem size_nest : (g.nest id declaring).size = g.size := by
  cases declaring <;> simp [nest, size]

@[simp] theorem size_setScore : (g.setScore id score).size = g.size := by
  simp [setScore, size]

theorem pairing?_add : (g.add renamed reference declaring).pairing? x =
    if x = g.nextNumber then
      some { reference, renamed, score := g.inheritedScore declaring, declaring }
    else g.pairing? x := by
  have hx : x = g.nextNumber ↔ x.index = g.pairings.size := by
    cases x; simp [nextNumber, size]
  simp only [pairing?, add, Array.getElem?_push, hx]

theorem pairing?_nest : (g.nest id (some parent)).pairing? x = (g.pairing? x).map fun n =>
    if x = parent ∧ parent ≠ id ∧ id ∉ n.nested then { n with nested := n.nested ++ [id] }
    else n := by
  have hx : parent.index = x.index ↔ x = parent := by
    cases x; cases parent; simp [eq_comm]
  simp only [pairing?, nest, Array.getElem?_modify, hx]
  cases g.pairings[x.index]? with
  | none => simp
  | some n =>
    by_cases h1 : x = parent <;> by_cases h2 : parent = id <;> by_cases h3 : id ∈ n.nested <;>
      simp_all

theorem pairing?_setScore : (g.setScore id score).pairing? x = (g.pairing? x).map fun n =>
    if x = id then { n with score } else n := by
  have hx : id.index = x.index ↔ x = id := by
    cases x; cases id; simp [eq_comm]
  simp only [pairing?, setScore, Array.getElem?_modify, hx]
  by_cases h : x = id <;> simp [h]

@[simp] theorem nest_none : g.nest id none = g := rfl

@[simp] theorem reference_nest : (g.nest id declaring).reference = g.reference := by
  cases declaring <;> rfl

@[simp] theorem renamed_nest : (g.nest id declaring).renamed = g.renamed := by
  cases declaring <;> rfl

@[simp] theorem byType_nest : (g.nest id declaring).byType = g.byType := by
  cases declaring <;> rfl

@[simp] theorem byName_nest : (g.nest id declaring).byName = g.byName := by
  cases declaring <;> rfl

@[simp] theorem roots_nest : (g.nest id declaring).roots = g.roots := by
  cases declaring <;> rfl

end

/-! ## Moves -/

/-- One change of a concordance (module doc), with what is known where it is made. -/
inductive Move (g : Concordance) : Concordance → Prop
  | add {renamed reference : TypeNumber} {declaring : Option PairingNumber}
      (unbound : g.ofType? renamed = none) (hrenamed : g.renamed.contains renamed = true)
      (hreference : g.reference.contains reference = true)
      (hdeclaring : ∀ p, declaring = some p → p.index < g.size) :
      Move g ((g.add renamed reference declaring).nest g.nextNumber declaring)
  | nest {renamed : TypeNumber} {id parent : PairingNumber} (bound : g.ofType? renamed = some id)
      (hparent : parent.index < g.size) : Move g (g.nest id (some parent))
  | root {renamed reference : TypeNumber} (score : Float) (unbound : g.ofType? renamed = none)
      (hrenamed : g.renamed.contains renamed = true)
      (hreference : g.reference.contains reference = true) :
      Move g ((g.add renamed reference none).setScore g.nextNumber score)

/-- Any number of moves, one after another. -/
abbrev Moves : Concordance → Concordance → Prop := Relation.ReflTransGen Move

/-- What a request for a pairing needs in order not to be refused. -/
theorem refusal?_eq_none_iff {g : Concordance} {renamed reference : TypeNumber}
    {declaring : Option PairingNumber} : g.refusal? renamed reference declaring = none ↔
      (∀ p, declaring = some p → p.index < g.size) ∧ (g.ofType? renamed = none →
        g.renamed.contains renamed = true ∧ g.reference.contains reference = true) := by
  have hb : g.bindRefusal? renamed reference = none ↔ (g.ofType? renamed = none →
      g.renamed.contains renamed = true ∧ g.reference.contains reference = true) := by
    unfold bindRefusal?
    cases g.ofType? renamed <;> cases g.renamed.contains renamed <;>
      cases g.reference.contains reference <;> simp
  cases declaring with
  | none => simp [refusal?, hb]
  | some p =>
    by_cases hp : p.index < g.size
    · simp [refusal?, hb, hp]
    · simp [refusal?, hp]

/-- **Everything that `ensure` can do**: it is refused, or finds the pairing, or adds one. -/
theorem ensure_cases (g : Concordance) (renamed reference : TypeNumber)
    (declaring : Option PairingNumber) :
    (∃ e, g.refusal? renamed reference declaring = some e ∧
      (g.ensure renamed reference declaring).answer = .error e ∧
      (g.ensure renamed reference declaring).concordance = g) ∨
    (∃ id, g.refusal? renamed reference declaring = none ∧ g.ofType? renamed = some id ∧
      (g.ensure renamed reference declaring).answer = .ok id ∧
      (g.ensure renamed reference declaring).concordance = g.nest id declaring) ∨
    (g.refusal? renamed reference declaring = none ∧ g.ofType? renamed = none ∧
      (g.ensure renamed reference declaring).answer = .ok g.nextNumber ∧
      (g.ensure renamed reference declaring).concordance =
        (g.add renamed reference declaring).nest g.nextNumber declaring) := by
  unfold ensure
  cases hr : g.refusal? renamed reference declaring with
  | some e => exact .inl ⟨e, rfl, rfl, rfl⟩
  | none =>
    cases ho : g.ofType? renamed with
    | some id => exact .inr (.inl ⟨id, rfl, rfl, rfl, rfl⟩)
    | none => exact .inr (.inr ⟨rfl, rfl, rfl, rfl⟩)

theorem ensure_moves (g : Concordance) (renamed reference : TypeNumber)
    (declaring : Option PairingNumber) :
    Moves g (g.ensure renamed reference declaring).concordance := by
  obtain ⟨e, -, -, hc⟩ | ⟨id, hr, ho, -, hc⟩ | ⟨hr, ho, -, hc⟩ :=
    g.ensure_cases renamed reference declaring
  · rw [hc]
  · rw [hc]
    cases declaring with
    | none => exact .refl
    | some p => exact .single (.nest ho ((refusal?_eq_none_iff.1 hr).1 p rfl))
  · rw [hc]
    obtain ⟨hd, hb⟩ := refusal?_eq_none_iff.1 hr
    exact .single (.add ho (hb ho).1 (hb ho).2 hd)

theorem pairEach_moves (parent : PairingNumber) (pairs : List (TypeNumber × TypeNumber))
    (g : Concordance) : Moves g (pairEach parent pairs g).concordance := by
  induction pairs generalizing g with
  | nil => exact .refl
  | cons pair rest ih =>
    obtain ⟨renamed, reference⟩ := pair
    have h1 := g.ensure_moves renamed reference (some parent)
    refine Reply.andThen_keeps h1 fun child _ => ?_
    rw [Reply.concordance_map]
    exact h1.trans (ih _)

theorem pairNested_moves (g : Concordance) (id : PairingNumber) :
    Moves g (g.pairNested id).concordance := by
  unfold pairNested
  split
  · exact .refl
  · split
    · exact .refl
    · exact .refl
    · split
      · exact pairEach_moves _ _ _
      · exact .refl

theorem pairPending_moves (rounds : Nat) (pending : List PairingNumber) (g : Concordance) :
    Moves g (pairPending rounds pending g).concordance := by
  induction rounds generalizing pending g with
  | zero => exact .refl
  | succ rounds ih =>
    cases pending with
    | nil => exact .refl
    | cons next pending =>
      have h1 := g.pairNested_moves next
      exact Reply.andThen_keeps h1 fun created _ => h1.trans (ih _ _)

/-- The concordance in which a seed is a new root, before its nested types are paired. -/
def withRoot (g : Concordance) (renamed reference : TypeNumber) (score : Float) : Concordance :=
  (g.add renamed reference none).setScore g.nextNumber score

theorem pairing?_withRoot (g : Concordance) (renamed reference : TypeNumber) (score : Float)
    (x : PairingNumber) : (g.withRoot renamed reference score).pairing? x =
      if x = g.nextNumber then some { reference, renamed, score, declaring := none }
      else g.pairing? x := by
  rw [withRoot, pairing?_setScore, pairing?_add]
  by_cases hx : x = g.nextNumber <;> simp [hx]

/-- **Everything that `plant` can do**: it is refused, or finds the renamed type bound, or makes
a new root and pairs what is nested in it. -/
theorem plant_cases (g : Concordance) (renamed reference : TypeNumber) (score : Float) :
    (∃ e, (g.plant renamed reference score).answer = .error e ∧
      (g.plant renamed reference score).concordance = g ∧
      (g.seedRefusal? renamed reference = some e ∨ g.seedRefusal? renamed reference = none ∧
        g.refusal? renamed reference none = some e)) ∨
    (∃ id, g.seedRefusal? renamed reference = none ∧ g.ofType? renamed = some id ∧
      (g.plant renamed reference score).answer = .ok id ∧
      (g.plant renamed reference score).concordance = g) ∨
    (g.seedRefusal? renamed reference = none ∧ g.refusal? renamed reference none = none ∧
      g.ofType? renamed = none ∧
      (g.plant renamed reference score).answer = (pairPending g.renamed.size [g.nextNumber]
        (g.withRoot renamed reference score)).answer.map (fun _ => g.nextNumber) ∧
      (g.plant renamed reference score).concordance = (pairPending g.renamed.size [g.nextNumber]
        (g.withRoot renamed reference score)).concordance) := by
  unfold plant
  cases hs : g.seedRefusal? renamed reference with
  | some e => exact .inl ⟨e, rfl, rfl, .inl rfl⟩
  | none =>
    obtain ⟨e, hr, ha, hc⟩ | ⟨id, hr, ho, ha, hc⟩ | ⟨hr, ho, ha, hc⟩ :=
      g.ensure_cases renamed reference none
    · refine .inl ⟨e, ?_, ?_, .inr ⟨rfl, hr⟩⟩
      · exact Reply.answer_andThen_error ha
      · exact (Reply.concordance_andThen_error ha).trans hc
    · refine .inr (.inl ⟨id, rfl, ho, ?_, ?_⟩)
      · simp only [Reply.answer_andThen ha, hc, nest_none, if_true]
      · simp only [Reply.concordance_andThen ha, hc, nest_none, if_true]
    · refine .inr (.inr ⟨rfl, hr, ho, ?_, ?_⟩)
      · rw [Reply.answer_andThen ha]
        simp only [hc, nest_none, size_add, Nat.add_eq_left, Nat.one_ne_zero, if_false]
        cases hp : (pairPending g.renamed.size [g.nextNumber]
            (g.withRoot renamed reference score)).answer with
        | error e => exact Reply.answer_andThen_error hp
        | ok u => exact Reply.answer_andThen hp
      · rw [Reply.concordance_andThen ha]
        simp only [hc, nest_none, size_add, Nat.add_eq_left, Nat.one_ne_zero, if_false]
        cases hp : (pairPending g.renamed.size [g.nextNumber]
            (g.withRoot renamed reference score)).answer with
        | error e => exact Reply.concordance_andThen_error hp
        | ok u => exact Reply.concordance_andThen hp

theorem plant_moves (g : Concordance) (renamed reference : TypeNumber) (score : Float) :
    Moves g (g.plant renamed reference score).concordance := by
  obtain ⟨e, -, hc, -⟩ | ⟨id, -, -, -, hc⟩ | ⟨-, hr, ho, -, hc⟩ :=
    g.plant_cases renamed reference score
  · rw [hc]
  · rw [hc]
  · rw [hc]
    have hb := (refusal?_eq_none_iff.1 hr).2 ho
    exact .head (.root score ho hb.1 hb.2) (pairPending_moves _ _ _)

theorem plantByName_moves (g : Concordance) (renamed reference : String) (score : Float) :
    Moves g (g.plantByName renamed reference score).concordance := by
  unfold plantByName
  split
  · exact .refl
  · exact .refl
  · exact plant_moves _ _ _ _

theorem plantEach_moves (score : Float) (references : List TypeNumber) (g : Concordance) :
    Moves g (plantEach score references g).concordance := by
  induction references generalizing g with
  | nil => exact .refl
  | cons reference rest ih =>
    rw [plantEach]
    split
    · exact ih g
    · rename_i renamed _
      have h1 := g.plant_moves renamed reference score
      exact Reply.andThen_keeps h1 fun _ _ => h1.trans (ih _)

theorem concordance_plantNamesakes (g : Concordance) (score : Float) :
    (g.plantNamesakes score).concordance = (plantEach score g.reference.roots g).concordance := by
  unfold plantNamesakes
  cases h : (plantEach score g.reference.roots g).answer with
  | error e => exact Reply.concordance_andThen_error h
  | ok u => exact Reply.concordance_andThen h

end Concordance

/-! ## Requests -/

/-- A call that may change a concordance. -/
inductive Request where
  | ensure (renamed reference : TypeNumber) (declaring : Option PairingNumber)
  | pairNested (id : PairingNumber)
  | plant (renamed reference : TypeNumber) (score : Float)
  | plantByName (renamed reference : String) (score : Float)
  | plantNamesakes (score : Float)

namespace Request

/-- The concordance after a request, whatever its answer. -/
def apply (g : Concordance) : Request → Concordance
  | ensure renamed reference declaring => (g.ensure renamed reference declaring).concordance
  | pairNested id => (g.pairNested id).concordance
  | plant renamed reference score => (g.plant renamed reference score).concordance
  | plantByName renamed reference score => (g.plantByName renamed reference score).concordance
  | plantNamesakes score => (g.plantNamesakes score).concordance

/-- The request names a type by its number or name and binds it under no chosen pairing. -/
def isSeeding : Request → Bool
  | ensure .. => false
  | _ => true

/-- The score that a request gives to the roots that it makes. -/
def score? : Request → Option Float
  | ensure .. | pairNested _ => none
  | plant _ _ score | plantByName _ _ score | plantNamesakes score => some score

theorem apply_moves (g : Concordance) (q : Request) : g.Moves (q.apply g) := by
  cases q with
  | ensure renamed reference declaring => exact g.ensure_moves _ _ _
  | pairNested id => exact g.pairNested_moves _
  | plant renamed reference score => exact g.plant_moves _ _ _
  | plantByName renamed reference score => exact g.plantByName_moves _ _ _
  | plantNamesakes score =>
    rw [apply, Concordance.concordance_plantNamesakes]
    exact Concordance.plantEach_moves _ _ _

end Request

namespace Concordance

/-- The concordance after requests, one after another. -/
def run (g : Concordance) : List Request → Concordance
  | [] => g
  | q :: qs => (q.apply g).run qs

theorem run_moves (g : Concordance) (qs : List Request) : g.Moves (g.run qs) := by
  induction qs generalizing g with
  | nil => exact .refl
  | cons q qs ih => exact (q.apply_moves g).trans (ih _)

/-- What every move keeps is kept by any moves. -/
theorem Moves.keep {P : Concordance → Prop} (hP : ∀ g h, Move g h → P g → P h)
    {g h : Concordance} (hm : g.Moves h) (hg : P g) : P h := by
  induction hm with
  | refl => exact hg
  | tail _ hstep ih => exact hP _ _ hstep ih

/-! ## Growth -/

/-- A later state of a pairing: it stays bound as it was and keeps what is nested in it. -/
structure Keeps (n n' : Pairing) : Prop where
  reference : n'.reference = n.reference
  renamed : n'.renamed = n.renamed
  score : n'.score = n.score
  declaring : n'.declaring = n.declaring
  nested : n.nested <+: n'.nested

theorem Keeps.refl (n : Pairing) : Keeps n n := ⟨rfl, rfl, rfl, rfl, List.prefix_refl _⟩

theorem Keeps.trans {n n' n'' : Pairing} (h : Keeps n n') (h' : Keeps n' n'') : Keeps n n'' :=
  ⟨h'.1.trans h.1, h'.2.trans h.2, h'.3.trans h.3, h'.4.trans h.4, h.5.trans h'.5⟩

/-- `h` is a later state of `g`. -/
structure Grows (g h : Concordance) : Prop where
  reference : h.reference = g.reference
  renamed : h.renamed = g.renamed
  pairing : ∀ {id n}, g.pairing? id = some n → ∃ n', h.pairing? id = some n' ∧ Keeps n n'
  ofType : ∀ {x id}, g.ofType? x = some id → h.ofType? x = some id
  roots : g.roots <+: h.roots

theorem Grows.refl (g : Concordance) : Grows g g :=
  ⟨rfl, rfl, fun hn => ⟨_, hn, .refl _⟩, fun h => h, List.prefix_refl _⟩

theorem Grows.trans {g h k : Concordance} (hgh : Grows g h) (hhk : Grows h k) : Grows g k where
  reference := hhk.reference.trans hgh.reference
  renamed := hhk.renamed.trans hgh.renamed
  pairing hn := by
    obtain ⟨n', hn', h1⟩ := hgh.pairing hn
    obtain ⟨n'', hn'', h2⟩ := hhk.pairing hn'
    exact ⟨n'', hn'', h1.trans h2⟩
  ofType hx := hhk.ofType (hgh.ofType hx)
  roots := hgh.roots.trans hhk.roots

theorem Grows.keeps {g h : Concordance} (hgh : Grows g h) {id : PairingNumber} {n n' : Pairing}
    (hn : g.pairing? id = some n) (hn' : h.pairing? id = some n') : Keeps n n' := by
  obtain ⟨m, hm, hk⟩ := hgh.pairing hn
  rw [hn', Option.some.injEq] at hm
  rw [hm]
  exact hk

theorem Grows.size_le {g h : Concordance} (hgh : Grows g h) : g.size ≤ h.size := by
  rcases Nat.eq_zero_or_pos g.size with h0 | hpos
  · omega
  · obtain ⟨n, hn⟩ := (g.exists_pairing?_iff ⟨g.size - 1⟩).2 (by simp; omega)
    obtain ⟨n', hn', -⟩ := hgh.pairing hn
    have := index_lt_size hn'
    simp at this
    omega

theorem ofType?_add (g : Concordance) (renamed reference x : TypeNumber)
    (declaring : Option PairingNumber) : (g.add renamed reference declaring).ofType? x =
      if x = renamed then some g.nextNumber else g.ofType? x := by
  simp only [ofType?, add, List.lookup_cons]
  by_cases h : x = renamed
  · simp [h]
  · rw [show (x == renamed) = false by simpa using h, if_neg h]

theorem grows_add {g : Concordance} {renamed : TypeNumber} (reference : TypeNumber)
    (declaring : Option PairingNumber) (unbound : g.ofType? renamed = none) :
    Grows g (g.add renamed reference declaring) where
  reference := rfl
  renamed := rfl
  pairing {id n} hn := by
    refine ⟨n, ?_, .refl n⟩
    rw [pairing?_add, if_neg, hn]
    rintro rfl
    simp at hn
  ofType {x id} hx := by
    rw [ofType?_add, if_neg, hx]
    rintro rfl
    rw [unbound] at hx
    cases hx
  roots := by
    simp only [add]
    split
    · exact List.prefix_append _ _
    · exact List.prefix_refl _

theorem grows_nest (g : Concordance) (id : PairingNumber) (declaring : Option PairingNumber) :
    Grows g (g.nest id declaring) := by
  cases declaring with
  | none => exact .refl g
  | some parent =>
    refine ⟨rfl, rfl, fun {x n} hn => ?_, fun hx => hx, List.prefix_refl _⟩
    rw [pairing?_nest, hn, Option.map_some]
    refine ⟨_, rfl, ?_⟩
    split
    · exact ⟨rfl, rfl, rfl, rfl, List.prefix_append _ _⟩
    · exact .refl n

theorem Move.grows {g h : Concordance} (hm : Move g h) : Grows g h := by
  cases hm with
  | add unbound _ _ _ => exact (grows_add _ _ unbound).trans (grows_nest _ _ _)
  | nest _ _ => exact grows_nest _ _ _
  | @root renamed reference score unbound _ _ =>
    have h1 := grows_add reference none unbound
    refine ⟨rfl, rfl, fun {x n} hn => ?_, h1.ofType, h1.roots⟩
    obtain ⟨n', hn', hk⟩ := h1.pairing hn
    refine ⟨n', ?_, hk⟩
    -- the score is set at the new root only
    have hne : x ≠ g.nextNumber := by
      rintro rfl
      simp at hn
    rw [pairing?_setScore, hn', Option.map_some, if_neg hne]

theorem Moves.grows {g h : Concordance} (hm : g.Moves h) : Grows g h :=
  Moves.keep (P := Grows g) (fun _ _ hs hg => hg.trans hs.grows) hm (.refl g)

/-- **Requests only add**: pairings are never removed or bound anew. -/
theorem run_grows (g : Concordance) (qs : List Request) : Grows g (g.run qs) :=
  (g.run_moves qs).grows

end Concordance

end Concord
