import Concord.Proofs.Linking

/-!
# Which requests are refused

`Refused g q e` lists the reasons for which a request is refused, in the order in which they count.
`requests_refused_exactly`: in every concordance that requests lead to, a request is refused for
exactly these reasons, and then it leaves everything as it was.

Planting changes the concordance many times on its way, so that it leaves everything as it was only
because nothing is refused after the first change: what it binds from then on are types nested in
the types of pairings, which both catalogs have (`pairNested_ok`, `pairPending_ok`).

The same facts tell that no look-up by number misses. `ensure?`, `pairNested?`, `plant?` and so on
make the same requests with partial look-ups: they give nothing as soon as one misses. On
concordances that requests lead to they are the requests themselves (`ensure?_eq`, `plant?_eq`).
-/

set_option autoImplicit false

namespace Concord

/-! ## Reasons -/

/-- The reason for which a request was refused. -/
def Reply.refusal? {α : Type} (reply : Reply α) : Option Refusal :=
  match reply.answer with
  | .error e => some e
  | .ok _ => none

theorem Reply.refusal?_eq_some_iff {α : Type} {reply : Reply α} {e : Refusal} :
    reply.refusal? = some e ↔ reply.answer = .error e := by
  unfold refusal?
  cases reply.answer <;> simp

theorem Reply.refusal?_eq_none_iff {α : Type} {reply : Reply α} :
    reply.refusal? = none ↔ ∃ a, reply.answer = .ok a := by
  unfold refusal?
  cases reply.answer <;> simp

/-- The reason for which a request is refused. -/
def Request.refusal? (g : Concordance) : Request → Option Refusal
  | ensure renamed reference declaring => (g.ensure renamed reference declaring).refusal?
  | pairNested id => (g.pairNested id).refusal?
  | plant renamed reference score => (g.plant renamed reference score).refusal?
  | plantByName renamed reference score => (g.plantByName renamed reference score).refusal?
  | plantNamesakes score => (g.plantNamesakes score).refusal?

namespace Concordance

/-- The reasons for which requests are refused (module doc). -/
inductive Refused (g : Concordance) : Request → Refusal → Prop
  | noDeclaring {x y : TypeNumber} {p : PairingNumber} (missing : g.size ≤ p.index) :
      Refused g (.ensure x y (some p)) (.noPairing p)
  | noRenamed {x y : TypeNumber} {d : Option PairingNumber}
      (declaring : ∀ p, d = some p → p.index < g.size) (unbound : g.ofType? x = none)
      (missing : g.renamed.contains x = false) : Refused g (.ensure x y d) (.noRenamedType x)
  | noReference {x y : TypeNumber} {d : Option PairingNumber}
      (declaring : ∀ p, d = some p → p.index < g.size) (unbound : g.ofType? x = none)
      (renamed : g.renamed.contains x = true) (missing : g.reference.contains y = false) :
      Refused g (.ensure x y d) (.noReferenceType y)
  | noPairing {id : PairingNumber} (missing : g.size ≤ id.index) :
      Refused g (.pairNested id) (.noPairing id)
  | nestedRenamed {x y : TypeNumber} {score : Float} (nested : g.renamed.isNested x = true) :
      Refused g (.plant x y score) (.nestedSeed .renamed (g.renamed.fullName x))
  | nestedReference {x y : TypeNumber} {score : Float} (renamed : g.renamed.isNested x = false)
      (nested : g.reference.isNested y = true) :
      Refused g (.plant x y score) (.nestedSeed .reference (g.reference.fullName y))
  | plant {x y : TypeNumber} {score : Float} {e : Refusal} (renamed : g.renamed.isNested x = false)
      (reference : g.reference.isNested y = false) (root : Refused g (.ensure x y none) e) :
      Refused g (.plant x y score) e
  | unknownRenamed {a b : String} {score : Float} (missing : g.renamed.find? a = none) :
      Refused g (.plantByName a b score) (.noSeedType .renamed a)
  | unknownReference {a b : String} {score : Float} {x : TypeNumber}
      (renamed : g.renamed.find? a = some x) (missing : g.reference.find? b = none) :
      Refused g (.plantByName a b score) (.noSeedType .reference b)
  | plantByName {a b : String} {score : Float} {x y : TypeNumber} {e : Refusal}
      (renamed : g.renamed.find? a = some x) (reference : g.reference.find? b = some y)
      (seed : Refused g (.plant x y score) e) : Refused g (.plantByName a b score) e

theorem answer_ensure_eq_error_iff {g : Concordance} {x y : TypeNumber} {d : Option PairingNumber}
    {e : Refusal} : (g.ensure x y d).answer = .error e ↔ g.refusal? x y d = some e := by
  obtain ⟨e', hr, ha, -⟩ | ⟨_, hr, -, ha, -⟩ | ⟨hr, -, ha, -⟩ := g.ensure_cases x y d
  · simp [ha, hr]
  · simp [ha, hr]
  · simp [ha, hr]

theorem ensure_refused_iff {g : Concordance} {x y : TypeNumber} {d : Option PairingNumber}
    {e : Refusal} : (g.ensure x y d).answer = .error e ↔ Refused g (.ensure x y d) e := by
  rw [answer_ensure_eq_error_iff]
  constructor
  · have hbind : (∀ p, d = some p → p.index < g.size) → g.bindRefusal? x y = some e →
        Refused g (.ensure x y d) e := by
      intro hd hb
      unfold bindRefusal? at hb
      cases ho : g.ofType? x with
      | some id => simp [ho] at hb
      | none =>
        cases hx : g.renamed.contains x with
        | false =>
          simp only [ho, hx, Option.isSome_none] at hb
          cases hb
          exact .noRenamed hd ho hx
        | true =>
          cases hy : g.reference.contains y with
          | true => simp [ho, hx, hy] at hb
          | false =>
            simp only [ho, hx, hy, Option.isSome_none] at hb
            cases hb
            exact .noReference hd ho hx hy
    cases d with
    | none => exact hbind (by simp)
    | some p =>
      intro h
      simp only [refusal?] at h
      split at h
      · rename_i hp
        exact hbind (by rintro _ ⟨⟩; exact hp) h
      · rename_i hp
        cases h
        exact .noDeclaring (Nat.not_lt.1 hp)
  · have hbind : (∀ p, d = some p → p.index < g.size) →
        g.refusal? x y d = g.bindRefusal? x y := by
      intro hd
      cases d with
      | none => rfl
      | some p => exact if_pos (hd p rfl)
    intro h
    cases h with
    | noDeclaring missing => exact if_neg (Nat.not_lt.2 missing)
    | noRenamed declaring unbound missing => simp [hbind declaring, bindRefusal?, unbound, missing]
    | noReference declaring unbound renamed missing =>
      simp [hbind declaring, bindRefusal?, unbound, renamed, missing]

/-! ## Nested types are there -/

/-- Both types of every pair are in the catalogs. -/
def Known (g : Concordance) (pairs : List (TypeNumber × TypeNumber)) : Prop :=
  ∀ pair ∈ pairs, g.renamed.contains pair.1 = true ∧ g.reference.contains pair.2 = true

theorem known_nestedPairs {g : Concordance} (hr : g.renamed.Sound) (hc : g.reference.Sound)
    (pair : TypeNumber × TypeNumber) : g.Known (nestedPairs g.renamed g.reference pair) := by
  intro x hx
  obtain ⟨e, he, -⟩ := declaring_renamed hr hx
  obtain ⟨f, hf, -⟩ := declaring_reference hc hx
  exact ⟨Catalog.contains_iff.2 ⟨e, he⟩, Catalog.contains_iff.2 ⟨f, hf⟩⟩

/-- A request for a pairing of known types under a pairing that exists is not refused. -/
theorem ensure_ok {g : Concordance} {x y : TypeNumber} {d : Option PairingNumber}
    (hd : ∀ p, d = some p → p.index < g.size) (hx : g.renamed.contains x = true)
    (hy : g.reference.contains y = true) : ∃ id, (g.ensure x y d).answer = .ok id := by
  obtain ⟨e, hr, -⟩ | ⟨id, -, -, ha, -⟩ | ⟨-, -, ha, -⟩ := g.ensure_cases x y d
  · rw [refusal?_eq_none_iff.2 ⟨hd, fun _ => ⟨hx, hy⟩⟩] at hr
    cases hr
  · exact ⟨id, ha⟩
  · exact ⟨_, ha⟩

theorem newNumbers_cons {first last : Nat} (h : first < last) :
    newNumbers first (last - first) = ⟨first⟩ :: newNumbers (first + 1) (last - (first + 1)) := by
  obtain ⟨count, rfl⟩ : ∃ count, last = first + 1 + count := ⟨last - (first + 1), by omega⟩
  rw [show first + 1 + count - first = count + 1 by omega,
    show first + 1 + count - (first + 1) = count by omega]
  rfl

section
variable {g : Concordance}

theorem ofType?_ensure {x y : TypeNumber} {d : Option PairingNumber}
    {id : PairingNumber} (ha : (g.ensure x y d).answer = .ok id) :
    (g.ensure x y d).concordance.ofType? x = some id := by
  obtain ⟨_, -, ha', -⟩ | ⟨id', -, ho, ha', -⟩ | ⟨hr, -, ha', hk⟩ := g.ensure_cases x y d
  · rw [ha'] at ha
    cases ha
  · rw [ha'] at ha
    cases ha
    exact (g.ensure_moves x y d).grows.ofType ho
  · rw [ha'] at ha
    cases ha
    rw [hk, ofType?, byType_nest]
    exact (g.ofType?_add x y x d).trans (if_pos rfl)

/-- **Binding pairs** under a pairing answers with all pairings that are new then. Each of them is
that of one of the pairs, and all pairs are bound. -/
theorem pairEach_new {parent : PairingNumber} {pairs : List (TypeNumber × TypeNumber)}
    (hg : g.WellFormed) (hp : parent.index < g.size) (hknown : g.Known pairs)
    {k : Concordance} (hk : (pairEach parent pairs g).concordance = k) :
    (pairEach parent pairs g).answer = .ok (newNumbers g.size (k.size - g.size)) ∧
      (∀ pair ∈ pairs, ∃ c, k.ofType? pair.1 = some c) ∧
      ∀ id : PairingNumber, g.size ≤ id.index → id.index < k.size → k.types id ∈ pairs := by
  induction pairs generalizing g with
  | nil =>
    obtain rfl : g = k := hk
    refine ⟨by simp [pairEach, newNumbers], by simp, fun id hge hlt => ?_⟩
    omega
  | cons pair rest ih =>
    obtain ⟨x, y⟩ := pair
    obtain ⟨hx, hy⟩ := hknown _ List.mem_cons_self
    have hd : ∀ p, some parent = some p → p.index < g.size := by
      rintro _ ⟨⟩
      exact hp
    have hmoves := g.ensure_moves x y (some parent)
    have hgrows := hmoves.grows
    obtain ⟨id, ha⟩ := ensure_ok hd hx hy
    have hrest :
        (pairEach parent rest (g.ensure x y (some parent)).concordance).concordance = k := by
      rw [pairEach, Reply.concordance_andThen ha] at hk
      exact hk
    have hgrows' : Grows (g.ensure x y (some parent)).concordance k :=
      hrest ▸ (pairEach_moves parent rest _).grows
    have hsize := hgrows'.size_le
    obtain ⟨hanswer, hbound, htypes⟩ := ih (hg.moves hmoves) (Nat.lt_of_lt_of_le hp hgrows.size_le)
      (fun pair hpair => by
        rw [hgrows.renamed, hgrows.reference]
        exact hknown pair (List.mem_cons_of_mem _ hpair)) hrest
    refine ⟨?_, ?_, ?_⟩
    · rw [pairEach, Reply.answer_andThen ha, Reply.answer_map, hanswer]
      obtain ⟨_, _, ha', -⟩ | ⟨_, -, -, -, hc⟩ | ⟨-, -, ha', hc⟩ := g.ensure_cases x y (some parent)
      · rw [ha] at ha'
        cases ha'
      · have hsame : (g.ensure x y (some parent)).concordance.size = g.size := by simp [hc]
        simp [hsame, Except.map]
      · have hmore : (g.ensure x y (some parent)).concordance.size = g.size + 1 := by simp [hc]
        rw [ha, Except.ok.injEq] at ha'
        rw [hmore] at hsize
        simp [hmore, Except.map, newNumbers_cons hsize, ha', nextNumber]
    · intro pair hpair
      rcases List.mem_cons.1 hpair with rfl | hpair
      · exact ⟨id, hgrows'.ofType (ofType?_ensure ha)⟩
      · exact hbound pair hpair
    · intro c hge hlt
      rcases Nat.lt_or_ge c.index (g.ensure x y (some parent)).concordance.size with hc | hc
      · -- the first pair has been bound anew
        obtain ⟨_, _, ha', -⟩ | ⟨_, -, -, -, hk'⟩ | ⟨-, -, -, hk'⟩ :=
          g.ensure_cases x y (some parent)
        · rw [ha] at ha'
          cases ha'
        · rw [hk', size_nest] at hc
          omega
        · obtain rfl : c = g.nextNumber := by
            rw [hk', size_nest, size_add] at hc
            exact congrArg PairingNumber.mk (by omega : c.index = g.size)
          have hnew := hg.pairing?_bind x y hd g.nextNumber
          rw [if_pos rfl, ← hk'] at hnew
          rw [hgrows'.types_eq hc, types_of_pairing? hnew]
          exact List.mem_cons_self
      · exact List.mem_cons_of_mem _ (htypes c hc hlt)

theorem pairNested_ok (hg : g.WellFormed) (hr : g.renamed.Sound) (hc : g.reference.Sound)
    {id : PairingNumber} (hid : id.index < g.size) :
    ∃ created, (g.pairNested id).answer = .ok created ∧
      ∀ c ∈ created, g.size ≤ c.index ∧ c.index < (g.pairNested id).concordance.size := by
  obtain ⟨n, hn⟩ := (g.exists_pairing?_iff id).2 hid
  obtain ⟨ha, hk⟩ := pairNested_eq hg hn
  refine ⟨_, ha.trans (pairEach_new hg hid (known_nestedPairs hr hc _) hk.symm).1, fun c hm => ?_⟩
  have hle := (g.pairNested_moves id).grows.size_le
  rw [mem_newNumbers] at hm
  omega

/-- The work list never runs into a refusal. -/
theorem pairPending_ok (hg : g.WellFormed) (hr : g.renamed.Sound) (hc : g.reference.Sound)
    {rounds : Nat} {pending : List PairingNumber} (hp : ∀ id ∈ pending, id.index < g.size) :
    (pairPending rounds pending g).answer = .ok () := by
  induction rounds generalizing pending g with
  | zero => rfl
  | succ rounds ih =>
    cases pending with
    | nil => rfl
    | cons next pending =>
      obtain ⟨created, ha, hcreated⟩ := pairNested_ok hg hr hc (hp next List.mem_cons_self)
      have hmoves := g.pairNested_moves next
      have hgrows := hmoves.grows
      rw [pairPending, Reply.answer_andThen ha]
      refine ih (hg.moves hmoves) (hgrows.renamed ▸ hr) (hgrows.reference ▸ hc) fun id hid => ?_
      rcases List.mem_append.1 hid with hid | hid
      · exact (hcreated id (List.mem_reverse.1 hid)).2
      · exact Nat.lt_of_lt_of_le (hp id (List.mem_cons_of_mem _ hid)) hgrows.size_le

theorem answer_pairPending_withRoot (hg : g.WellFormed) (hr : g.renamed.Sound)
    (hc : g.reference.Sound) {x y : TypeNumber} (score : Float) (unbound : g.ofType? x = none)
    (hrefusal : g.refusal? x y none = none) (rounds : Nat) :
    (pairPending rounds [g.nextNumber] (g.withRoot x y score)).answer = .ok () := by
  obtain ⟨hx, hy⟩ := (refusal?_eq_none_iff.1 hrefusal).2 unbound
  have hmove : Move g (g.withRoot x y score) := .root score unbound hx hy
  refine pairPending_ok (hg.move hmove) hr hc ?_
  simp [withRoot, nextNumber]

/-- **How planting is granted**: the type is bound already, or the pair becomes a root and what is
pending is worked off. -/
theorem plant_granted (hg : g.WellFormed) (hr : g.renamed.Sound) (hc : g.reference.Sound)
    {x y : TypeNumber} {score : Float} {root : PairingNumber}
    (hok : (g.plant x y score).answer = .ok root) :
    g.seedRefusal? x y = none ∧
      ((g.ofType? x = some root ∧ (g.plant x y score).concordance = g) ∨
        (g.ofType? x = none ∧ g.renamed.contains x = true ∧ g.reference.contains y = true ∧
          root = g.nextNumber ∧ (g.plant x y score).concordance =
            (pairPending g.renamed.size [g.nextNumber] (g.withRoot x y score)).concordance)) := by
  obtain ⟨_, ha, -⟩ | ⟨id, hseed, hbound, ha, hk⟩ | ⟨hseed, hrefusal, unbound, ha, hk⟩ :=
    g.plant_cases x y score
  · rw [hok] at ha
    cases ha
  · rw [hok, Except.ok.injEq] at ha
    exact ⟨hseed, .inl ⟨ha ▸ hbound, hk⟩⟩
  · rw [hok, answer_pairPending_withRoot hg hr hc score unbound hrefusal] at ha
    obtain ⟨hx, hy⟩ := (refusal?_eq_none_iff.1 hrefusal).2 unbound
    exact ⟨hseed, .inr ⟨unbound, hx, hy, by simpa [Except.map] using ha, hk⟩⟩

/-! ## What is refused -/

/-- A seed is refused before anything is changed. -/
theorem answer_plant_eq_error_iff (hg : g.WellFormed) (hr : g.renamed.Sound)
    (hc : g.reference.Sound) {x y : TypeNumber} {score : Float} {e : Refusal} :
    (g.plant x y score).answer = .error e ↔
      g.seedRefusal? x y = some e ∨ g.seedRefusal? x y = none ∧ g.refusal? x y none = some e := by
  obtain ⟨e', ha, -, hbad⟩ | ⟨id, hs, ho, ha, -⟩ | ⟨hs, hrefusal, ho, ha, -⟩ :=
    g.plant_cases x y score
  · rw [ha, Except.error.injEq]
    rcases hbad with hs | ⟨hs, hrefusal⟩
    · simp [hs]
    · simp [hs, hrefusal]
  · have hnone : g.refusal? x y none = none :=
      refusal?_eq_none_iff.2 ⟨by simp, fun h => by rw [ho] at h; cases h⟩
    simp [ha, hs, hnone]
  · rw [ha, answer_pairPending_withRoot hg hr hc score ho hrefusal]
    simp [hs, hrefusal, Except.map]

theorem plant_refused_iff (hg : g.WellFormed) (hr : g.renamed.Sound) (hc : g.reference.Sound)
    {x y : TypeNumber} {score : Float} {e : Refusal} :
    (g.plant x y score).answer = .error e ↔ Refused g (.plant x y score) e := by
  rw [answer_plant_eq_error_iff hg hr hc, ← answer_ensure_eq_error_iff, ensure_refused_iff,
    seedRefusal?]
  cases hx : g.renamed.isNested x with
  | true =>
    simp only [if_true, Option.some.injEq, reduceCtorEq, false_and, or_false]
    constructor
    · rintro rfl
      exact .nestedRenamed hx
    · intro h
      cases h <;> simp_all
  | false =>
    cases hy : g.reference.isNested y with
    | true =>
      simp only [if_true, Bool.false_eq_true, if_false, Option.some.injEq, reduceCtorEq, false_and,
        or_false]
      constructor
      · rintro rfl
        exact .nestedReference hx hy
      · intro h
        cases h <;> simp_all
    | false =>
      simp only [Bool.false_eq_true, if_false, reduceCtorEq, true_and, false_or]
      constructor
      · exact .plant hx hy
      · intro h
        cases h <;> simp_all

theorem plantByName_refused_iff (hg : g.WellFormed) (hr : g.renamed.Sound)
    (hc : g.reference.Sound) {a b : String} {score : Float} {e : Refusal} :
    (g.plantByName a b score).answer = .error e ↔ Refused g (.plantByName a b score) e := by
  unfold plantByName
  cases ha : g.renamed.find? a with
  | none =>
    simp only [Except.error.injEq]
    constructor
    · rintro rfl
      exact .unknownRenamed ha
    · intro h
      cases h <;> simp_all
  | some x =>
    cases hb : g.reference.find? b with
    | none =>
      simp only [Except.error.injEq]
      constructor
      · rintro rfl
        exact .unknownReference ha hb
      · intro h
        cases h <;> simp_all
    | some y =>
      simp only [plant_refused_iff hg hr hc]
      constructor
      · exact .plantByName ha hb
      · intro h
        cases h <;> simp_all

/-- A pair of types that are not nested can be planted. -/
theorem plant_ok (hg : g.WellFormed) (hr : g.renamed.Sound) (hc : g.reference.Sound)
    {x y : TypeNumber} (score : Float) (hx : g.renamed.contains x = true)
    (hy : g.reference.contains y = true) (hxn : g.renamed.isNested x = false)
    (hyn : g.reference.isNested y = false) : ∃ id, (g.plant x y score).answer = .ok id := by
  have hseed : g.seedRefusal? x y = none := by simp [seedRefusal?, hxn, hyn]
  have hrefusal : g.refusal? x y none = none :=
    refusal?_eq_none_iff.2 ⟨by simp, fun _ => ⟨hx, hy⟩⟩
  cases ha : (g.plant x y score).answer with
  | ok id => exact ⟨id, rfl⟩
  | error e =>
    rw [answer_plant_eq_error_iff hg hr hc, hseed, hrefusal] at ha
    simp at ha

theorem plantEach_ok (hg : g.WellFormed) (hr : g.renamed.Sound) (hc : g.reference.Sound)
    (score : Float) {references : List TypeNumber}
    (hrefs : ∀ y ∈ references, ∃ e, g.reference.entry? y = some e ∧ e.declaring = none) :
    (plantEach score references g).answer = .ok () := by
  induction references generalizing g with
  | nil => rfl
  | cons y rest ih =>
    have hrest := fun z hz => hrefs z (List.mem_cons_of_mem y hz)
    rw [plantEach]
    split
    · exact ih hg hr hc hrest
    · rename_i x hnamesake
      obtain ⟨hfind, hnested⟩ := Option.filter_eq_some_iff.1 hnamesake
      obtain ⟨f, hf, -⟩ := hr.find?_eq_some_iff.1 hfind
      obtain ⟨e, he, hd⟩ := hrefs y List.mem_cons_self
      obtain ⟨id, ha⟩ := plant_ok hg hr hc score (Catalog.contains_iff.2 ⟨f, hf⟩)
        (Catalog.contains_iff.2 ⟨e, he⟩) (by simpa using hnested)
        ((Catalog.isNested_eq_false_iff he).2 hd)
      have hmoves := g.plant_moves x y score
      have hgrows := hmoves.grows
      rw [Reply.answer_andThen ha]
      refine ih (hg.moves hmoves) (hgrows.renamed ▸ hr) (hgrows.reference ▸ hc) ?_
      rw [hgrows.reference]
      exact hrest

theorem plantNamesakes_ok (hg : g.WellFormed) (hr : g.renamed.Sound) (hc : g.reference.Sound)
    (score : Float) : ∃ count, (g.plantNamesakes score).answer = .ok count := by
  have hok := plantEach_ok hg hr hc score fun y hy => (hc.roots_iff y).1 hy
  exact ⟨_, Reply.answer_andThen hok⟩

/-- **Requests are refused for the listed reasons only**, and for each of them. -/
theorem refusal?_eq_some_iff (hg : g.WellFormed) (hr : g.renamed.Sound) (hc : g.reference.Sound)
    {q : Request} {e : Refusal} : q.refusal? g = some e ↔ Refused g q e := by
  cases q with
  | ensure x y d => exact Reply.refusal?_eq_some_iff.trans ensure_refused_iff
  | pairNested id =>
    refine Reply.refusal?_eq_some_iff.trans ⟨fun h => ?_, fun h => ?_⟩
    · rcases Nat.lt_or_ge id.index g.size with hlt | hge
      · obtain ⟨created, ha, -⟩ := pairNested_ok hg hr hc hlt
        rw [ha] at h
        cases h
      · simp only [pairNested, (g.pairing?_eq_none_iff id).2 hge] at h
        cases h
        exact .noPairing hge
    · cases h with
      | noPairing missing => simp only [pairNested, (g.pairing?_eq_none_iff id).2 missing]
  | plant x y score => exact Reply.refusal?_eq_some_iff.trans (plant_refused_iff hg hr hc)
  | plantByName a b score =>
    exact Reply.refusal?_eq_some_iff.trans (plantByName_refused_iff hg hr hc)
  | plantNamesakes score =>
    obtain ⟨count, ha⟩ := plantNamesakes_ok hg hr hc score
    refine Reply.refusal?_eq_some_iff.trans ⟨fun h => ?_, fun h => ?_⟩
    · rw [ha] at h
      cases h
    · cases h

theorem plant_eq_self_of_error (hg : g.WellFormed) (hr : g.renamed.Sound) (hc : g.reference.Sound)
    {x y : TypeNumber} {score : Float} {e : Refusal} (h : (g.plant x y score).answer = .error e) :
    (g.plant x y score).concordance = g := by
  obtain ⟨_, -, hk, -⟩ | ⟨_, -, -, -, hk⟩ | ⟨-, hrefusal, ho, ha, -⟩ := g.plant_cases x y score
  · exact hk
  · exact hk
  · rw [ha, answer_pairPending_withRoot hg hr hc score ho hrefusal] at h
    cases h

/-- **A refused request leaves everything as it was.** -/
theorem apply_eq_self_of_refused (hg : g.WellFormed) (hr : g.renamed.Sound)
    (hc : g.reference.Sound) {q : Request} {e : Refusal} (h : q.refusal? g = some e) :
    q.apply g = g := by
  cases q with
  | ensure x y d =>
    rw [Request.refusal?, Reply.refusal?_eq_some_iff] at h
    obtain ⟨_, -, -, hk⟩ | ⟨_, -, -, ha, -⟩ | ⟨-, -, ha, -⟩ := g.ensure_cases x y d
    · exact hk
    · rw [ha] at h; cases h
    · rw [ha] at h; cases h
  | pairNested id =>
    cases (refusal?_eq_some_iff hg hr hc).1 h with
    | noPairing missing =>
      simp only [Request.apply, pairNested, (g.pairing?_eq_none_iff id).2 missing]
  | plant x y score =>
    exact plant_eq_self_of_error hg hr hc (Reply.refusal?_eq_some_iff.1 h)
  | plantByName a b score =>
    rw [Request.refusal?, Reply.refusal?_eq_some_iff] at h
    simp only [Request.apply, plantByName] at h ⊢
    split at h
    · rfl
    · rfl
    · exact plant_eq_self_of_error hg hr hc h
  | plantNamesakes score => cases (refusal?_eq_some_iff hg hr hc).1 h

end

end Concordance

/-! ## Partial look-ups

Each request once more, in which every look-up by number gives nothing if it misses. -/

/-- One request after another, each of which may miss. -/
def Reply.andThen? {α β : Type} (first : Option (Reply α))
    (next : α → Concordance → Option (Reply β)) : Option (Reply β) :=
  first.bind fun reply =>
    match reply.answer with
    | .error e =>
      some { answer := .error e, concordance := reply.concordance, events := reply.events }
    | .ok a =>
      (next a reply.concordance).map fun second =>
        { second with events := reply.events ++ second.events }

theorem Reply.andThen?_eq {α β : Type} {first? : Option (Reply α)} {first : Reply α}
    {next? : α → Concordance → Option (Reply β)} {next : α → Concordance → Reply β}
    (hfirst : first? = some first)
    (hnext : ∀ a, first.answer = .ok a →
      next? a first.concordance = some (next a first.concordance)) :
    Reply.andThen? first? next? = some (first.andThen next) := by
  rw [hfirst, andThen?, andThen, Option.bind_some]
  cases ha : first.answer with
  | error e => rfl
  | ok a => simp [hnext a ha]

namespace Concordance

def nest? (g : Concordance) (id : PairingNumber) : Option PairingNumber → Option Concordance
  | none => some g
  | some parent => (g.pairing? parent).map fun _ => g.nest id (some parent)

/-- `add`, with the score and the full name looked up. -/
def add? (g : Concordance) (renamed reference : TypeNumber) (declaring : Option PairingNumber) :
    Option Concordance := do
  let score ← match declaring with
    | none => some 0.0
    | some parent => (g.pairing? parent).map (·.score)
  let entry ← g.renamed.entry? renamed
  return { g with
    pairings := g.pairings.push { reference, renamed, score, declaring }
    byType := (renamed, g.nextNumber) :: g.byType
    byName := (entry.fullName, g.nextNumber) :: g.byName
    roots := if declaring.isNone then g.roots ++ [g.nextNumber] else g.roots }

def ensure? (g : Concordance) (renamed reference : TypeNumber) (declaring : Option PairingNumber) :
    Option (Reply PairingNumber) :=
  match g.refusal? renamed reference declaring with
  | some e => some { answer := .error e, concordance := g }
  | none =>
    match g.ofType? renamed with
    | some id => do
      let k ← g.nest? id declaring
      return { answer := .ok id, concordance := k }
    | none => do
      let k ← g.add? renamed reference declaring
      let a ← g.renamed.entry? renamed
      let b ← g.reference.entry? reference
      let k ← k.nest? g.nextNumber declaring
      return { answer := .ok g.nextNumber, concordance := k
               events := [.bound g.nextNumber a.fullName b.fullName] }

def pairEach? (parent : PairingNumber) :
    List (TypeNumber × TypeNumber) → Concordance → Option (Reply (List PairingNumber))
  | [], g => some { answer := .ok [], concordance := g }
  | (renamed, reference) :: rest, g =>
    Reply.andThen? (g.ensure? renamed reference (some parent)) fun child h =>
      (pairEach? parent rest h).map fun reply =>
        reply.map fun created => if g.size < h.size then child :: created else created

def pairNested? (g : Concordance) (id : PairingNumber) : Option (Reply (List PairingNumber)) :=
  match g.pairing? id with
  | none => some { answer := .error (.noPairing id), concordance := g }
  | some n => do
    let renamed ← g.renamed.entry? n.renamed
    let reference ← g.reference.entry? n.reference
    if renamed.nested.length = reference.nested.length then
      pairEach? id (renamed.nested.zip reference.nested) g
    else
      return { answer := .ok []
               concordance := g
               events := [.nestedCountsDiffer renamed.fullName reference.fullName
                renamed.nested.length reference.nested.length] }

def pairPending? : Nat → List PairingNumber → Concordance → Option (Reply Unit)
  | 0, _, g | _, [], g => some { answer := .ok (), concordance := g }
  | rounds + 1, next :: pending, g =>
    Reply.andThen? (g.pairNested? next) fun created h =>
      pairPending? rounds (created.reverse ++ pending) h

def plant? (g : Concordance) (renamed reference : TypeNumber) (score : Float) :
    Option (Reply PairingNumber) :=
  match g.seedRefusal? renamed reference with
  | some e => some { answer := .error e, concordance := g }
  | none =>
    Reply.andThen? (g.ensure? renamed reference none) fun root h =>
      if h.size = g.size then some { answer := .ok root, concordance := h }
      else do
        let _ ← h.pairing? root
        Reply.andThen? (pairPending? h.renamed.size [root] (h.setScore root score)) fun () k => do
          let a ← k.renamed.entry? renamed
          let b ← k.reference.entry? reference
          return { answer := .ok root
                   concordance := k
                   events := [.seeded a.fullName b.fullName score (k.size - g.size)] }

def plantByName? (g : Concordance) (renamed reference : String) (score : Float) :
    Option (Reply PairingNumber) :=
  match g.renamed.find? renamed, g.reference.find? reference with
  | none, _ => some { answer := .error (.noSeedType .renamed renamed), concordance := g }
  | some _, none => some { answer := .error (.noSeedType .reference reference), concordance := g }
  | some renamed, some reference => g.plant? renamed reference score

def plantEach? (score : Float) : List TypeNumber → Concordance → Option (Reply Unit)
  | [], g => some { answer := .ok (), concordance := g }
  | reference :: rest, g => do
    let b ← g.reference.entry? reference
    match g.renamed.find? b.fullName with
    | none => plantEach? score rest g
    | some renamed => do
      let a ← g.renamed.entry? renamed
      if a.isNested then plantEach? score rest g
      else Reply.andThen? (g.plant? renamed reference score) fun _ h => plantEach? score rest h

def plantNamesakes? (g : Concordance) (score : Float) : Option (Reply Nat) :=
  Reply.andThen? (plantEach? score g.reference.roots g) fun () h =>
    some { answer := .ok (h.roots.length - g.roots.length), concordance := h }

section
variable {g : Concordance}

theorem nest?_eq {id : PairingNumber} {d : Option PairingNumber}
    (hd : ∀ p, d = some p → p.index < g.size) : g.nest? id d = some (g.nest id d) := by
  cases d with
  | none => rfl
  | some parent =>
    obtain ⟨n, hn⟩ := (g.exists_pairing?_iff parent).2 (hd parent rfl)
    simp [nest?, hn]

theorem add?_eq {x y : TypeNumber} {d : Option PairingNumber}
    (hd : ∀ p, d = some p → p.index < g.size) {e : CatalogEntry}
    (he : g.renamed.entry? x = some e) : g.add? x y d = some (g.add x y d) := by
  have hname := Catalog.fullName_of_entry? he
  cases d with
  | none => simp [add?, add, he, hname, inheritedScore]
  | some parent =>
    obtain ⟨n, hn⟩ := (g.exists_pairing?_iff parent).2 (hd parent rfl)
    simp [add?, add, he, hname, hn, inheritedScore]

theorem ensure?_eq (x y : TypeNumber) (d : Option PairingNumber) :
    g.ensure? x y d = some (g.ensure x y d) := by
  unfold ensure? ensure
  cases hrefusal : g.refusal? x y d with
  | some e => rfl
  | none =>
    obtain ⟨hd, hb⟩ := refusal?_eq_none_iff.1 hrefusal
    cases ho : g.ofType? x with
    | some id => simp [nest?_eq hd]
    | none =>
      obtain ⟨e, he⟩ := Catalog.contains_iff.1 (hb ho).1
      obtain ⟨f, hf⟩ := Catalog.contains_iff.1 (hb ho).2
      have hk : ∀ p, d = some p → p.index < (g.add x y d).size := by
        intro p hp
        rw [size_add]
        exact Nat.lt_succ_of_lt (hd p hp)
      simp [add?_eq hd he, nest?_eq hk, he, hf, Catalog.fullName_of_entry? he,
        Catalog.fullName_of_entry? hf]

theorem pairEach?_eq (parent : PairingNumber) (pairs : List (TypeNumber × TypeNumber)) :
    pairEach? parent pairs g = some (pairEach parent pairs g) := by
  induction pairs generalizing g with
  | nil => rfl
  | cons pair rest ih =>
    obtain ⟨x, y⟩ := pair
    refine Reply.andThen?_eq (ensure?_eq _ _ _) fun child _ => ?_
    rw [ih]
    rfl

theorem pairNested?_eq (hg : g.WellFormed) (id : PairingNumber) :
    g.pairNested? id = some (g.pairNested id) := by
  unfold pairNested? pairNested
  cases hn : g.pairing? id with
  | none => rfl
  | some n =>
    obtain ⟨hy, hx⟩ := hg.valid hn
    obtain ⟨a, ha⟩ := Catalog.contains_iff.1 hx
    obtain ⟨b, hb⟩ := Catalog.contains_iff.1 hy
    simp only [ha, hb, Option.bind_eq_bind, Option.bind_some]
    split
    · exact pairEach?_eq _ _
    · rfl

theorem pairPending?_eq (hg : g.WellFormed) (rounds : Nat) (pending : List PairingNumber) :
    pairPending? rounds pending g = some (pairPending rounds pending g) := by
  induction rounds generalizing pending g with
  | zero => rfl
  | succ rounds ih =>
    cases pending with
    | nil => rfl
    | cons next pending =>
      exact Reply.andThen?_eq (pairNested?_eq hg next) fun created _ =>
        ih (hg.moves (g.pairNested_moves next)) _

theorem plant?_eq (hg : g.WellFormed) (x y : TypeNumber) (score : Float) :
    g.plant? x y score = some (g.plant x y score) := by
  unfold plant? plant
  cases g.seedRefusal? x y with
  | some e => rfl
  | none =>
    refine Reply.andThen?_eq (ensure?_eq _ _ _) fun root hroot => ?_
    obtain ⟨_, -, ha, -⟩ | ⟨id, -, -, ha, hk⟩ | ⟨hrefusal, ho, ha, hk⟩ := g.ensure_cases x y none
    · rw [ha] at hroot; cases hroot
    · simp [hk]
    · rw [ha] at hroot
      cases hroot
      obtain ⟨hx, hy⟩ := (refusal?_eq_none_iff.1 hrefusal).2 ho
      obtain ⟨e, he⟩ := Catalog.contains_iff.1 hx
      obtain ⟨f, hf⟩ := Catalog.contains_iff.1 hy
      have hmove : Move g (g.withRoot x y score) := .root score ho hx hy
      have hnew := g.pairing?_add x y g.nextNumber none
      rw [if_pos rfl] at hnew
      simp only [hk, nest_none, size_add, Nat.add_eq_left, Nat.one_ne_zero, if_false, hnew,
        Option.bind_eq_bind, Option.bind_some]
      refine Reply.andThen?_eq (pairPending?_eq (hg.move hmove) _ _) fun _ _ => ?_
      -- the catalogs are still the same
      have hgrows := (pairPending_moves (g.add x y none).renamed.size [g.nextNumber]
        ((g.add x y none).setScore g.nextNumber score)).grows
      generalize (pairPending (g.add x y none).renamed.size [g.nextNumber]
        ((g.add x y none).setScore g.nextNumber score)).concordance = k at hgrows ⊢
      have he' : k.renamed.entry? x = some e := by rw [hgrows.renamed]; exact he
      have hf' : k.reference.entry? y = some f := by rw [hgrows.reference]; exact hf
      simp [he', hf', Catalog.fullName_of_entry? he', Catalog.fullName_of_entry? hf']

theorem plantByName?_eq (hg : g.WellFormed) (a b : String) (score : Float) :
    g.plantByName? a b score = some (g.plantByName a b score) := by
  unfold plantByName? plantByName
  cases g.renamed.find? a with
  | none => rfl
  | some x =>
    cases g.reference.find? b with
    | none => rfl
    | some y => exact plant?_eq hg x y score

theorem plantEach?_eq (hg : g.WellFormed) (hr : g.renamed.Sound) (score : Float)
    {references : List TypeNumber} (hrefs : ∀ y ∈ references, g.reference.contains y = true) :
    plantEach? score references g = some (plantEach score references g) := by
  induction references generalizing g with
  | nil => rfl
  | cons y rest ih =>
    have hrest := fun z hz => hrefs z (List.mem_cons_of_mem y hz)
    obtain ⟨e, he⟩ := Catalog.contains_iff.1 (hrefs y List.mem_cons_self)
    rw [plantEach?, plantEach, he, namesake?, Catalog.fullName_of_entry? he]
    simp only [Option.bind_eq_bind, Option.bind_some]
    cases hfind : g.renamed.find? e.fullName with
    | none => exact ih hg hr hrest
    | some x =>
      obtain ⟨f, hf, -⟩ := hr.find?_eq_some_iff.1 hfind
      have hnested : g.renamed.isNested x = f.isNested := by simp [Catalog.isNested, hf]
      simp only [hf, Option.bind_some, Option.filter_some, hnested]
      cases f.isNested with
      | true => exact ih hg hr hrest
      | false =>
        have hmoves := g.plant_moves x y score
        have hgrows := hmoves.grows
        refine Reply.andThen?_eq (plant?_eq hg x y score) fun _ _ =>
          ih (hg.moves hmoves) (hgrows.renamed ▸ hr) ?_
        rw [hgrows.reference]
        exact hrest

theorem plantNamesakes?_eq (hg : g.WellFormed) (hr : g.renamed.Sound) (hc : g.reference.Sound)
    (score : Float) : g.plantNamesakes? score = some (g.plantNamesakes score) := by
  have hroots : ∀ y ∈ g.reference.roots, g.reference.contains y = true := by
    intro y hy
    obtain ⟨e, he, -⟩ := (hc.roots_iff y).1 hy
    exact Catalog.contains_iff.2 ⟨e, he⟩
  exact Reply.andThen?_eq (plantEach?_eq hg hr score hroots) fun _ _ => rfl

end

/-- **Requests are refused exactly for the listed reasons.** In every concordance that requests lead
to, whatever they answered: a request is refused for the reason that is listed, planting namesakes
is never refused, a refused request leaves everything as it was, and no look-up by number misses. -/
theorem requests_refused_exactly {clean obfuscated : Module} {reference renamed : Catalog}
    (hclean : Catalog.ofModule clean = .ok reference)
    (hobfuscated : Catalog.ofModule obfuscated = .ok renamed) (qs : List Request) :
    let g := (empty reference renamed).run qs
    (∀ (q : Request) e, q.refusal? g = some e ↔ Refused g q e) ∧
    (∀ score, ∃ count, (g.plantNamesakes score).answer = .ok count) ∧
    (∀ (q : Request) e, q.refusal? g = some e → q.apply g = g) ∧
    (∀ x y d, g.ensure? x y d = some (g.ensure x y d)) ∧
    (∀ id, g.pairNested? id = some (g.pairNested id)) ∧
    (∀ x y score, g.plant? x y score = some (g.plant x y score)) ∧
    (∀ a b score, g.plantByName? a b score = some (g.plantByName a b score)) ∧
    ∀ score, g.plantNamesakes? score = some (g.plantNamesakes score) := by
  intro g
  have hg : g.WellFormed := run_wellFormed reference renamed qs
  have hgrows : Grows (empty reference renamed) g := run_grows _ qs
  have hr : g.renamed.Sound := by
    rw [hgrows.renamed]
    exact Catalog.sound_of_ofModule hobfuscated
  have hc : g.reference.Sound := by
    rw [hgrows.reference]
    exact Catalog.sound_of_ofModule hclean
  exact ⟨fun q e => refusal?_eq_some_iff hg hr hc, plantNamesakes_ok hg hr hc,
    fun q e => apply_eq_self_of_refused hg hr hc, ensure?_eq, pairNested?_eq hg, plant?_eq hg,
    plantByName?_eq hg, plantNamesakes?_eq hg hr hc⟩

theorem requests_refused_sample : ∃ reference renamed,
    Catalog.ofModule samplePlayer = .ok reference ∧ Catalog.ofModule sampleRenamed = .ok renamed ∧
      let g := (empty reference renamed).run sampleRequests
      let nestedSeed : Request := .plant ⟨1⟩ ⟨9⟩ 0.5
      let noReference : Request := .ensure ⟨0⟩ ⟨9⟩ (some ⟨5⟩)
      g.renamed.fullName ⟨1⟩ = "ABCDEFGHIJK/LMNOPQRSTUV" ∧
        nestedSeed.refusal? g = some (.nestedSeed .renamed (g.renamed.fullName ⟨1⟩)) ∧
        nestedSeed.apply g = g ∧ noReference.refusal? g = some (.noPairing ⟨5⟩) ∧
        noReference.apply g = g := by
  refine ⟨_, _, rfl, rfl, ?_⟩
  obtain ⟨hreasons, -, hsame, -⟩ := requests_refused_exactly
    (rfl : Catalog.ofModule samplePlayer = .ok _) (rfl : Catalog.ofModule sampleRenamed = .ok _)
    sampleRequests
  have hnested := (hreasons (.plant ⟨1⟩ ⟨9⟩ 0.5) _).2 (.nestedRenamed (by decide +kernel))
  have hmissing := (hreasons (.ensure ⟨0⟩ ⟨9⟩ (some ⟨5⟩)) _).2 (.noDeclaring (by decide +kernel))
  exact ⟨by decide +kernel, hnested, hsame _ _ hnested, hmissing, hsame _ _ hmissing⟩

end Concordance

end Concord
