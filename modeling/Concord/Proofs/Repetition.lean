import Concord.Proofs.Subtrees

/-!
# Asking again changes nothing

A request that has been granted finds everything done when it is made once more: it gets the same
answer, creates nothing and leaves the concordance as it was (`requests_settle`). Each kind of
request has its own reason for that.

* `ensure_again`: the type is bound by then, and nested where it was asked for.
* `pairNested_again`: the pairing is fully linked by then, also by pairings that existed before.
* `plant_bound`: a renamed type that is bound is not planted, whatever reference type and score
  are given with it.
* `plantEach_bound`: every namesake of the list is bound by then, the earlier ones still.
-/

set_option autoImplicit false

namespace Concord.Concordance

variable {g : Concordance}

/-! ## Single pairings -/

theorem ensure_again (hg : g.WellFormed) {x y : TypeNumber} {d : Option PairingNumber}
    {id : PairingNumber} (hok : (g.ensure x y d).answer = .ok id) {k : Concordance}
    (hk : (g.ensure x y d).concordance = k) : (k.ensure x y d).Idle k id := by
  have hgrows : Grows g k := hk ▸ (g.ensure_moves x y d).grows
  have hbound : k.ofType? x = some id := hk ▸ ofType?_ensure hok
  have hdeclaring : ∀ p, d = some p → p.index < g.size := by
    obtain ⟨_, -, ha, -⟩ | ⟨_, hr, -⟩ | ⟨hr, -⟩ := g.ensure_cases x y d
    · rw [hok] at ha
      cases ha
    · exact (refusal?_eq_none_iff.1 hr).1
    · exact (refusal?_eq_none_iff.1 hr).1
  refine ensure_settled y hbound fun p hp => ?_
  refine ⟨Nat.lt_of_lt_of_le (hdeclaring p hp) hgrows.size_le, ?_⟩
  by_cases hid : id = p
  · exact .inl hid.symm
  · have hnested := (nestedIn_ensure hg hok id p).2 (.inr ⟨hp, hid, rfl⟩)
    rw [hk] at hnested
    exact .inr hnested

theorem pairNested_again (hg : g.WellFormed) (hr : g.renamed.Sound) (hc : g.reference.Sound)
    {p : PairingNumber} {created : List PairingNumber}
    (hok : (g.pairNested p).answer = .ok created) {k : Concordance}
    (hk : (g.pairNested p).concordance = k) : (k.pairNested p).Idle k [] := by
  have hmoves : g.Moves k := hk ▸ g.pairNested_moves p
  have hp : p.index < g.size := by
    refine Nat.lt_of_not_le fun hmissing => ?_
    simp only [pairNested, (g.pairing?_eq_none_iff p).2 hmissing] at hok
    cases hok
  obtain ⟨-, hlinked, -⟩ := pairNested_new hg hr hc hp hk
  obtain ⟨n, hn⟩ := (k.exists_pairing?_iff p).2 (Nat.lt_of_lt_of_le hp hmoves.grows.size_le)
  exact pairNested_settled (hg.moves hmoves) hn hlinked

/-! ## Seeds -/

/-- **A bound type is not planted again**, whatever reference type and score are given with it. -/
theorem plant_bound {x y : TypeNumber} (score : Float) {root : PairingNumber}
    (hbound : g.ofType? x = some root) (hx : g.renamed.isNested x = false)
    (hy : g.reference.isNested y = false) : (g.plant x y score).Idle g root := by
  have hseed : g.seedRefusal? x y = none := seedRefusal?_eq_none_iff.2 ⟨hx, hy⟩
  have hrefusal : g.refusal? x y none = none := by
    refine refusal?_eq_none_iff.2 ⟨by simp, fun ho => ?_⟩
    rw [hbound] at ho
    cases ho
  obtain ⟨e, -, -, hbad⟩ | ⟨id, -, ho, ha, hk⟩ | ⟨-, -, ho, -⟩ := g.plant_cases x y score
  · simp [hseed, hrefusal] at hbad
  · rw [hbound, Option.some.injEq] at ho
    subst ho
    exact ⟨ha, hk⟩
  · rw [hbound] at ho
    cases ho

theorem plant_again (hg : g.WellFormed) (hr : g.renamed.Sound) (hc : g.reference.Sound)
    {x y y' : TypeNumber} {score : Float} {root : PairingNumber}
    (hok : (g.plant x y score).answer = .ok root) {k : Concordance}
    (hk : (g.plant x y score).concordance = k)
    (hy' : y' = y ∨ g.reference.isNested y' = false) (score' : Float) :
    (k.plant x y' score').Idle k root := by
  have hgrows : Grows g k := hk ▸ (g.plant_moves x y score).grows
  obtain ⟨hseed, -⟩ := plant_granted hg hr hc hok
  obtain ⟨hx, hy⟩ := seedRefusal?_eq_none_iff.1 hseed
  refine plant_bound score' (hg.plant_links hr hc hok hk).1 (hgrows.renamed ▸ hx) ?_
  rw [hgrows.reference]
  rcases hy' with rfl | hy'
  · exact hy
  · exact hy'

theorem plantByName_again (hg : g.WellFormed) (hr : g.renamed.Sound) (hc : g.reference.Sound)
    {a b : String} {score : Float} {root : PairingNumber}
    (hok : (g.plantByName a b score).answer = .ok root) {k : Concordance}
    (hk : (g.plantByName a b score).concordance = k) (score' : Float) :
    (k.plantByName a b score').Idle k root := by
  have hgrows : Grows g k := hk ▸ (g.plantByName_moves a b score).grows
  unfold plantByName at hok hk ⊢
  rw [hgrows.renamed, hgrows.reference]
  cases ha : g.renamed.find? a with
  | none =>
    simp only [ha] at hok
    cases hok
  | some x =>
    cases hb : g.reference.find? b with
    | none =>
      simp only [ha, hb] at hok
      cases hok
    | some y =>
      simp only [ha, hb] at hok hk
      exact plant_again hg hr hc hok hk (.inl rfl) score'

/-! ## Namesakes -/

theorem Grows.namesake?_eq {k : Concordance} (hgk : Grows g k) (y : TypeNumber) :
    k.namesake? y = g.namesake? y := by
  rw [namesake?, namesake?, hgk.renamed, hgk.reference]

/-- **Planting namesakes** binds all of them. What the first ones have bound, the later ones
keep. -/
theorem plantEach_bound (hg : g.WellFormed) (hr : g.renamed.Sound) (hc : g.reference.Sound)
    (score : Float) {references : List TypeNumber}
    (hrefs : ∀ y ∈ references, ∃ e, g.reference.entry? y = some e ∧ e.declaring = none) :
    ∀ y ∈ references, ∀ x, g.namesake? y = some x →
      ∃ id, (plantEach score references g).concordance.ofType? x = some id := by
  induction references generalizing g with
  | nil => simp
  | cons z rest ih =>
    have hrest := fun y hy => hrefs y (List.mem_cons_of_mem z hy)
    intro y hy x hx
    rw [plantEach]
    cases hz : g.namesake? z with
    | none =>
      rcases List.mem_cons.1 hy with rfl | hy
      · rw [hz] at hx
        cases hx
      · exact ih hg hr hc hrest y hy x hx
    | some w =>
      obtain ⟨hfind, hnested⟩ := Option.filter_eq_some_iff.1 hz
      obtain ⟨f, hf, -⟩ := hr.find?_eq_some_iff.1 hfind
      obtain ⟨e, he, hd⟩ := hrefs z List.mem_cons_self
      obtain ⟨root, hok⟩ := plant_ok hg hr hc score (Catalog.contains_iff.2 ⟨f, hf⟩)
        (Catalog.contains_iff.2 ⟨e, he⟩) (by simpa using hnested)
        ((Catalog.isNested_eq_false_iff he).2 hd)
      have hmoves := g.plant_moves w z score
      have hgrows := hmoves.grows
      simp only [Reply.concordance_andThen hok]
      rcases List.mem_cons.1 hy with rfl | hy
      · rw [hz, Option.some.injEq] at hx
        subst hx
        have hroot := (hg.plant_links hr hc hok rfl).1
        exact ⟨root, (plantEach_moves score rest _).grows.ofType hroot⟩
      · refine ih (hg.moves hmoves) (hgrows.renamed ▸ hr) (hgrows.reference ▸ hc) ?_ y hy x ?_
        · rw [hgrows.reference]
          exact hrest
        · rw [hgrows.namesake?_eq]
          exact hx

/-- Namesakes that are all bound are not planted. -/
theorem plantEach_settled (score : Float) {references : List TypeNumber}
    (hrefs : ∀ y ∈ references, g.reference.isNested y = false)
    (hbound : ∀ y ∈ references, ∀ x, g.namesake? y = some x → ∃ id, g.ofType? x = some id) :
    (plantEach score references g).Idle g () := by
  induction references with
  | nil => exact ⟨rfl, rfl⟩
  | cons y rest ih =>
    have hrest := ih (fun z hz => hrefs z (List.mem_cons_of_mem y hz))
      fun z hz => hbound z (List.mem_cons_of_mem y hz)
    rw [plantEach]
    cases hx : g.namesake? y with
    | none => exact hrest
    | some x =>
      obtain ⟨id, hid⟩ := hbound y List.mem_cons_self x hx
      obtain ⟨-, hnested⟩ := Option.filter_eq_some_iff.1 hx
      have hplant : (g.plant x y score).Idle g id :=
        plant_bound score hid (by simpa using hnested) (hrefs y List.mem_cons_self)
      exact hplant.andThen hrest

theorem plantNamesakes_again (hg : g.WellFormed) (hr : g.renamed.Sound) (hc : g.reference.Sound)
    (score : Float) {k : Concordance} (hk : (g.plantNamesakes score).concordance = k)
    (score' : Float) : (k.plantNamesakes score').Idle k 0 := by
  rw [concordance_plantNamesakes] at hk
  have hgrows : Grows g k := hk ▸ (plantEach_moves score g.reference.roots g).grows
  have hroots : ∀ y ∈ g.reference.roots, ∃ e, g.reference.entry? y = some e ∧ e.declaring = none :=
    fun y hy => (hc.roots_iff y).1 hy
  have hidle : (plantEach score' k.reference.roots k).Idle k () := by
    rw [hgrows.reference]
    refine plantEach_settled score' (fun y hy => ?_) fun y hy x hx => ?_
    · obtain ⟨e, he, hd⟩ := hroots y hy
      rw [hgrows.reference]
      exact (Catalog.isNested_eq_false_iff he).2 hd
    · rw [hgrows.namesake?_eq] at hx
      exact hk ▸ plantEach_bound hg hr hc score hroots y hy x hx
  exact hidle.andThen ⟨congrArg Except.ok (Nat.sub_self _), rfl⟩

/-- **Asking again changes nothing.** In every concordance that requests lead to, a request that is
granted and made once more gets the same answer, or creates nothing, and leaves the concordance as
it was. A pair may even be planted again with another reference type that is not nested, and with
any score. -/
theorem requests_settle {clean obfuscated : Module} {reference renamed : Catalog}
    (hclean : Catalog.ofModule clean = .ok reference)
    (hobfuscated : Catalog.ofModule obfuscated = .ok renamed) (qs : List Request) :
    let g := (empty reference renamed).run qs
    (∀ x y d id, (g.ensure x y d).answer = .ok id →
      let k := (g.ensure x y d).concordance
      (k.ensure x y d).Idle k id) ∧
    (∀ p created, (g.pairNested p).answer = .ok created →
      let k := (g.pairNested p).concordance
      (k.pairNested p).Idle k []) ∧
    (∀ x y score root, (g.plant x y score).answer = .ok root →
      let k := (g.plant x y score).concordance
      ∀ y' score', y' = y ∨ reference.isNested y' = false →
        (k.plant x y' score').Idle k root) ∧
    (∀ a b score root, (g.plantByName a b score).answer = .ok root →
      let k := (g.plantByName a b score).concordance
      ∀ score', (k.plantByName a b score').Idle k root) ∧
    ∀ score count, (g.plantNamesakes score).answer = .ok count →
      let k := (g.plantNamesakes score).concordance
      ∀ score', (k.plantNamesakes score').Idle k 0 := by
  intro g
  have hg : g.WellFormed := run_wellFormed reference renamed qs
  obtain ⟨hr, hc⟩ := run_sound hclean hobfuscated qs
  refine ⟨fun x y d id hok => ensure_again hg hok rfl,
    fun p created hok => pairNested_again hg hr hc hok rfl,
    fun x y score root hok y' score' hy' => ?_,
    fun a b score root hok score' => plantByName_again hg hr hc hok rfl score',
    fun score count _ score' => plantNamesakes_again hg hr hc score rfl score'⟩
  rw [← show g.reference = reference from (run_grows _ qs).reference] at hy'
  exact plant_again hg hr hc hok rfl hy' score'

/-- The nested type is bound on its own, so that pairing what is nested in its outer type creates
nothing and yet puts it there. The outer type is planted again with another reference type. -/
theorem requests_settle_sample : ∃ reference renamed,
    Catalog.ofModule samplePlayer = .ok reference ∧ Catalog.ofModule sampleRenamed = .ok renamed ∧
      let g := (empty reference renamed).run [.ensure ⟨1⟩ ⟨1⟩ none, .ensure ⟨0⟩ ⟨0⟩ none]
      let linked := (g.pairNested ⟨1⟩).concordance
      let nested := (g.ensure ⟨1⟩ ⟨1⟩ (some ⟨1⟩)).concordance
      let planted := (g.plant ⟨0⟩ ⟨0⟩ 1.5).concordance
      let named := (g.plantNamesakes 0.0).concordance
      g.nestedOf ⟨1⟩ = [] ∧ linked.nestedOf ⟨1⟩ = [⟨0⟩] ∧ (linked.pairNested ⟨1⟩).Idle linked [] ∧
      (nested.ensure ⟨1⟩ ⟨1⟩ (some ⟨1⟩)).Idle nested ⟨0⟩ ∧
      reference.isNested ⟨2⟩ = false ∧ (planted.plant ⟨0⟩ ⟨2⟩ 0.5).Idle planted ⟨1⟩ ∧
      (g.plantNamesakes 0.0).answer = .ok 1 ∧ (named.plantNamesakes 2.5).Idle named 0 := by
  refine ⟨_, _, rfl, rfl, ?_⟩
  intro g linked nested planted named
  obtain ⟨hensure, hnested, hplant, -, hnamesakes⟩ := requests_settle
    (rfl : Catalog.ofModule samplePlayer = .ok _) (rfl : Catalog.ofModule sampleRenamed = .ok _)
    [.ensure ⟨1⟩ ⟨1⟩ none, .ensure ⟨0⟩ ⟨0⟩ none]
  have hcount : (g.plantNamesakes 0.0).answer = .ok 1 := by decide +kernel
  exact ⟨by decide +kernel, by decide +kernel, hnested ⟨1⟩ [] (by decide +kernel),
    hensure ⟨1⟩ ⟨1⟩ _ ⟨0⟩ (by decide +kernel), by decide +kernel,
    hplant ⟨0⟩ ⟨0⟩ 1.5 ⟨1⟩ (by decide +kernel) ⟨2⟩ 0.5 (.inr (by decide +kernel)), hcount,
    hnamesakes _ _ hcount _⟩

end Concord.Concordance
