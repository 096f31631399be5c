import Concord.Proofs.Linking

/-!
# Seeding keeps concordances complete

A request other than `ensure` binds types only as roots and where they are nested, so every
concordance that such requests lead to is complete (`Complete.run`).

* `Complete.plant_new`: planting a pair whose renamed type has no pairing adds one root at the end,
  bound to the pair, with all pairs that are nested in it (`NewRoot`).
* `Complete.plant_spec`: in all other cases nothing changes.
* `Complete.apply`: all pairings that a request adds have the score that it gives.
-/

set_option autoImplicit false

namespace Concord.Concordance

/-! ## Planting -/

/-- `k` is `g` with a new root and all that is nested in it. -/
structure NewRoot (g k : Concordance) (renamed reference : TypeNumber) (score : Float) : Prop where
  complete : k.Complete
  roots : k.roots = g.roots ++ [g.nextNumber]
  types : k.types g.nextNumber = (renamed, reference)
  score : ∀ id n, k.pairing? id = some n → g.size ≤ id.index → n.score = score

theorem seedRefusal?_eq_none_iff {g : Concordance} {renamed reference : TypeNumber} :
    g.seedRefusal? renamed reference = none ↔
      g.renamed.isNested renamed = false ∧ g.reference.isNested reference = false := by
  unfold seedRefusal?
  cases g.renamed.isNested renamed <;> cases g.reference.isNested reference <;> simp

section
variable {g : Concordance}

/-- A new root is the only pairing that is pending. -/
theorem Complete.pending_withRoot (h : g.Complete) {renamed reference : TypeNumber}
    {e : CatalogEntry} (score : Float) (unbound : g.ofType? renamed = none)
    (he : g.renamed.entry? renamed = some e) (hdeclared : e.declaring = none)
    (hreference : g.reference.contains reference = true) :
    (g.withRoot renamed reference score).Pending [g.nextNumber] score g.renamed.size := by
  have hmove : Move g (g.withRoot renamed reference score) :=
    .root score unbound (Catalog.contains_iff.2 ⟨e, he⟩) hreference
  have hgrows := hmove.grows
  have hlinked := Linked.withRoot h score unbound he hdeclared hreference
  have hroot := g.pairing?_withRoot renamed reference score g.nextNumber
  rw [if_pos rfl] at hroot
  constructor
  case linked =>
    refine hlinked.congr fun id hid => ?_
    simp only [dueBut, List.mem_singleton, List.not_mem_nil, if_false, hgrows.renamed,
      hgrows.reference]
    split
    · rfl
    · rename_i hne
      have hold : id.index < g.size := by
        obtain ⟨n, hn⟩ := (Concordance.exists_pairing?_iff _ id).2 hid
        rw [pairing?_withRoot, if_neg hne] at hn
        exact index_lt_size hn
      rw [hgrows.types_eq hold]
  case exist => simpa using index_lt_size hroot
  case nodup => exact List.nodup_singleton _
  case scores => simp [hroot]
  case enough =>
    have hle := hlinked.wellFormed.size_le
    have hlt := index_lt_size hroot
    rw [hgrows.renamed] at hle ⊢
    rw [List.length_singleton]
    omega

/-- **Planting a seed** whose renamed type has no pairing makes a new root, and all that is nested
in it is bound. -/
theorem Complete.plant_new (h : g.Complete) (hr : g.renamed.Sound) (hc : g.reference.Sound)
    {renamed reference : TypeNumber} (score : Float)
    (hseed : g.seedRefusal? renamed reference = none)
    (hrefusal : g.refusal? renamed reference none = none) (unbound : g.ofType? renamed = none) :
    (g.plant renamed reference score).answer = .ok g.nextNumber ∧
      NewRoot g (g.plant renamed reference score).concordance renamed reference score := by
  obtain ⟨hrenamed, hreference⟩ := (refusal?_eq_none_iff.1 hrefusal).2 unbound
  obtain ⟨e, he⟩ := Catalog.contains_iff.1 hrenamed
  have hdeclared := (Catalog.isNested_eq_false_iff he).1 (seedRefusal?_eq_none_iff.1 hseed).1
  have hpending := h.pending_withRoot score unbound he hdeclared hreference
  have hroot := g.pairing?_withRoot renamed reference score g.nextNumber
  rw [if_pos rfl] at hroot
  have hgrows : Grows g (g.withRoot renamed reference score) :=
    (Move.root score unbound hrenamed hreference).grows
  have hroots : (g.withRoot renamed reference score).roots = g.roots ++ [g.nextNumber] := rfl
  have hsize : (g.withRoot renamed reference score).size = g.size + 1 := by simp [withRoot]
  obtain ⟨_, -, -, hbad⟩ | ⟨_, -, ho, -⟩ | ⟨-, -, -, hanswer, hconc⟩ :=
    g.plant_cases renamed reference score
  · rcases hbad with hbad | ⟨-, hbad⟩
    · rw [hseed] at hbad; cases hbad
    · rw [hrefusal] at hbad; cases hbad
  · rw [unbound] at ho; cases ho
  rw [hanswer, hconc]
  generalize g.withRoot renamed reference score = k at *
  obtain ⟨k', ha, hk, hcomplete, hroots', hscore⟩ :=
    hpending.loop (hgrows.renamed ▸ hr) (hgrows.reference ▸ hc)
  have hgrows' : Grows k k' := hk ▸ (pairPending_moves _ _ k).grows
  rw [ha, hk]
  refine ⟨rfl, hcomplete, hroots'.trans hroots, ?_, fun id n hn hid => ?_⟩
  · rw [hgrows'.types_eq (index_lt_size hroot), types_of_pairing? hroot]
  · by_cases hidn : id = g.nextNumber
    · subst hidn
      rw [(hgrows'.keeps hroot hn).score]
    · refine hscore id n hn ?_
      have : id.index ≠ g.size := fun heq => hidn (congrArg PairingNumber.mk heq)
      omega

/-- Planting makes a new root or changes nothing. -/
theorem Complete.plant_spec (h : g.Complete) (hr : g.renamed.Sound) (hc : g.reference.Sound)
    (renamed reference : TypeNumber) (score : Float) :
    (g.plant renamed reference score).concordance = g ∨
      g.ofType? renamed = none ∧
        NewRoot g (g.plant renamed reference score).concordance renamed reference score := by
  obtain ⟨_, -, hk, -⟩ | ⟨_, -, -, -, hk⟩ | ⟨hseed, hrefusal, unbound, -⟩ :=
    g.plant_cases renamed reference score
  · exact .inl hk
  · exact .inl hk
  · exact .inr ⟨unbound, (h.plant_new hr hc score hseed hrefusal unbound).2⟩

end

/-! ## Seeding -/

/-- What seeding leads to from `g`: a complete concordance in which all new pairings have the
given score. -/
structure Seeded (score : Float) (g k : Concordance) : Prop where
  complete : k.Complete
  grows : Grows g k
  score : ∀ id n, k.pairing? id = some n → g.size ≤ id.index → n.score = score

theorem Seeded.refl {g : Concordance} (score : Float) (h : g.Complete) : Seeded score g g where
  complete := h
  grows := .refl g
  score id n hn hid := by
    have := index_lt_size hn
    omega

theorem Seeded.trans {score : Float} {g h k : Concordance} (hgh : Seeded score g h)
    (hhk : Seeded score h k) : Seeded score g k where
  complete := hhk.complete
  grows := hgh.grows.trans hhk.grows
  score id n hn hid := by
    rcases Nat.lt_or_ge id.index h.size with hlt | hge
    · obtain ⟨m, hm⟩ := (h.exists_pairing?_iff id).2 hlt
      rw [(hhk.grows.keeps hm hn).score]
      exact hgh.score id m hm hid
    · exact hhk.score id n hn hge

section
variable {g : Concordance}

theorem Complete.plant (h : g.Complete) (hr : g.renamed.Sound) (hc : g.reference.Sound)
    (renamed reference : TypeNumber) (score : Float) :
    Seeded score g (g.plant renamed reference score).concordance := by
  have hgrows := (g.plant_moves renamed reference score).grows
  rcases h.plant_spec hr hc renamed reference score with hk | ⟨-, hnew⟩
  · rw [hk]
    exact .refl score h
  · exact ⟨hnew.complete, hgrows, hnew.score⟩

theorem Complete.plantEach (h : g.Complete) (hr : g.renamed.Sound) (hc : g.reference.Sound)
    (score : Float) (references : List TypeNumber) :
    Seeded score g (plantEach score references g).concordance := by
  induction references generalizing g with
  | nil => exact .refl score h
  | cons reference rest ih =>
    rw [Concordance.plantEach]
    split
    · exact ih h hr hc
    · rename_i renamed _
      have h1 := h.plant hr hc renamed reference score
      refine Reply.andThen_keeps h1 fun _ _ => h1.trans ?_
      exact ih h1.complete (h1.grows.renamed ▸ hr) (h1.grows.reference ▸ hc)

/-- Requests other than `ensure` keep a concordance complete, and give what they bind their own
score. -/
theorem Complete.apply (h : g.Complete) (hr : g.renamed.Sound) (hc : g.reference.Sound)
    {q : Request} (hq : q.isSeeding = true) :
    q.apply g = g ∨ ∃ score, q.score? = some score ∧ Seeded score g (q.apply g) := by
  cases q with
  | ensure renamed reference declaring => cases hq
  | pairNested id =>
    refine .inl ?_
    cases hn : g.pairing? id with
    | none => simp [Request.apply, Concordance.pairNested, hn]
    | some n => exact (pairNested_complete h hn).2
  | plant renamed reference score => exact .inr ⟨score, rfl, h.plant hr hc _ _ _⟩
  | plantByName renamed reference score =>
    simp only [Request.apply, Concordance.plantByName]
    split
    · exact .inl rfl
    · exact .inl rfl
    · exact .inr ⟨score, rfl, h.plant hr hc _ _ _⟩
  | plantNamesakes score =>
    refine .inr ⟨score, rfl, ?_⟩
    rw [Request.apply, concordance_plantNamesakes]
    exact h.plantEach hr hc score _

end

/-- **Seeding keeps a concordance complete**, whatever is asked and answered. -/
theorem Complete.run {g : Concordance} (h : g.Complete) (hr : g.renamed.Sound)
    (hc : g.reference.Sound) {qs : List Request} (hqs : ∀ q ∈ qs, q.isSeeding = true) :
    (g.run qs).Complete := by
  induction qs generalizing g with
  | nil => exact h
  | cons q qs ih =>
    have hgrows := (q.apply_moves g).grows
    have hrest := fun r hm => hqs r (List.mem_cons_of_mem q hm)
    refine ih ?_ (hgrows.renamed ▸ hr) (hgrows.reference ▸ hc) hrest
    rcases h.apply hr hc (hqs q List.mem_cons_self) with heq | ⟨score, -, hs⟩
    · rw [heq]
      exact h
    · exact hs.complete

end Concord.Concordance
