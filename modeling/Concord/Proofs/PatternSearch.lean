import Concord.Proofs.PatternPrograms
import Mathlib.Algebra.BigOperators.Ring.Finset
import Mathlib.Algebra.Order.BigOperators.Group.Finset

/-!
# Searching finds the leftmost match

`Program.explore` follows no state twice at one place and stops when its fuel is used up. Neither
loses a match: `search?_spec` says that `Program.search?` gives a thread that has come to its end
from the leftmost place from which any thread does, and nothing if there is no such place.

* `weight_add`: a thread that is followed adds no more threads than the weight of what is unseen
  goes down, so that `bound` suffices as fuel.
* `explore_none`: when the threads have been followed up, what has been seen is closed (`Closed`).
  It holds no end and all that follows it, so nothing in it comes to an end
  (`not_endsIn_of_closed`).
* `captured?_spec`: for the program of a pattern this is about matches.
-/

set_option autoImplicit false

namespace Concord.Pattern

/-! ## Places of a text -/

/-- The place behind so many characters of a text. -/
def placeAt (text : List Char) (n : Nat) : Place where
  offset := n
  before := (text.take n).getLast?
  rest := text.drop n

theorem after_placeAt {text rest : List Char} {n : Nat} {c : Char} (h : text.drop n = c :: rest) :
    (placeAt text n).after c rest = placeAt text (n + 1) := by
  have hc : text[n]? = some c := by rw [← List.head?_drop, h, List.head?_cons]
  simp [Place.after, placeAt, List.take_add_one, hc, ← List.drop_drop, h]

/-- The thread stands at a place of the text. -/
def Thread.LiesIn (text : List Char) (t : Thread) : Prop :=
  t.place.offset ≤ text.length ∧ t.place = placeAt text t.place.offset

theorem Thread.LiesIn.place_eq {text : List Char} {t u : Thread} (ht : t.LiesIn text)
    (hu : u.LiesIn text) (h : u.place.offset = t.place.offset) : u.place = t.place := by
  rw [hu.2, ht.2, h]

namespace Program

variable {p : Program} {text : List Char}

/-- A step takes the next character or none. -/
theorem goes_place {t t' : Thread} (h : p.Goes t t') : t'.place = t.place ∨
    ∃ c rest, t.place.rest = c :: rest ∧ t'.place = t.place.after c rest := by
  simp only [Goes, follow] at h
  split at h
  · split at h
    · rename_i c rest hrest
      split at h
      · rw [List.mem_singleton.1 h]
        exact .inr ⟨c, rest, hrest, rfl⟩
      · cases h
    · cases h
  · split at h
    · rw [List.mem_singleton.1 h]
      exact .inl rfl
    · cases h
  · rw [List.mem_singleton.1 h]
    exact .inl rfl
  · obtain ⟨s, -, rfl⟩ := List.mem_map.1 h
    exact .inl rfl
  · cases h
  · cases h

theorem goes_liesIn {t t' : Thread} (ht : t.LiesIn text) (h : p.Goes t t') : t'.LiesIn text := by
  rcases goes_place h with hplace | ⟨c, rest, hrest, hplace⟩
  · rw [Thread.LiesIn, hplace]
    exact ht
  · have hdrop : text.drop t.place.offset = c :: rest := by
      rw [← hrest, ht.2]
      rfl
    have hnext : t'.place = placeAt text (t.place.offset + 1) := by
      rw [hplace, ht.2, after_placeAt hdrop]
      rfl
    have hlt : t.place.offset < text.length := by
      refine Nat.lt_of_not_le fun hle => ?_
      rw [List.drop_eq_nil_iff.2 hle] at hdrop
      cases hdrop
    rw [Thread.LiesIn, hnext]
    exact ⟨hlt, rfl⟩

/-- What is remembered has no influence on the way. -/
theorem goes_of_same {t t' u : Thread} (h : p.Goes u t') (hstate : u.state = t.state)
    (hplace : u.place = t.place) :
    ∃ v, p.Goes t v ∧ v.state = t'.state ∧ v.place = t'.place := by
  have hsame : (p.follow t).map (fun v => (v.state, v.place)) =
      (p.follow u).map fun v => (v.state, v.place) := by
    simp only [follow, hstate, hplace]
    cases p.steps[t.state]? with
    | none => rfl
    | some step =>
      cases step with
      | take set next =>
        cases t.place.rest with
        | nil => rfl
        | cons c rest => cases hc : set.has c <;> simp [hc]
      | look l next => cases hl : l.holds t.place <;> simp [hl]
      | mark slot next => rfl
      | choice ways => simp [Function.comp_def]
      | accept => rfl
  have hmem : (t'.state, t'.place) ∈ (p.follow t).map fun v => (v.state, v.place) :=
    hsame ▸ List.mem_map_of_mem (f := fun v : Thread => (v.state, v.place)) h
  obtain ⟨v, hv, heq⟩ := List.mem_map.1 hmem
  exact ⟨v, hv, (Prod.mk.inj heq).1, (Prod.mk.inj heq).2⟩

theorem isDone_of_same {t u : Thread} (hstate : u.state = t.state) : p.isDone u = p.isDone t := by
  rw [isDone, isDone, hstate]

/-! ## What has been seen -/

theorem has_add {seen : Seen} {t u : Thread} : (seen.add t).has u = true ↔
    seen.has u = true ∨ t.state < seen.size ∧ u.state = t.state ∧
      u.place.offset = t.place.offset := by
  simp only [Seen.has, Seen.add, Array.getD_eq_getD_getElem?, Array.getElem?_modify]
  by_cases hstate : t.state = u.state
  · by_cases hlt : u.state < seen.size
    · have hbit : ∀ x : Nat, (Nat.lor (Nat.shiftLeft 1 t.place.offset) x).testBit u.place.offset =
          (decide (t.place.offset = u.place.offset) || x.testBit u.place.offset) := by
        intro x
        rw [show Nat.lor (Nat.shiftLeft 1 t.place.offset) x = 1 <<< t.place.offset ||| x from rfl,
          Nat.testBit_or, Nat.one_shiftLeft, Nat.testBit_two_pow]
      simp only [hstate, hlt, Array.getElem?_eq_getElem, if_true, Option.map_some, Option.getD_some,
        hbit, Bool.or_eq_true, decide_eq_true_iff, true_and]
      exact ⟨fun h => h.symm.imp_right Eq.symm, fun h => (h.imp_right Eq.symm).symm⟩
    · simp [hstate, hlt]
  · simp [hstate, Ne.symm hstate]

theorem size_add (seen : Seen) (t : Thread) : (seen.add t).size = seen.size := Array.size_modify

/-- The thread has been seen, or there is no such state. -/
def Settled (p : Program) (seen : Seen) (t : Thread) : Prop :=
  seen.has t = true ∨ p.steps.size ≤ t.state

theorem settled_add {seen : Seen} (t : Thread) (hsize : seen.size = p.steps.size) :
    p.Settled (seen.add t) t := by
  by_cases hlt : t.state < p.steps.size
  · exact .inl (has_add.2 (.inr ⟨hsize ▸ hlt, rfl, rfl⟩))
  · exact .inr (Nat.le_of_not_lt hlt)

theorem Settled.mono {seen seen' : Seen} {t : Thread} (h : p.Settled seen t)
    (hsub : ∀ u, seen.has u = true → seen'.has u = true) : p.Settled seen' t :=
  h.imp_left (hsub t)

theorem Settled.of_same {seen : Seen} {t u : Thread} (h : p.Settled seen t)
    (hstate : u.state = t.state) (hplace : u.place.offset = t.place.offset) :
    p.Settled seen u := by
  rwa [Settled, Seen.has, hstate, hplace]

/-- Nothing that has been seen is an end, and what it goes on to has been seen or is among the
threads that are still to be followed. -/
def Closed (p : Program) (text : List Char) (seen : Seen) (stack : List Thread) : Prop :=
  ∀ t : Thread, t.LiesIn text → seen.has t = true → p.isDone t = false ∧
    ∀ t', p.Goes t t' → p.Settled seen t' ∨
      ∃ v ∈ stack, v.state = t'.state ∧ v.place.offset = t'.place.offset

/-- **Nothing in a closed set comes to an end.** -/
theorem not_endsIn_of_closed {seen : Seen} (h : p.Closed text seen []) {t u : Thread} {k : Nat}
    (ht : t.LiesIn text) (hsettled : p.Settled seen t) : ¬ p.EndsIn u k t := by
  induction k generalizing t with
  | zero =>
    rintro ⟨rfl, hdone⟩
    rcases hsettled with hseen | hout
    · rw [(h t ht hseen).1] at hdone
      cases hdone
    · rw [isDone, Array.getElem?_eq_none hout] at hdone
      cases hdone
  | succ k ih =>
    rintro ⟨t', hgoes, hends⟩
    rcases hsettled with hseen | hout
    · rcases (h t ht hseen).2 t' hgoes with hsettled' | ⟨v, hv, -⟩
      · exact ih (goes_liesIn ht hgoes) hsettled' hends
      · cases hv
    · rw [Goes, follow, Array.getElem?_eq_none hout] at hgoes
      cases hgoes

/-! ## Fuel -/

/-- The number of ways in which a state goes on. -/
def waysAt (p : Program) (state : Nat) : Nat := (p.steps[state]?.map Step.ways).getD 0

theorem length_follow_le (t : Thread) : (p.follow t).length ≤ p.waysAt t.state := by
  unfold follow waysAt
  split
  · rename_i h
    rw [h]
    split
    · split <;> simp [Step.ways]
    · simp
  · rename_i h
    rw [h]
    split <;> simp [Step.ways]
  · rename_i h
    simp [h, Step.ways]
  · rename_i h
    simp [h, Step.ways]
  · simp
  · simp

open Finset

/-- The states and offsets that have not been seen together. -/
def unseen (p : Program) (n : Nat) (seen : Seen) : Finset (Nat × Nat) :=
  (range p.steps.size ×ˢ range (n + 1)).filter fun x => ¬ (seen.getD x.1 0).testBit x.2 = true

/-- How many threads can still come up. -/
def weight (p : Program) (n : Nat) (seen : Seen) : Nat := ∑ x ∈ p.unseen n seen, p.waysAt x.1

theorem unseen_add {seen : Seen} (hsize : seen.size = p.steps.size) {t : Thread}
    (hlt : t.state < p.steps.size) (n : Nat) :
    p.unseen n (seen.add t) = (p.unseen n seen).erase (t.state, t.place.offset) := by
  ext ⟨s, o⟩
  have hadd := @has_add seen t ⟨s, { offset := o, rest := [] }, []⟩
  simp only [Seen.has] at hadd
  simp only [unseen, mem_filter, mem_erase, hadd, ne_eq, Prod.mk.injEq, hsize, hlt, true_and]
  tauto

/-- **A thread that is followed pays for the threads that follow it.** -/
theorem weight_add {seen : Seen} (hsize : seen.size = p.steps.size) {t : Thread}
    (ht : t.LiesIn text) (hnew : ¬ seen.has t = true) :
    (p.follow t).length + p.weight text.length (seen.add t) ≤ p.weight text.length seen := by
  have hways := p.length_follow_le t
  by_cases hlt : t.state < p.steps.size
  · have hmem : (t.state, t.place.offset) ∈ p.unseen text.length seen := by
      simp only [unseen, mem_filter, mem_product, mem_range]
      exact ⟨⟨hlt, Nat.lt_succ_of_le ht.1⟩, hnew⟩
    have hsum := add_sum_erase _ (fun x => p.waysAt x.1) hmem
    rw [weight, weight, unseen_add hsize hlt, ← hsum]
    exact Nat.add_le_add_right hways _
  · have hsame : seen.add t = seen := by
      rw [Seen.add, Array.modify, Array.modifyM, dif_neg (hsize ▸ hlt)]
      rfl
    rw [waysAt, Array.getElem?_eq_none (Nat.le_of_not_lt hlt)] at hways
    rw [hsame]
    simpa using hways

theorem sum_waysAt (p : Program) :
    ∑ s ∈ range p.steps.size, p.waysAt s = p.steps.foldl (fun sum step => sum + step.ways) 0 := by
  have hlist : ∀ l : List Step, ∑ s ∈ range l.length, (l[s]?.map Step.ways).getD 0 =
      (l.map Step.ways).sum := by
    intro l
    induction l with
    | nil => rfl
    | cons step l ih =>
      rw [List.length_cons, sum_range_succ', List.map_cons, List.sum_cons, ← ih, Nat.add_comm]
      rfl
  have hsum := hlist p.steps.toList
  rw [← Array.foldl_toList, ← List.foldl_map (f := Step.ways) (g := fun a b => a + b),
    ← List.sum_eq_foldl, ← hsum]
  simp [waysAt]

theorem weight_lt_bound (p : Program) (n : Nat) (seen : Seen) : p.weight n seen < p.bound n := by
  calc p.weight n seen
      ≤ ∑ x ∈ range p.steps.size ×ˢ range (n + 1), p.waysAt x.1 :=
        sum_le_sum_of_subset (filter_subset _ _)
    _ = p.steps.foldl (fun sum step => sum + step.ways) 0 * (n + 1) := by
        rw [sum_product, ← sum_waysAt, sum_mul]
        simp [Nat.mul_comm]
    _ < p.bound n := by
        rw [bound, Nat.add_mul]
        omega

/-! ## Following threads -/

theorem explore_some {fuel : Nat} {seen seen' : Seen} {stack : List Thread} {u : Thread}
    (h : p.explore fuel seen stack = (some u, seen')) : ∃ t ∈ stack, ∃ k, p.EndsIn u k t := by
  induction fuel generalizing seen stack with
  | zero => simp [explore] at h
  | succ fuel ih =>
    cases stack with
    | nil => simp [explore] at h
    | cons t rest =>
      rw [explore] at h
      split at h
      · obtain ⟨v, hv, hends⟩ := ih h
        exact ⟨v, List.mem_cons_of_mem _ hv, hends⟩
      · split at h
        · rename_i hdone
          obtain rfl : t = u := Option.some.inj (Prod.mk.inj h).1
          exact ⟨t, List.mem_cons_self, 0, rfl, hdone⟩
        · obtain ⟨v, hv, k, hends⟩ := ih h
          rcases List.mem_append.1 hv with hv | hv
          · exact ⟨t, List.mem_cons_self, k + 1, v, hv, hends⟩
          · exact ⟨v, List.mem_cons_of_mem _ hv, k, hends⟩

/-- A thread that was seen before is taken off. -/
theorem Closed.drop {seen : Seen} {t : Thread} {rest : List Thread}
    (h : p.Closed text seen (t :: rest)) (ht : p.Settled seen t) : p.Closed text seen rest := by
  intro u hu hseen
  refine ⟨(h u hu hseen).1, fun u' hgoes => ?_⟩
  rcases (h u hu hseen).2 u' hgoes with hsettled | ⟨v, hv, hstate, hplace⟩
  · exact .inl hsettled
  · rcases List.mem_cons.1 hv with rfl | hv
    · exact .inl (ht.of_same hstate.symm hplace.symm)
    · exact .inr ⟨v, hv, hstate, hplace⟩

/-- A thread is taken off for the threads that it goes on to. -/
theorem Closed.follow {seen : Seen} {t : Thread} {rest : List Thread}
    (h : p.Closed text seen (t :: rest)) (hsize : seen.size = p.steps.size)
    (ht : t.LiesIn text) (hdone : p.isDone t = false) :
    p.Closed text (seen.add t) (p.follow t ++ rest) := by
  intro u hu hseen
  rcases has_add.1 hseen with hseen | ⟨-, hstate, hplace⟩
  · refine ⟨(h u hu hseen).1, fun u' hgoes => ?_⟩
    rcases (h u hu hseen).2 u' hgoes with hsettled | ⟨v, hv, hstate, hplace⟩
    · exact .inl (hsettled.mono fun w hw => has_add.2 (.inl hw))
    · rcases List.mem_cons.1 hv with rfl | hv
      · exact .inl ((settled_add v hsize).of_same hstate.symm hplace.symm)
      · exact .inr ⟨v, List.mem_append_right _ hv, hstate, hplace⟩
  · refine ⟨(isDone_of_same hstate).trans hdone, fun u' hgoes => ?_⟩
    obtain ⟨v, hv, hvstate, hvplace⟩ := goes_of_same hgoes hstate (ht.place_eq hu hplace)
    exact .inr ⟨v, List.mem_append_left _ hv, hvstate, by rw [hvplace]⟩

/-- **Threads that come to nothing have been followed up**, if there was fuel enough. -/
theorem explore_none {fuel : Nat} {seen seen' : Seen} {stack : List Thread}
    (h : p.explore fuel seen stack = (none, seen')) (hsize : seen.size = p.steps.size)
    (hfuel : stack.length + p.weight text.length seen ≤ fuel)
    (hstack : ∀ t ∈ stack, t.LiesIn text) (hclosed : p.Closed text seen stack) :
    seen'.size = p.steps.size ∧ p.Closed text seen' [] ∧
      (∀ u, seen.has u = true → seen'.has u = true) ∧ ∀ t ∈ stack, p.Settled seen' t := by
  induction fuel generalizing seen stack with
  | zero =>
    obtain rfl : stack = [] := List.length_eq_zero_iff.1 (by omega)
    obtain rfl : seen = seen' := by simpa [explore] using h
    exact ⟨hsize, hclosed, fun _ hu => hu, by simp⟩
  | succ fuel ih =>
    cases stack with
    | nil =>
      obtain rfl : seen = seen' := by simpa [explore] using h
      exact ⟨hsize, hclosed, fun _ hu => hu, by simp⟩
    | cons t rest =>
      have ht := hstack t List.mem_cons_self
      have hrest := fun v hv => hstack v (List.mem_cons_of_mem _ hv)
      rw [List.length_cons] at hfuel
      rw [explore] at h
      split at h
      · rename_i hseen
        obtain ⟨hsize', hclosed', hsub, hsettled⟩ :=
          ih h hsize (by omega) hrest (hclosed.drop (.inl hseen))
        refine ⟨hsize', hclosed', hsub, fun v hv => ?_⟩
        rcases List.mem_cons.1 hv with rfl | hv
        · exact .inl (hsub v hseen)
        · exact hsettled v hv
      · rename_i hnew
        split at h
        · cases h
        · rename_i hdone
          have hweight := weight_add hsize ht hnew
          have hlies : ∀ v ∈ p.follow t ++ rest, v.LiesIn text := fun v hv =>
            (List.mem_append.1 hv).elim (goes_liesIn ht) (hrest v)
          obtain ⟨hsize', hclosed', hsub, hsettled⟩ := ih h ((size_add seen t).trans hsize)
            (by rw [List.length_append]; omega) hlies
            (hclosed.follow hsize ht (Bool.not_eq_true _ ▸ hdone))
          refine ⟨hsize', hclosed', fun u hu => hsub u (has_add.2 (.inl hu)), fun v hv => ?_⟩
          rcases List.mem_cons.1 hv with rfl | hv
          · exact (settled_add v hsize).mono hsub
          · exact hsettled v (List.mem_append_right _ hv)

/-! ## From place to place -/

/-- The thread that starts behind so many characters. -/
def startAt (p : Program) (text : List Char) (n : Nat) : Thread where
  state := p.start
  place := placeAt text n

/-- A thread that starts behind so many characters comes to its end at `u`. -/
def FindsAt (p : Program) (text : List Char) (n : Nat) (u : Thread) : Prop :=
  ∃ k, p.EndsIn u k (p.startAt text n)

/-- Nothing comes to an end from a place where no thread is found. -/
theorem explore_startAt {seen seen' : Seen} {n : Nat}
    (h : p.explore (p.bound text.length) seen [p.startAt text n] = (none, seen'))
    (hsize : seen.size = p.steps.size) (hclosed : p.Closed text seen []) (hn : n ≤ text.length) :
    seen'.size = p.steps.size ∧ p.Closed text seen' [] ∧ ∀ u, ¬ p.FindsAt text n u := by
  have hlies : (p.startAt text n).LiesIn text := ⟨hn, rfl⟩
  have hfuel := p.weight_lt_bound text.length seen
  have hclosed' : p.Closed text seen [p.startAt text n] := by
    intro t ht hseen
    refine ⟨(hclosed t ht hseen).1, fun t' hgoes => ?_⟩
    rcases (hclosed t ht hseen).2 t' hgoes with hsettled | ⟨v, hv, -⟩
    · exact .inl hsettled
    · cases hv
  obtain ⟨hsize', hclosed'', -, hsettled⟩ :=
    explore_none h hsize (by rw [List.length_singleton]; omega) (by simpa using hlies) hclosed'
  refine ⟨hsize', hclosed'', ?_⟩
  rintro u ⟨k, hk⟩
  exact not_endsIn_of_closed hclosed'' hlies (hsettled _ List.mem_cons_self) hk

/-- The leftmost place from which a thread is found, from a place on. -/
def LeftmostFrom (p : Program) (text : List Char) (n : Nat) : Option Thread → Prop
  | some u => ∃ m, n ≤ m ∧ m ≤ text.length ∧ p.FindsAt text m u ∧
      ∀ l, n ≤ l → l < m → ∀ v, ¬ p.FindsAt text l v
  | none => ∀ m, n ≤ m → m ≤ text.length → ∀ v, ¬ p.FindsAt text m v

theorem LeftmostFrom.of_succ {n : Nat} {found : Option Thread}
    (h : p.LeftmostFrom text (n + 1) found) (hn : ∀ v, ¬ p.FindsAt text n v) :
    p.LeftmostFrom text n found := by
  cases found with
  | none =>
    intro m hm hle
    rcases Nat.eq_or_lt_of_le hm with rfl | hlt
    · exact hn
    · exact h m hlt hle
  | some u =>
    obtain ⟨m, hm, hle, hfinds, hleft⟩ := h
    refine ⟨m, by omega, hle, hfinds, fun l hl hlm => ?_⟩
    rcases Nat.eq_or_lt_of_le hl with rfl | hlt
    · exact hn
    · exact hleft l hlt hlm

/-- A thread that is found at the first place is the leftmost one. -/
theorem leftmostFrom_of_explore {seen seen' : Seen} {n : Nat} {u : Thread}
    (h : p.explore (p.bound text.length) seen [p.startAt text n] = (some u, seen'))
    (hn : n ≤ text.length) : p.LeftmostFrom text n (some u) := by
  obtain ⟨t, ht, k, hk⟩ := explore_some h
  rw [List.mem_singleton.1 ht] at hk
  exact ⟨n, Nat.le_refl n, hn, ⟨k, hk⟩, fun l hl hlt => by omega⟩

theorem searchFrom_spec {seen : Seen} (hsize : seen.size = p.steps.size)
    (hclosed : p.Closed text seen []) {n : Nat} (hn : n ≤ text.length) {rest : List Char}
    (hrest : text.drop n = rest) :
    p.LeftmostFrom text n (p.searchFrom (p.bound text.length) seen (placeAt text n) rest) := by
  have hstart : ∀ n, (⟨p.start, placeAt text n, []⟩ : Thread) = p.startAt text n := fun _ => rfl
  induction rest generalizing n seen with
  | nil =>
    have hlast : text.length ≤ n := List.drop_eq_nil_iff.1 hrest
    rw [searchFrom, hstart]
    cases hx : p.explore (p.bound text.length) seen [p.startAt text n] with
    | mk found seen' =>
      cases found with
      | none =>
        intro m hm hle
        obtain rfl : m = n := by omega
        exact (explore_startAt hx hsize hclosed hn).2.2
      | some u => exact leftmostFrom_of_explore hx hn
  | cons c rest ih =>
    have hlt : n < text.length := by
      refine Nat.lt_of_not_le fun hle => ?_
      rw [List.drop_eq_nil_iff.2 hle] at hrest
      cases hrest
    rw [searchFrom, hstart]
    cases hx : p.explore (p.bound text.length) seen [p.startAt text n] with
    | mk found seen' =>
      cases found with
      | none =>
        obtain ⟨hsize', hclosed', hnone⟩ := explore_startAt hx hsize hclosed hn
        rw [after_placeAt hrest]
        refine .of_succ (ih hsize' hclosed' hlt ?_) hnone
        rw [← List.drop_drop, hrest, List.drop_one, List.tail_cons]
      | some u => exact leftmostFrom_of_explore hx hn

/-- **Searching finds the leftmost end**, and misses none. -/
theorem search?_spec (p : Program) (text : List Char) :
    p.LeftmostFrom text 0 (p.search? text) := by
  refine searchFrom_spec (by simp) ?_ (Nat.zero_le _) List.drop_zero
  -- nothing has been seen yet
  intro t _ hseen
  rw [Seen.has, Array.getD_eq_getD_getElem?, Array.getElem?_replicate] at hseen
  split at hseen <;> simp at hseen

end Program

/-! ## Patterns -/

/-- The start of a match behind so many characters. -/
def Trail.start (text : List Char) (n : Nat) : Trail where
  place := placeAt text n

theorem findsAt_iff (P : Pattern) {text : List Char} {n : Nat} {u : Thread} :
    P.program.FindsAt text n u ↔ ∃ b, P.Matches (.start text n) b ∧ u = b.thread 0 :=
  P.endsIn_program_iff (a := .start text n)

/-- **What a group takes** is what it takes in a match from the leftmost place from which there is
one, and nothing if there is no match at all. -/
theorem captured?_spec (P : Pattern) (index : Nat) (text : List Char) :
    (∃ n ≤ text.length, ∃ b, P.Matches (.start text n) b ∧
      P.captured? index text = (b.thread 0).captured? index ∧
      ∀ m < n, ∀ c, ¬ P.Matches (.start text m) c) ∨
    P.captured? index text = none ∧ ∀ n ≤ text.length, ∀ b, ¬ P.Matches (.start text n) b := by
  have hspec := P.program.search?_spec text
  rw [captured?]
  cases hfound : P.program.search? text with
  | none =>
    rw [hfound] at hspec
    exact .inr ⟨rfl, fun n hn b hb =>
      hspec n (Nat.zero_le n) hn _ (P.findsAt_iff.2 ⟨b, hb, rfl⟩)⟩
  | some u =>
    rw [hfound] at hspec
    obtain ⟨n, -, hn, hfinds, hleft⟩ := hspec
    obtain ⟨b, hb, rfl⟩ := P.findsAt_iff.1 hfinds
    exact .inl ⟨n, hn, b, hb, rfl, fun m hm c hc =>
      hleft m (Nat.zero_le m) hm _ (P.findsAt_iff.2 ⟨c, hc, rfl⟩)⟩

end Concord.Pattern
