import Concord.Pattern.Search
import Mathlib.Logic.Relation

/-!
# Programs run as patterns match

`Pattern.Matches` says what a pattern matches, by the structure of the pattern: it leads from one
trail, a place with what was remembered on the way to it, to another. `Program.prepend` puts steps
in front of a program. `Compiles f R` says that `f` does this faithfully to the relation `R`:
whatever program holds the new steps can go from the start of `f p` to the start of `p` along `R`
(`complete`), and whoever starts there and ends passes the start of `p` after a step along `R`
(`sound`). The second part counts steps, so that rounds of a loop can be taken off one by one.

* `Compiles.comp`, `Compiles.choice`, `Compiles.iterate`, `Compiles.optional`, `Compiles.loop`: the
  ways to build programs.
* `compiles_prepend`: the program of every pattern.
* `endsIn_program_iff`: the runs of `Pattern.program` that come to an end are the matches.
-/

set_option autoImplicit false

namespace Concord.Pattern

open Relation

/-! ## What patterns match -/

/-- A place and what was remembered on the way to it, latest first. -/
structure Trail where
  place : Place
  marks : List (Nat × List Char) := []
deriving Repr, DecidableEq

namespace Trail

/-- The trail behind the next character. -/
def after (a : Trail) (c : Char) (rest : List Char) : Trail :=
  { a with place := a.place.after c rest }

/-- Remembers the place under a number. -/
def mark (a : Trail) (slot : Nat) : Trail := { a with marks := (slot, a.place.rest) :: a.marks }

/-- A program that has come this way is in a state. -/
def thread (a : Trail) (state : Nat) : Thread where
  state := state
  place := a.place
  marks := a.marks

end Trail

/-- One character of a set. -/
def TakesOne (set : Text.Ranges) (a b : Trail) : Prop :=
  ∃ c rest, a.place.rest = c :: rest ∧ set.has c = true ∧ b = a.after c rest

/-- The characters themselves, one after the other. -/
def Takes : List Char → Trail → Trail → Prop
  | [], a, b => b = a
  | c :: cs, a, b => ∃ rest, a.place.rest = c :: rest ∧ Takes cs (a.after c rest) b

/-- A number of rounds. -/
def Rounds (R : Trail → Trail → Prop) : Nat → Trail → Trail → Prop
  | 0, a, b => b = a
  | n + 1, a, b => ∃ c, R a c ∧ Rounds R n c b

/-- The pattern leads from one trail to another. -/
def Matches : Pattern → Trail → Trail → Prop
  | .empty, a, b => b = a
  | .text cs, a, b => Takes cs a b
  | .chars set, a, b => TakesOne set a b
  | .look l, a, b => l.holds a.place = true ∧ b = a
  | .seq p q, a, b => ∃ c, p.Matches a c ∧ q.Matches c b
  | .alt p q, a, b => p.Matches a b ∨ q.Matches a b
  | .times least most _ p, a, b =>
    ∃ n, least ≤ n ∧ (∀ bound ∈ most, n ≤ max least bound) ∧ Rounds p.Matches n a b
  | .group index p, a, b =>
    ∃ c, p.Matches (a.mark (Program.startSlot index)) c ∧ b = c.mark (Program.finishSlot index)

theorem rounds_add {R : Trail → Trail → Prop} {m n : Nat} {a b : Trail} :
    Rounds R (m + n) a b ↔ ∃ c, Rounds R m a c ∧ Rounds R n c b := by
  induction m generalizing a with
  | zero => simp [Rounds]
  | succ m ih =>
    rw [Nat.succ_add]
    simp only [Rounds, ih]
    constructor
    · rintro ⟨d, hd, c, hc, hb⟩
      exact ⟨c, ⟨d, hd, hc⟩, hb⟩
    · rintro ⟨c, ⟨d, hd, hc⟩, hb⟩
      exact ⟨d, hd, c, hc, hb⟩

namespace Program

/-! ## Runs -/

/-- A thread goes on to another. -/
def Goes (p : Program) (t t' : Thread) : Prop := t' ∈ p.follow t

/-- A thread comes to its end at `u` in so many steps. -/
def EndsIn (p : Program) (u : Thread) : Nat → Thread → Prop
  | 0, t => t = u ∧ p.isDone t = true
  | k + 1, t => ∃ t', p.Goes t t' ∧ EndsIn p u k t'

section
variable {p : Program} {t u : Thread}

theorem endsIn_iff_reflTransGen :
    (∃ k, p.EndsIn u k t) ↔ ReflTransGen p.Goes t u ∧ p.isDone u = true := by
  constructor
  · rintro ⟨k, h⟩
    induction k generalizing t with
    | zero =>
      obtain ⟨rfl, hdone⟩ := h
      exact ⟨.refl, hdone⟩
    | succ k ih =>
      obtain ⟨t', ht, h⟩ := h
      exact ⟨.head ht (ih h).1, (ih h).2⟩
  · rintro ⟨h, hdone⟩
    induction h using ReflTransGen.head_induction_on with
    | refl => exact ⟨0, rfl, hdone⟩
    | head ht _ ih =>
      obtain ⟨k, hk⟩ := ih
      exact ⟨k + 1, _, ht, hk⟩

/-- A step other than the last one is followed. -/
theorem EndsIn.step {k : Nat} (h : p.EndsIn u k t) {step : Step}
    (hstep : p.steps[t.state]? = some step) (hne : step ≠ .accept) :
    ∃ j t', k = j + 1 ∧ p.Goes t t' ∧ p.EndsIn u j t' := by
  cases k with
  | zero =>
    obtain ⟨rfl, hdone⟩ := h
    rw [isDone, hstep, decide_eq_true_iff, Option.some.injEq] at hdone
    exact absurd hdone hne
  | succ j =>
    obtain ⟨t', ht, h⟩ := h
    exact ⟨j, t', rfl, ht, h⟩

end

/-! ## Steps -/

section
variable {p : Program} {i next : Nat} {a : Trail} {t : Thread}

theorem goes_take {set : Text.Ranges} (h : p.steps[i]? = some (.take set next)) :
    p.Goes (a.thread i) t ↔ ∃ b, TakesOne set a b ∧ t = b.thread next := by
  simp only [Goes, follow, Trail.thread, h, TakesOne]
  cases a.place.rest with
  | nil => simp
  | cons c rest =>
    by_cases hc : set.has c = true
    · simp only [hc, if_true, List.mem_singleton]
      constructor
      · rintro rfl
        exact ⟨_, ⟨c, rest, rfl, hc, rfl⟩, rfl⟩
      · rintro ⟨b, ⟨c', rest', hrest, -, rfl⟩, rfl⟩
        cases hrest
        rfl
    · simp only [hc, Bool.false_eq_true, if_false, List.not_mem_nil, false_iff]
      rintro ⟨b, ⟨c', rest', hrest, hc', -⟩, -⟩
      cases hrest
      exact hc hc'

theorem goes_look {l : Look} (h : p.steps[i]? = some (.look l next)) :
    p.Goes (a.thread i) t ↔ ∃ b, (l.holds a.place = true ∧ b = a) ∧ t = b.thread next := by
  simp only [Goes, follow, Trail.thread, h]
  by_cases hl : l.holds a.place = true <;> simp [hl]

theorem goes_mark {slot : Nat} (h : p.steps[i]? = some (.mark slot next)) :
    p.Goes (a.thread i) t ↔ ∃ b, b = a.mark slot ∧ t = b.thread next := by
  simp [Goes, follow, Trail.thread, h, Trail.mark]

theorem goes_choice {ways : List Nat} (h : p.steps[i]? = some (.choice ways)) :
    p.Goes (a.thread i) t ↔ ∃ s ∈ ways, t = a.thread s := by
  simp only [Goes, follow, Trail.thread, h, List.mem_map]
  exact ⟨fun ⟨s, hs, ht⟩ => ⟨s, hs, ht.symm⟩, fun ⟨s, hs, ht⟩ => ⟨s, hs, ht.symm⟩⟩

theorem goes_goOn {greedy : Bool} {state leave : Nat}
    (h : p.steps[i]? = some (goOn greedy state leave)) :
    p.Goes (a.thread i) t ↔ t = a.thread state ∨ t = a.thread leave := by
  rw [goes_choice h]
  cases greedy <;> simp [or_comm]

end

@[simp] theorem size_push (p : Program) (step : Step) :
    (p.push step).steps.size = p.steps.size + 1 := Array.size_push _

@[simp] theorem start_push (p : Program) (step : Step) : (p.push step).start = p.steps.size := rfl

theorem getElem?_push_size (p : Program) (step : Step) :
    (p.push step).steps[p.steps.size]? = some step := Array.getElem?_push_size

theorem getElem?_push_lt (p : Program) (step : Step) {i : Nat} (h : i < p.steps.size) :
    (p.push step).steps[i]? = p.steps[i]? := by
  rw [push, Array.getElem?_push, if_neg (Nat.ne_of_lt h)]

/-! ## Faithful programs -/

/-- `Q` holds the steps that `q` has beyond those of `p`. -/
def Holds (Q p q : Program) : Prop :=
  ∀ i, p.steps.size ≤ i → i < q.steps.size → Q.steps[i]? = q.steps[i]?

/-- `f` puts steps in front of a program that run as the relation says (module doc). -/
structure Compiles (f : Program → Program) (R : Trail → Trail → Prop) : Prop where
  keeps : ∀ p i, i < p.steps.size → (f p).steps[i]? = p.steps[i]?
  sound : ∀ {Q p : Program} {a : Trail} {u : Thread} {k : Nat}, Q.Holds p (f p) →
    Q.EndsIn u k (a.thread (f p).start) →
    ∃ b j, j ≤ k ∧ R a b ∧ Q.EndsIn u j (b.thread p.start)
  complete : ∀ {Q p : Program} {a b : Trail}, Q.Holds p (f p) → R a b →
    ReflTransGen Q.Goes (a.thread (f p).start) (b.thread p.start)

namespace Compiles

variable {f g : Program → Program} {R S : Trail → Trail → Prop}

theorem size_le (hf : Compiles f R) (p : Program) : p.steps.size ≤ (f p).steps.size := by
  refine Nat.le_of_not_lt fun hlt => ?_
  have hkept := hf.keeps p _ hlt
  rw [Array.getElem?_eq_none (Nat.le_refl _), Array.getElem?_eq_getElem hlt] at hkept
  cases hkept

/-- What holds all new steps holds those that were put in front first. -/
theorem holds_inner (hf : Compiles f R) {Q p q : Program} (hpq : p.steps.size ≤ q.steps.size)
    (h : Q.Holds p (f q)) : Q.Holds p q ∧ Q.Holds q (f q) := by
  have hsize := hf.size_le q
  refine ⟨fun i hi hlt => ?_, fun i hi hlt => h i (by omega) hlt⟩
  rw [h i hi (by omega), hf.keeps q i hlt]

theorem congr (hf : Compiles f R) (hfg : ∀ p, g p = f p) (hRS : ∀ a b, S a b ↔ R a b) :
    Compiles g S := by
  obtain rfl : g = f := funext hfg
  obtain rfl : S = R := funext fun a => funext fun b => propext (hRS a b)
  exact hf

theorem refl : Compiles (fun p => p) fun a b => b = a where
  keeps _ _ _ := rfl
  sound _ h := ⟨_, _, Nat.le_refl _, rfl, h⟩
  complete := by
    rintro Q p a b - rfl
    exact .refl

/-- One thing after the other: the second is put in front first. -/
theorem comp (hf : Compiles f R) (hg : Compiles g S) :
    Compiles (fun p => f (g p)) fun a b => ∃ c, R a c ∧ S c b where
  keeps p i hi := by rw [hf.keeps _ _ (Nat.lt_of_lt_of_le hi (hg.size_le p)), hg.keeps _ _ hi]
  sound := by
    intro Q p a u k hQ h
    obtain ⟨hinner, houter⟩ := hf.holds_inner (hg.size_le p) hQ
    obtain ⟨c, j, hj, hac, h⟩ := hf.sound houter h
    obtain ⟨b, i, hi, hcb, h⟩ := hg.sound hinner h
    exact ⟨b, i, Nat.le_trans hi hj, ⟨c, hac, hcb⟩, h⟩
  complete := by
    rintro Q p a b hQ ⟨c, hac, hcb⟩
    obtain ⟨hinner, houter⟩ := hf.holds_inner (hg.size_le p) hQ
    exact (hf.complete houter hac).trans (hg.complete hinner hcb)

/-- A single step that goes on with the program. -/
theorem push (step : Nat → Step) (hstep : ∀ next, step next ≠ .accept)
    (hgoes : ∀ {Q : Program} {i next a t}, Q.steps[i]? = some (step next) →
      (Q.Goes (a.thread i) t ↔ ∃ b, R a b ∧ t = b.thread next)) :
    Compiles (fun p => p.push (step p.start)) R where
  keeps p i hi := getElem?_push_lt p _ hi
  sound := by
    intro Q p a u k hQ h
    have hat := (hQ p.steps.size (Nat.le_refl _) (by simp)).trans (getElem?_push_size p _)
    obtain ⟨j, t, rfl, ht, h⟩ := h.step hat (hstep _)
    obtain ⟨b, hab, rfl⟩ := (hgoes hat).1 ht
    exact ⟨b, j, Nat.le_succ j, hab, h⟩
  complete := by
    intro Q p a b hQ hab
    have hat := (hQ p.steps.size (Nat.le_refl _) (by simp)).trans (getElem?_push_size p _)
    exact .single ((hgoes hat).2 ⟨b, hab, rfl⟩)

theorem take (set : Text.Ranges) :
    Compiles (fun p => p.push (.take set p.start)) (TakesOne set) :=
  push (.take set) (by simp) goes_take

theorem look (l : Look) :
    Compiles (fun p => p.push (.look l p.start)) fun a b => l.holds a.place = true ∧ b = a :=
  push (.look l) (by simp) goes_look

theorem mark (slot : Nat) :
    Compiles (fun p => p.push (.mark slot p.start)) fun a b => b = a.mark slot :=
  push (.mark slot) (by simp) goes_mark

theorem takesOne_single {c : Char} {a b : Trail} :
    TakesOne (Text.Ranges.single c) a b ↔
      ∃ rest, a.place.rest = c :: rest ∧ b = a.after c rest := by
  have hhas : ∀ d, (Text.Ranges.single c).has d = true ↔ d = c := by
    intro d
    simp only [Text.Ranges.single, Text.Ranges.has, Text.Ranges.hasCode, List.any_cons,
      List.any_nil, Bool.or_false, Bool.and_eq_true, decide_eq_true_iff]
    exact ⟨fun h => Char.toNat_inj.1 (Nat.le_antisymm h.2 h.1), fun h => by simp [h]⟩
  constructor
  · rintro ⟨d, rest, hrest, hd, rfl⟩
    obtain rfl := (hhas d).1 hd
    exact ⟨rest, hrest, rfl⟩
  · rintro ⟨rest, hrest, rfl⟩
    exact ⟨c, rest, hrest, (hhas c).2 rfl, rfl⟩

theorem text (cs : List Char) : Compiles
    (fun p => cs.foldr (fun c p => p.push (.take (Text.Ranges.single c) p.start)) p)
    (Takes cs) := by
  induction cs with
  | nil => exact refl
  | cons c cs ih =>
    refine ((take (Text.Ranges.single c)).comp ih).congr (fun _ => rfl) fun a b => ?_
    simp only [takesOne_single, Takes]
    constructor
    · rintro ⟨rest, hrest, hb⟩
      exact ⟨_, ⟨rest, hrest, rfl⟩, hb⟩
    · rintro ⟨_, ⟨rest, hrest, rfl⟩, hb⟩
      exact ⟨rest, hrest, hb⟩

/-- One thing or another. Both go on with the program. -/
theorem choice (hf : Compiles f R) (hg : Compiles g S) :
    Compiles (fun p =>
      let second := g p
      let first := f (second.withStart p.start)
      first.push (.choice [first.start, second.start])) fun a b => R a b ∨ S a b := by
  -- the steps of the second stand below those of the first, and the choice in front of both
  have hparts : ∀ {Q p : Program},
      let first := f ((g p).withStart p.start)
      Q.Holds p (first.push (.choice [first.start, (g p).start])) →
      Q.steps[first.steps.size]? = some (.choice [first.start, (g p).start]) ∧
        Q.Holds p (g p) ∧ Q.Holds ((g p).withStart p.start) first := by
    intro Q p first hQ
    have hfirst : (g p).steps.size ≤ first.steps.size := hf.size_le ((g p).withStart p.start)
    have hp := hg.size_le p
    have hlow : Q.Holds p first := fun i hi hlt => by
      rw [hQ i hi (by simp; omega), getElem?_push_lt _ _ hlt]
    obtain ⟨hinner, houter⟩ := hf.holds_inner (q := (g p).withStart p.start) hp hlow
    refine ⟨?_, hinner, houter⟩
    rw [hQ _ (Nat.le_trans hp hfirst) (by simp), getElem?_push_size]
  constructor
  case keeps =>
    intro p i hi
    have hi' : i < ((g p).withStart p.start).steps.size := Nat.lt_of_lt_of_le hi (hg.size_le p)
    dsimp only
    rw [getElem?_push_lt _ _ (Nat.lt_of_lt_of_le hi' (hf.size_le _)), hf.keeps _ _ hi']
    exact hg.keeps p i hi
  case sound =>
    intro Q p a u k hQ h
    obtain ⟨hat, hsecond, hfirst⟩ := hparts hQ
    obtain ⟨j, t, rfl, ht, h⟩ := h.step hat (by simp)
    obtain ⟨s, hs, rfl⟩ := (goes_choice hat).1 ht
    simp only [List.mem_cons, List.not_mem_nil, or_false] at hs
    rcases hs with rfl | rfl
    · obtain ⟨b, i, hi, hab, h⟩ := hf.sound hfirst h
      exact ⟨b, i, Nat.le_succ_of_le hi, .inl hab, h⟩
    · obtain ⟨b, i, hi, hab, h⟩ := hg.sound hsecond h
      exact ⟨b, i, Nat.le_succ_of_le hi, .inr hab, h⟩
  case complete =>
    intro Q p a b hQ hab
    obtain ⟨hat, hsecond, hfirst⟩ := hparts hQ
    rcases hab with hab | hab
    · have hrun := hf.complete hfirst hab
      exact .head ((goes_choice hat).2 ⟨_, List.mem_cons_self, rfl⟩) hrun
    · have hrun := hg.complete hsecond hab
      exact .head ((goes_choice hat).2 ⟨_, List.mem_cons_of_mem _ List.mem_cons_self, rfl⟩) hrun

/-! ## Repetitions -/

theorem iterate (hf : Compiles f R) (n : Nat) : Compiles (Nat.repeat f n) (Rounds R n) := by
  induction n with
  | zero => exact refl
  | succ n ih => exact hf.comp ih

/-- Rounds that may be left out, one inside the other. All of them are left to the same state. -/
theorem optional (hf : Compiles f R) (greedy : Bool) (n : Nat) :
    Compiles (fun p => Nat.repeat (fun q => (f q).push (goOn greedy (f q).start p.start)) n p)
      fun a b => ∃ m ≤ n, Rounds R m a b := by
  induction n with
  | zero =>
    refine refl.congr (fun _ => rfl) fun a b => ?_
    simp [Rounds]
  | succ n ih =>
    let inner (p : Program) : Program :=
      Nat.repeat (fun q => (f q).push (goOn greedy (f q).start p.start)) n p
    have hparts : ∀ {Q p : Program},
        Q.Holds p ((f (inner p)).push (goOn greedy (f (inner p)).start p.start)) →
        Q.steps[(f (inner p)).steps.size]? = some (goOn greedy (f (inner p)).start p.start) ∧
          Q.Holds p (inner p) ∧ Q.Holds (inner p) (f (inner p)) := by
      intro Q p hQ
      have hinner : p.steps.size ≤ (inner p).steps.size := ih.size_le p
      have hbody := hf.size_le (inner p)
      have hlow : Q.Holds p (f (inner p)) := fun i hi hlt => by
        rw [hQ i hi (by simp; omega), getElem?_push_lt _ _ hlt]
      obtain ⟨h1, h2⟩ := hf.holds_inner hinner hlow
      exact ⟨by rw [hQ _ (by omega) (by simp), getElem?_push_size], h1, h2⟩
    constructor
    case keeps =>
      intro p i hi
      have hi' : i < (inner p).steps.size := Nat.lt_of_lt_of_le hi (ih.size_le p)
      show ((f (inner p)).push _).steps[i]? = _
      rw [getElem?_push_lt _ _ (Nat.lt_of_lt_of_le hi' (hf.size_le _)), hf.keeps _ _ hi']
      exact ih.keeps p i hi
    case sound =>
      intro Q p a u k hQ h
      obtain ⟨hat, hinner, hbody⟩ := hparts hQ
      obtain ⟨j, t, rfl, ht, h⟩ := h.step hat (by simp [goOn])
      rcases (goes_goOn hat).1 ht with rfl | rfl
      · obtain ⟨c, i, hi, hac, h⟩ := hf.sound hbody h
        obtain ⟨b, l, hl, ⟨m, hm, hcb⟩, h⟩ := ih.sound hinner h
        exact ⟨b, l, by omega, ⟨m + 1, by omega, c, hac, hcb⟩, h⟩
      · exact ⟨a, j, by omega, ⟨0, Nat.zero_le _, rfl⟩, h⟩
    case complete =>
      rintro Q p a b hQ ⟨m, hm, hab⟩
      obtain ⟨hat, hinner, hbody⟩ := hparts hQ
      cases m with
      | zero =>
        obtain rfl : b = a := hab
        exact .single ((goes_goOn hat).2 (.inr rfl))
      | succ m =>
        obtain ⟨c, hac, hcb⟩ := hab
        exact .head ((goes_goOn hat).2 (.inl rfl)) ((hf.complete hbody hac).trans
          (ih.complete hinner ⟨m, by omega, hcb⟩))

end Compiles

/-- What a loop consists of: the body, which leads to the turn, and the choice there. -/
structure LoopIn (Q p : Program) (greedy : Bool) (f : Program → Program) : Prop where
  turn : Q.steps[p.steps.size]? = some (goOn greedy (f (p.push .accept)).start p.start)
  body : Q.Holds (p.push .accept) (f (p.push .accept))

namespace Compiles

variable {f : Program → Program} {R : Trail → Trail → Prop}

theorem getElem?_loop (greedy : Bool) (p : Program) (i : Nat) :
    (p.loop greedy f).steps[i]? =
      if i = p.steps.size ∧ i < (f (p.push .accept)).steps.size then
        some (goOn greedy (f (p.push .accept)).start p.start)
      else (f (p.push .accept)).steps[i]? := by
  simp only [loop, Array.getElem?_setIfInBounds]
  by_cases hi : p.steps.size = i
  · subst hi
    by_cases hlt : p.steps.size < (f (p.push .accept)).steps.size
    · simp [hlt]
    · simp [hlt]
  · simp [hi, Ne.symm hi]

theorem size_loop (greedy : Bool) (p : Program) :
    (p.loop greedy f).steps.size = (f (p.push .accept)).steps.size := by
  simp [loop]

theorem size_lt_loop (hf : Compiles f R) (greedy : Bool) (p : Program) :
    p.steps.size < (p.loop greedy f).steps.size := by
  have hbody := hf.size_le (p.push .accept)
  rw [size_push] at hbody
  rw [size_loop]
  exact hbody

theorem loopIn (hf : Compiles f R) {Q p : Program} {greedy : Bool}
    (hQ : Q.Holds p (p.loop greedy f)) : Q.LoopIn p greedy f := by
  have hlt := hf.size_lt_loop greedy p
  refine ⟨?_, fun i hi hlt' => ?_⟩
  · rw [hQ _ (Nat.le_refl _) hlt, getElem?_loop, if_pos ⟨rfl, by rwa [size_loop] at hlt⟩]
  · rw [size_push] at hi
    rw [hQ i (by omega) (by rwa [size_loop]), getElem?_loop, if_neg fun h => by omega]

theorem keeps_loop (hf : Compiles f R) (greedy : Bool) (p : Program) {i : Nat}
    (hi : i < p.steps.size) : (p.loop greedy f).steps[i]? = p.steps[i]? := by
  rw [getElem?_loop, if_neg fun h => by omega, hf.keeps _ _ (by simp; omega),
    getElem?_push_lt _ _ hi]

/-- Whoever starts a round and ends has made some rounds, and has left at the turn then. -/
theorem sound_loop (hf : Compiles f R) {Q p : Program} {greedy : Bool} (hQ : Q.LoopIn p greedy f)
    {a : Trail} {u : Thread} {k : Nat}
    (h : Q.EndsIn u k (a.thread (f (p.push .accept)).start)) :
    ∃ b j n, j ≤ k ∧ Rounds R (n + 1) a b ∧ Q.EndsIn u j (b.thread p.start) := by
  -- each round takes a step at least, the one at the turn
  induction k using Nat.strongRecOn generalizing a with
  | ind k ih =>
    obtain ⟨c, j, hj, hac, h⟩ := hf.sound hQ.body h
    obtain ⟨i, t, rfl, ht, h⟩ := h.step hQ.turn (by simp [goOn])
    rcases (goes_goOn hQ.turn).1 ht with rfl | rfl
    · obtain ⟨b, l, n, hl, hcb, h⟩ := ih i (by omega) h
      exact ⟨b, l, n + 1, by omega, ⟨c, hac, hcb⟩, h⟩
    · exact ⟨c, i, 0, by omega, ⟨c, hac, rfl⟩, h⟩

theorem complete_loop (hf : Compiles f R) {Q p : Program} {greedy : Bool}
    (hQ : Q.LoopIn p greedy f) {n : Nat} {a b : Trail} (h : Rounds R (n + 1) a b) :
    ReflTransGen Q.Goes (a.thread (f (p.push .accept)).start) (b.thread p.start) := by
  induction n generalizing a with
  | zero =>
    obtain ⟨c, hac, rfl⟩ := h
    exact (hf.complete hQ.body hac).tail ((goes_goOn hQ.turn).2 (.inr rfl))
  | succ n ih =>
    obtain ⟨c, hac, hcb⟩ := h
    exact ((hf.complete hQ.body hac).tail ((goes_goOn hQ.turn).2 (.inl rfl))).trans (ih hcb)

/-- One round or more. -/
theorem loop (hf : Compiles f R) (greedy : Bool) :
    Compiles (fun p => p.loop greedy f) fun a b => ∃ n, Rounds R (n + 1) a b where
  keeps p _ hi := hf.keeps_loop greedy p hi
  sound := by
    intro Q p a u k hQ h
    obtain ⟨b, j, n, hj, hab, h⟩ := hf.sound_loop (hf.loopIn hQ) h
    exact ⟨b, j, hj, ⟨n, hab⟩, h⟩
  complete := by
    rintro Q p a b hQ ⟨n, hab⟩
    exact hf.complete_loop (hf.loopIn hQ) hab

/-- Any number of rounds: the turn comes first. -/
theorem loop_turn (hf : Compiles f R) (greedy : Bool) :
    Compiles (fun p => (p.loop greedy f).withStart p.steps.size)
      fun a b => ∃ n, Rounds R n a b where
  keeps p _ hi := hf.keeps_loop greedy p hi
  sound := by
    intro Q p a u k hQ h
    have hloop := hf.loopIn (hQ : Q.Holds p (p.loop greedy f))
    obtain ⟨j, t, rfl, ht, h⟩ := h.step hloop.turn (by simp [goOn])
    rcases (goes_goOn hloop.turn).1 ht with rfl | rfl
    · obtain ⟨b, i, n, hi, hab, h⟩ := hf.sound_loop hloop h
      exact ⟨b, i, by omega, ⟨n + 1, hab⟩, h⟩
    · exact ⟨a, j, by omega, ⟨0, rfl⟩, h⟩
  complete := by
    rintro Q p a b hQ ⟨n, hab⟩
    have hloop := hf.loopIn (hQ : Q.Holds p (p.loop greedy f))
    cases n with
    | zero =>
      obtain rfl : b = a := hab
      exact .single ((goes_goOn hloop.turn).2 (.inr rfl))
    | succ n => exact .head ((goes_goOn hloop.turn).2 (.inl rfl)) (hf.complete_loop hloop hab)

/-- Any number of rounds: a choice of its own comes first. -/
theorem loop_optional (hf : Compiles f R) (greedy : Bool) :
    Compiles (fun p => (p.loop greedy f).push (goOn greedy (p.loop greedy f).start p.start))
      fun a b => ∃ n, Rounds R n a b := by
  refine ((hf.loop greedy).optional greedy 1).congr (fun _ => rfl) fun a b => ?_
  constructor
  · rintro ⟨n, hab⟩
    cases n with
    | zero => exact ⟨0, by omega, hab⟩
    | succ n => exact ⟨1, by omega, b, ⟨n, hab⟩, rfl⟩
  · rintro ⟨m, hm, hab⟩
    match m, hm, hab with
    | 0, _, hab => exact ⟨0, hab⟩
    | 1, _, ⟨c, ⟨n, hac⟩, hcb⟩ =>
      obtain rfl : b = c := hcb
      exact ⟨n + 1, hac⟩

end Compiles

/-! ## Patterns -/

/-- **The program of a pattern runs as the pattern matches.** -/
theorem compiles_prepend (P : Pattern) : Compiles (prepend P) P.Matches := by
  induction P with
  | empty => exact Compiles.refl.congr (fun _ => by rw [prepend]) fun a b => Iff.rfl
  | text cs => exact (Compiles.text cs).congr (fun _ => by rw [prepend]) fun a b => Iff.rfl
  | chars set => exact (Compiles.take set).congr (fun _ => by rw [prepend]) fun a b => Iff.rfl
  | look l => exact (Compiles.look l).congr (fun _ => by rw [prepend]) fun a b => Iff.rfl
  | seq a b iha ihb => exact (iha.comp ihb).congr (fun _ => by rw [prepend]) fun a b => Iff.rfl
  | alt a b iha ihb => exact (iha.choice ihb).congr (fun _ => by rw [prepend]) fun a b => Iff.rfl
  | group index body ih =>
    refine ((Compiles.mark (startSlot index)).comp
      (ih.comp (Compiles.mark (finishSlot index)))).congr (fun _ => by rw [prepend]) fun a b => ?_
    simp [Matches]
  | times least most greedy body ih =>
    cases most with
    | some most =>
      refine ((ih.iterate least).comp (ih.optional greedy (most - least))).congr
        (fun _ => by rw [prepend]) fun a b => ?_
      simp only [Matches, Option.mem_def, Option.some.injEq, forall_eq']
      constructor
      · rintro ⟨n, hleast, hmost, hab⟩
        rw [← Nat.add_sub_cancel' hleast, rounds_add] at hab
        obtain ⟨c, hac, hcb⟩ := hab
        exact ⟨c, hac, n - least, by omega, hcb⟩
      · rintro ⟨c, hac, m, hm, hcb⟩
        exact ⟨least + m, by omega, by omega, rounds_add.2 ⟨c, hac, hcb⟩⟩
    | none =>
      cases least with
      | zero =>
        have hmatches : ∀ a b, (times 0 none greedy body).Matches a b ↔
            ∃ n, Rounds body.Matches n a b := by simp [Matches]
        cases hproductive : body.isProductive with
        | true =>
          exact (ih.loop_turn greedy).congr (fun _ => by rw [prepend, if_pos hproductive]) hmatches
        | false =>
          exact (ih.loop_optional greedy).congr
            (fun _ => by rw [prepend, hproductive, if_neg Bool.false_ne_true]) hmatches
      | succ least =>
        refine ((ih.iterate least).comp (ih.loop greedy)).congr (fun _ => by rw [prepend])
          fun a b => ?_
        simp only [Matches, Option.mem_def, reduceCtorEq, false_implies, implies_true, true_and]
        constructor
        · rintro ⟨n, hleast, hab⟩
          obtain ⟨m, rfl⟩ := Nat.exists_eq_add_of_le hleast
          rw [Nat.add_assoc, Nat.add_comm 1, rounds_add] at hab
          obtain ⟨c, hac, hcb⟩ := hab
          exact ⟨c, hac, m, hcb⟩
        · rintro ⟨c, hac, m, hcb⟩
          exact ⟨least + (m + 1), by omega, rounds_add.2 ⟨c, hac, hcb⟩⟩

end Program

/-- **The runs of a pattern's program that come to an end are the matches of the pattern.** -/
theorem endsIn_program_iff (P : Pattern) {a : Trail} {u : Thread} :
    (∃ k, P.program.EndsIn u k (a.thread P.program.start)) ↔
      ∃ b, P.Matches a b ∧ u = b.thread 0 := by
  let last : Program := ({} : Program).push .accept
  have hprogram := Program.compiles_prepend P
  have hholds : P.program.Holds last P.program := fun _ _ _ => rfl
  have hlast : ∀ b : Trail, P.program.isDone (b.thread 0) = true := by
    intro b
    have hkept : P.program.steps[0]? = last.steps[0]? := hprogram.keeps last 0 (by decide)
    rw [Program.isDone, Trail.thread, hkept]
    decide
  constructor
  · rintro ⟨k, h⟩
    obtain ⟨b, j, -, hab, h⟩ := hprogram.sound hholds h
    refine ⟨b, hab, ?_⟩
    cases j with
    | zero => exact h.1.symm
    | succ j =>
      -- nothing follows the end
      obtain ⟨t, ht, -⟩ := h
      have hdone := of_decide_eq_true (hlast b)
      simp only [Program.Goes, Program.follow] at ht
      rw [show (b.thread last.start) = b.thread 0 from rfl, hdone] at ht
      cases ht
  · rintro ⟨b, hab, rfl⟩
    exact Program.endsIn_iff_reflTransGen.2 ⟨hprogram.complete hholds hab, hlast b⟩

end Concord.Pattern
