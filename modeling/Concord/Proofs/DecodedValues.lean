import Concord.Json.Decode

/-!
# Where decoded values come from

A decoder that gives a value has found each part of it. The items of a list have been read
(`list_ok`), and each field of a record has been read from some document or has its default
(`Fields.decode_ok`), in whichever form and order the record is written. Both open a level: they
fail if no more may be opened.

* `Fields.Yields`: the values that a record can have, once some of its fields have been found.
* `Fields.yields_of_supply`, `Fields.yields_of_members`: finding one more field, or several, adds
  no value to these.
-/

set_option autoImplicit false

namespace Concord.Json

universe u v

theorem map_eq_ok_iff {ε : Type} {α : Type u} {β : Type v} {f : α → β} {x : Except ε α} {b : β} :
    x.map f = .ok b ↔ ∃ a, x = .ok a ∧ f a = b := by
  cases x <;> simp [Except.map]

/-! ## Lists -/

theorem exists_of_mem_mapM {α : Type} {item : Decoder α} {ds : List Doc} {xs : List α}
    (h : ds.mapM item = .ok xs) : ∀ x ∈ xs, ∃ d, item d = .ok x := by
  induction ds generalizing xs with
  | nil =>
    cases h
    simp
  | cons d ds ih =>
    rw [List.mapM_cons] at h
    cases hd : item d with
    | error fault => simp [hd, bind, Except.bind] at h
    | ok y =>
      cases hds : ds.mapM item with
      | error fault => simp [hd, hds, bind, Except.bind] at h
      | ok ys =>
        simp only [hd, hds, bind, Except.bind, pure, Except.pure, Except.ok.injEq] at h
        rw [← h]
        intro x hx
        cases hx with
        | head => exact ⟨d, hd⟩
        | tail _ hx => exact ih hds x hx

/-- **A list that has been read** opens a level, and its items have been read. -/
theorem list_ok {α : Type} {depth : Nat} {item : Decoder α} {d : Doc} {xs : List α}
    (h : list depth item d = .ok xs) : 0 < depth ∧ ∀ x ∈ xs, ∃ d', item d' = .ok x := by
  unfold list at h
  split at h
  · rename_i items ending
    cases depth with
    | zero => cases h
    | succ depth =>
      refine ⟨Nat.succ_pos depth, ?_⟩
      cases hitems : items.mapM item with
      | error fault => simp [hitems, bind, Except.bind] at h
      | ok ys =>
        cases hending : ending.check Snag.used with
        | error fault => simp [hitems, hending, bind, Except.bind] at h
        | ok _ =>
          simp only [hitems, hending, bind, Except.bind, pure, Except.pure, Except.ok.injEq] at h
          exact h ▸ exists_of_mem_mapM hitems
  · unfold mismatch at h
    split at h <;> cases h

/-! ## Records -/

namespace Fields

/-- The field can have this value: it was found for it, is its default, or can be read from some
document. -/
inductive Holds {β : Type} (decode : Decoder β) (default found : Option β) (x : β) : Prop
  | known (h : found = some x)
  | byDefault (h : default = some x)
  | read (d : Doc) (h : decode d = .ok x)

/-- The record can have this value, made of values that its fields can have. -/
def Yields : {α : Type} → Fields α → α → Prop
  | _, done value, a => a = value
  | _, field _ decode default found rest, a =>
    ∃ x f, Holds decode default found x ∧ rest.Yields f ∧ a = f x

variable {α : Type} {fields : Fields α} {a : α}

theorem yields_of_finish (h : fields.finish = .ok a) : fields.Yields a := by
  induction fields with
  | done value => exact (Except.ok.inj h).symm
  | field name decode default found rest ih =>
    unfold finish at h
    split at h
    · obtain ⟨f, hf, rfl⟩ := map_eq_ok_iff.1 h
      exact ⟨_, f, .known rfl, ih hf, rfl⟩
    · obtain ⟨f, hf, rfl⟩ := map_eq_ok_iff.1 h
      exact ⟨_, f, .byDefault rfl, ih hf, rfl⟩
    · cases h

/-- A field that is found has been read. -/
theorem yields_of_supply {fields' : Fields α} {key : String} {d : Doc}
    (h : fields.supply key d = .ok (some fields')) (ha : fields'.Yields a) : fields.Yields a := by
  induction fields with
  | done value => cases h
  | field name decode default found rest ih =>
    unfold supply at h
    split at h
    · split at h
      · cases h
      · obtain ⟨value, hvalue, heq⟩ := map_eq_ok_iff.1 h
        obtain rfl := Option.some.inj heq
        obtain ⟨x, f, hx, hf, rfl⟩ := ha
        refine ⟨x, f, ?_, hf, rfl⟩
        cases hx with
        | known hx => exact .read d (by rw [hvalue, Option.some.inj hx])
        | byDefault hx => exact .byDefault hx
        | read d' hx => exact .read d' hx
    · obtain ⟨rest', hrest, heq⟩ := map_eq_ok_iff.1 h
      cases rest' with
      | none => cases heq
      | some rest' =>
        obtain rfl := Option.some.inj heq
        obtain ⟨x, f, hx, hf, rfl⟩ := ha
        exact ⟨x, f, hx, ih hrest hf, rfl⟩

theorem yields_of_members {fields' : Fields α} {ms : List (Literal × Doc)}
    (h : fields.members ms = .ok fields') (ha : fields'.Yields a) : fields.Yields a := by
  induction ms generalizing fields with
  | nil => exact Except.ok.inj h ▸ ha
  | cons m ms ih =>
    unfold members at h
    split at h
    · cases h
    · split at h
      · cases h
      · rename_i hsupply
        exact yields_of_supply hsupply (ih h)
      · split at h
        · cases h
        · exact ih h

theorem yields_of_items {record : String} {index size : Nat} {ds : List Doc} {ending : Ending}
    (h : fields.items record index size ds ending = .ok a) : fields.Yields a := by
  induction fields generalizing index ds with
  | done value =>
    cases ds with
    | nil =>
      obtain ⟨-, -, rfl⟩ := map_eq_ok_iff.1 h
      rfl
    | cons d ds => cases h
  | field name decode default found rest ih =>
    cases ds with
    | nil =>
      unfold items at h
      split at h
      · cases h
      · obtain ⟨f, hf, rfl⟩ := map_eq_ok_iff.1 h
        exact ⟨_, f, .byDefault rfl, ih hf, rfl⟩
      · cases h
    | cons d ds =>
      unfold items at h
      split at h
      · cases h
      · rename_i x hx
        obtain ⟨f, hf, rfl⟩ := map_eq_ok_iff.1 h
        exact ⟨x, f, .read d hx, ih hf, rfl⟩

/-- **A record that has been read** opens a level, and its fields have been read or have their
defaults. -/
theorem decode_ok {record : String} {depth : Nat} {d : Doc}
    (h : fields.decode record depth d = .ok a) : 0 < depth ∧ fields.Yields a := by
  unfold decode at h
  split at h
  · cases depth with
    | zero => cases h
    | succ depth =>
      refine ⟨Nat.succ_pos depth, ?_⟩
      dsimp only at h
      split at h
      · cases h
      · rename_i hmembers
        split at h
        · cases h
        · exact yields_of_members hmembers (yields_of_finish h)
  · cases depth with
    | zero => cases h
    | succ depth => exact ⟨Nat.succ_pos depth, yields_of_items h⟩
  · unfold mismatch at h
    split at h <;> cases h

end Fields

end Concord.Json
