import Concord.Proofs.JsonMembers

/-!
# Decoding the documents of written values

A decoder that is asked for a value nested too deep fails with `tooDeep`, and this is the only way
in which one fails on the document of a value of the right form. `upTo depth v x` is what is left to
be said of it: the answer is `x` if `v` is nested at most `depth` deep.

* `list_doc`: a list is read item by item.
* `Fields.decode_doc`: a record is read if its members are its declared fields, in order, except for
  fields with a default, which may be missing (`Fields.Written`).
-/

set_option autoImplicit false

namespace Concord.Json

/-- What reading a value within a depth comes to. -/
def upTo {α : Type} (depth : Nat) (v : Value) (x : α) : Except Fault α :=
  if v.depth ≤ depth then .ok x else .error (.malformed .tooDeep)

theorem text_doc (depth : Nat) (s : String) : text (Value.text s).doc = upTo depth (.text s) s := by
  rw [upTo, Value.depth, if_pos (Nat.zero_le _)]
  exact Literal.text_written s

theorem text?_doc (depth : Nat) (s : String) :
    text? (Value.text s).doc = upTo depth (.text s) (some s) := by
  have h := text_doc depth s
  rw [upTo, Value.depth, if_pos (Nat.zero_le _)] at h ⊢
  rw [Value.doc, text?, ← Value.doc, h]
  · rfl
  · simp

/-! ## Lists -/

theorem mapM_doc {α : Type} {toValue : α → Value} {item : Decoder α} {depth : Nat} {xs : List α}
    (h : ∀ x ∈ xs, item (toValue x).doc = upTo depth (toValue x) x) :
    (docs (xs.map toValue)).mapM item =
      if itemsDepth (xs.map toValue) ≤ depth then .ok xs else .error (.malformed .tooDeep) := by
  induction xs with
  | nil => simp [docs, itemsDepth, pure, Except.pure]
  | cons x rest ih =>
    have hx := h x List.mem_cons_self
    have hrest := ih fun y hy => h y (List.mem_cons_of_mem _ hy)
    simp only [List.map_cons, docs, itemsDepth, List.mapM_cons, hx, hrest, upTo, Nat.max_le]
    by_cases hd : (toValue x).depth ≤ depth
    · by_cases hr : itemsDepth (rest.map toValue) ≤ depth <;>
        simp [hd, hr, bind, Except.bind, pure, Except.pure]
    · simp [hd, bind, Except.bind]

/-- **A written list** is read as deep as its items are. -/
theorem list_doc {α : Type} {toValue : α → Value} {item : Decoder α} {depth : Nat} {xs : List α}
    (h : ∀ x ∈ xs, item (toValue x).doc = upTo (depth - 1) (toValue x) x) :
    list depth item (Value.list (xs.map toValue)).doc = upTo depth (.list (xs.map toValue)) xs := by
  rw [Value.doc, upTo, Value.depth]
  cases depth with
  | zero => simp [list]
  | succ depth =>
    simp only [list, mapM_doc h, Nat.add_sub_cancel, Nat.add_le_add_iff_right]
    split <;> rfl

/-! ## Records -/

namespace Fields

/-- The members are written for a value of the record: each field in turn is there, or is left out
if the value has its default. -/
inductive Written (depth : Nat) : {α : Type} → Fields α → List (String × Value) → α → Prop
  | done {α : Type} {value : α} : Written depth (.done value) [] value
  | present {α β : Type} {name : String} {decode : Decoder β} {default : Option β}
      {rest : Fields (β → α)} {v : Value} {x : β} {members : List (String × Value)} {f : β → α}
      (hread : decode v.doc = upTo depth v x) (hrest : Written depth rest members f) :
      Written depth (.field name decode default none rest) ((name, v) :: members) (f x)
  | absent {α β : Type} {name : String} {decode : Decoder β} {rest : Fields (β → α)} {x : β}
      {members : List (String × Value)} {f : β → α} (hrest : Written depth rest members f) :
      Written depth (.field name decode (some x) none rest) members (f x)

section
variable {α : Type} {depth : Nat}

theorem Written.keys {fields : Fields α} {members : List (String × Value)} {a : α}
    (h : Written depth fields members a) : members.map (·.1) ⊆ fields.names := by
  induction h with
  | done => exact List.Subset.refl _
  | present _ _ ih => exact List.cons_subset_cons _ ih
  | absent _ ih => exact List.Subset.trans ih (List.subset_cons_self _ _)

theorem valuesOf_memberDocs {name : String} {ms : List (String × Value)}
    (h : ∀ m ∈ ms, m.1 ≠ name) : valuesOf (memberDocs ms) name = [] := by
  induction ms with
  | nil => rfl
  | cons m ms ih =>
    obtain ⟨key, v⟩ := m
    obtain ⟨hkey, hms⟩ := List.forall_mem_cons.1 h
    have htext : (Literal.written key).text ≠ .ok name := by
      rw [Literal.text_written]
      exact fun heq => hkey (Except.ok.inj heq)
    rw [memberDocs, valuesOf_cons_ne htext, ih hms]

/-- **Written members** are read as the value that they were written for. -/
theorem Written.members {fields : Fields α} {ms : List (String × Value)} {a : α}
    (h : Written depth fields ms a) (hnames : fields.names.Nodup) :
    (fields.members (memberDocs ms)).bind finish =
      if membersDepth ms ≤ depth then .ok a else .error (.malformed .tooDeep) := by
  induction h with
  | done => rfl
  | @present α β name decode default rest v x ms f hread hrest ih =>
    obtain ⟨hname, hnames⟩ := List.nodup_cons.1 hnames
    have hms : ∀ m ∈ ms, m.1 ≠ name := fun m hm heq =>
      hname (heq ▸ hrest.keys (List.mem_map_of_mem hm))
    rw [memberDocs, Fields.members]
    simp only [Literal.text_written, supply, hread, upTo, membersDepth, Nat.max_le]
    by_cases hd : v.depth ≤ depth
    · simp only [hd, Except.map, if_true, true_and]
      rw [members_field (valuesOf_memberDocs hms), finish_field rfl, ih hnames]
      split <;> rfl
    · simp [hd, Except.map, Except.bind]
  | @absent α β name decode rest x ms f hrest ih =>
    obtain ⟨hname, hnames⟩ := List.nodup_cons.1 hnames
    have hms : ∀ m ∈ ms, m.1 ≠ name := fun m hm heq =>
      hname (heq ▸ hrest.keys (List.mem_map_of_mem hm))
    rw [members_field (valuesOf_memberDocs hms), finish_field rfl, ih hnames]
    split <;> rfl

/-- **A written record** is read as deep as its members are. -/
theorem decode_doc {fields : Fields α} {ms : List (String × Value)} {a : α} (record : String)
    (h : Written (depth - 1) fields ms a) (hnames : fields.names.Nodup) :
    fields.decode record depth (Value.record ms).doc = upTo depth (.record ms) a := by
  rw [Value.doc, upTo, Value.depth]
  cases depth with
  | zero => simp [decode]
  | succ depth =>
    rw [Nat.add_sub_cancel] at h
    simp only [Nat.add_le_add_iff_right]
    rw [← h.members hnames, decode]
    cases fields.members (memberDocs ms) <;> rfl

end

end Fields

end Concord.Json
