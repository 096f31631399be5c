import Concord.NameTree.Decode
import Concord.Proofs.CommandFiles
import Concord.Proofs.JsonRecords

/-!
# Recovered names survive writing and reading

The text of recovered names is read as the names it was written for, unless its lists and records
are nested deeper than a reader follows (`NameForest.ofText_render`). Each kind of entry is a record
whose members are written in the order of its fields, so `Fields.decode_doc` applies to all of them.
A tree opens two levels more than its nested trees, as its decoder does
(`NameTree.decode_of_nested`).

`NameForest.ofText_written`: the same of names that have been written to a file.
-/

set_option autoImplicit false

namespace Concord

open Json Command

/-! ## Entries -/

section
variable {α β : Type} {depth : Nat} {name : String} {ms : List (String × Value)}

theorem written_listMember {toValue : β → Value} {item : Decoder β} {rest : Fields (List β → α)}
    {f : List β → α} (xs : List β)
    (hitem : ∀ x, item (toValue x).doc = upTo (depth - 1) (toValue x) x)
    (hrest : Fields.Written depth rest ms f) :
    Fields.Written depth (.optional name (list depth item) [] rest)
      (listMember name (xs.map toValue) ++ ms) (f xs) := by
  cases xs with
  | nil => exact .absent hrest
  | cons x xs => exact .present (list_doc fun y _ => hitem y) hrest

theorem written_textMember {rest : Fields (Option String → α)} {f : Option String → α}
    (s : Option String) (hrest : Fields.Written depth rest ms f) :
    Fields.Written depth (.optional name text? none rest) (textMember name s ++ ms) (f s) := by
  cases s with
  | none => exact .absent hrest
  | some s => exact .present (text?_doc depth s) hrest

end

theorem MemberName.decode_toValue (depth : Nat) (m : MemberName) :
    MemberName.decode depth m.toValue.doc = upTo depth m.toValue m :=
  Fields.decode_doc _ (.present (text_doc _ _) (.present (text_doc _ _) .done)) (by simp)

theorem MethodName.decode_toValue (depth : Nat) (m : MethodName) :
    MethodName.decode depth m.toValue.doc = upTo depth m.toValue m := by
  rw [MethodName.toValue, ← List.append_nil (listMember _ _)]
  exact Fields.decode_doc _ (.present (text_doc _ _) <| .present (text_doc _ _) <|
    written_listMember m.signature (text_doc _) .done) (by simp)

/-! ## Trees -/

theorem treeValues_eq_map (ts : List NameTree) : treeValues ts = ts.map NameTree.toValue := by
  induction ts with
  | nil => rfl
  | cons t ts ih => rw [treeValues, ih, List.map_cons]

/-- A tree is read if its nested trees are read two levels further down. -/
theorem NameTree.decode_of_nested {depth : Nat} {item : Decoder NameTree}
    (hitem : ∀ t : NameTree, item t.toValue.doc = upTo (depth - 2) t.toValue t) (t : NameTree) :
    (fieldList depth (list (depth - 1) item)).decode "RecoveredType" depth t.toValue.doc =
      upTo depth t.toValue t := by
  obtain ⟨renamed, recovered, fields, properties, methods, nested⟩ := t
  rw [NameTree.toValue, treeValues_eq_map]
  refine Fields.decode_doc _ ?_ (by simp [fieldList])
  simp only [List.append_assoc, List.singleton_append]
  rw [← List.append_nil (listMember "nested" _)]
  exact .present (text_doc _ _) <| written_textMember recovered <|
    written_listMember fields (MemberName.decode_toValue _) <|
    written_listMember properties (MemberName.decode_toValue _) <|
    written_listMember methods (MethodName.decode_toValue _) <|
    written_listMember nested hitem .done

theorem NameTree.upTo_zero (t : NameTree) :
    upTo 0 t.toValue t = .error (.malformed .tooDeep) := by
  obtain ⟨renamed, recovered, fields, properties, methods, nested⟩ := t
  rw [NameTree.toValue, upTo, Value.depth]
  exact if_neg (by omega)

theorem NameTree.decode_toValue : ∀ (depth : Nat) (t : NameTree),
    NameTree.decode depth t.toValue.doc = upTo depth t.toValue t
  | 0, t => decode_of_nested (fun s => s.upTo_zero.symm) t
  | 1, t => decode_of_nested (fun s => s.upTo_zero.symm) t
  | depth + 2, t => decode_of_nested (decode_toValue depth) t

theorem NameForest.decode_toValue (depth : Nat) (m : NameForest) :
    NameForest.decode depth m.toValue.doc = upTo depth m.toValue m := by
  refine Fields.decode_doc _ (.present ?_ .done) (by simp)
  rw [treeValues_eq_map]
  exact list_doc fun t _ => NameTree.decode_toValue _ t

/-! ## Texts and files -/

/-- **The text of recovered names** is read as these names, unless it is nested too deep. -/
theorem NameForest.ofText_render (m : NameForest) : NameForest.ofText m.render =
    if textDepth m.render ≤ maxDepth then .ok m else .error (.malformed .tooDeep) := by
  rw [ofText, render, decodeText_pretty, decode_toValue, textDepth_pretty]
  rfl

/-- **Recovered names that have been written**, to a file or to the standard output, can be read
there, and they are the same unless their text is nested too deep. -/
theorem NameForest.ofText_written (m : NameForest) :
    (∀ (path : String) (fs fs' : FileSystem) (output : String),
      (writeNames FileAccess.pure path m).run fs = (.ok output, fs') →
      if path = "-" then output = m.render ∧ fs' = fs
      else output = "" ∧ (readText FileAccess.pure path).run fs' = (.ok m.render, fs')) ∧
    NameForest.ofText m.render =
      if textDepth m.render ≤ maxDepth then .ok m else .error (.malformed .tooDeep) := by
  refine ⟨fun path fs fs' output h => ?_, m.ofText_render⟩
  split
  · rename_i hpath
    rw [writeNames, if_pos hpath] at h
    cases h
    exact ⟨rfl, rfl⟩
  · rename_i hpath
    exact readText_writeNames hpath h

/-- Names with quotation marks, backslashes, control characters and characters beyond the first
plane, in a tree and one nested in it. -/
def sampleNames : NameForest where
  types := [{
    renamed := "ABCDEFGHIJK"
    recovered := some "a\"b\\c\x00\x1f\x7f\n\t😀"
    methods := [⟨"LMNOPQRSTUV", "Run", ["", "System.Void"]⟩]
    nested := [{ renamed := "ABCDEFGHIJK/x", fields := [⟨"é", "/"⟩] }] }, { renamed := "" }]

theorem NameForest.ofText_written_sample :
    ∃ fs', (writeNames FileAccess.pure "out.json" sampleNames).run {} = (.ok "", fs') ∧
      textDepth sampleNames.render = 7 ∧
      (readText FileAccess.pure "out.json").run fs' = (.ok sampleNames.render, fs') ∧
      NameForest.ofText sampleNames.render = .ok sampleNames := by
  obtain ⟨hwritten, hread⟩ := NameForest.ofText_written sampleNames
  have hdepth : textDepth sampleNames.render = 7 := (textDepth_pretty _).trans (by decide)
  rw [hdepth, if_pos (by decide)] at hread
  have hrun : (writeNames FileAccess.pure "out.json" sampleNames).run {} = (.ok "", _) := rfl
  have hfile := hwritten _ _ _ _ hrun
  rw [if_neg (by decide)] at hfile
  exact ⟨_, hrun, hdepth, hfile.2, hread⟩

end Concord
