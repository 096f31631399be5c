import Concord.Command.Run

/-!
# What is written to a file is read from it

`readFile_writeFile`: after a file has been written it can be read at the same path. Writing puts an
entry where no directory is (`writeFile_eq_ok`), so every path still leads through the directories
that it led through before (`KeepsDirectories.resolve`).
-/

set_option autoImplicit false

namespace Concord

namespace FileSystem

variable {fs : FileSystem} {place other : Place} {e : FileEntry}

theorem entry?_put_self (hplace : place ≠ []) :
    FileSystem.entry? (fs.put place e) place = some e := by
  cases place with
  | nil => exact absurd rfl hplace
  | cons name rest => simp [FileSystem.entry?, put]

theorem entry?_put_of_ne (h : other ≠ place) :
    FileSystem.entry? (fs.put place e) other = fs.entry? other := by
  have hkeep : ∀ l : List (Place × FileEntry),
      (l.filter (·.1 ≠ place)).lookup other = l.lookup other := by
    intro l
    induction l with
    | nil => rfl
    | cons p l ih =>
      by_cases hp : p.1 = place
      · have hne : (other == p.1) = false := by simpa [hp] using h
        rw [List.filter_cons_of_neg (by simpa using hp), ih, List.lookup_cons, hne]
      · rw [List.filter_cons_of_pos (by simpa using hp), List.lookup_cons, List.lookup_cons, ih]
  have hne : (other == place) = false := by simpa using h
  simp only [FileSystem.entry?, put, List.lookup_cons, hne, hkeep]

/-- The directories of `fs` are directories of `fs'` too, and relative paths start from the same
one. -/
structure KeepsDirectories (fs fs' : FileSystem) : Prop where
  workingDirectory : fs'.workingDirectory = fs.workingDirectory
  directory : ∀ {place}, fs.entry? place = some .directory → fs'.entry? place = some .directory

/-- A directory is not where the entry is put. -/
theorem keepsDirectories_put (hfree : fs.entry? place ≠ some .directory) :
    KeepsDirectories fs (fs.put place e) := by
  refine ⟨rfl, fun {other} hother => ?_⟩
  have hne : other ≠ place := by
    rintro rfl
    exact hfree hother
  rw [entry?_put_of_ne hne]
  exact hother

theorem checkDirectory_eq_ok_iff : fs.checkDirectory place = .ok () ↔
    fs.entry? place = some .directory := by
  unfold checkDirectory
  split <;> simp_all

theorem checkName_eq_ok_iff {name : String} : fs.checkName place name = .ok () ↔
    fs.entry? place = some .directory ∧ ¬ nameLimit < name.utf8ByteSize := by
  rw [← checkDirectory_eq_ok_iff, checkName]
  cases fs.checkDirectory place with
  | error reason => simp
  | ok _ => simp

namespace KeepsDirectories

variable {fs' : FileSystem} (h : KeepsDirectories fs fs')
include h

theorem checkName {name : String} (hname : fs.checkName place name = .ok ()) :
    fs'.checkName place name = .ok () := by
  rw [checkName_eq_ok_iff] at hname ⊢
  exact ⟨h.directory hname.1, hname.2⟩

theorem walk {start : Place} {names : List String} (hwalk : fs.walk start names = .ok place) :
    fs'.walk start names = .ok place := by
  induction names generalizing start with
  | nil => exact hwalk
  | cons name rest ih =>
    rw [FileSystem.walk] at hwalk ⊢
    cases hname : fs.checkName start name with
    | error reason => simp [hname] at hwalk
    | ok _ =>
      rw [hname] at hwalk
      rw [h.checkName hname]
      exact ih hwalk

/-- A path still leads where it led. -/
theorem resolve {path : String} (hresolve : fs.resolve path = .ok place) :
    fs'.resolve path = .ok place := by
  have horigin : fs'.origin path = fs.origin path := by rw [origin, origin, h.workingDirectory]
  unfold FileSystem.resolve at hresolve ⊢
  cases hpath : checkPath path with
  | error reason => simp [hpath] at hresolve
  | ok _ =>
    simp only [hpath, horigin] at hresolve ⊢
    exact h.walk hresolve

end KeepsDirectories

theorem walk_concat {start : Place} {names : List String} {name : String}
    (h : fs.walk start names = .ok place) (hname : fs.checkName place name = .ok ()) :
    fs.walk start (names ++ [name]) = .ok (next place name) := by
  induction names generalizing start with
  | nil =>
    obtain rfl : start = place := by simpa [walk] using h
    simp [walk, hname]
  | cons first rest ih =>
    rw [List.cons_append, walk]
    rw [walk] at h
    cases hfirst : fs.checkName start first with
    | error reason => simp [hfirst] at h
    | ok _ =>
      rw [hfirst] at h
      exact ih h

/-- What the path of a directory and a name lead to. -/
theorem resolveParent_eq_some {path name : String}
    (h : fs.resolveParent path = .ok (some (place, name))) :
    checkPath path = .ok () ∧ ∃ names, Path.steps path = names ++ [name] ∧
      fs.walk (fs.origin path) names = .ok place ∧ fs.checkName place name = .ok () := by
  unfold resolveParent at h
  cases hpath : checkPath path with
  | error reason => simp [hpath] at h
  | ok _ =>
    rw [hpath] at h
    cases hsteps : (Path.steps path).reverse with
    | nil => simp [hsteps] at h
    | cons last before =>
      simp only [hsteps] at h
      cases hwalk : fs.walk (fs.origin path) before.reverse with
      | error reason => simp [hwalk] at h
      | ok q =>
        simp only [hwalk] at h
        cases hname : fs.checkName q last with
        | error reason => simp [hname] at h
        | ok _ =>
          simp only [hname, Except.ok.injEq, Option.some.injEq, Prod.mk.injEq] at h
          obtain ⟨rfl, rfl⟩ := h
          exact ⟨rfl, before.reverse, by simpa using congrArg List.reverse hsteps, hwalk, hname⟩

theorem resolve_of_resolveParent {path name : String}
    (h : fs.resolveParent path = .ok (some (place, name))) (hdots : isDots name = false) :
    fs.resolve path = .ok (place ++ [name]) := by
  obtain ⟨hpath, names, hsteps, hwalk, hname⟩ := resolveParent_eq_some h
  have hnext : next place name = place ++ [name] := by
    simp only [isDots, Bool.or_eq_false_iff, decide_eq_false_iff_not] at hdots
    rw [next, if_neg hdots.1, if_neg hdots.2]
  rw [resolve, hpath, hsteps]
  exact (walk_concat hwalk hname).trans (by rw [hnext])

/-- What it takes to write a file, and all that changes. -/
theorem writeFile_eq_ok {fs' : FileSystem} {path : String} {content : ByteArray}
    (h : fs.writeFile path content = .ok fs') :
    ∃ place, fs.resolve path = .ok place ∧ place ≠ [] ∧ Path.endsInSlash path = false ∧
      fs.entry? place ≠ some .directory ∧ fs' = fs.put place (.file content) := by
  unfold writeFile at h
  cases hparent : fs.resolveParent path with
  | error reason => simp [hparent] at h
  | ok parent =>
    rcases parent with _ | ⟨place, name⟩
    · simp [hparent] at h
    · simp only [hparent] at h
      split at h
      · cases h
      · rename_i hname
        rw [Bool.not_eq_true, Bool.or_eq_false_iff] at hname
        split at h
        · cases h
        · rename_i hfree
          rw [Except.ok.injEq] at h
          refine ⟨_, resolve_of_resolveParent hparent hname.1, by simp, hname.2, fun hd => ?_,
            h.symm⟩
          simp [hd, FileEntry.isDirectory] at hfree

/-- **A file that has been written** holds what was written. -/
theorem readFile_writeFile {fs' : FileSystem} {path : String} {content : ByteArray}
    (h : fs.writeFile path content = .ok fs') : fs'.readFile path = .ok content := by
  obtain ⟨place, hresolve, hplace, hslash, hfree, rfl⟩ := writeFile_eq_ok h
  rw [readFile, (keepsDirectories_put hfree).resolve hresolve]
  simp [entry?_put_self hplace, hslash]

end FileSystem

namespace Command

theorem fromUTF8?_toUTF8 (s : String) : String.fromUTF8? s.toUTF8 = some s := dif_pos s.isValidUTF8

theorem run_bind {α β : Type} (x : StateM FileSystem α) (f : α → StateM FileSystem β)
    (fs : FileSystem) : (x >>= f).run fs = (f (x.run fs).1).run (x.run fs).2 := rfl

end Command

end Concord
