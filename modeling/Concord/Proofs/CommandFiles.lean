import Concord.Proofs.Files

/-!
# What the command does to files

The command reads before it writes, and it writes one file at the very end. Before that it may make
directories on the way to that file, and nothing else (`AddsDirectories`).

* `addsDirectories_makeDirectories`: making the directories around a path puts directories where
  nothing was, whether it succeeds or fails on the way.
* `writeNames_cases`: writing names fails with directories added, or adds directories and one file.
* `run_ending`: a run ends before anything is written, or with the writing of recovered names.

The file system may refuse any operation for a reason of its own (`FileAccess.refusing`): a file may
not be read, say, or there is room for the first one of two directories only.
-/

set_option autoImplicit false

namespace Concord

namespace FileSystem

/-! ## Making directories -/

/-- `fs'` is `fs` with directories added where nothing was, each of them at one of the paths. -/
structure AddsDirectories (paths : List String) (fs fs' : FileSystem) : Prop where
  workingDirectory : fs'.workingDirectory = fs.workingDirectory
  entry : ∀ place, fs'.entry? place = fs.entry? place ∨
    fs.entry? place = none ∧ fs'.entry? place = some .directory ∧
      ∃ path ∈ paths, fs'.resolve path = .ok place

namespace AddsDirectories

variable {paths paths' : List String} {fs fs₁ fs' : FileSystem}

theorem refl (paths : List String) (fs : FileSystem) : AddsDirectories paths fs fs :=
  ⟨rfl, fun _ => .inl rfl⟩

theorem keepsDirectories (h : AddsDirectories paths fs fs') : KeepsDirectories fs fs' := by
  refine ⟨h.workingDirectory, fun {place} hplace => ?_⟩
  rcases h.entry place with hsame | ⟨hnone, -, -⟩
  · rw [hsame, hplace]
  · rw [hplace] at hnone
    cases hnone

theorem mono (h : AddsDirectories paths fs fs') (hsub : ∀ path ∈ paths, path ∈ paths') :
    AddsDirectories paths' fs fs' := by
  refine ⟨h.workingDirectory, fun place => ?_⟩
  rcases h.entry place with hsame | ⟨hnone, hnew, path, hpath, hresolve⟩
  · exact .inl hsame
  · exact .inr ⟨hnone, hnew, path, hsub path hpath, hresolve⟩

theorem trans (h : AddsDirectories paths fs fs₁) (h' : AddsDirectories paths fs₁ fs') :
    AddsDirectories paths fs fs' := by
  refine ⟨h'.workingDirectory.trans h.workingDirectory, fun place => ?_⟩
  rcases h'.entry place with hsame' | ⟨hnone', hnew', hpath'⟩
  · rcases h.entry place with hsame | ⟨hnone, hnew, path, hpath, hresolve⟩
    · exact .inl (hsame'.trans hsame)
    · exact .inr ⟨hnone, hsame'.trans hnew, path, hpath, h'.keepsDirectories.resolve hresolve⟩
  · rcases h.entry place with hsame | ⟨-, hnew, -⟩
    · exact .inr ⟨hsame ▸ hnone', hnew', hpath'⟩
    · rw [hnew] at hnone'
      cases hnone'

/-- No file is made, changed or lost. -/
theorem file_iff (h : AddsDirectories paths fs fs') (place : Place) (content : ByteArray) :
    fs'.entry? place = some (.file content) ↔ fs.entry? place = some (.file content) := by
  rcases h.entry place with hsame | ⟨hnone, hnew, -⟩
  · rw [hsame]
  · simp [hnone, hnew]

end AddsDirectories

variable {fs fs' : FileSystem} {path : String} {paths : List String}

/-- What it takes to make a directory, and all that changes. -/
theorem makeDirectory_eq_ok (h : fs.makeDirectory path = .ok fs') :
    ∃ place, fs.resolve path = .ok place ∧ place ≠ [] ∧ fs.entry? place = none ∧
      fs' = fs.put place .directory := by
  unfold makeDirectory at h
  cases hparent : fs.resolveParent path with
  | error reason => simp [hparent] at h
  | ok parent =>
    rcases parent with _ | ⟨place, name⟩
    · simp [hparent] at h
    · simp only [hparent] at h
      split at h
      · cases h
      · rename_i hfree
        rw [Bool.not_eq_true, Bool.or_eq_false_iff, Option.isSome_eq_false_iff,
          Option.isNone_iff_eq_none] at hfree
        rw [Except.ok.injEq] at h
        exact ⟨_, resolve_of_resolveParent hparent hfree.1, by simp, hfree.2, h.symm⟩

theorem addsDirectories_makeDirectory (h : fs.makeDirectory path = .ok fs') (hpath : path ∈ paths) :
    AddsDirectories paths fs fs' := by
  obtain ⟨place, hresolve, hplace, hnone, rfl⟩ := makeDirectory_eq_ok h
  refine ⟨rfl, fun other => ?_⟩
  by_cases hother : other = place
  · subst hother
    have hkeeps : KeepsDirectories fs (fs.put other .directory) :=
      keepsDirectories_put (by simp [hnone])
    exact .inr ⟨hnone, entry?_put_self hplace, path, hpath, hkeeps.resolve hresolve⟩
  · exact .inl (entry?_put_of_ne hother)

section
variable {make : FileSystem → String → Except FileError FileSystem}
  (hmake : ∀ {fs fs' path}, make fs path = .ok fs' → fs.makeDirectory path = .ok fs')
include hmake

theorem addsDirectories_ensureDirectory (h : ensureDirectory make fs path = .ok fs')
    (hpath : path ∈ paths) : AddsDirectories paths fs fs' := by
  rw [ensureDirectory] at h
  split at h
  · rename_i hmade
    cases h
    exact addsDirectories_makeDirectory (hmake hmade) hpath
  · split at h
    · cases h
      exact .refl _ _
    · cases h

/-- Going outwards adds at most one directory. -/
theorem addsDirectories_climb {missing missing' : List String}
    (h : climb make fs missing paths = .ok (fs', missing')) :
    AddsDirectories paths fs fs' ∧ ∀ path ∈ missing', path ∈ missing ∨ path ∈ paths := by
  induction paths generalizing missing with
  | nil =>
    cases h
    exact ⟨.refl _ _, fun _ => .inl⟩
  | cons path outer ih =>
    rw [climb] at h
    split at h
    · rename_i hensured
      cases h
      exact ⟨addsDirectories_ensureDirectory hmake hensured List.mem_cons_self, fun _ => .inl⟩
    · obtain ⟨hadds, hmissing⟩ := ih h
      refine ⟨hadds.mono fun p hp => List.mem_cons_of_mem _ hp, fun p hp => ?_⟩
      rcases hmissing p hp with hm | hm
      · rcases List.mem_cons.1 hm with rfl | hm
        · exact .inr List.mem_cons_self
        · exact .inl hm
      · exact .inr (List.mem_cons_of_mem _ hm)
    · cases h

theorem addsDirectories_makeEach (fs : FileSystem) (paths : List String) :
    AddsDirectories paths fs (makeEach make fs paths).1 := by
  induction paths generalizing fs with
  | nil => exact .refl _ _
  | cons path rest ih =>
    rw [makeEach]
    split
    · rename_i made hensured
      have hrest : AddsDirectories (path :: rest) made (makeEach make made rest).1 :=
        (ih made).mono fun p hp => List.mem_cons_of_mem _ hp
      exact (addsDirectories_ensureDirectory hmake hensured List.mem_cons_self).trans hrest
    · exact .refl _ _

/-- **Making the directories around a path** adds directories there and changes nothing else, even
if it fails on the way. -/
theorem addsDirectories_makeDirectories (fs : FileSystem) (path : String) :
    AddsDirectories (Path.ancestors path) fs (makeDirectories make fs path).1 := by
  rw [makeDirectories]
  have hsub : ∀ p ∈ (Path.ancestors path).takeWhile fun a => (Path.parent? a).isSome,
      p ∈ Path.ancestors path := fun p hp => (List.takeWhile_sublist _).subset hp
  split
  · exact .refl _ _
  · rename_i fs₁ missing hclimb
    obtain ⟨hadds, hmissing⟩ := addsDirectories_climb hmake hclimb
    refine (hadds.mono hsub).trans
      ((addsDirectories_makeEach hmake fs₁ missing).mono fun p hp => ?_)
    rcases hmissing p hp with hm | hm
    · cases hm
    · exact hsub p hm

end

/-- A file that is written after directories have been added is the only one that changes. -/
theorem AddsDirectories.writeFile {made : FileSystem} {content : ByteArray}
    (h : AddsDirectories paths fs made) (hwrite : made.writeFile path content = .ok fs') :
    ∃ place, fs'.resolve path = .ok place ∧ fs'.entry? place = some (.file content) ∧
      (∀ other content', other ≠ place → (fs'.entry? other = some (.file content') ↔
        fs.entry? other = some (.file content'))) ∧
      fs' = made.put place (.file content) := by
  obtain ⟨place, hresolve, hplace, -, hfree, rfl⟩ := writeFile_eq_ok hwrite
  refine ⟨place, (keepsDirectories_put hfree).resolve hresolve, entry?_put_self hplace,
    fun other content' hother => ?_, rfl⟩
  rw [entry?_put_of_ne hother]
  exact h.file_iff other content'

end FileSystem

namespace Command

open FileSystem

/-! ## Operations that may be refused -/

/-- An operation on files, by its path. Of several directories each one is made on its own. -/
inductive FileOperation where
  | read (path : String)
  | makeDirectory (path : String)
  | write (path : String)

/-- Makes a directory unless that is refused. -/
def makeUnlessRefused (refuse : FileOperation → FileSystem → Option FileError) (fs : FileSystem)
    (path : String) : Except FileError FileSystem :=
  match refuse (.makeDirectory path) fs with
  | some e => .error e
  | none => fs.makeDirectory path

/-- Operations on a file system that is a value and may refuse each of them. -/
def FileAccess.refusing (refuse : FileOperation → FileSystem → Option FileError) :
    FileAccess (StateM FileSystem) where
  readFile path := fun fs =>
    match refuse (.read path) fs with
    | some e => (.error e, fs)
    | none => FileAccess.pure.readFile path fs
  makeDirectories path := fun fs =>
    let (fs, answer) := FileSystem.makeDirectories (makeUnlessRefused refuse) fs path
    (answer, fs)
  writeFile path content := fun fs =>
    match refuse (.write path) fs with
    | some e => (.error e, fs)
    | none => FileAccess.pure.writeFile path content fs

/-- A file system that refuses nothing. -/
theorem refusing_nothing : FileAccess.refusing (fun _ _ => none) = FileAccess.pure := rfl

/-- The paths of the directories around a file, innermost first. -/
def directoriesAround (path : String) : List String :=
  ((Path.parent? path).map Path.ancestors).getD []

section
variable (refuse : FileOperation → FileSystem → Option FileError) (fs : FileSystem)

/-! ## Reading -/

theorem run_readFile (path : String) :
    ∃ answer, ((FileAccess.refusing refuse).readFile path).run fs = (answer, fs) := by
  simp only [FileAccess.refusing, StateT.run]
  cases refuse (.read path) fs with
  | some e => exact ⟨_, rfl⟩
  | none => exact ⟨_, rfl⟩

theorem run_readText (path : String) :
    ∃ answer, (readText (FileAccess.refusing refuse) path).run fs = (answer, fs) := by
  obtain ⟨answer, hread⟩ := run_readFile refuse fs path
  rw [readText, run_bind, hread]
  cases answer with
  | error reason => exact ⟨_, rfl⟩
  | ok bytes =>
    simp only
    cases String.fromUTF8? bytes with
    | none => exact ⟨_, rfl⟩
    | some text => exact ⟨_, rfl⟩

theorem run_loadModule (path : String) :
    ∃ answer, (loadModule (FileAccess.refusing refuse) path).run fs = (answer, fs) := by
  obtain ⟨answer, hread⟩ := run_readText refuse fs path
  rw [loadModule, run_bind, hread]
  cases answer with
  | error f => exact ⟨_, rfl⟩
  | ok text => exact ⟨_, rfl⟩

theorem run_loadSeeds (path : Option String) :
    ∃ answer, (loadSeeds (FileAccess.refusing refuse) path).run fs = (answer, fs) := by
  cases path with
  | none => exact ⟨_, rfl⟩
  | some path =>
    obtain ⟨answer, hread⟩ := run_readText refuse fs path
    rw [loadSeeds, run_bind, hread]
    cases answer with
    | error f => exact ⟨_, rfl⟩
    | ok text => exact ⟨_, rfl⟩

/-! ## Writing -/

theorem run_makeDirectories (path : String) : ∃ answer fs₁,
    ((FileAccess.refusing refuse).makeDirectories path).run fs = (answer, fs₁) ∧
      AddsDirectories (Path.ancestors path) fs fs₁ := by
  have hmake : ∀ {fs fs' : FileSystem} {path : String},
      makeUnlessRefused refuse fs path = .ok fs' → fs.makeDirectory path = .ok fs' := by
    intro fs fs' path hmade
    rw [makeUnlessRefused] at hmade
    split at hmade
    · cases hmade
    · exact hmade
  exact ⟨_, _, rfl, addsDirectories_makeDirectories hmake fs path⟩

theorem run_makeParent (path : String) : ∃ answer fs₁,
    (makeParent (FileAccess.refusing refuse) path).run fs = (answer, fs₁) ∧
      AddsDirectories (directoriesAround path) fs fs₁ := by
  rw [makeParent, directoriesAround]
  split
  · exact ⟨_, _, rfl, .refl _ _⟩
  · exact ⟨_, _, rfl, .refl _ _⟩
  · rename_i parent _ hparent
    obtain ⟨answer, fs₁, hmade, hadds⟩ := run_makeDirectories refuse fs parent
    rw [run_bind, hmade, hparent]
    cases answer with
    | error reason => exact ⟨_, _, rfl, hadds⟩
    | ok _ => exact ⟨_, _, rfl, hadds⟩

theorem run_writeFile_refusing (path : String) (content : ByteArray) :
    (∃ reason, ((FileAccess.refusing refuse).writeFile path content).run fs =
      (.error reason, fs)) ∨
    ∃ fs', ((FileAccess.refusing refuse).writeFile path content).run fs = (.ok (), fs') ∧
      fs.writeFile path content = .ok fs' := by
  simp only [FileAccess.refusing, StateT.run]
  cases refuse (.write path) fs with
  | some e => exact .inl ⟨_, rfl⟩
  | none =>
    simp only [FileAccess.pure]
    cases fs.writeFile path content with
    | error reason => exact .inl ⟨_, rfl⟩
    | ok fs' => exact .inr ⟨_, rfl, rfl⟩

/-- **Writing recovered names** fails with directories added, or adds directories and one file. -/
theorem writeNames_cases {path : String} (hpath : path ≠ "-") (names : NameForest) :
    ∃ answer fs₁ fs', (writeNames (FileAccess.refusing refuse) path names).run fs = (answer, fs') ∧
      AddsDirectories (directoriesAround path) fs fs₁ ∧
      ((∃ f, answer = .error f ∧ fs' = fs₁) ∨
        answer = .ok "" ∧ fs₁.writeFile path names.render.toUTF8 = .ok fs') := by
  obtain ⟨made, fs₁, hmade, hadds⟩ := run_makeParent refuse fs path
  rw [writeNames, if_neg hpath, run_bind, hmade]
  cases made with
  | error f => exact ⟨_, fs₁, _, rfl, hadds, .inl ⟨f, rfl, rfl⟩⟩
  | ok _ =>
    simp only [run_bind]
    rcases run_writeFile_refusing refuse fs₁ path names.render.toUTF8 with
      ⟨reason, hwrite⟩ | ⟨fs', hwrite, hwritten⟩
    · rw [hwrite]
      exact ⟨_, fs₁, _, rfl, hadds, .inl ⟨_, rfl, rfl⟩⟩
    · rw [hwrite]
      exact ⟨_, fs₁, _, rfl, hadds, .inr ⟨rfl, hwritten⟩⟩

end

/-- **Recovered names that have been written** can be read where they were written. -/
theorem readText_writeNames {path : String} {names : NameForest} {fs fs' : FileSystem}
    {output : String} (hpath : path ≠ "-")
    (h : (writeNames FileAccess.pure path names).run fs = (.ok output, fs')) :
    output = "" ∧ (readText FileAccess.pure path).run fs' = (.ok names.render, fs') := by
  obtain ⟨answer, made, fs₁, hwrite, -, hends⟩ := writeNames_cases (fun _ _ => none) fs hpath names
  rw [refusing_nothing, h] at hwrite
  cases hwrite
  rcases hends with ⟨f, hf, -⟩ | ⟨houtput, hwritten⟩
  · cases hf
  · have hread : (FileAccess.pure.readFile path).run fs' = (.ok names.render.toUTF8, fs') :=
      Prod.ext (readFile_writeFile hwritten) rfl
    refine ⟨Except.ok.inj houtput, ?_⟩
    rw [readText, run_bind, hread]
    simp only [fromUTF8?_toUTF8]
    rfl

/-! ## The whole run -/

section
variable (refuse : FileOperation → FileSystem → Option FileError) (fs : FileSystem)

/-- The modules and the seeds that the command is asked to use, as it reads them. -/
structure Loaded (files : FileAccess (StateM FileSystem)) (a : Arguments) (fs : FileSystem)
    (reference renamed : Catalog) (seeds : List Seed) : Prop where
  reference : (loadModule files a.reference).run fs = (.ok reference, fs)
  renamed : (loadModule files a.renamed).run fs = (.ok renamed, fs)
  seeds : (loadSeeds files a.seeds).run fs = (.ok seeds, fs)

/-- How the command ends with the writing of names. -/
def Outcome.ofAnswer (events : List Event) : Except Failure String → Outcome
  | .error f => .failed f events
  | .ok output => .done output events

theorem recoverAndWrite_cases (a : Arguments) (settings : Settings) (reference renamed : Catalog)
    (seeds : List Seed) (events : List Event) :
    (∃ f events', (recoverAndWrite (FileAccess.refusing refuse) a settings reference renamed seeds
      events).run fs = (.failed f events', fs)) ∨
    ∃ names events' answer fs', (recoverNames reference renamed seeds settings).value = .ok names ∧
      (writeNames (FileAccess.refusing refuse) a.output names).run fs = (answer, fs') ∧
      (recoverAndWrite (FileAccess.refusing refuse) a settings reference renamed seeds
        events).run fs = (.ofAnswer events' answer, fs') := by
  simp only [recoverAndWrite]
  cases hnames : (recoverNames reference renamed seeds settings).value with
  | error reason => exact .inl ⟨_, _, rfl⟩
  | ok names =>
    simp only [run_bind]
    cases hwrite : (writeNames (FileAccess.refusing refuse) a.output names).run fs with
    | mk answer fs' =>
      cases answer with
      | error f => exact .inr ⟨names, _, _, fs', rfl, hwrite, rfl⟩
      | ok output => exact .inr ⟨names, _, _, fs', rfl, hwrite, rfl⟩

/-- Carrying out what is asked for ends before anything is written, or with the writing of the names
that are recovered from what was read. -/
theorem runWith_cases (a : Arguments) (env : Environment) :
    (∃ f events, (runWith (FileAccess.refusing refuse) a env).run fs = (.failed f events, fs)) ∨
    ∃ reference renamed seeds names events answer fs',
      Loaded (FileAccess.refusing refuse) a fs reference renamed seeds ∧
      (recoverNames reference renamed seeds (settingsFor a env)).value = .ok names ∧
      (writeNames (FileAccess.refusing refuse) a.output names).run fs = (answer, fs') ∧
      (runWith (FileAccess.refusing refuse) a env).run fs = (.ofAnswer events answer, fs') := by
  unfold runWith
  simp only
  split
  · exact .inl ⟨_, _, rfl⟩
  obtain ⟨answer, hreference⟩ := run_loadModule refuse fs a.reference
  rw [run_bind, hreference]
  cases answer with
  | error f => exact .inl ⟨_, _, rfl⟩
  | ok reference =>
    obtain ⟨answer, hrenamed⟩ := run_loadModule refuse fs a.renamed
    simp only [run_bind, hrenamed]
    cases answer with
    | error f => exact .inl ⟨_, _, rfl⟩
    | ok renamed =>
      obtain ⟨answer, hseeds⟩ := run_loadSeeds refuse fs a.seeds
      simp only [run_bind, hseeds]
      cases answer with
      | error f => exact .inl ⟨_, _, rfl⟩
      | ok seeds =>
        have hloaded : Loaded (FileAccess.refusing refuse) a fs reference renamed seeds :=
          ⟨hreference, hrenamed, hseeds⟩
        rcases recoverAndWrite_cases refuse fs a (settingsFor a env) reference renamed seeds _ with
          ⟨f, events, hrun⟩ | ⟨names, events, answer, fs', hnames, hwrite, hrun⟩
        · exact .inl ⟨f, events, hrun⟩
        · exact .inr ⟨_, _, _, names, events, answer, fs', hloaded, hnames, hwrite, hrun⟩

/-- How a run of the command ends, and what the file system is then. -/
inductive Ending (words : List String) (env : Environment) : Outcome → FileSystem → Prop
  | usage {e : UsageError} (hwords : Arguments.ofWords words = .error e) :
      Ending words env (.usage e) fs
  /-- Something failed before anything was written. -/
  | failed (f : Failure) (events : List Event) : Ending words env (.failed f events) fs
  | printed {a : Arguments} {reference renamed : Catalog} {seeds : List Seed} {names : NameForest}
      (events : List Event) (hwords : Arguments.ofWords words = .ok a)
      (hloaded : Loaded (FileAccess.refusing refuse) a fs reference renamed seeds)
      (hnames : (recoverNames reference renamed seeds (settingsFor a env)).value = .ok names)
      (hpath : a.output = "-") : Ending words env (.done names.render events) fs
  /-- The output could not be written. -/
  | notWritten {a : Arguments} {made : FileSystem} (f : Failure) (events : List Event)
      (hwords : Arguments.ofWords words = .ok a) (hpath : a.output ≠ "-")
      (hmade : AddsDirectories (directoriesAround a.output) fs made) :
      Ending words env (.failed f events) made
  | written {a : Arguments} {reference renamed : Catalog} {seeds : List Seed} {names : NameForest}
      {made fs' : FileSystem} (events : List Event) (hwords : Arguments.ofWords words = .ok a)
      (hloaded : Loaded (FileAccess.refusing refuse) a fs reference renamed seeds)
      (hnames : (recoverNames reference renamed seeds (settingsFor a env)).value = .ok names)
      (hpath : a.output ≠ "-") (hmade : AddsDirectories (directoriesAround a.output) fs made)
      (hwrite : made.writeFile a.output names.render.toUTF8 = .ok fs') :
      Ending words env (.done "" events) fs'

/-- **How the command ends.** -/
theorem run_ending (words : List String) (env : Environment) :
    Ending refuse fs words env ((run (FileAccess.refusing refuse) words env).run fs).1
      ((run (FileAccess.refusing refuse) words env).run fs).2 := by
  rw [run]
  cases hwords : Arguments.ofWords words with
  | error e => exact .usage hwords
  | ok a =>
    simp only
    rcases runWith_cases refuse fs a env with ⟨f, events, hrun⟩ |
      ⟨reference, renamed, seeds, names, events, answer, fs', hloaded, hnames, hwrite, hrun⟩
    · rw [hrun]
      exact .failed f events
    · rw [hrun]
      by_cases hpath : a.output = "-"
      · rw [writeNames, if_pos hpath] at hwrite
        cases hwrite
        exact .printed events hwords hloaded hnames hpath
      · obtain ⟨answer', made, fs₂, hwrite', hmade, hends⟩ :=
          writeNames_cases refuse fs hpath names
        rw [hwrite] at hwrite'
        cases hwrite'
        rcases hends with ⟨f, rfl, rfl⟩ | ⟨rfl, hwritten⟩
        · exact .notWritten f events hwords hpath hmade
        · exact .written events hwords hloaded hnames hpath hmade hwritten

section
variable {refuse fs} {words : List String} {env : Environment} {outcome : Outcome}
  {fs' : FileSystem}

theorem Ending.spares (h : Ending refuse fs words env outcome fs') (herror : outcome.exitCode ≠ 0) :
    fs' = fs ∨ ∃ a, Arguments.ofWords words = .ok a ∧ a.output ≠ "-" ∧
      AddsDirectories (directoriesAround a.output) fs fs' := by
  cases h with
  | usage _ => exact .inl rfl
  | failed _ _ => exact .inl rfl
  | printed => exact absurd rfl herror
  | notWritten _ _ hwords hpath hmade => exact .inr ⟨_, hwords, hpath, hmade⟩
  | written => exact absurd rfl herror

end

/-- **The command spares files**, whichever operations the file system refuses, none included
(`refusing_nothing`). A run that ends with an error leaves all files as they are and makes none; at
most directories on the way to the output are added. Words that do not start a recovery change
nothing at all. A run that succeeds has read its input before it wrote, and writes the recovered
names to the standard output or to one file, which holds them and nothing else; all other files are
as before. -/
theorem run_spares_files (words : List String) (env : Environment) :
    let files := FileAccess.refusing refuse
    let outcome := ((run files words env).run fs).1
    let fs' := ((run files words env).run fs).2
    (outcome.exitCode ≠ 0 →
      (∀ place content, fs'.entry? place = some (.file content) ↔
        fs.entry? place = some (.file content)) ∧
      (fs' = fs ∨ ∃ a, Arguments.ofWords words = .ok a ∧ a.output ≠ "-" ∧
        AddsDirectories (directoriesAround a.output) fs fs')) ∧
    (∀ e, outcome = .usage e → fs' = fs) ∧
    ∀ output events, outcome = .done output events →
      ∃ a reference renamed seeds names, Arguments.ofWords words = .ok a ∧
        Loaded files a fs reference renamed seeds ∧
        (recoverNames reference renamed seeds (settingsFor a env)).value = .ok names ∧
        let text := names.toValue.pretty ++ "\n"
        if a.output = "-" then output = text ∧ fs' = fs
        else output = "" ∧ fs'.readFile a.output = .ok text.toUTF8 ∧
          ∃ place, fs'.resolve a.output = .ok place ∧
            fs'.entry? place = some (.file text.toUTF8) ∧
            (∀ other content, other ≠ place → (fs'.entry? other = some (.file content) ↔
              fs.entry? other = some (.file content))) ∧
            ∃ made, AddsDirectories (directoriesAround a.output) fs made ∧
              fs' = made.put place (.file text.toUTF8) := by
  intro files outcome fs'
  have hends : Ending refuse fs words env outcome fs' := run_ending refuse fs words env
  clear_value outcome fs'
  refine ⟨fun herror => ?_, fun e he => ?_, fun output events hdone => ?_⟩
  · have hspares := hends.spares herror
    refine ⟨fun place content => ?_, hspares⟩
    rcases hspares with hsame | ⟨a, -, -, hadds⟩
    · rw [hsame]
    · exact hadds.file_iff place content
  · rw [he] at hends
    cases hends
    rfl
  · rw [hdone] at hends
    cases hends with
    | printed _ hwords hloaded hnames hpath =>
      refine ⟨_, _, _, _, _, hwords, hloaded, hnames, ?_⟩
      rw [if_pos hpath]
      exact ⟨rfl, rfl⟩
    | written _ hwords hloaded hnames hpath hmade hwrite =>
      refine ⟨_, _, _, _, _, hwords, hloaded, hnames, ?_⟩
      rw [if_neg hpath]
      obtain ⟨place, hresolve, hentry, hothers, hput⟩ := hmade.writeFile hwrite
      exact ⟨rfl, readFile_writeFile hwrite, place, hresolve, hentry, hothers, _, hmade, hput⟩

end

/-- The text of a record. -/
def sampleRecord (members : String) : String := "\x7b" ++ members ++ "\x7d"

/-- The text of a module with one type. -/
def sampleModuleText (type : String) : String :=
  sampleRecord ("\"name\":\"G\",\"types\":[" ++ sampleRecord ("\"name\":\"" ++ type ++ "\"") ++ "]")

/-- Two modules, a seed for their types, and a file that is in the way. -/
def sampleDisk : FileSystem where
  entries :=
    [(["clean"], .file (sampleModuleText "A").toUTF8),
     (["renamed"], .file (sampleModuleText "ABCDEFGHIJK").toUTF8),
     (["seeds"], .file
       ("[" ++ sampleRecord "\"renamed\":\"ABCDEFGHIJK\",\"reference\":\"A\"" ++ "]").toUTF8),
     (["notes"], .file "".toUTF8)]

/-- Asks for the names to be written to a path. -/
def sampleWords (output : String) : List String :=
  ["--reference", "/clean", "--renamed", "/renamed", "--seeds", "/seeds", "--output", output]

/-- There is room for one more directory only. -/
def sampleRefusal : FileOperation → FileSystem → Option FileError
  | .makeDirectory _, fs =>
    if fs.isDirectory "/new" then some (.other "No space left on device") else none
  | _, _ => none

/-- What comes of it, where some operations may be refused. -/
def sampleRun (refuse : FileOperation → FileSystem → Option FileError) (output : String) :
    Outcome × FileSystem :=
  (run (FileAccess.refusing refuse) (sampleWords output) {}).run sampleDisk

/-- In one run a file is where a directory should be, in the next one the second of two directories
is refused, and in the last one the output is a file that was read. -/
theorem run_spares_sample :
    (let (outcome, fs) := sampleRun (fun _ _ => none) "/new/../notes/names"
     outcome.exitCode = 1 ∧ (fs.entry? ["new"]).any (·.isDirectory) = true ∧
      ∀ place content, fs.entry? place = some (.file content) ↔
        sampleDisk.entry? place = some (.file content)) ∧
    (let (outcome, fs) := sampleRun sampleRefusal "/new/inner/names"
     outcome.exitCode = 1 ∧ (fs.entry? ["new"]).any (·.isDirectory) = true ∧
      fs.entry? ["new", "inner"] = none ∧
      ∀ place content, fs.entry? place = some (.file content) ↔
        sampleDisk.entry? place = some (.file content)) ∧
    let (outcome, fs) := sampleRun (fun _ _ => none) "/renamed"
    outcome.exitCode = 0 ∧ ∃ (names : NameForest) (place : Place),
      fs.readFile "/renamed" = .ok (names.toValue.pretty ++ "\n").toUTF8 ∧
      fs.resolve "/renamed" = .ok place ∧
      ∀ other content, other ≠ place → (fs.entry? other = some (.file content) ↔
        sampleDisk.entry? other = some (.file content)) := by
  have hblocked : (sampleRun (fun _ _ => none) "/new/../notes/names").1.exitCode = 1 ∧
      (FileSystem.entry? (sampleRun (fun _ _ => none) "/new/../notes/names").2 ["new"]).any
        (·.isDirectory) = true := by decide +kernel
  have hrefused : (sampleRun sampleRefusal "/new/inner/names").1.exitCode = 1 ∧
      (FileSystem.entry? (sampleRun sampleRefusal "/new/inner/names").2 ["new"]).any
        (·.isDirectory) = true ∧
      FileSystem.entry? (sampleRun sampleRefusal "/new/inner/names").2 ["new", "inner"] = none := by
    decide +kernel
  have hran : (match (sampleRun (fun _ _ => none) "/renamed").1 with
      | .done .. => true
      | _ => false) = true := by decide +kernel
  have houtput : (Arguments.ofWords (sampleWords "/renamed")).toOption.map (·.output) =
      some "/renamed" := by decide +kernel
  have hspares : ∀ refuse output, (sampleRun refuse output).1.exitCode = 1 → ∀ place content,
      FileSystem.entry? (sampleRun refuse output).2 place = some (.file content) ↔
        sampleDisk.entry? place = some (.file content) := by
    intro refuse output hcode
    refine ((run_spares_files refuse sampleDisk (sampleWords output) {}).1 ?_).1
    rw [← sampleRun, hcode]
    exact Nat.one_ne_zero
  obtain ⟨-, -, hwrites⟩ :=
    run_spares_files (fun _ _ => none) sampleDisk (sampleWords "/renamed") {}
  rw [← sampleRun] at hwrites
  refine ⟨⟨hblocked.1, hblocked.2, hspares _ _ hblocked.1⟩,
    ⟨hrefused.1, hrefused.2.1, hrefused.2.2, hspares _ _ hrefused.1⟩, ?_⟩
  split at hran
  · rename_i output events hdone
    obtain ⟨a, reference, renamed, seeds, names, hwords, -, -, hwritten⟩ :=
      hwrites output events hdone
    rw [hwords] at houtput
    have hpath : a.output = "/renamed" := Option.some.inj houtput
    rw [hpath, if_neg (by decide)] at hwritten
    obtain ⟨-, hread, place, hresolve, -, hothers, -⟩ := hwritten
    have hcode : (sampleRun (fun _ _ => none) "/renamed").1.exitCode = 0 := by
      rw [hdone]
      rfl
    exact ⟨hcode, names, place, hread, hresolve, hothers⟩
  · cases hran

end Command

end Concord
