import LaunchStub.Machine.Start
import LaunchStub.Proofs.Notification.Queues

/-!
# Where programs are found

A program is found in two ways. A name with a slash in it is a path, and the file is the one that
this path leads to. A name without one is looked for in the directories that a variable lists, and
the file is the one that has the name in the first directory where it can be started. The same name
taken for a path leads to the file that has it in the current directory.

## The model

`FileSystem.attempt` tries one path. `FileSystem.Found` says in which way a command's program was
found: under its own name, or in a directory, those before it having been passed over.

## What is proved

* `next_of_resolve_inDirectory`, `next_injective` — a path behind a directory leads to a name in it,
  and what is no directory has its name in one directory only.
* `startFile_eq_ok`, `startFirst_eq_ok`, `startCommand_eq_ok` — what is started was found, and is
  what the path leads to that it was found under.
* `Found.file_eq_iff` — it is what the program's name leads to exactly if the directory that it was
  found in is the current one.
-/

namespace LaunchStub

namespace FileSystem

variable {fs fs' : FileSystem} {path name dir : Bytes} {place here there : Place}
  {command : Command} {started : Started}

/-! ### Names in directories -/

/-- A path leads to where the walk of its names ends, if it can be a path. -/
theorem resolve_eq_ok_iff : fs.resolve path = .ok place ↔
    refusal? path = none ∧ fs.walk (fs.start path) (steps path) = .ok place := by
  rw [resolve]
  cases refusal? path <;> simp

/-- A path leads where it led if nothing has gone. -/
theorem resolve_of_within (hwithin : fs.Within fs') (hcurrent : fs'.current = fs.current)
    (h : fs.resolve path = .ok place) : fs'.resolve path = .ok place := by
  obtain ⟨hrefusal, hwalk⟩ := resolve_eq_ok_iff.mp h
  have hstart : fs'.start path = fs.start path := by rw [start, start, hcurrent]
  refine resolve_eq_ok_iff.mpr ⟨hrefusal, ?_⟩
  rw [hstart]
  exact walk_of_within hwithin hwalk

theorem refusal?_eq_none_iff :
    refusal? path = none ↔ Bytes.nul ∉ path ∧ path ≠ [] ∧ path.length ≤ maxPath := by
  rw [refusal?]
  by_cases hnul : Bytes.nul ∈ path
  · simp [hnul]
  · by_cases hempty : path = []
    · simp [hempty]
    · by_cases hlong : maxPath < path.length
      · simp [hnul, hempty, hlong]
      · simp [hnul, hempty, Nat.not_lt.mp hlong]

theorem walk_name (fs : FileSystem) (here : Place) (name : Bytes) :
    fs.walk here [name] = fs.next here name := by
  rw [walk_cons]
  cases fs.next here name <;> rfl

/-- A name alone is looked up in the current directory. -/
theorem next_of_resolve_name (hslash : Bytes.slash ∉ name) (h : fs.resolve name = .ok place) :
    fs.next fs.current name = .ok place := by
  obtain ⟨hrefusal, hwalk⟩ := resolve_eq_ok_iff.mp h
  have hne : name ≠ [] := (refusal?_eq_none_iff.mp hrefusal).2.1
  have hnames := Path.names_of_not_mem hne hslash
  have hstart : fs.start name = fs.current := by
    rw [start, if_neg]
    simpa [Path.isAbsolute] using fun hhead => hslash (List.mem_of_head? hhead)
  have hends : Path.endsInSlash name = false := Path.endsInSlash_append hne hslash []
  simpa only [steps, hnames, hends, hstart, Bool.false_eq_true, if_false, List.append_nil,
    walk_name] using hwalk

/-- A name behind a directory is looked up in that directory. -/
theorem next_of_resolve_inDirectory (hdir : dir ≠ []) (hne : name ≠ [])
    (hslash : Bytes.slash ∉ name) (h : fs.resolve (inDirectory dir name) = .ok place) :
    ∃ here, fs.resolve dir = .ok here ∧ fs.next here name = .ok place := by
  rw [inDirectory, if_neg hdir] at h
  obtain ⟨hrefusal, hsteps⟩ := resolve_eq_ok_iff.mp h
  have hnames : Path.names (dir ++ Bytes.slash :: name) = Path.names dir ++ [name] := by
    rw [Path.names_append_slash, Path.names_of_not_mem hne hslash]
  have hends : Path.endsInSlash (dir ++ Bytes.slash :: name) = false := by
    rw [List.append_cons]
    exact Path.endsInSlash_append hne hslash (dir ++ [Bytes.slash])
  have hstart : fs.start (dir ++ Bytes.slash :: name) = fs.start dir := by
    obtain ⟨b, rest, rfl⟩ := List.exists_cons_of_ne_nil hdir
    rfl
  have hrefusal' : refusal? dir = none := by
    rw [refusal?_eq_none_iff, List.mem_append, not_or, List.length_append] at hrefusal
    exact refusal?_eq_none_iff.mpr ⟨hrefusal.1.1, hdir, by omega⟩
  simp only [steps, hends, hnames, hstart, Bool.false_eq_true, if_false, List.append_nil,
    walk_append] at hsteps
  cases hwalk : fs.walk (fs.start dir) (Path.names dir) with
  | error e =>
    rw [hwalk] at hsteps
    contradiction
  | ok here =>
    rw [hwalk] at hsteps
    have hnext : fs.next here name = .ok place := by rwa [Except.bind, walk_name] at hsteps
    -- A slash at the end asks for a directory, and a name is looked up in nothing else.
    have hdot : fs.next here Path.dot = .ok here := by
      simp [next, isDirectoryAt_of_next hnext]
    refine ⟨here, resolve_eq_ok_iff.mpr ⟨hrefusal', ?_⟩, hnext⟩
    simp only [steps, walk_append, hwalk, Except.bind]
    split
    · rw [walk_name, hdot]
    · rfl

/-- A name that leads to no directory is neither that of the directory itself nor that of the one
above, so it stands in the directory. -/
theorem next_eq_ok (hleaf : fs.isDirectoryAt place = false) (h : fs.next here name = .ok place) :
    place = here ++ [name] := by
  have hhere := isDirectoryAt_of_next h
  by_cases hdots : name = Path.dotDot
  · subst hdots
    exact absurd (next_dotDot_eq_ok h).2 (by simp [hleaf])
  · rw [next, if_neg (by simp [hhere]), if_neg hdots] at h
    split at h
    · obtain rfl := Except.ok.inj h
      exact absurd hhere (by simp [hleaf])
    · split at h
      · contradiction
      · split at h
        · contradiction
        · exact (Except.ok.inj h).symm

/-- A place that is no directory has its name in one directory only. -/
theorem next_injective (hleaf : fs.isDirectoryAt place = false)
    (h : fs.next here name = .ok place) (h' : fs.next there name = .ok place) : here = there :=
  List.append_cancel_right ((next_eq_ok hleaf h).symm.trans (next_eq_ok hleaf h'))

/-! ### Starting -/

/-- A program is opened where its path leads to. -/
theorem openProgram_eq_ok {content : Bytes} (h : fs.openProgram path = .ok (place, content)) :
    fs.resolve path = .ok place := by
  rw [openProgram] at h
  cases hresolve : fs.resolve path with
  | error e =>
    rw [hresolve] at h
    contradiction
  | ok there =>
    rw [hresolve] at h
    dsimp only at h
    split at h
    · rw [(Prod.mk.inj (Except.ok.inj h)).1]
    · contradiction

/-- What is started is what its path leads to. -/
theorem startFile_eq_ok {fits : Bool} {files : Nat} {arguments : List Bytes}
    (h : fs.startFile fits files path arguments = .ok started) :
    fs.resolve path = .ok started.file := by
  unfold startFile at h
  split at h
  · contradiction
  · rename_i place content hopen
    -- Whatever is started, it is noted with this place.
    suffices started.file = place by rw [openProgram_eq_ok hopen, this]
    split at h
    · contradiction
    · split at h
      · contradiction
      · split at h
        · obtain rfl := Except.ok.inj h
          rfl
        · dsimp only at h
          split at h
          · contradiction
          · split at h
            · obtain rfl := Except.ok.inj h
              rfl
            · contradiction
        · contradiction
        · contradiction

/-- Tries to start what is under a path: itself or, if it is no program, the shell with it. -/
def attempt (fs : FileSystem) (command : Command) (path : Bytes) : Except IoError Started :=
  fs.orShell path command.arguments
    (fs.startFile (fitsHandOver command) maxProgramFiles path command.arguments)

theorem attempt_eq_ok (h : fs.attempt command path = .ok started) :
    fs.resolve path = .ok started.file := by
  rw [attempt, orShell] at h
  split at h
  · rename_i hfailed
    cases hresolve : fs.resolve path with
    | error e =>
      rw [hresolve] at h
      contradiction
    | ok place =>
      rw [hresolve] at h
      dsimp only at h
      split at h
      · obtain rfl := Except.ok.inj h
        rfl
      · rw [hfailed] at h
        contradiction
  · exact startFile_eq_ok h

/-- The first path under which something can be started counts, if those before it are no reason to
end the search. -/
theorem startFirst_eq_ok {denied : Bool} {last : IoError} {paths : List Bytes}
    (h : fs.startFirst (fitsHandOver command) command.arguments denied last paths = .ok started) :
    ∃ earlier path later, paths = earlier ++ path :: later ∧
      (∀ p ∈ earlier, ∃ e, fs.attempt command p = .error e ∧ endsSearch e = false) ∧
      fs.attempt command path = .ok started := by
  induction paths generalizing denied last with
  | nil => contradiction
  | cons path rest ih =>
    rw [startFirst] at h
    cases hattempt : fs.attempt command path with
    | ok found =>
      rw [← attempt, hattempt] at h
      obtain rfl := Except.ok.inj h
      exact ⟨[], path, rest, rfl, nofun, hattempt⟩
    | error e =>
      rw [← attempt, hattempt] at h
      dsimp only at h
      split at h
      · contradiction
      · rename_i hends
        obtain ⟨earlier, path', later, rfl, hpassed, hstart⟩ := ih h
        refine ⟨path :: earlier, path', later, rfl, ?_, hstart⟩
        rw [List.forall_mem_cons]
        exact ⟨⟨e, hattempt, by simpa using hends⟩, hpassed⟩

/-- The paths of a program are paths in directories. -/
theorem mem_pathsIn {program : Bytes} {dirs : List Bytes} (h : path ∈ pathsIn program dirs) :
    ∃ dir, path = inDirectory dir program := by
  fun_induction pathsIn program dirs with
  | case1 => contradiction
  | case2 dir hlong => contradiction
  | case3 dir hfits => exact ⟨dir, List.mem_singleton.mp h⟩
  | case4 dir rest hrest ih =>
    rcases List.mem_cons.mp h with rfl | h
    · exact ⟨_, rfl⟩
    · exact ih h

/-- How the program of a command was found: under its own name or in a directory. -/
inductive Found (fs : FileSystem) (command : Command) (started : Started) : Option Bytes → Prop
  /-- The name is a path. -/
  | byPath (hslash : Bytes.slash ∈ command.program)
      (hstart : fs.startFile (fitsHandOver command) maxProgramFiles command.program
        command.arguments = .ok started) : Found fs command started none
  /-- The name is in this directory, and in those before it nothing was found. -/
  | inDirectory {dir : Bytes} {earlier later : List Bytes} (hslash : Bytes.slash ∉ command.program)
      (hcandidates : candidates command.env command.program =
        earlier ++ inDirectory dir command.program :: later)
      (hpassed : ∀ path ∈ earlier, ∃ e, fs.attempt command path = .error e ∧ endsSearch e = false)
      (hstart : fs.attempt command (inDirectory dir command.program) = .ok started) :
      Found fs command started (some dir)

/-- What a command starts was found. -/
theorem startCommand_eq_ok (h : fs.startCommand command = .ok started) :
    ∃ dir, fs.Found command started dir := by
  rw [startCommand] at h
  split at h
  · contradiction
  · split at h
    · rename_i hslash
      exact ⟨none, .byPath (by simpa using hslash) h⟩
    · split at h
      · contradiction
      · rename_i hslash _
        obtain ⟨earlier, path, later, hcandidates, hpassed, hstart⟩ := startFirst_eq_ok h
        have hmem : path ∈ candidates command.env command.program := by simp [hcandidates]
        obtain ⟨dir, rfl⟩ := mem_pathsIn hmem
        exact ⟨some dir, .inDirectory (by simpa using hslash) hcandidates hpassed hstart⟩

/-- A path is looked for in no directory. -/
theorem Found.eq_none {dir : Option Bytes} (h : fs.Found command started dir)
    (hslash : Bytes.slash ∈ command.program) : dir = none := by
  cases h with
  | byPath _ _ => rfl
  | inDirectory hnot _ _ _ => exact absurd hslash hnot

/-- What was found is what the program's name leads to, which is no directory, exactly if the name
is a path or the directory that it was found in is the current one. -/
theorem Found.file_eq_iff {dir : Option Bytes} (h : fs.Found command started dir)
    (hplace : fs.resolve command.program = .ok place) (hleaf : fs.isDirectoryAt place = false) :
    started.file = place ↔ ∀ d ∈ dir, d = [] ∨ fs.resolve d = .ok fs.current := by
  cases h with
  | byPath hslash hstart =>
    refine iff_of_true ?_ nofun
    exact Except.ok.inj ((startFile_eq_ok hstart).symm.trans hplace)
  | @inDirectory dir earlier later hslash hcandidates hpassed hstart =>
    simp only [Option.mem_some_iff, forall_eq']
    have hfile := attempt_eq_ok hstart
    by_cases hdir : dir = []
    · rw [hdir, FileSystem.inDirectory, if_pos rfl] at hfile
      exact iff_of_true (Except.ok.inj (hfile.symm.trans hplace)) (.inl hdir)
    · have hnext := next_of_resolve_name hslash hplace
      have hne := (refusal?_eq_none_iff.mp (resolve_eq_ok_iff.mp hplace).1).2.1
      obtain ⟨here, hhere, hnext'⟩ := next_of_resolve_inDirectory hdir hne hslash hfile
      rw [or_iff_right hdir, hhere, Except.ok.injEq]
      constructor
      · rintro rfl
        exact next_injective hleaf hnext' hnext
      · rintro rfl
        exact Except.ok.inj (hnext'.symm.trans hnext)

end FileSystem

end LaunchStub
