import LaunchStub.Machine
import LaunchStub.Proofs.Executable
import LaunchStub.Proofs.Files.Programs
import LaunchStub.Proofs.Supervisor.Course
import LaunchStub.Transcript

/-!
# The file that is started

A run finds out from a file what kind of program the target is, and what it starts then is found
anew, by the rules for commands. The two are the same file if the target's name is a path. A name
without a slash is taken for a path by the one and looked for in the listed directories by the
other, and nothing in a run makes sure that it is the file in the working directory that is found.

## What is proved

* `Machine.launch_eq_ok` — what a launch starts, and that the machine remembers it.
* `Machine.within_filesFor` — a queue that is created in between takes nothing away.
* `Supervisor.startedFiles_of_performs` — nothing but a launch starts a program.
* `Supervisor.launched_file` — of which file the kind was found out, which file was started, and
  when the two are the same.
* `Supervisor.not_launched_file_classified` — they are not always.
-/

namespace LaunchStub

/-! ### At most one launch -/

/-- Is this a launch? -/
def Deed.isLaunch : Deed → Bool
  | .launched _ _ _ => true
  | _ => false

theorem Preparation.countP_isLaunch_acts (p : Preparation) (inv : Invocation)
    (launched : Except LaunchError UInt32) : (p.acts inv launched).countP Deed.isLaunch = 1 := by
  have happlied : (p.applied.map application).countP Deed.isLaunch = 0 := by
    rw [List.countP_map, List.countP_eq_zero]
    exact fun x _ => Bool.false_ne_true
  simp [acts, List.countP_append, List.countP_cons, happlied, Deed.isLaunch]

/-- A run launches at most once. -/
theorem Course.countP_isLaunch_acts (course : Course) (inv : Invocation) :
    (course.acts inv).countP Deed.isLaunch ≤ 1 := by
  have htelling : ∀ message told, (Trace.telling message told).countP Deed.isLaunch = 0 := by
    intro message told
    cases told <;> rfl
  cases course <;>
    simp [acts, List.countP_append, Preparation.countP_isLaunch_acts, htelling, Deed.isLaunch]

/-- After a launch there is none. -/
theorem Course.acts_of_launched_once {inv : Invocation} {course : Course}
    {strategy : Strategy} {request : LaunchRequest} {answer : Except LaunchError UInt32}
    (h : .launched strategy request answer ∈ course.acts inv) :
    ∃ (p : Preparation) (t : Trace), course.acts inv = p.acts inv answer ++ t ∧
      strategy = p.type.strategy ∧ request = p.request inv ∧ ∀ deed ∈ t, ¬ deed.isLaunch := by
  obtain ⟨p, t, hacts, hstrategy, hrequest⟩ := acts_of_launched h
  refine ⟨p, t, hacts, hstrategy, hrequest, List.countP_eq_zero.mp ?_⟩
  have hone := course.countP_isLaunch_acts inv
  rw [hacts, List.countP_append, p.countP_isLaunch_acts] at hone
  omega

/-! ### What is classified -/

namespace FileSystem

variable {fs : FileSystem} {path : Bytes} {header : Bytes} {type : AppType}

/-- Does the path lead to a place from which the header of this kind of program can be read? -/
def Classified (fs : FileSystem) (path : Bytes) (place : Place) (type : AppType) : Prop :=
  fs.resolve path = .ok place ∧ ∃ node content, fs.nodeAt? place = some node ∧
    node.content? = some content ∧
    AppType.classify (content.start AppType.headerLength) = .ok type

/-- What was classified stays where the path leads to, and is no directory. -/
theorem Classified.of_within {fs' : FileSystem} {place : Place} (h : fs.Classified path place type)
    (hwithin : fs.Within fs') (hcurrent : fs'.current = fs.current) :
    fs'.resolve path = .ok place ∧ fs'.isDirectoryAt place = false := by
  obtain ⟨hresolve, node, content, hnode, hcontent, -⟩ := h
  refine ⟨resolve_of_within hwithin hcurrent hresolve, ?_⟩
  have hleaf : node ≠ .directory := by
    rintro rfl
    cases hcontent
  simp [isDirectoryAt, hwithin _ _ hnode, hleaf]

/-- A header that is one of a program was read from a content. -/
theorem classified_of_readStart (h : fs.readStart path AppType.headerLength = .ok header)
    (htype : AppType.classify header = .ok type) : ∃ place, fs.Classified path place type := by
  cases hresolve : fs.resolve path with
  | error e =>
    rw [readStart, hresolve] at h
    contradiction
  | ok place =>
    refine ⟨place, hresolve, ?_⟩
    cases hnode : fs.nodeAt? place with
    | none =>
      simp only [readStart, hresolve, hnode] at h
      obtain rfl := Except.ok.inj h
      contradiction
    | some node =>
      cases hcontent : node.content? with
      | some content =>
        rw [readStart_of_content hresolve hnode hcontent] at h
        obtain rfl := Except.ok.inj h
        exact ⟨node, content, rfl, hcontent, htype⟩
      | none =>
        simp only [readStart, hresolve, hnode] at h
        cases node with
        | file | device | null => cases hcontent
        | directory | socket => contradiction
        | pipe =>
          obtain rfl := Except.ok.inj h
          contradiction

end FileSystem

/-! ### What is started -/

/-- The command that a strategy makes of a request. -/
def Strategy.command (request : LaunchRequest) : Strategy → Command
  | .direct => Command.direct request
  | .session => (SessionStart.onConsole request).command

/-- A command holds a target without a zero octet as it is. -/
theorem Strategy.program_command {request : LaunchRequest} (h : Bytes.nul ∉ request.target)
    (strategy : Strategy) : (strategy.command request).program = request.target := by
  have hheld : Command.held request.target = request.target := by
    rw [Command.held, if_pos (by simpa [Command.isFit] using h)]
  cases strategy <;> exact hheld

/-- The files that are noted with what was started: the shell is not noted. -/
def Started.noted (started : Started) : List Place :=
  match started.runner with
  | .image => [started.file]
  | .shell _ => []

namespace Machine

variable {m : Machine} {strategy : Strategy} {request : LaunchRequest} {child : MachineChild}

/-- The files on which a strategy starts its command: a session has created its queue before. -/
def filesFor (m : Machine) : Strategy → FileSystem
  | .direct => m.files
  | .session => (m.store.create m.queueDir m.stub).2.files

/-- The files of the programs that were started, in order. -/
def startedFiles (m : Machine) : List Place := m.started.map ProgramStart.file

theorem startProgram_of_ok {command : Command} {status : WaitStatus} {m' : Machine}
    (h : m.startProgram command = .ok (status, m')) :
    ∃ started, m.files.startCommand command = .ok started ∧
      m'.startedFiles = m.startedFiles ++ started.noted := by
  rw [startProgram] at h
  cases hstart : m.files.startCommand command with
  | error e =>
    rw [hstart] at h
    contradiction
  | ok started =>
    rw [hstart] at h
    refine ⟨started, rfl, ?_⟩
    dsimp only at h
    rw [Started.noted]
    cases hrunner : started.runner with
    | image =>
      rw [hrunner] at h
      obtain ⟨-, rfl⟩ := Prod.mk.inj (Except.ok.inj h)
      simp [startedFiles, noteStart]
    | shell commands =>
      rw [hrunner] at h
      obtain ⟨-, rfl⟩ := Prod.mk.inj (Except.ok.inj h)
      exact (List.append_nil _).symm

/-- What a launch starts, and that the machine remembers it. -/
theorem launch_eq_ok (h : (host.launch strategy request m).answer = .ok child) :
    ∃ started, (m.filesFor strategy).startCommand (strategy.command request) = .ok started ∧
      (host.launch strategy request m).state.startedFiles = m.startedFiles ++ started.noted := by
  cases strategy with
  | direct =>
    simp only [host, launchDirect] at h ⊢
    split at h
    · rename_i status m' hstart
      exact startProgram_of_ok hstart
    · contradiction
  | session =>
    simp only [host, launchSession] at h ⊢
    split at h
    · contradiction
    · rename_i path store hcreate
      split at h
      · rename_i status m' hstart
        obtain ⟨started, hstarted, hnoted⟩ := startProgram_of_ok hstart
        refine ⟨started, ?_, hnoted⟩
        rw [filesFor, hcreate]
        exact hstarted
      · contradiction

theorem changeDir_eq_ok {dir : Bytes} (h : (host.changeDir dir m).answer = .ok ()) :
    ∃ files, m.files.enter dir = .ok files ∧ (host.changeDir dir m).state = m.withFiles files := by
  simp only [host, changeDir] at h ⊢
  cases henter : m.files.enter dir with
  | ok files => exact ⟨files, rfl, rfl⟩
  | error e =>
    rw [henter] at h
    contradiction

/-- A kind is found out of files only. -/
theorem classified_of_queryType {target : Bytes} {type : AppType}
    (h : (host.queryType target m).answer = .ok type) :
    ∃ place, m.files.Classified target place type := by
  simp only [host, queryType] at h
  split at h
  · rename_i header hread
    exact FileSystem.classified_of_readStart hread h
  · contradiction

/-- All that there was is there when a program is started. -/
theorem within_filesFor (hlaunch : (host.launch strategy request m).answer = .ok child) :
    m.files.Within (m.filesFor strategy) ∧ (m.filesFor strategy).current = m.files.current := by
  cases strategy with
  | direct => exact ⟨fun _ _ hnode => hnode, rfl⟩
  | session =>
    simp only [host, launchSession] at hlaunch
    split at hlaunch
    · contradiction
    · rename_i created store hcreate
      rw [filesFor, hcreate]
      exact QueueStore.within_create hcreate

end Machine

/-! ### In a run -/

namespace Supervisor

variable {χ ω : Type} {channel : Channel χ} {stderr : Writer ω}
  {c c' : Scene Machine MachineChild χ ω} {deed : Deed} {t : Trace}

/-- Only a launch starts a program. -/
theorem Does.startedFiles_eq (h : (mk Machine.host channel stderr).Does c deed c')
    (hnot : ¬ deed.isLaunch) : c'.host.startedFiles = c.host.startedFiles := by
  cases deed with
  | changedDir dir answer =>
    obtain ⟨-, rfl⟩ := h
    simp only [Machine.host, Machine.changeDir]
    split <;> rfl
  | queriedType target answer =>
    obtain ⟨-, rfl⟩ := h
    rfl
  | sawEnvironment answer =>
    obtain ⟨-, rfl⟩ := h
    rfl
  | extendedPath directive value answer =>
    obtain ⟨-, rfl⟩ := h
    rfl
  | launched strategy request answer => exact absurd rfl hnot
  | awaited id answer =>
    obtain ⟨child, -, -, -, rfl⟩ := h
    cases child <;> rfl
  | released id =>
    obtain ⟨child, -, -, rfl⟩ := h
    cases child <;> rfl
  | sent message answer =>
    obtain ⟨-, rfl⟩ := h
    rfl
  | told text =>
    obtain rfl := h
    rfl
  | noted event =>
    obtain rfl := h
    rfl
  | connected _ _ => exact h.elim
  | disconnected => exact h.elim
  | paused _ _ => exact h.elim

theorem startedFiles_of_performs (h : (mk Machine.host channel stderr).Performs c t c')
    (hnot : ∀ deed ∈ t, ¬ deed.isLaunch) : c'.host.startedFiles = c.host.startedFiles := by
  induction t generalizing c with
  | nil => rw [show c' = c from h]
  | cons deed t ih =>
    obtain ⟨m, hdeed, ht⟩ := h
    rw [List.forall_mem_cons] at hnot
    rw [ih ht hnot.2, hdeed.startedFiles_eq hnot.1]

/-- Directives change nothing but the variables. -/
theorem host_of_performs_applications
    {applied : List ((Directive × Bytes) × Except IoError Unit)}
    (h : (mk Machine.host channel stderr).Performs c (applied.map Preparation.application) c') :
    ∃ env, c'.host = { c.host with env := env } := by
  induction applied generalizing c with
  | nil =>
    rw [show c' = c from h]
    exact ⟨c.host.env, rfl⟩
  | cons x rest ih =>
    obtain ⟨m, ⟨-, rfl⟩, hrest⟩ := h
    obtain ⟨env, henv⟩ := ih hrest
    exact ⟨env, henv⟩

/-- What a launch meets: the files with the working directory entered, of which one was classified,
on a machine that has started nothing since. -/
theorem launch_of_performs_acts {p : Preparation} {inv : Invocation} {id : UInt32}
    (h : (mk Machine.host channel stderr).Performs c (p.acts inv (.ok id)) c') :
    ∃ files place m child, c.host.files.enter inv.workdir = .ok files ∧
      files.Classified inv.target place p.type ∧ m.files = files ∧
      (∀ strategy, m.filesFor strategy = (c.host.withFiles files).filesFor strategy) ∧
      m.startedFiles = c.host.startedFiles ∧
      (Machine.host.launch p.type.strategy (p.request inv) m).answer = .ok child ∧
      c'.host = (Machine.host.launch p.type.strategy (p.request inv) m).state := by
  obtain ⟨c₁, ⟨hchange, rfl⟩, c₂, ⟨hquery, rfl⟩, c₃, ⟨-, rfl⟩, hprepared⟩ := h
  obtain ⟨c₄, happlied, c₅, ⟨-, rfl⟩, c₆, ⟨-, hlaunch, rfl⟩, rfl⟩ :=
    (performs_append _).mp hprepared
  obtain ⟨env, henv⟩ := host_of_performs_applications happlied
  obtain ⟨files, henter, hentered⟩ := Machine.changeDir_eq_ok hchange
  obtain ⟨place, hclassified⟩ := Machine.classified_of_queryType hquery
  have hhost : c₄.host = { c.host.withFiles files with env := env } := by
    rw [← hentered]
    exact henv
  obtain ⟨child, hchild⟩ : ∃ child,
      (Machine.host.launch p.type.strategy (p.request inv) c₄.host).answer = .ok child := by
    cases hanswer : (Machine.host.launch p.type.strategy (p.request inv) c₄.host).answer with
    | ok child => exact ⟨child, rfl⟩
    | error e =>
      have hmapped : ((Machine.host.launch p.type.strategy (p.request inv)
        c₄.host).answer.map Machine.host.childId) = .ok id := hlaunch
      rw [hanswer] at hmapped
      contradiction
  refine ⟨files, place, c₄.host, child, henter, ?_, ?_, fun strategy => ?_, ?_, hchild, rfl⟩
  · have hfiles : (Machine.host.changeDir inv.workdir c.host).state.files = files := by
      rw [hentered]
      rfl
    exact hfiles ▸ hclassified
  · rw [hhost]
    rfl
  · rw [hhost]
    cases strategy <;> rfl
  · rw [hhost]
    rfl

/-- **The file that is started.** Whenever a run launches its target, the target's name leads in the
working directory to a place by whose header the strategy was chosen, and the program that the
machine remembers is the one that was found for the command. It is in that place if the name is a
path, and else exactly if the directory that it was found in is the working directory. -/
theorem launched_file (channel : Channel χ) (stderr : Writer ω) (inv : Invocation)
    (desk : Desk Machine χ ω) :
    let after := ((mk Machine.host channel stderr).run inv desk).2
    ∃ deeds, after.trace = desk.trace ++ deeds ∧
      ∀ strategy request id, .launched strategy request (.ok id) ∈ deeds →
        ∃ files place type started dir,
          desk.host.files.enter inv.workdir = .ok files ∧
          files.Classified inv.target place type ∧ strategy = type.strategy ∧
          ((desk.host.withFiles files).filesFor strategy).Found
            (strategy.command request) started dir ∧
          after.host.startedFiles = desk.host.startedFiles ++ started.noted ∧
          (Bytes.slash ∈ inv.target → started.file = place) ∧
          (started.file = place ↔ ∀ d ∈ dir, d = [] ∨
            ((desk.host.withFiles files).filesFor strategy).resolve d = .ok files.current) := by
  obtain ⟨deeds, course, htrace, hperf, hacts, -⟩ :=
    run_takes_course (mk Machine.host channel stderr) inv desk
  refine ⟨deeds, htrace, fun strategy request id hmem => ?_⟩
  rw [← Trace.mem_acts rfl, hacts] at hmem
  obtain ⟨p, t, hp, rfl, rfl, hnot⟩ := Course.acts_of_launched_once hmem
  have hperformed := hperf.acts
  rw [hacts, hp] at hperformed
  obtain ⟨c, hbegin, hrest⟩ := (performs_append _).mp hperformed
  -- The path leads on the files of the launch to where it led when it was classified.
  obtain ⟨files, place, m, child, henter, hclassified, hfiles, hfor, hbefore, hanswer, hstate⟩ :=
    launch_of_performs_acts hbegin
  obtain ⟨started, hstart, hnoted⟩ := Machine.launch_eq_ok hanswer
  obtain ⟨dir, hfound⟩ := FileSystem.startCommand_eq_ok hstart
  obtain ⟨hwithin, hcurrent⟩ := Machine.within_filesFor hanswer
  obtain ⟨hplace, hleaf⟩ := (hfiles ▸ hclassified).of_within hwithin hcurrent
  have hprogram : (p.type.strategy.command (p.request inv)).program = inv.target :=
    Strategy.program_command
      (FileSystem.refusal?_eq_none_iff.mp (FileSystem.resolve_eq_ok_iff.mp hplace).1).1 _
  have hsame := hfound.file_eq_iff (by rwa [hprogram]) hleaf
  rw [hcurrent, hfiles] at hsame
  rw [hfor] at hfound hsame
  refine ⟨files, place, p.type, started, dir, henter, hclassified, rfl, hfound, ?_, ?_, hsame⟩
  -- What comes after the launch starts nothing.
  · refine (startedFiles_of_performs hrest hnot).trans ?_
    rw [hstate, hnoted, hbefore]
    rfl
  · intro hslash
    rw [hsame, hfound.eq_none (by rwa [hprogram])]
    exact nofun

/-- A directory with a native image, a script for it, and a directory below that has a script of the
same name. The outer one is the only one that programs are looked for in. -/
def twoScripts : Machine where
  store := { files := { entries := [
    ([Bytes.ofText "d"], .directory),
    ([Bytes.ofText "d", Bytes.ofText "probe"],
      .file (AppType.imageMark ++ List.replicate 14 0 ++ [0x3e, 0]) true),
    ([Bytes.ofText "d", Bytes.ofText "script"], .file (Bytes.ofText "#!/d/probe\n") true),
    ([Bytes.ofText "d", Bytes.ofText "work"], .directory),
    ([Bytes.ofText "d", Bytes.ofText "work", Bytes.ofText "script"],
      .file (Bytes.ofText "#!/d/probe\n") true)] } }
  env := ⟨[(FileSystem.searchVariable, Bytes.ofText "/d")], none⟩
  stub := 6
  child := 7
  conduct := { status := .ofExit 0 }
  queueDir := Bytes.ofText "/d"

/-- The script, by its name alone, in the directory below. -/
def scriptByName : Invocation :=
  ⟨.run, [], [], Bytes.ofText "/d/work", Bytes.ofText "script", []⟩

/-- A supervisor on a machine, with a controller that takes everything. -/
def onMachine : Supervisor Machine MachineChild LimitedChannel Bytes :=
  ⟨Machine.host, LimitedChannel.device, Writer.keeping⟩

/-- The machine that starts the script of the outer directory. -/
def scriptDesk : Desk Machine LimitedChannel Bytes := ⟨twoScripts, ⟨none, []⟩, [], []⟩

/-- The files from the inner directory. -/
def innerFiles : FileSystem :=
  { twoScripts.files with current := [Bytes.ofText "d", Bytes.ofText "work"] }

/-- The script of the inner directory is classified, and the one of the outer directory started. -/
theorem launched_file_byName :
    ∃ request,
      .launched .session request (.ok 7) ∈ (onMachine.run scriptByName scriptDesk).2.trace ∧
      ∃ place type started dir,
        innerFiles.Classified scriptByName.target place type ∧
        ((twoScripts.withFiles innerFiles).filesFor .session).Found
          (Strategy.session.command request) started dir ∧
        place = [Bytes.ofText "d", Bytes.ofText "work", Bytes.ofText "script"] ∧
        started.noted = [[Bytes.ofText "d", Bytes.ofText "script"]] := by
  let request : LaunchRequest := ⟨Bytes.ofText "script", [], .sanitize twoScripts.env.vars⟩
  have hlaunch : .launched .session request (.ok 7) ∈
      (onMachine.run scriptByName scriptDesk).2.trace := by decide
  have henter : twoScripts.files.enter scriptByName.workdir = .ok innerFiles := rfl
  obtain ⟨deeds, htrace, hfile⟩ :=
    launched_file LimitedChannel.device Writer.keeping scriptByName scriptDesk
  have hmem := hlaunch
  rw [show (onMachine.run scriptByName scriptDesk).2.trace = deeds from htrace] at hmem
  obtain ⟨files, place, type, started, dir, hentered, hclassified, htype, hfound, hstarted, -⟩ :=
    hfile .session request 7 hmem
  obtain rfl : files = innerFiles := Except.ok.inj (hentered.symm.trans henter)
  refine ⟨request, hlaunch, place, type, started, dir, hclassified, hfound, ?_, ?_⟩
  · exact Except.ok.inj (hclassified.1.symm.trans (by decide))
  · exact hstarted.symm.trans (by decide)

/-- **What is started is not always what was classified.** -/
theorem not_launched_file_classified :
    ¬ ∀ (inv : Invocation) (desk : Desk Machine LimitedChannel Bytes) (files : FileSystem)
        (place : Place) (type : AppType), desk.host.files.enter inv.workdir = .ok files →
      files.Classified inv.target place type →
      ∀ file ∈ (onMachine.run inv desk).2.host.startedFiles,
        file ∈ desk.host.startedFiles ∨ file = place := by
  intro h
  have hstarted : [Bytes.ofText "d", Bytes.ofText "script"] ∈
      (onMachine.run scriptByName scriptDesk).2.host.startedFiles := by decide
  have hfile := h scriptByName scriptDesk innerFiles
    [Bytes.ofText "d", Bytes.ofText "work", Bytes.ofText "script"] .script rfl
    ⟨by decide, _, _, rfl, rfl, by decide⟩ _ hstarted
  exact absurd hfile (by decide)

end Supervisor

end LaunchStub
