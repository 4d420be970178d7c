import LaunchStub.Proofs.Session.Schedules

/-!
# What a session launch tells

However the threads take their turns, a stub that reads the queue learns how its own target ended,
and a stub that is done leaves nothing behind.

The steps of a launch leave a record: what was written, which target was started, how it ended, and
why the launch failed stand in the list of steps, and each of these stands in the state too. So the
ways in which the parties can stand to each other (`Standing`) are facts about what has happened.

## What is proved

* `Stub.notification` — what is observed, how often something is written, what becomes of a launch
  whose target cannot be started, and what is left of the queue.
-/

namespace LaunchStub

namespace Move

/-- The element that was written. -/
def wrote? : Move → Option UInt32
  | .wrote element => some element
  | _ => none

/-- The process id of the target that was started. -/
def spawned? : Move → Option UInt32
  | .spawned pid => some pid
  | _ => none

/-- The status that the target ended with. -/
def targetEnded? : Move → Option WaitStatus
  | .targetEnded status => some status
  | _ => none

/-- Why the launch failed. -/
def failed? (s : Stub) : Move → Option LaunchError
  | .createFailed e | .openFailed e => some (.queueCreate s.queue e)
  | .monitorFailed e | .spawnFailed e => some (.start e)
  | _ => none

/-- Did the queue get its name? -/
def makesName : Move → Bool
  | .created | .openFailed _ => true
  | _ => false

end Move

namespace Stub

variable {s : Stub} {start : QueueStore} {l l' : Launch} {move : Move} {moves : List Move}
  {pid : UInt32} {monitor : MonitorPhase} {inFlight : Option UInt32} {target : TargetPhase}
  {store : QueueStore}

/-! ### The record -/

/-- What every step adds to a state as it adds it to the record, a state has on record. -/
theorem Runs.filterMap_eq {β : Type} {f : Move → Option β} {g : Launch → Option β}
    (h : s.Runs (.start start) moves l) (hstart : g (.start start) = none)
    (hstep : ∀ {l l' move}, s.Kept start l → s.Step l move l' →
      (g l').toList = (g l).toList ++ (f move).toList) :
    moves.filterMap f = (g l).toList := by
  induction h with
  | nil => rw [hstart]; rfl
  | @snoc _ _ _ move hruns hlast ih =>
    rw [List.filterMap_append, ih, hstep (Kept.of_runs hruns) hlast]
    cases hmove : f move <;> simp [hmove]

theorem Runs.wrote_eq (h : s.Runs (.start start) moves l) :
    moves.filterMap Move.wrote? = l.monitor.posted?.toList := by
  refine h.filterMap_eq (g := fun l => l.monitor.posted?) rfl fun _ hstep => ?_
  cases hstep with
  | stub hstep => cases hstep <;> simp [Move.wrote?, MonitorPhase.posted?, MonitorPhase.end?]
  | monitor hstep => cases hstep <;> simp [Move.wrote?, MonitorPhase.posted?, MonitorPhase.end?]
  | target hstep => cases hstep; simp [Move.wrote?]

theorem Runs.spawned_eq (h : s.Runs (.start start) moves l) :
    moves.filterMap Move.spawned? = l.target.pid?.toList := by
  refine h.filterMap_eq (g := fun l => l.target.pid?) rfl fun _ hstep => ?_
  cases hstep with
  | stub hstep => cases hstep <;> simp [Move.spawned?, TargetPhase.pid?]
  | monitor hstep => cases hstep <;> simp [Move.spawned?]
  | target hstep => cases hstep; simp [Move.spawned?, TargetPhase.pid?]

theorem Runs.targetEnded_eq (h : s.Runs (.start start) moves l) :
    moves.filterMap Move.targetEnded? = l.target.status?.toList := by
  refine h.filterMap_eq (g := fun l => l.target.status?) rfl fun _ hstep => ?_
  cases hstep with
  | stub hstep => cases hstep <;> simp [Move.targetEnded?, TargetPhase.status?]
  | monitor hstep => cases hstep <;> simp [Move.targetEnded?]
  | target hstep => cases hstep; simp [Move.targetEnded?, TargetPhase.status?]

theorem Runs.spawned_mem (h : s.Runs (.start start) moves l)
    (hpid : l.target.pid? = some pid) : .spawned pid ∈ moves := by
  have hmem : pid ∈ moves.filterMap Move.spawned? := by
    rw [h.spawned_eq, hpid]
    exact List.mem_singleton_self pid
  obtain ⟨move, hmove, hspawned⟩ := List.mem_filterMap.mp hmem
  cases move with
  | spawned id => rwa [Option.some.inj hspawned] at hmove
  | _ => cases hspawned

theorem Runs.targetEnded_mem (h : s.Runs (.start start) moves l) {status : WaitStatus}
    (hstatus : l.target.status? = some status) : .targetEnded status ∈ moves := by
  have hmem : status ∈ moves.filterMap Move.targetEnded? := by
    rw [h.targetEnded_eq, hstatus]
    exact List.mem_singleton_self status
  obtain ⟨move, hmove, hended⟩ := List.mem_filterMap.mp hmem
  cases move with
  | targetEnded status' => rwa [Option.some.inj hended] at hmove
  | _ => cases hended

theorem Runs.failed_eq (h : s.Runs (.start start) moves l) :
    moves.filterMap (Move.failed? s) = l.stub.failure?.toList := by
  refine h.filterMap_eq (g := fun l => l.stub.failure?) rfl fun _ hstep => ?_
  cases hstep with
  | stub hstep =>
    cases hstep with
    | @queueDropped _ _ _ _ how => cases how <;> simp [Move.failed?, StubPhase.failure?]
    | _ => simp [Move.failed?, StubPhase.failure?]
  | monitor hstep => cases hstep <;> simp [Move.failed?]
  | target hstep => cases hstep; simp [Move.failed?]

/-- What no step does as the parties stand, no run has on record. -/
theorem Runs.forall_mem {P : Move → Prop} (h : s.Runs (.start start) moves l)
    (hstep : ∀ {l l' move}, s.Kept start l → s.Step l move l' → P move) :
    ∀ move ∈ moves, P move := by
  induction h with
  | nil => exact nofun
  | snoc hruns hlast ih =>
    rw [List.forall_mem_append]
    exact ⟨ih, List.forall_mem_singleton.mpr (hstep (Kept.of_runs hruns) hlast)⟩

/-- A queue gets its name only where that leads nowhere. -/
theorem Runs.isThere_of_makesName (h : s.Runs (.start start) moves l) :
    ∀ move ∈ moves, move.makesName → start.files.isThere s.queue = false := by
  refine h.forall_mem fun hkept hstep hname => ?_
  cases hstep with
  | stub hstep =>
    cases hstep with
    | created hcreate | openFailed hcreate _ =>
      rw [← hkept.restored (.inl rfl)]
      exact (QueueStore.create_eq_ok hcreate).2.1
    | _ => cases hname
  | monitor hstep => cases hstep <;> cases hname
  | target hstep => cases hstep; cases hname

/-- No read meets the end of the data. -/
theorem Runs.not_mem_readEnded (h : s.Runs (.start start) moves l) :
    .readFailed .shortRead ∉ moves := by
  refine fun hmem => h.forall_mem (P := (· ≠ .readFailed .shortRead)) (fun hkept hstep => ?_) _
    hmem rfl
  rintro rfl
  cases hstep with
  | stub hstep =>
    cases hstep with
    | readEnded hread => exact hkept.not_ended hread
    | readBroken hbroken => exact hbroken rfl
  | monitor hstep => cases hstep
  | target hstep => cases hstep

/-- A monitor that was started stays in the launch to its end. -/
theorem Step.monitor_ne_absent (hstep : s.Step l move l') (h : l.monitor ≠ .absent) :
    l'.monitor ≠ .absent := by
  cases hstep with
  | stub hstep => cases hstep <;> first | exact h | exact nofun
  | monitor hstep => cases hstep <;> exact nofun
  | target hstep => cases hstep; exact h

/-- A launch whose target could not be started failed for that reason, and has a monitor. -/
theorem Runs.of_spawnFailed (h : s.Runs (.start start) moves l) {e : IoError}
    (hmem : .spawnFailed e ∈ moves) :
    l.stub.failure? = some (.start e) ∧ l.monitor ≠ .absent := by
  constructor
  · have hfailed : .start e ∈ moves.filterMap (Move.failed? s) :=
      List.mem_filterMap.mpr ⟨_, hmem, rfl⟩
    rw [h.failed_eq] at hfailed
    exact Option.mem_toList.mp hfailed
  · induction h with
    | nil => cases hmem
    | snoc hruns hlast ih =>
      obtain hmem | hmem := List.mem_append.mp hmem
      · exact hlast.monitor_ne_absent (ih hmem)
      · obtain rfl := List.mem_singleton.mp hmem
        have hstanding := (Kept.of_runs hruns).standing
        cases hlast with
        | stub hstep =>
          cases hstep
          rw [(hstanding.of_unstarted (.inr (.inr rfl))).1]
          exact nofun
        | monitor hstep => cases hstep
        | target hstep => cases hstep

/-! ### The launch -/

/-- The monitor of a launch that failed has written nothing and can only give up. -/
theorem Kept.monitor_of_failure (h : s.Kept start l) (hfailure : l.stub.failure?.isSome) :
    l.monitor.posted? = none ∧
      (∀ move l', s.MonitorStep l move l' → move = .gaveUp ∨ move = .posterDropped) ∧
      (l.stub.holdsSender = false → l.monitor = .absent ∨ l.monitor = .ended .idle ∨
        ∃ move l', s.MonitorStep l move l') := by
  obtain ⟨stub, monitor, inFlight, target, store⟩ := l
  obtain ⟨rfl, rfl, rfl | rfl | ⟨hend, -⟩⟩ := h.standing.of_failure hfailure
  · refine ⟨rfl, fun move l' hstep => ?_, fun _ => .inl rfl⟩
    cases hstep
  · refine ⟨rfl, fun move l' hstep => ?_, fun hsender => .inr (.inr ⟨_, _, .gaveUp hsender⟩)⟩
    cases hstep
    exact .inl rfl
  · obtain rfl | rfl := MonitorPhase.end?_eq_some hend
    · refine ⟨rfl, fun move l' hstep => ?_, fun _ => .inr (.inr ⟨_, _, .posterDropped⟩)⟩
      cases hstep
      exact .inr rfl
    · refine ⟨rfl, fun move l' hstep => ?_, fun _ => .inr (.inl rfl)⟩
      cases hstep

/-- **A session launch**, whatever the order in which the stub, the monitor and the target take
their steps, and whichever of them fail:

* if the stub observes something through the queue, it is the end of the target that it started;
* no read meets the end of the data, and at most one element is written;
* if the target cannot be started, the launch fails for that reason, nothing is ever written, and
  the monitor has nothing left to do but to give up, which it can as soon as the stub has returned;
* once the stub is done the files are as they were before, so that the path of a queue that was
  created leads nowhere. -/
theorem notification (h : s.Runs (.start start) moves l) :
    (∀ raw, l.stub.ending? = some (.observed raw) →
      ∃ pid status, l.target = .ended pid status ∧ .spawned pid ∈ moves ∧
        .targetEnded status ∈ moves ∧ raw = .exited status.sessionResult.toNat) ∧
    .readFailed .shortRead ∉ moves ∧
    (moves.filterMap Move.wrote?).length ≤ 1 ∧
    (∀ e, .spawnFailed e ∈ moves →
      l.stub.failure? = some (.start e) ∧ moves.filterMap Move.wrote? = [] ∧
      (∀ move l', s.MonitorStep l move l' → move = .gaveUp ∨ move = .posterDropped) ∧
      (l.stub.holdsSender = false →
        l.monitor = .ended .idle ∨ ∃ move l', s.MonitorStep l move l')) ∧
    (∀ how, l.stub = .finished how → l.store.files = start.files ∧
      ∀ move ∈ moves, move.makesName → l.store.files.isThere s.queue = false) := by
  have hkept := Kept.of_runs h
  refine ⟨fun raw hraw => ?_, h.not_mem_readEnded, ?_, fun e he => ?_, fun how hhow => ?_⟩
  · obtain ⟨pid, status, htarget, rfl⟩ := hkept.standing.of_observed hraw
    exact ⟨pid, status, htarget, h.spawned_mem (by rw [htarget]; rfl),
      h.targetEnded_mem (by rw [htarget]; rfl), rfl⟩
  · rw [h.wrote_eq]
    exact Option.length_toList_le
  · obtain ⟨hfailure, hmonitor⟩ := h.of_spawnFailed he
    obtain ⟨hposted, hsteps, hgoes⟩ := hkept.monitor_of_failure (by rw [hfailure]; rfl)
    refine ⟨hfailure, by rw [h.wrote_eq, hposted]; rfl, hsteps, fun hsender => ?_⟩
    exact (hgoes hsender).resolve_left hmonitor
  · have hfiles := hkept.restored (.inr (by rw [hhow]; rfl))
    refine ⟨hfiles, fun move hmove hname => ?_⟩
    rw [hfiles]
    exact h.isThere_of_makesName move hmove hname

end Stub

/-- A machine with a directory for queues, a native image and a script for it. -/
def Machine.scripted : Machine where
  store := ⟨⟨[([Bytes.ofText "q"], .directory),
    ([Bytes.ofText "i"], .file (AppType.imageMark ++ List.replicate 14 0 ++ [62, 0]) true),
    ([Bytes.ofText "t"], .file (Bytes.ofText "#!/i") true)], []⟩, []⟩
  env := ⟨[], none⟩
  stub := 3
  child := 7
  conduct := ⟨[], .ofExit 5⟩
  queueDir := Bytes.ofText "/q"

/-- The session of a script that exits with code five. -/
theorem Stub.notification_scripted :
    ∃ l, Machine.scripted.launcher.Runs (.start Machine.scripted.store)
        (Machine.launchMoves 7 ++ Machine.waitMoves 7 (.ofExit 5)) l ∧
      l.stub.ending? = some (.observed (.exited 5)) ∧ l.target = .ended 7 (.ofExit 5) ∧
      l.store.files = Machine.scripted.store.files ∧
      l.store.files.isThere Machine.scripted.launcher.queue = false := by
  have hlaunch : (Machine.scripted.launchSession ⟨Bytes.ofText "/t", [], .sanitize []⟩).answer =
      .ok (.session 7 (.ofExit 5) Machine.scripted.launcher.queue) := by decide
  obtain ⟨-, -, hlaunched⟩ := Machine.runs_launchSession hlaunch
  obtain ⟨-, hwaited⟩ := Machine.runs_wait (.ofExit 5) (Kept.of_runs hlaunched)
  have hruns := hlaunched.trans hwaited
  obtain ⟨-, -, -, -, hdone⟩ := notification hruns
  obtain ⟨hfiles, hgone⟩ := hdone _ rfl
  exact ⟨_, hruns, by decide, rfl, hfiles, hgone .created (by decide) rfl⟩

end LaunchStub
