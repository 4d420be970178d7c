import LaunchStub.Machine
import LaunchStub.Proofs.Session.Custody

/-!
# Sessions of the machine

The machine runs a session launch as one party: its operations do all that the stub, the monitor and
the target do up to a point, in an order of their own. That order is one of those in which the
threads can take their turns, so what holds of every run of the threads holds of the machine.

## What is proved

* `Machine.runs_launchSession`, `Machine.runs_launchSession_error` — launching is a run of the
  threads, up to the child or to the end.
* `Machine.runs_wait` — so is awaiting a session, which gives what the queue announces.
* `Machine.runs_release` — so is letting go of a session.
* `Machine.session_restores` — so a session on the machine leaves nothing behind.
-/

namespace LaunchStub

namespace Stub

variable {s : Stub} {l m n : Launch} {moves moves' : List Move} {move : Move}

theorem Runs.trans (h : s.Runs l moves m) (h' : s.Runs m moves' n) :
    s.Runs l (moves ++ moves') n := by
  induction h' with
  | nil =>
    rw [List.append_nil]
    exact h
  | snoc _ hstep ih =>
    rw [← List.append_assoc]
    exact .snoc ih hstep

theorem Runs.cons (hstep : s.Step l move m) (h : s.Runs m moves n) :
    s.Runs l (move :: moves) n :=
  Runs.trans (.snoc .nil hstep) h

end Stub

namespace Machine

variable {m m' : Machine} {request : LaunchRequest}

/-- The stub of a machine. -/
def launcher (m : Machine) : Stub := ⟨m.queueDir, m.stub⟩

/-- Starting a program changes no file and no queue. -/
theorem startProgram_eq_ok {command : Command} {status : WaitStatus}
    (h : m.startProgram command = .ok (status, m')) :
    m'.store = m.store ∧ m'.child = m.child := by
  rw [startProgram] at h
  split at h
  · contradiction
  · have hpair := Except.ok.inj h
    split at hpair <;> obtain ⟨-, rfl⟩ := Prod.mk.inj hpair <;> exact ⟨rfl, rfl⟩

/-- The queue that the machine creates is the one of its stub. -/
theorem create_eq {path : Bytes} {store : QueueStore}
    (h : m.store.create m.queueDir m.stub = (.ok path, store)) :
    m.store.create m.launcher.dir m.launcher.owner = (.ok m.launcher.queue, store) := by
  rw [show m.store.create m.launcher.dir m.launcher.owner = _ from h,
    (QueueStore.create_eq_ok h).1]
  rfl

/-- The steps of a launch, up to the stub with the child. -/
def launchMoves (pid : UInt32) : List Move :=
  [.created, .monitorStarted, .spawned pid, .handedOver pid, .senderDropped]

/-- The steps from there when a session is awaited. -/
def waitMoves (pid : UInt32) (status : WaitStatus) : List Move :=
  let element := Element.pack status.sessionResult pid
  [.received pid, .targetEnded status, .waited status, .wrote element, .posterDropped,
    .read element, .queueDropped]

/-- A session that is launched is one whose stub holds the child, with the child on its way to the
monitor. -/
theorem runs_launchSession {child : MachineChild}
    (h : (m.launchSession request).answer = .ok child) :
    ∃ status, child = .session m.child status m.launcher.queue ∧
      m.launcher.Runs (.start m.store) (launchMoves m.child)
        ⟨.holding m.child, .receiving, some m.child, .running m.child,
          (m.launchSession request).state.store⟩ := by
  rcases hcreate : m.store.create m.queueDir m.stub with ⟨e | path, store⟩
  · simp only [launchSession, hcreate] at h
    contradiction
  · have hqueue := create_eq hcreate
    obtain rfl := (QueueStore.create_eq_ok hcreate).1
    rcases hstart : startProgram { m with store := store } (SessionStart.onConsole request).command
      with e | ⟨status, m'⟩
    · simp only [launchSession, hcreate, hstart] at h
      contradiction
    · obtain ⟨hstore, hchild⟩ := startProgram_eq_ok hstart
      simp only [launchSession, hcreate, hstart] at h ⊢
      simp only at hstore hchild
      rw [hchild] at h
      rw [hstore]
      exact ⟨status, (Except.ok.inj h).symm, .cons (.stub (.created hqueue))
        (.cons (.stub .monitorStarted) (.cons (.stub .spawned) (.cons (.stub .handedOver)
          (.cons (.stub .returned) .nil))))⟩

/-- A session that is not launched is one whose stub is done. -/
theorem runs_launchSession_error {e : LaunchError}
    (h : (m.launchSession request).answer = .error e) :
    ∃ moves monitor, m.launcher.Runs (.start m.store) moves ⟨.finished (.refused e), monitor, none,
      .absent, (m.launchSession request).state.store⟩ := by
  rcases hcreate : m.store.create m.queueDir m.stub with ⟨cause | path, store⟩
  · simp only [launchSession, hcreate] at h ⊢
    obtain rfl := Except.error.inj h
    obtain rfl := QueueStore.create_eq_error hcreate
    exact ⟨_, _, .cons (.stub (.createFailed hcreate)) .nil⟩
  · have hqueue := create_eq hcreate
    obtain rfl := (QueueStore.create_eq_ok hcreate).1
    rcases hstart : startProgram { m with store := store } (SessionStart.onConsole request).command
      with cause | ⟨status, m'⟩
    · simp only [launchSession, hcreate, hstart] at h ⊢
      obtain rfl := Except.error.inj h
      exact ⟨_, _, .cons (.stub (.created hqueue)) (.cons (.stub .monitorStarted)
        (.cons (.stub .spawnFailed) (.cons (.stub .refused) (.cons (.monitor (.gaveUp rfl))
          (.cons (.monitor .posterDropped) (.cons (.stub .queueDropped) .nil))))))⟩
    · simp only [launchSession, hcreate, hstart] at h
      contradiction

/-- Awaiting a session gives what the status of its child is announced as, and takes all the steps
that are left. -/
theorem runs_wait {s : Stub} {start : QueueStore} {pid : UInt32} (status : WaitStatus)
    (h : s.Kept start ⟨.holding pid, .receiving, some pid, .running pid, m.store⟩) :
    (m.wait (.session pid status s.queue)).answer = .ok status.announced ∧
      s.Runs ⟨.holding pid, .receiving, some pid, .running pid, m.store⟩ (waitMoves pid status)
        ⟨.finished (.observed status.announced),
          .ended (.posted (Element.pack status.sessionResult pid)), none, .ended pid status,
          (m.wait (.session pid status s.queue)).state.store⟩ := by
  have hpipe : m.store.pipeOf s.queue = ⟨[], true, true⟩ := h.pipe rfl
  have hwrite : (m.store.pipeOf s.queue).write
      (Bytes.ofWord (Element.pack status.sessionResult pid)) =
        .ok ⟨Bytes.ofWord (Element.pack status.sessionResult pid), true, true⟩ := by
    rw [hpipe]
    rfl
  have hpost := QueueStore.post_eq (by rw [hpipe]) (Element.pack status.sessionResult pid)
  rw [hwrite] at hpost
  have hread := QueueStore.read_of_pending ((QueueStore.pipeOf_dropPoster _ s.queue).trans
    (congrArg Pipe.closeWriter (QueueStore.pipeOf_setPipe m.store s.queue
      ⟨Bytes.ofWord (Element.pack status.sessionResult pid), true, true⟩)))
  have hresult : .exited (Element.result (Element.pack status.sessionResult pid)).toNat =
      status.announced := by
    rw [Element.result_pack]
    rfl
  simp only [wait, hpost, hread, ← hresult, true_and]
  exact .cons (.monitor .received) (.cons (.target .ended) (.cons (.monitor .waited)
    (.cons (.monitor (.wrote hwrite)) (.cons (.monitor .posterDropped)
      (.cons (.stub (.read hread)) (.cons (.stub .queueDropped) .nil))))))

/-- Letting go of a session leaves its monitor nobody to tell the end of the child to, whatever that
will be. -/
theorem runs_release {s : Stub} {start : QueueStore} {pid : UInt32} (status : WaitStatus)
    (h : s.Kept start ⟨.holding pid, .receiving, some pid, .running pid, m.store⟩) :
    ∃ moves e, s.Runs ⟨.holding pid, .receiving, some pid, .running pid, m.store⟩ moves
      ⟨.finished .letGo, .ended (.unheard e), none, .ended pid status,
        (m.release (.session pid status s.queue)).state.store⟩ := by
  have hpipe : m.store.pipeOf s.queue = ⟨[], true, true⟩ := h.pipe rfl
  have hwrite : ((m.store.dropQueue s.queue).pipeOf s.queue).write
      (Bytes.ofWord (Element.pack status.sessionResult pid)) = .error (.os Errno.brokenPipe) := by
    rw [QueueStore.pipeOf_dropQueue, hpipe]
    rfl
  exact ⟨_, _, .cons (.stub .childDropped) (.cons (.stub .queueDropped)
    (.cons (.monitor .received) (.cons (.target .ended) (.cons (.monitor .waited)
      (.cons (.monitor (.writeFailed hwrite)) (.cons (.monitor .posterDropped) .nil))))))⟩

/-- **A session on the machine** leaves nothing behind: if it cannot be launched the files are as
they were before, and so they are once its end was awaited, which gives the status of its own child,
or it was let go of. -/
theorem session_restores (m : Machine) (request : LaunchRequest) :
    let launched := m.launchSession request
    (∀ e, launched.answer = .error e → launched.state.store.files = m.store.files) ∧
    ∀ child, launched.answer = .ok child →
      (∃ status, child = .session m.child status m.launcher.queue ∧
        (launched.state.wait child).answer = .ok status.announced) ∧
      (launched.state.wait child).state.store.files = m.store.files ∧
      (launched.state.release child).state.store.files = m.store.files := by
  intro launched
  constructor
  · intro e h
    obtain ⟨moves, monitor, hruns⟩ := runs_launchSession_error h
    exact (Stub.Kept.of_runs hruns).restored (.inr rfl)
  · intro child h
    obtain ⟨status, rfl, hlaunched⟩ := runs_launchSession h
    have hkept := Stub.Kept.of_runs hlaunched
    obtain ⟨hanswer, hwaited⟩ := runs_wait status hkept
    obtain ⟨moves, e, hreleased⟩ := runs_release status hkept
    exact ⟨⟨status, rfl, hanswer⟩,
      (Stub.Kept.of_runs (hlaunched.trans hwaited)).restored (.inr rfl),
      (Stub.Kept.of_runs (hlaunched.trans hreleased)).restored (.inr rfl)⟩

end Machine

end LaunchStub
