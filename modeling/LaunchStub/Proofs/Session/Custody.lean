import LaunchStub.Proofs.Notification.Queues
import LaunchStub.Proofs.Session.Threads

/-!
# Where the child is

At any time of a session launch the child is in one place: nowhere yet, with the stub, on its way to
the monitor, with the monitor, or ended and posted. All that can be said about the queue follows
from that place.

## The model

`Standing` lists how stub, monitor, channel and target can stand to each other. `Launch.pipe` is the
pipe that goes with each standing: its read end is open until the stub drops the queue, its write
end until the monitor drops the poster, and it holds the element that was written and not yet read.

## What is proved

* `Stub.Kept.read_eq` — a stub that reads meets the element of its own target, or none yet.
* `Stub.Kept.step` — no step of any party leads out of the list, and every step keeps the pipe that
  goes with it, and the files as they were but for the name of the queue.
* `Stub.Kept.of_runs` — so all of this holds at any time of a launch.
-/

namespace LaunchStub

/-! ### Parts of a state -/

/-- How the stub's part ends, once that is decided. -/
def StubPhase.ending? : StubPhase → Option Ending
  | .closing how | .finished how => some how
  | _ => none

theorem StubPhase.ending?_eq_some {stub : StubPhase} {how : Ending} (h : stub.ending? = some how) :
    stub = .closing how ∨ stub = .finished how := by
  cases stub with
  | closing how' => exact .inl (by rw [Option.some.inj h])
  | finished how' => exact .inr (by rw [Option.some.inj h])
  | _ => cases h

/-- Why the launch fails, once that is decided. -/
def StubPhase.failure? : StubPhase → Option LaunchError
  | .returning (.error e) => some (.start e)
  | .closing (.refused e) | .finished (.refused e) => some e
  | _ => none

/-- Is it decided whether the monitor gets a child? -/
def StubPhase.isDecided : StubPhase → Bool
  | .returning _ | .holding _ | .closing _ | .finished _ => true
  | _ => false

theorem StubPhase.isDecided_of_failure? {stub : StubPhase} (h : stub.failure?.isSome) :
    stub.isDecided := by
  cases stub with
  | returning | closing | finished => rfl
  | _ => cases h

theorem StubPhase.decided_of_observed {stub : StubPhase} {raw : RawTermination}
    (h : stub.ending? = some (.observed raw)) : stub.isDecided ∧ stub.failure? = none := by
  obtain rfl | rfl := ending?_eq_some h <;> exact ⟨rfl, rfl⟩

/-- Did the stub have a child, and read nothing of its end? -/
def Ending.isUnread : Ending → Bool
  | .lost _ | .letGo => true
  | .refused _ | .observed _ => false

/-- The stub has handed the child over, and has read nothing of its end. -/
inductive StubPhase.HandedOver (pid : UInt32) : StubPhase → Prop
  /-- It returns with the child. -/
  | returning : HandedOver pid (.returning (.ok pid))
  /-- It holds the child. -/
  | holding : HandedOver pid (.holding pid)
  /-- It drops the queue. -/
  | closing {how : Ending} : how.isUnread → HandedOver pid (.closing how)
  /-- It has dropped the queue. -/
  | finished {how : Ending} : how.isUnread → HandedOver pid (.finished how)

/-- Has the stub read the queue? -/
def StubPhase.hasRead : StubPhase → Bool
  | .closing (.observed _) | .finished (.observed _) => true
  | _ => false

/-- Is the stub done? -/
def StubPhase.isFinished : StubPhase → Bool
  | .finished _ => true
  | _ => false

/-- Has the stub got a queue, be it dropped by now? -/
def StubPhase.hasQueue : StubPhase → Bool
  | .creating | .finished (.refused (.queueCreate _ _)) => false
  | _ => true

theorem StubPhase.HandedOver.hasQueue {stub : StubPhase} {pid : UInt32} (h : stub.HandedOver pid) :
    stub.hasQueue := by
  cases h with
  | @finished how hunread => cases how <;> first | rfl | cases hunread
  | _ => rfl

theorem StubPhase.HandedOver.hasRead {stub : StubPhase} {pid : UInt32} (h : stub.HandedOver pid) :
    stub.hasRead = false := by
  cases h with
  | @closing how hunread | @finished how hunread => cases how <;> first | rfl | cases hunread
  | _ => rfl

theorem StubPhase.HandedOver.decided {stub : StubPhase} {pid : UInt32}
    (h : stub.HandedOver pid) : stub.isDecided ∧ stub.failure? = none := by
  cases h with
  | @closing how hunread | @finished how hunread =>
    cases how <;> first | exact ⟨rfl, rfl⟩ | cases hunread
  | _ => exact ⟨rfl, rfl⟩

theorem StubPhase.HandedOver.not_observed {stub : StubPhase} {pid : UInt32} {raw : RawTermination}
    (h : stub.HandedOver pid) : stub.ending? ≠ some (.observed raw) := by
  intro hobserved
  obtain rfl | rfl := ending?_eq_some hobserved <;> cases h <;> contradiction

/-- How the monitor's part ends, once that is decided. -/
def MonitorPhase.end? : MonitorPhase → Option MonitorEnd
  | .leaving how | .ended how => some how
  | _ => none

theorem MonitorPhase.end?_eq_some {monitor : MonitorPhase} {how : MonitorEnd}
    (h : monitor.end? = some how) : monitor = .leaving how ∨ monitor = .ended how := by
  cases monitor with
  | leaving how' => exact .inl (by rw [Option.some.inj h])
  | ended how' => exact .inr (by rw [Option.some.inj h])
  | _ => cases h

/-- The element that the monitor has written. -/
def MonitorPhase.posted? (monitor : MonitorPhase) : Option UInt32 :=
  match monitor.end? with
  | some (.posted element) => some element
  | _ => none

/-- The process id of the target. -/
def TargetPhase.pid? : TargetPhase → Option UInt32
  | .absent => none
  | .running pid | .ended pid _ => some pid

/-- The status that the target has ended with. -/
def TargetPhase.status? : TargetPhase → Option WaitStatus
  | .ended _ status => some status
  | _ => none

/-- What is observed of a status through the queue. -/
def WaitStatus.announced (status : WaitStatus) : RawTermination :=
  .exited status.sessionResult.toNat

/-- Has somebody got the poster? The stub starts the monitor with it. -/
def Launch.holdsPoster (l : Launch) : Bool :=
  match l.monitor with
  | .absent => l.stub = .starting
  | .ended _ => false
  | _ => true

/-- The pipe that goes with a state. -/
def Launch.pipe (l : Launch) : Pipe where
  pending := if l.stub.hasRead then [] else (l.monitor.posted?.map Bytes.ofWord).getD []
  reader := !l.stub.isFinished
  writer := l.holdsPoster

/-- How the parties stand to each other. -/
inductive Standing : Launch → Prop
  /-- There is no monitor, and no child. -/
  | unwatched {stub store} :
      stub = .creating ∨ stub = .starting ∨ stub.failure?.isSome →
        Standing ⟨stub, .absent, none, .absent, store⟩
  /-- The monitor waits for a child that has not been started. -/
  | listening {stub store} : stub = .spawning ∨ stub.failure?.isSome →
      Standing ⟨stub, .receiving, none, .absent, store⟩
  /-- The monitor has learned that no child will come. -/
  | deserted {stub monitor store} : stub.failure?.isSome → stub.holdsSender = false →
      monitor.end? = some .idle → Standing ⟨stub, monitor, none, .absent, store⟩
  /-- The stub has the child. -/
  | started {target pid store} : target.pid? = some pid →
      Standing ⟨.handingOver pid, .receiving, none, target, store⟩
  /-- The child is on its way to the monitor. -/
  | inFlight {stub target pid store} : stub.HandedOver pid → target.pid? = some pid →
      Standing ⟨stub, .receiving, some pid, target, store⟩
  /-- The monitor waits for the end of the child. -/
  | waiting {stub target pid store} : stub.HandedOver pid → target.pid? = some pid →
      Standing ⟨stub, .waiting pid, none, target, store⟩
  /-- The monitor knows the end of the child. -/
  | posting {stub pid status store} : stub.HandedOver pid →
      Standing ⟨stub, .posting pid status, none, .ended pid status, store⟩
  /-- The end of the child is posted. -/
  | posted {stub monitor pid status store} :
      stub.HandedOver pid ∨ stub.ending? = some (.observed status.announced) →
      monitor.end? = some (.posted (Element.pack status.sessionResult pid)) →
        Standing ⟨stub, monitor, none, .ended pid status, store⟩
  /-- The end of the child could not be posted, as the stub was done before. -/
  | unheard {stub monitor pid status store e} : stub.HandedOver pid → stub.isFinished →
      monitor.end? = some (.unheard e) → Standing ⟨stub, monitor, none, .ended pid status, store⟩

/-- What holds at any time of a launch that began with the store `start`. -/
structure Stub.Kept (s : Stub) (start : QueueStore) (l : Launch) : Prop where
  /-- The parties stand to each other in one of the ways. -/
  standing : Standing l
  /-- The pipe of the queue is the one that goes with the state. -/
  pipe : l.stub.hasQueue → l.store.pipeOf s.queue = l.pipe
  /-- As long as there is a queue, only its name was added to the files. -/
  named : l.stub.hasQueue → l.stub.isFinished = false →
    l.store.filesWithout s.queue = start.files
  /-- Before and after that the files are as they were. -/
  restored : l.stub = .creating ∨ l.stub.isFinished → l.store.files = start.files

namespace Standing

variable {stub stub' : StubPhase} {monitor : MonitorPhase} {inFlight : Option UInt32}
  {target : TargetPhase} {store store' : QueueStore}

/-- Before the stub has tried to start the target there is no child, and the monitor is there
exactly if the stub has started it. -/
theorem of_unstarted (h : Standing ⟨stub, monitor, inFlight, target, store⟩)
    (hstub : stub = .creating ∨ stub = .starting ∨ stub = .spawning) :
    monitor = (if stub = .spawning then .receiving else .absent) ∧ inFlight = none ∧
      target = .absent := by
  have hundecided : ¬ stub.isDecided := by
    rcases hstub with rfl | rfl | rfl <;> exact Bool.false_ne_true
  cases h with
  | unwatched h =>
    obtain rfl | rfl | h := h
    · exact ⟨rfl, rfl, rfl⟩
    · exact ⟨rfl, rfl, rfl⟩
    · exact absurd (StubPhase.isDecided_of_failure? h) hundecided
  | listening h =>
    obtain rfl | h := h
    · exact ⟨rfl, rfl, rfl⟩
    · exact absurd (StubPhase.isDecided_of_failure? h) hundecided
  | deserted h => exact absurd (StubPhase.isDecided_of_failure? h) hundecided
  | started => rcases hstub with h | h | h <;> cases h
  | inFlight h | waiting h | posting h | unheard h =>
    exact absurd h.decided.1 hundecided
  | posted h =>
    obtain h | h := h
    · exact absurd h.decided.1 hundecided
    · exact absurd (StubPhase.decided_of_observed h).1 hundecided

theorem of_handingOver {pid : UInt32}
    (h : Standing ⟨.handingOver pid, monitor, inFlight, target, store⟩) :
    monitor = .receiving ∧ target.pid? = some pid := by
  cases h with
  | started ht => exact ⟨rfl, ht⟩
  | unwatched h => rcases h with h | h | h <;> cases h
  | listening h => rcases h with h | h <;> cases h
  | deserted h | inFlight h | waiting h | posting h | unheard h => cases h
  | posted h => rcases h with h | h <;> cases h

/-- A launch that fails has no child, and the monitor can only have given up. -/
theorem of_failure (h : Standing ⟨stub, monitor, inFlight, target, store⟩)
    (hstub : stub.failure?.isSome) :
    inFlight = none ∧ target = .absent ∧ (monitor = .absent ∨ monitor = .receiving ∨
      (monitor.end? = some .idle ∧ stub.holdsSender = false)) := by
  have hfailure : stub.failure? ≠ none := Option.isSome_iff_ne_none.mp hstub
  cases h with
  | unwatched => exact ⟨rfl, rfl, .inl rfl⟩
  | listening => exact ⟨rfl, rfl, .inr (.inl rfl)⟩
  | deserted _ hsender hend => exact ⟨rfl, rfl, .inr (.inr ⟨hend, hsender⟩)⟩
  | started => cases hstub
  | inFlight h | waiting h | posting h | unheard h => exact absurd h.decided.2 hfailure
  | posted h =>
    obtain h | h := h
    · exact absurd h.decided.2 hfailure
    · exact absurd (StubPhase.decided_of_observed h).2 hfailure

/-- What is observed is how the target ended. -/
theorem of_observed {raw : RawTermination}
    (h : Standing ⟨stub, monitor, inFlight, target, store⟩)
    (hstub : stub.ending? = some (.observed raw)) :
    ∃ pid status, target = .ended pid status ∧ raw = status.announced := by
  have hfailure : ¬ stub.failure?.isSome := by
    rw [(StubPhase.decided_of_observed hstub).2]
    exact Bool.false_ne_true
  cases h with
  | unwatched h =>
    obtain rfl | rfl | h := h
    · cases hstub
    · cases hstub
    · exact absurd h hfailure
  | listening h =>
    obtain rfl | h := h
    · cases hstub
    · exact absurd h hfailure
  | deserted h => exact absurd h hfailure
  | started => cases hstub
  | inFlight h | waiting h | posting h | unheard h => exact absurd hstub h.not_observed
  | posted h =>
    obtain h | h := h
    · exact absurd hstub h.not_observed
    · rw [hstub] at h
      exact ⟨_, _, rfl, Ending.observed.inj (Option.some.inj h)⟩

/-- While the stub holds the child, the child is on its way to the monitor, with the monitor, or
posted. -/
theorem of_holding {pid : UInt32} (h : Standing ⟨.holding pid, monitor, inFlight, target, store⟩) :
    (inFlight = some pid ∧ monitor = .receiving) ∨
      (inFlight = none ∧ monitor = .waiting pid ∧ target.pid? = some pid) ∨
      (inFlight = none ∧ ∃ status, target = .ended pid status ∧ (monitor = .posting pid status ∨
        monitor.end? = some (.posted (Element.pack status.sessionResult pid)))) := by
  cases h with
  | unwatched h => rcases h with h | h | h <;> cases h
  | listening h => rcases h with h | h <;> cases h
  | deserted h => cases h
  | inFlight h =>
    cases h
    exact .inl ⟨rfl, rfl⟩
  | waiting h ht =>
    cases h
    exact .inr (.inl ⟨rfl, rfl, ht⟩)
  | posting h =>
    cases h
    exact .inr (.inr ⟨rfl, _, rfl, .inl rfl⟩)
  | posted h hend =>
    obtain h | h := h
    · cases h
      exact .inr (.inr ⟨rfl, _, rfl, .inr hend⟩)
    · cases h
  | unheard _ hfinished => cases hfinished

/-- Once it is decided whether there is a child, the stub can go on without anybody noticing, as
long as it forgets nothing. -/
theorem follow (h : Standing ⟨stub, monitor, inFlight, target, store⟩)
    (hdecided : stub.isDecided) (hfailure : stub.failure?.isSome → stub'.failure?.isSome)
    (hsender : stub.holdsSender = false → stub'.holdsSender = false)
    (hpid : ∀ pid, stub.HandedOver pid → stub'.HandedOver pid)
    (hobserved : ∀ raw, stub.ending? = some (.observed raw) → stub'.ending? = some (.observed raw))
    (hfinished : stub.isFinished → stub'.isFinished) :
    Standing ⟨stub', monitor, inFlight, target, store'⟩ := by
  cases h with
  | unwatched h =>
    obtain rfl | rfl | h := h
    · cases hdecided
    · cases hdecided
    · exact .unwatched (.inr (.inr (hfailure h)))
  | listening h =>
    obtain rfl | h := h
    · cases hdecided
    · exact .listening (.inr (hfailure h))
  | deserted h hsender' hend => exact .deserted (hfailure h) (hsender hsender') hend
  | started => cases hdecided
  | inFlight h ht => exact .inFlight (hpid _ h) ht
  | waiting h ht => exact .waiting (hpid _ h) ht
  | posting h => exact .posting (hpid _ h)
  | posted h hend => exact .posted (h.imp (hpid _) (hobserved _)) hend
  | unheard h hfinished' hend => exact .unheard (hpid _ h) (hfinished hfinished') hend

end Standing

namespace Stub

variable {s : Stub} {start : QueueStore} {l l' : Launch} {move : Move} {pid : UInt32}
  {monitor : MonitorPhase} {inFlight : Option UInt32} {target : TargetPhase}
  {store store' : QueueStore}

/-- A stub that reads meets the element of its target, or none yet. -/
theorem Kept.read_eq (h : s.Kept start ⟨.holding pid, monitor, inFlight, target, store⟩) :
    store.read s.queue = (.waits, store) ∨
      ∃ status, target = .ended pid status ∧ inFlight = none ∧
        monitor.end? = some (.posted (Element.pack status.sessionResult pid)) ∧
        store.read s.queue = (.element (Element.pack status.sessionResult pid),
          store.setPipe s.queue
            { Launch.pipe ⟨.holding pid, monitor, inFlight, target, store⟩ with
              pending := [] }) := by
  have hpipe := h.pipe rfl
  obtain ⟨rfl, rfl⟩ | ⟨rfl, rfl, -⟩ | ⟨rfl, status, rfl, rfl | hend⟩ := h.standing.of_holding
  · exact .inl (QueueStore.read_of_writer hpipe)
  · exact .inl (QueueStore.read_of_writer hpipe)
  · exact .inl (QueueStore.read_of_writer hpipe)
  · obtain rfl | rfl := MonitorPhase.end?_eq_some hend
    · exact .inr ⟨status, rfl, rfl, rfl, QueueStore.read_of_pending hpipe⟩
    · exact .inr ⟨status, rfl, rfl, rfl, QueueStore.read_of_pending hpipe⟩

/-- No reader meets the end of the data. -/
theorem Kept.not_ended (h : s.Kept start ⟨.holding pid, monitor, inFlight, target, store⟩)
    {e : IoError} : store.read s.queue ≠ (.failed e, store') := by
  intro hread
  obtain hread' | ⟨status, -, -, -, hread'⟩ := h.read_eq <;> rw [hread'] at hread <;> cases hread

theorem kept_start (s : Stub) (start : QueueStore) : s.Kept start (.start start) where
  standing := .unwatched (.inl rfl)
  pipe := nofun
  named := nofun
  restored _ := rfl

/-! ### Steps of the stub -/

/-- What creating a queue does, whether its ends are then kept open or not. -/
theorem Kept.create_eq_ok (h : s.Kept start ⟨.creating, monitor, inFlight, target, store⟩)
    (hcreate : store.create s.dir s.owner = (.ok s.queue, store')) :
    store'.filesWithout s.queue = start.files ∧ store'.pipeOf s.queue = {} ∧
      monitor = .absent ∧ inFlight = none ∧ target = .absent := by
  obtain ⟨-, -, hfiles, hpipe⟩ := QueueStore.create_eq_ok hcreate
  exact ⟨hfiles.trans (h.restored (.inl rfl)), hpipe, h.standing.of_unstarted (.inl rfl)⟩

-- Most steps leave the store alone, and the pipe that goes with the state as well: there the old
-- facts about the store are the new ones. The child moves in none but `spawned` and `handedOver`.
theorem Kept.stubStep (h : s.Kept start l) (hstep : s.StubStep l move l') : s.Kept start l' := by
  cases hstep with
  | created hcreate =>
    obtain ⟨hfiles, hpipe, rfl, rfl, rfl⟩ := h.create_eq_ok hcreate
    exact ⟨.unwatched (.inr (.inl rfl)), fun _ => hpipe, fun _ _ => hfiles, nofun⟩
  | createFailed hcreate | openFailed _ hcreate =>
    obtain rfl := QueueStore.create_eq_error hcreate
    obtain ⟨rfl, rfl, rfl⟩ := h.standing.of_unstarted (.inl rfl)
    exact ⟨.unwatched (.inr (.inr rfl)), nofun, nofun, fun _ => h.restored (.inl rfl)⟩
  | monitorStarted =>
    obtain ⟨-, rfl, rfl⟩ := h.standing.of_unstarted (.inr (.inl rfl))
    exact ⟨.listening (.inl rfl), fun _ => h.pipe rfl, fun _ => h.named rfl, nofun⟩
  | monitorFailed =>
    obtain ⟨rfl, rfl, rfl⟩ := h.standing.of_unstarted (.inr (.inl rfl))
    refine ⟨.unwatched (.inr (.inr rfl)), fun _ => ?_, fun _ _ => ?_, nofun⟩
    · rw [QueueStore.pipeOf_dropPoster, h.pipe rfl]
      rfl
    · rw [QueueStore.filesWithout_dropPoster, h.named rfl rfl]
  | spawned =>
    obtain ⟨rfl, rfl, -⟩ := h.standing.of_unstarted (.inr (.inr rfl))
    exact ⟨.started rfl, fun _ => h.pipe rfl, fun _ => h.named rfl, nofun⟩
  | spawnFailed =>
    obtain ⟨rfl, rfl, rfl⟩ := h.standing.of_unstarted (.inr (.inr rfl))
    exact ⟨.listening (.inr rfl), fun _ => h.pipe rfl, fun _ => h.named rfl, nofun⟩
  | handedOver =>
    obtain ⟨rfl, hpid⟩ := h.standing.of_handingOver
    exact ⟨.inFlight .returning hpid, fun _ => h.pipe rfl, fun _ => h.named rfl, nofun⟩
  | returned =>
    refine ⟨h.standing.follow rfl nofun (fun _ => rfl) (fun _ hpid => ?_) nofun nofun,
      fun _ => h.pipe rfl, fun _ => h.named rfl, nofun⟩
    cases hpid
    exact .holding
  | refused =>
    exact ⟨h.standing.follow rfl (fun _ => rfl) (fun _ => rfl) nofun nofun nofun,
      fun _ => h.pipe rfl, fun _ => h.named rfl, nofun⟩
  | read hread =>
    obtain hwaits | ⟨status, rfl, rfl, hend, hread'⟩ := h.read_eq
    · rw [hwaits] at hread
      cases hread
    · rw [hread'] at hread
      obtain ⟨helement, rfl⟩ := Prod.mk.inj hread
      obtain rfl := QueueRead.element.inj helement
      -- What was read is the result in the element, and the pipe is empty again.
      refine ⟨.posted (.inr ?_) hend, fun _ => ?_, fun _ _ => ?_, nofun⟩
      · rw [Element.result_pack]
        rfl
      · rw [QueueStore.pipeOf_setPipe]
        rfl
      · rw [QueueStore.filesWithout_setPipe, h.named rfl rfl]
  | readEnded hread => exact absurd hread h.not_ended
  | readBroken =>
    exact ⟨h.standing.follow rfl nofun (fun _ => rfl) (fun _ _ => .closing rfl) nofun nofun,
      fun _ => h.pipe rfl, fun _ => h.named rfl, nofun⟩
  | childDropped =>
    exact ⟨h.standing.follow rfl nofun (fun _ => rfl) (fun _ _ => .closing rfl) nofun nofun,
      fun _ => h.pipe rfl, fun _ => h.named rfl, nofun⟩
  | @queueDropped _ _ _ _ how =>
    refine ⟨h.standing.follow rfl ?_ (fun _ => rfl) ?_ (fun _ => id) nofun, fun _ => ?_, nofun,
      fun _ => ?_⟩
    · cases how <;> exact id
    · rintro pid ⟨⟩
      exact .finished ‹_›
    · rw [QueueStore.pipeOf_dropQueue, h.pipe rfl]
      cases how <;> rfl
    · rw [QueueStore.files_dropQueue, h.named rfl rfl]
      rw [h.pipe rfl]
      rfl

/-! ### Steps of the monitor and of the target -/

theorem Kept.monitorStep (h : s.Kept start l) (hstep : s.MonitorStep l move l') :
    s.Kept start l' := by
  obtain ⟨hstanding, hpipe, hnamed, hrestored⟩ := h
  cases hstep with
  | received =>
    refine ⟨?_, hpipe, hnamed, hrestored⟩
    cases hstanding with
    | inFlight h ht => exact .waiting h ht
  | gaveUp hsender =>
    refine ⟨?_, hpipe, hnamed, hrestored⟩
    cases hstanding with
    | listening h =>
      obtain rfl | h := h
      · cases hsender
      · exact .deserted h hsender rfl
    | started => cases hsender
    | deserted _ _ hend | posted _ hend | unheard _ _ hend => cases hend
  | waited =>
    refine ⟨?_, hpipe, hnamed, hrestored⟩
    cases hstanding with
    | waiting h _ => exact .posting h
    | posted _ hend | unheard _ _ hend => cases hend
  | wrote hwrite =>
    cases hstanding with
    | posting h =>
      refine ⟨.posted (.inl h) rfl, fun hqueue => ?_, fun hqueue hfinished => ?_, hrestored⟩
      · rw [hpipe hqueue, Pipe.write] at hwrite
        split at hwrite
        · obtain rfl := Except.ok.inj hwrite
          rw [QueueStore.pipeOf_setPipe]
          simp [Launch.pipe, Launch.holdsPoster, MonitorPhase.posted?, MonitorPhase.end?, h.hasRead]
        · contradiction
      · rw [QueueStore.filesWithout_setPipe, hnamed hqueue hfinished]
    | deserted _ _ hend | posted _ hend | unheard _ _ hend => cases hend
  | writeFailed hwrite =>
    cases hstanding with
    | posting h =>
      refine ⟨.unheard h ?_ rfl, hpipe, hnamed, hrestored⟩
      -- A write fails only if the read end is closed, and only a stub that is done has closed it.
      rw [hpipe h.hasQueue, Pipe.write] at hwrite
      split at hwrite
      · contradiction
      · rename_i hreader
        simpa [Launch.pipe] using hreader
    | deserted _ _ hend | posted _ hend | unheard _ _ hend => cases hend
  | posterDropped =>
    refine ⟨?_, fun hqueue => ?_, fun hqueue hfinished => ?_, fun h => ?_⟩
    · cases hstanding with
      | deserted h hsender hend => exact .deserted h hsender hend
      | posted h hend => exact .posted h hend
      | unheard h hfinished hend => exact .unheard h hfinished hend
    · rw [QueueStore.pipeOf_dropPoster, hpipe hqueue]
      rfl
    · rw [QueueStore.filesWithout_dropPoster, hnamed hqueue hfinished]
    · rw [QueueStore.files_dropPoster, hrestored h]

theorem Kept.targetStep (h : s.Kept start l) (hstep : TargetStep l move l') : s.Kept start l' := by
  obtain ⟨hstanding, hpipe, hnamed, hrestored⟩ := h
  cases hstep with
  | ended =>
    refine ⟨?_, hpipe, hnamed, hrestored⟩
    cases hstanding with
    | started ht => exact .started ht
    | inFlight h ht => exact .inFlight h ht
    | waiting h ht => exact .waiting h ht

theorem Kept.step (h : s.Kept start l) (hstep : s.Step l move l') : s.Kept start l' := by
  cases hstep with
  | stub hstep => exact h.stubStep hstep
  | monitor hstep => exact h.monitorStep hstep
  | target hstep => exact h.targetStep hstep

theorem Kept.of_runs {moves : List Move} (h : s.Runs (.start start) moves l) : s.Kept start l := by
  induction h with
  | nil => exact kept_start s start
  | snoc _ hstep ih => exact ih.step hstep

end Stub

end LaunchStub
