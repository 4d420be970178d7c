import LaunchStub.Proofs.Rehearsal.Course

/-!
# The first fault decides

A run is over with the first thing that goes wrong in it, and what would have come later cannot be
seen. Two rehearsals that go alike up to there look the same from outside, and so do two invocations
that differ in what a launch does not look at: the action, the controller's address, the
continuation and the name that the stub was called by.

## The model

`Rehearsal.SameFirstFault` has one case for each place at which a run can be over. A case names all
that two rehearsals must have in common for it, so whatever it does not name is free: the faults of
later stages, and the variables, the content, the process id and the status as far as no stage has
come to them. It is turned into a statement about courses (`Course.Alike`), and courses that are
alike are seen alike.
-/

namespace LaunchStub

/-- Two invocations that ask for the same launch. -/
structure Invocation.SameLaunch (i j : Invocation) : Prop where
  /-- In the same directory. -/
  workdir : i.workdir = j.workdir
  /-- Of the same program. -/
  target : i.target = j.target
  /-- With the same argument. -/
  targetArgs : i.targetArgs = j.targetArgs

/-! ### Courses that are seen alike -/

/-- Two preparations that the host cannot tell apart by what it is asked. -/
structure Preparation.Alike (p q : Preparation) : Prop where
  /-- The targets are started in the same way. -/
  strategy : p.type.strategy = q.type.strategy
  /-- The directives are the same. -/
  before : p.before = q.before
  /-- The child gets the same variables. -/
  after : p.after = q.after

theorem Preparation.Alike.calls_eq {p q : Preparation} {i j : Invocation} (h : p.Alike q)
    (hij : i.SameLaunch j) : p.calls i = q.calls j := by
  rw [calls, calls, h.strategy, h.before, h.after, hij.workdir, hij.target, hij.targetArgs]

/-- Two courses that are over at the same place with the same to show for it. -/
inductive Course.Alike : Course → Course → Prop where
  /-- At the working directory. -/
  | noWorkdir {cause : IoError} {told : Except ChannelError Unit} :
    Alike (.noWorkdir cause told) (.noWorkdir cause told)
  /-- At the kind of program. -/
  | noType {cause : IoError} {told : Except ChannelError Unit} :
    Alike (.noType cause told) (.noType cause told)
  /-- At the queue. -/
  | noQueue {p q : Preparation} {queue : Bytes} {cause : IoError} (hp : p.Alike q) :
    Alike (.noQueue p queue cause) (.noQueue q queue cause)
  /-- At the start. -/
  | noStart {p q : Preparation} {cause : IoError} {told : Except ChannelError Unit}
    (hp : p.Alike q) : Alike (.noStart p cause told) (.noStart q cause told)
  /-- At the process id, which nobody gets to see. -/
  | unannounced {p q : Preparation} {id id' : UInt32} {refusal : ChannelError} (hp : p.Alike q) :
    Alike (.unannounced p id refusal) (.unannounced q id' refusal)
  /-- At the wait. -/
  | lost {p q : Preparation} {id : UInt32} {cause : IoError} (hp : p.Alike q) :
    Alike (.lost p id cause) (.lost q id cause)
  /-- At the end of the target, which matters if the controller takes it. -/
  | ended {p q : Preparation} {id : UInt32} {raw raw' : RawTermination}
    {told : Except ChannelError Unit} (hp : p.Alike q)
    (hraw : told = .ok () → raw.classify = raw'.classify) :
    Alike (.ended p id raw told) (.ended q id raw' told)

/-- Courses that are alike are seen alike. -/
theorem Course.Alike.transcript_eq {c d : Course} {i j : Invocation} (h : c.Alike d)
    (hij : i.SameLaunch j) : c.transcript i = d.transcript j := by
  cases h with
  | noWorkdir => simp only [transcript, failure, calls, hij.workdir]
  | noType => simp only [transcript, failure, calls, hij.workdir, hij.target]
  | noQueue hp => simp only [transcript, exit, report, failure, refusal, calls, hp.calls_eq hij]
  | noStart hp =>
    simp only [transcript, exit, report, failure, refusal, calls, hp.strategy, hp.calls_eq hij]
  | unannounced hp => simp only [transcript, exit, report, failure, refusal, calls, hp.calls_eq hij]
  | lost hp => simp only [transcript, exit, report, failure, refusal, calls, hp.calls_eq hij]
  | @ended p q id raw raw' told hp hraw =>
    cases told with
    | ok _ =>
      simp only [transcript, exit, report, failure, refusal, calls, hp.calls_eq hij, hraw rfl]
    | error e => simp [transcript, exit, report, failure, refusal, calls, hp.calls_eq hij]

/-! ### Rehearsals with the same first fault -/

namespace Rehearsal

/-- A rehearsal that gets as far as the launch, of a target that is started in this way. -/
structure GetsToLaunch (strategy : Strategy) (r : Rehearsal) : Prop where
  /-- The working directory is entered. -/
  chdir : r.faults.chdir = none
  /-- The header is read. -/
  query : r.faults.query = none
  /-- It is one of a kind that is known. -/
  type : ∃ type, AppType.classify r.content = .ok type ∧ type.strategy = strategy

/-- A rehearsal that gets as far as the start: a session has got its queue. -/
structure GetsToStart (strategy : Strategy) (r : Rehearsal) : Prop
    extends r.GetsToLaunch strategy where
  /-- Without a session it does not matter what a queue would have come to. -/
  queue : strategy = .session → r.faults.queue = none

/-- A rehearsal that gets as far as the child. -/
structure GetsToChild (strategy : Strategy) (r : Rehearsal) : Prop
    extends r.GetsToStart strategy where
  /-- The target is started. -/
  start : r.faults.start = none

/-- Two rehearsals that have the same first fault, or none, before a controller that accepts this
many messages. -/
inductive SameFirstFault (limit : Option Nat) (x y : Rehearsal) : Prop where
  /-- The working directory. -/
  | chdir (e : IoError) (hx : x.faults.chdir = some e) (hy : y.faults.chdir = some e)
  /-- Finding out the kind of program. -/
  | query (e : IoError) (hx : x.faults.chdir = none) (hy : y.faults.chdir = none)
    (hxe : x.faults.query = some e) (hye : y.faults.query = some e)
  /-- A header that is of no known kind: neither is, and they need not be the same. -/
  | unrecognised (hx : x.faults.chdir = none) (hy : y.faults.chdir = none)
    (hxq : x.faults.query = none) (hyq : y.faults.query = none)
    (hxt : ∀ type, AppType.classify x.content ≠ .ok type)
    (hyt : ∀ type, AppType.classify y.content ≠ .ok type)
  /-- Creating the queue of a session. Its name has the process id in it. -/
  | queue (e : IoError) (hx : x.GetsToLaunch .session) (hy : y.GetsToLaunch .session)
    (henv : x.env = y.env) (hpid : x.pid = y.pid)
    (hxe : x.faults.queue = some e) (hye : y.faults.queue = some e)
  /-- Starting the target. -/
  | start (strategy : Strategy) (e : IoError)
    (hx : x.GetsToStart strategy) (hy : y.GetsToStart strategy) (henv : x.env = y.env)
    (hxe : x.faults.start = some e) (hye : y.faults.start = some e)
  /-- A controller that takes nothing, not even the process id. -/
  | deaf (strategy : Strategy) (hx : x.GetsToChild strategy) (hy : y.GetsToChild strategy)
    (henv : x.env = y.env) (hlimit : limit = some 0)
  /-- Awaiting the end. -/
  | wait (strategy : Strategy) (e : IoError)
    (hx : x.GetsToChild strategy) (hy : y.GetsToChild strategy) (henv : x.env = y.env)
    (hpid : x.pid = y.pid) (hxe : x.faults.wait = some e) (hye : y.faults.wait = some e)
  /-- Nothing but perhaps the controller, which may have stopped after the process id. If it has
  not, the ends must come to the same. -/
  | ended (strategy : Strategy) (hx : x.GetsToChild strategy) (hy : y.GetsToChild strategy)
    (henv : x.env = y.env) (hpid : x.pid = y.pid)
    (hxw : x.faults.wait = none) (hyw : y.faults.wait = none)
    (hend : limit = some 1 ∨ (observed strategy x.pid x.status).classify =
      (observed strategy y.pid y.status).classify)

section

variable {r x y : Rehearsal} {strategy : Strategy} {limit : Option Nat} {removal : Removal}
  {e : IoError}

theorem type_of_query (h : r.faults.query = some e) : r.type = .error e := by
  rw [type, h, unlessFault]

theorem type_of_unrecognised (hquery : r.faults.query = none)
    (h : ∀ type, AppType.classify r.content ≠ .ok type) :
    r.type = .error (.os Errno.badExecutable) := by
  rw [type, hquery, unlessFault]
  revert h
  rw [AppType.classify]
  split
  · exact fun h => absurd rfl (h _)
  · split
    · exact fun h => absurd rfl (h _)
    · exact fun _ => rfl

theorem preparation_alike {type type' : AppType} (henv : x.env = y.env)
    (hstrategy : type.strategy = type'.strategy) :
    (x.preparation removal type).Alike (y.preparation removal type') :=
  ⟨hstrategy, congrArg SteeredEnvironment.vars henv,
    congrArg (fun env => (env.extendAll (Directive.collect env.vars) removal).vars) henv⟩

theorem GetsToLaunch.type_eq (h : r.GetsToLaunch strategy) :
    ∃ type, r.type = .ok type ∧ type.strategy = strategy := by
  obtain ⟨type, htype, hstrategy⟩ := h.type
  refine ⟨type, ?_, hstrategy⟩
  rw [Rehearsal.type, h.query, unlessFault, htype]

theorem launched_of_queue (h : r.faults.queue = some e) :
    r.launched .session = .error (.queueCreate (queueName r.pid) e) := by
  simp only [launched, h]

theorem GetsToStart.launched_eq (h : r.GetsToStart strategy) : r.launched strategy =
    match r.faults.start with
      | some e => .error (.start e)
      | none => .ok ⟨strategy, r.pid⟩ := by
  cases strategy with
  | direct => cases hstart : r.faults.start <;> simp [launched, hstart]
  | session => cases hstart : r.faults.start <;> simp [launched, h.queue rfl, hstart]

theorem childCourse_alike_of_error {p q : Preparation} {id : UInt32} (hp : p.Alike q) :
    (childCourse limit p id (.error e)).Alike (childCourse limit q id (.error e)) := by
  cases htold : LimitedChannel.answerAt limit 0 with
  | ok _ =>
    rw [childCourse_of_lost htold, childCourse_of_lost htold]
    exact .lost hp
  | error refusal =>
    rw [childCourse_of_refused htold, childCourse_of_refused htold]
    exact .unannounced hp

theorem childCourse_alike_of_ok {p q : Preparation} {id : UInt32} {raw raw' : RawTermination}
    (hp : p.Alike q)
    (h : LimitedChannel.answerAt limit 1 = .ok () → raw.classify = raw'.classify) :
    (childCourse limit p id (.ok raw)).Alike (childCourse limit q id (.ok raw')) := by
  cases htold : LimitedChannel.answerAt limit 0 with
  | ok _ =>
    rw [childCourse_of_ended htold, childCourse_of_ended htold]
    exact .ended hp h
  | error refusal =>
    rw [childCourse_of_refused htold, childCourse_of_refused htold]
    exact .unannounced hp

/-- From the child on, the controller and the end of the child decide. -/
theorem courses_of_child (hx : x.GetsToChild strategy) (hy : y.GetsToChild strategy)
    (henv : x.env = y.env) (limit : Option Nat) (removal : Removal) :
    ∃ p q : Preparation, p.Alike q ∧
      x.course limit removal = childCourse limit p x.pid (x.ending strategy) ∧
      y.course limit removal = childCourse limit q y.pid (y.ending strategy) := by
  obtain ⟨type, htype, rfl⟩ := hx.type_eq
  obtain ⟨type', htype', hstrategy⟩ := hy.type_eq
  have hchild : x.launched type.strategy = .ok ⟨type.strategy, x.pid⟩ := by
    rw [hx.launched_eq, hx.start]
  have hchild' : y.launched type'.strategy = .ok ⟨type'.strategy, y.pid⟩ := by
    rw [hstrategy, hy.launched_eq, hy.start]
  refine ⟨_, _, preparation_alike henv hstrategy.symm, course_of_child hx.chdir htype hchild, ?_⟩
  rw [← hstrategy]
  exact course_of_child hy.chdir htype' hchild'

theorem SameFirstFault.course_alike (h : SameFirstFault limit x y) :
    (x.course limit removal).Alike (y.course limit removal) := by
  cases h with
  | chdir e hx hy =>
    rw [course_of_chdir hx, course_of_chdir hy]
    exact .noWorkdir
  | query e hx hy hxe hye =>
    rw [course_of_type_error hx (type_of_query hxe), course_of_type_error hy (type_of_query hye)]
    exact .noType
  | unrecognised hx hy hxq hyq hxt hyt =>
    rw [course_of_type_error hx (type_of_unrecognised hxq hxt),
      course_of_type_error hy (type_of_unrecognised hyq hyt)]
    exact .noType
  | queue e hx hy henv hpid hxe hye =>
    obtain ⟨type, htype, hstrategy⟩ := hx.type_eq
    obtain ⟨type', htype', hstrategy'⟩ := hy.type_eq
    rw [course_of_queueCreate hx.chdir htype (hstrategy ▸ launched_of_queue hxe),
      course_of_queueCreate hy.chdir htype' (hstrategy' ▸ launched_of_queue hye), hpid]
    exact .noQueue (preparation_alike henv (hstrategy.trans hstrategy'.symm))
  | start strategy e hx hy henv hxe hye =>
    obtain ⟨type, htype, rfl⟩ := hx.type_eq
    obtain ⟨type', htype', hstrategy⟩ := hy.type_eq
    have hlaunched : x.launched type.strategy = .error (.start e) := by
      rw [hx.launched_eq, hxe]
    have hlaunched' : y.launched type'.strategy = .error (.start e) := by
      rw [hstrategy, hy.launched_eq, hye]
    rw [course_of_start hx.chdir htype hlaunched, course_of_start hy.chdir htype' hlaunched']
    exact .noStart (preparation_alike henv hstrategy.symm)
  | deaf strategy hx hy henv hlimit =>
    obtain ⟨p, q, hp, hcourse, hcourse'⟩ := courses_of_child hx hy henv limit removal
    rw [hcourse, hcourse', hlimit]
    exact .unannounced hp
  | wait strategy e hx hy henv hpid hxe hye =>
    obtain ⟨p, q, hp, hcourse, hcourse'⟩ := courses_of_child hx hy henv limit removal
    rw [hcourse, hcourse', ending, ending, hxe, hye, hpid]
    exact childCourse_alike_of_error hp
  | ended strategy hx hy henv hpid hxw hyw hend =>
    obtain ⟨p, q, hp, hcourse, hcourse'⟩ := courses_of_child hx hy henv limit removal
    rw [hcourse, hcourse', ending, ending, hxw, hyw, hpid]
    rw [hpid] at hend
    refine childCourse_alike_of_ok hp fun htold => ?_
    exact hend.resolve_left fun hlimit => by simp [hlimit, LimitedChannel.answerAt] at htold

end

/-- **The first fault decides**: two rehearsals that have it in common, asked for the same launch by
argument vectors that can be read, end in the same way, with the same messages to the controller,
the same lines for the user and the same requests to the host. -/
theorem transcriptOf_of_sameFirstFault {limit : Option Nat} {removal : Removal}
    {x y : Rehearsal} {v w : List Bytes} {i j : Invocation} (hv : Invocation.parse v = .ok i)
    (hw : Invocation.parse w = .ok j) (hij : i.SameLaunch j) (hxy : SameFirstFault limit x y) :
    Supervisor.transcriptOf (host removal) x limit [v] =
      Supervisor.transcriptOf (host removal) y limit [w] := by
  have hseen : x.perform limit i removal = y.perform limit j removal := by
    rw [perform_eq, perform_eq]
    exact hxy.course_alike.transcript_eq hij
  have hx : Supervisor.transcriptOf (host removal) x limit [v] =
      (Invocation.answers [v] (x.perform limit i removal).exits, x.perform limit i removal) := by
    simp [Supervisor.transcriptOf, perform, hv, Except.toOption]
  have hy : Supervisor.transcriptOf (host removal) y limit [w] =
      (Invocation.answers [w] (y.perform limit j removal).exits, y.perform limit j removal) := by
    simp [Supervisor.transcriptOf, perform, hw, Except.toOption]
  rw [hx, hy, hseen]
  cases (y.perform limit j removal).exits <;> simp [Invocation.answers, hv, hw]

/-- A script that may not be started. -/
def stuckScript : Rehearsal where
  env := ⟨[], none⟩
  content := AppType.scriptMark
  pid := 7
  status := ⟨0⟩
  faults := { start := some (.os 13) }

/-- An image for another machine that may not be started either. As a child it would be another one
and come to another end, which could not even be awaited. -/
def stuckImage : Rehearsal where
  env := ⟨[], none⟩
  content := AppType.imageMark ++ List.replicate 16 0
  pid := 8
  status := ⟨0x8b⟩
  faults := { start := some (.os 13), wait := some (.os 10) }

/-- Nobody can tell the two apart, even if one of them is debugged and the other is run. -/
theorem transcriptOf_stuck :
    Supervisor.transcriptOf host stuckScript none
        [[] :: Invocation.positionals ⟨.run, [], [], [], [], []⟩] =
      Supervisor.transcriptOf host stuckImage none
        [[] :: Invocation.positionals ⟨.debug, Bytes.ofText "socket", [], [], [], []⟩] := by
  have hx : stuckScript.GetsToStart .session := ⟨⟨rfl, rfl, .script, by decide, rfl⟩, fun _ => rfl⟩
  have hy : stuckImage.GetsToStart .session := ⟨⟨rfl, rfl, .foreign, by decide, rfl⟩, fun _ => rfl⟩
  exact transcriptOf_of_sameFirstFault (Invocation.parse_positionals _ _)
    (Invocation.parse_positionals _ _) ⟨rfl, rfl, rfl⟩ (.start .session _ hx hy rfl rfl rfl)

end Rehearsal

end LaunchStub
