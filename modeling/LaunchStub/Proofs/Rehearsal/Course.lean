import LaunchStub.Proofs.LoaderPath.LaunchBlock
import LaunchStub.Proofs.Supervisor.Diagnostics
import LaunchStub.Proofs.Supervisor.LimitedChannel
import LaunchStub.Proofs.Supervisor.Reports

/-!
# What comes of a rehearsal

A rehearsal holds all that a launch depends on, so it decides the course of the run. Which course
that is is read off its faults in the order of the stages (`Rehearsal.course`), and all that can be
seen from outside is read off the course (`Course.transcript`). `Rehearsal.perform_eq` puts the two
together: it is what statements about rehearsals are shown with, one or two at a time, without any
run of a supervisor in them.
-/

namespace LaunchStub

/-- What can be seen from outside of a run that takes a course, if the user's stream takes
everything. -/
def Course.transcript (inv : Invocation) (course : Course) : Transcript where
  exits := [course.exit]
  sent := course.report
  stderr := Trace.lines ((course.failure inv).toList ++ course.refusal.toList)
  calls := course.calls inv

namespace Supervisor

/-- A single run is seen as its course. -/
theorem transcript_eq {σ κ : Type} (host : Host σ κ) (state : σ) (limit : Option Nat)
    (inv : Invocation) : ∃ (course : Course) (c' : Scene σ κ LimitedChannel Bytes),
      Performs ⟨host, LimitedChannel.device, Writer.keeping⟩ ⟨state, ⟨limit, []⟩, [], none⟩
        (course.acts inv) c' ∧
      transcript host state limit [inv] = course.transcript inv := by
  obtain ⟨deeds, course, htrace, hperf, hacts, hexit⟩ :=
    run_takes_course ⟨host, LimitedChannel.device, Writer.keeping⟩ inv ⟨state, ⟨limit, []⟩, [], []⟩
  have hcourse := hperf.acts
  rw [hacts] at hcourse
  have hchannel := congrArg LimitedChannel.accepted (channel_of_performs hcourse)
  have hstderr := stderr_of_performs hcourse
  rw [course.accepted_acts] at hchannel
  rw [(course.diagnostics_acts inv).1] at hstderr
  refine ⟨course, _, hcourse, ?_⟩
  simp only [Desk.scene, List.nil_append] at hchannel hstderr htrace
  simp only [transcript, runAll, Course.transcript, Transcript.mk.injEq, List.cons.injEq, and_true]
  refine ⟨hexit, hchannel, hstderr, ?_⟩
  rw [htrace, ← deeds.calls_acts, hacts, course.calls_acts]

end Supervisor

/-- What a steered environment answers to directives, one after the other. -/
def SteeredEnvironment.answerAll (env : SteeredEnvironment) (removal : Removal) :
    List (Directive × Bytes) → List ((Directive × Bytes) × Except IoError Unit)
  | [] => []
  | d :: rest =>
    (d, (env.extend d.1 d.2 removal).1) :: answerAll (env.extend d.1 d.2 removal).2 removal rest

theorem SteeredEnvironment.map_fst_answerAll (env : SteeredEnvironment) (removal : Removal)
    (directives : List (Directive × Bytes)) :
    (env.answerAll removal directives).map Prod.fst = directives := by
  induction directives generalizing env with
  | nil => rfl
  | cons d rest ih => rw [answerAll, List.map_cons, ih]

namespace Rehearsal

/-- The kind of the target, as it is found out. -/
def type (r : Rehearsal) : Except IoError AppType :=
  unlessFault r.faults.query (AppType.classify r.content)

/-- What awaiting the child gives. -/
def ending (r : Rehearsal) (strategy : Strategy) : Except IoError RawTermination :=
  unlessFault r.faults.wait (.ok (observed strategy r.pid r.status))

/-- What is found out, seen and done before the launch of a target of this kind. -/
def preparation (r : Rehearsal) (removal : Removal) (type : AppType) : Preparation where
  type := type
  before := r.env.vars
  applied := r.env.answerAll removal (Directive.collect r.env.vars)
  applied_eq := r.env.map_fst_answerAll removal _
  after := (r.env.extendAll (Directive.collect r.env.vars) removal).vars

/-- The course of a run with a child, by what the controller and the wait answer. -/
def childCourse (limit : Option Nat) (p : Preparation) (id : UInt32)
    (ending : Except IoError RawTermination) : Course :=
  match LimitedChannel.answerAt limit 0, ending with
  | .error refusal, _ => .unannounced p id refusal
  | .ok (), .error e => .lost p id e
  | .ok (), .ok raw => .ended p id raw (LimitedChannel.answerAt limit 1)

section

variable {limit : Option Nat} {p : Preparation} {id : UInt32}

theorem childCourse_of_refused {refusal : ChannelError} {ending : Except IoError RawTermination}
    (h : LimitedChannel.answerAt limit 0 = .error refusal) :
    childCourse limit p id ending = .unannounced p id refusal := by
  simp only [childCourse, h]

theorem childCourse_of_lost {e : IoError} (h : LimitedChannel.answerAt limit 0 = .ok ()) :
    childCourse limit p id (.error e) = .lost p id e := by
  simp only [childCourse, h]

theorem childCourse_of_ended {raw : RawTermination}
    (h : LimitedChannel.answerAt limit 0 = .ok ()) :
    childCourse limit p id (.ok raw) = .ended p id raw (LimitedChannel.answerAt limit 1) := by
  simp only [childCourse, h]

end

/-- The course of a rehearsal before a controller that accepts this many messages: the first fault
decides. -/
def course (r : Rehearsal) (limit : Option Nat) (removal : Removal) : Course :=
  match r.faults.chdir, r.type with
  | some e, _ => .noWorkdir e (LimitedChannel.answerAt limit 0)
  | none, .error e => .noType e (LimitedChannel.answerAt limit 0)
  | none, .ok type => match r.launched type.strategy with
    | .error (.queueCreate queue e) => .noQueue (r.preparation removal type) queue e
    | .error (.start e) => .noStart (r.preparation removal type) e (LimitedChannel.answerAt limit 0)
    | .ok child =>
      childCourse limit (r.preparation removal type) child.id (r.ending type.strategy)

section

variable {r : Rehearsal} {limit : Option Nat} {removal : Removal} {type : AppType} {e : IoError}

theorem course_of_chdir (h : r.faults.chdir = some e) :
    r.course limit removal = .noWorkdir e (LimitedChannel.answerAt limit 0) := by
  simp only [course, h]

theorem course_of_type_error (hchdir : r.faults.chdir = none) (h : r.type = .error e) :
    r.course limit removal = .noType e (LimitedChannel.answerAt limit 0) := by
  simp only [course, hchdir, h]

theorem course_of_queueCreate {queue : Bytes} (hchdir : r.faults.chdir = none)
    (htype : r.type = .ok type) (h : r.launched type.strategy = .error (.queueCreate queue e)) :
    r.course limit removal = .noQueue (r.preparation removal type) queue e := by
  simp only [course, hchdir, htype, h]

theorem course_of_start (hchdir : r.faults.chdir = none) (htype : r.type = .ok type)
    (h : r.launched type.strategy = .error (.start e)) :
    r.course limit removal =
      .noStart (r.preparation removal type) e (LimitedChannel.answerAt limit 0) := by
  simp only [course, hchdir, htype, h]

theorem course_of_child {child : RehearsedChild} (hchdir : r.faults.chdir = none)
    (htype : r.type = .ok type) (h : r.launched type.strategy = .ok child) :
    r.course limit removal =
      childCourse limit (r.preparation removal type) child.id (r.ending type.strategy) := by
  simp only [course, hchdir, htype, h]

end

theorem unlessFault_ok_eq_error {α : Type} {fault : Option IoError} {a : α} {e : IoError}
    (h : unlessFault fault (.ok a) = .error e) : fault = some e := by
  cases fault with
  | none => simp [unlessFault] at h
  | some e' => simpa [unlessFault] using h

theorem unlessFault_eq_ok {α : Type} {fault : Option IoError} {value : Except IoError α} {a : α}
    (h : unlessFault fault value = .ok a) : fault = none ∧ value = .ok a := by
  cases fault with
  | none => exact ⟨rfl, h⟩
  | some e => simp [unlessFault] at h

end Rehearsal

namespace Supervisor

variable {removal : Removal} {c c' : Scene Rehearsal RehearsedChild LimitedChannel Bytes}
  {inv : Invocation}

/-- What a rehearsal answers to the directives, and what they make of its variables. -/
theorem performs_answerAll {applied : List ((Directive × Bytes) × Except IoError Unit)}
    (h : (rehearsing removal).Performs c (applied.map Preparation.application) c') :
    applied = c.host.env.answerAll removal (applied.map Prod.fst) ∧
      c' = { c with host :=
        { c.host with env := c.host.env.extendAll (applied.map Prod.fst) removal } } := by
  induction applied generalizing c with
  | nil => exact ⟨rfl, h⟩
  | cons x rest ih =>
    obtain ⟨m, ⟨hanswer, rfl⟩, hrest⟩ := h
    obtain ⟨hanswers, rfl⟩ := ih hrest
    refine ⟨?_, rfl⟩
    have hx : x = (x.1, (c.host.env.extend x.1.1 x.1.2 removal).1) := Prod.ext rfl hanswer.symm
    rw [List.map_cons, SteeredEnvironment.answerAll, ← hx]
    exact congrArg (x :: ·) hanswers

/-- What a rehearsal answers up to the launch. -/
theorem performs_rehearsed {r : Rehearsal} {limit : Option Nat} {p : Preparation}
    {launched : Except LaunchError UInt32}
    (h : (rehearsing removal).Performs ⟨r, ⟨limit, []⟩, [], none⟩ (p.acts inv launched) c') :
    r.faults.chdir = none ∧ r.type = .ok p.type ∧ p = r.preparation removal p.type ∧
      (r.launched p.type.strategy).map RehearsedChild.id = launched ∧
      c'.host.faults = r.faults ∧ c'.host.status = r.status ∧ c'.channel = ⟨limit, []⟩ ∧
      c'.child = (r.launched p.type.strategy).toOption := by
  obtain ⟨m, ⟨hchdir, rfl⟩, m, ⟨htype, rfl⟩, m, ⟨hbefore, rfl⟩, h⟩ := h
  obtain ⟨m, happlied, m', ⟨hafter, rfl⟩, m'', ⟨-, hlaunched, rfl⟩, rfl⟩ :=
    (rehearsing removal).performs_append.mp h
  obtain ⟨hanswers, rfl⟩ := performs_answerAll happlied
  refine ⟨(Rehearsal.unlessFault_eq_ok hchdir).1, htype, ?_, hlaunched, rfl, rfl, rfl, rfl⟩
  obtain ⟨type, before, applied, happlied_eq, after⟩ := p
  obtain rfl := hbefore
  rw [happlied_eq] at hanswers hafter
  obtain rfl := hanswers
  obtain rfl := hafter
  rfl

/-- What a limited channel answers, read off what telling the controller adds to a trace. -/
theorem performs_telling_answer {message : Message} {told : Except ChannelError Unit}
    (h : (rehearsing removal).Performs c (Trace.telling message told) c') :
    told = LimitedChannel.answerAt c.channel.limit c.channel.accepted.length := by
  rw [← LimitedChannel.answer_send c.channel message]
  cases told with
  | ok _ =>
    obtain ⟨m, ⟨hanswer, -⟩, -⟩ := h
    exact hanswer.symm
  | error e =>
    obtain ⟨m, ⟨hanswer, -⟩, -⟩ := h
    exact hanswer.symm

/-- A child that is launched is the rehearsal's. -/
theorem launched_eq_ok {r : Rehearsal} {strategy : Strategy} {child : RehearsedChild}
    (h : r.launched strategy = .ok child) : child = ⟨strategy, r.pid⟩ := by
  unfold Rehearsal.launched at h
  split at h
  · cases h
  · cases h
  · exact (Except.ok.inj h).symm

/-- The process id is the first message: a fresh channel answers it. -/
theorem performs_first {message : Message} {answer : Except ChannelError Unit} {limit : Option Nat}
    (hchannel : c.channel = ⟨limit, []⟩)
    (h : (rehearsing removal).Does c (.sent message answer) c') :
    LimitedChannel.answerAt limit 0 = answer ∧ c'.host = c.host ∧ c'.child = c.child ∧
      c'.channel = ⟨limit, (Deed.sent message answer).accepted?.toList⟩ := by
  have htaken : c'.channel = ⟨limit, (Deed.sent message answer).accepted?.toList⟩ := by
    rw [channel_of_does h, hchannel]
    rfl
  obtain ⟨hanswer, rfl⟩ := h
  refine ⟨?_, rfl, rfl, htaken⟩
  rw [← hanswer, hchannel]
  exact (LimitedChannel.answer_send ⟨limit, []⟩ message).symm

/-- What awaiting the child gives: what the rehearsal foretells. -/
theorem ending_of_wait {r st : Rehearsal} {child : RehearsedChild} {strategy : Strategy}
    {answer : Except IoError RawTermination} (hchild : r.launched strategy = .ok child)
    (hfaults : st.faults = r.faults) (hstatus : st.status = r.status)
    (h : ((Rehearsal.host removal).wait child st).answer = answer) :
    r.ending strategy = answer := by
  obtain rfl := launched_eq_ok hchild
  rw [← h, Rehearsal.ending, ← hfaults, ← hstatus]
  rfl

/-- The devices of a rehearsal leave it but one course. -/
theorem performs_course_rehearsed {r : Rehearsal} {limit : Option Nat} {course : Course}
    (h : (rehearsing removal).Performs ⟨r, ⟨limit, []⟩, [], none⟩ (course.acts inv) c') :
    course = r.course limit removal := by
  cases course with
  | noWorkdir cause told =>
    obtain ⟨m, ⟨hanswer, rfl⟩, m', rfl, htold⟩ := h
    rw [Rehearsal.course_of_chdir (Rehearsal.unlessFault_ok_eq_error hanswer),
      performs_telling_answer htold]
    rfl
  | noType cause told =>
    obtain ⟨m, ⟨hanswer, rfl⟩, m', ⟨htype, rfl⟩, m'', rfl, htold⟩ := h
    rw [Rehearsal.course_of_type_error (Rehearsal.unlessFault_eq_ok hanswer).1 htype,
      performs_telling_answer htold]
    rfl
  | noQueue p queue cause =>
    obtain ⟨m, hp, hrest⟩ := (rehearsing removal).performs_append.mp h
    obtain ⟨hchdir, htype, hpreparation, hlaunched, -⟩ := performs_rehearsed hp
    rw [Rehearsal.course_of_queueCreate hchdir htype (map_eq_error_iff.mp hlaunched),
      ← hpreparation]
  | noStart p cause told =>
    obtain ⟨m, hp, m', rfl, htold⟩ := (rehearsing removal).performs_append.mp h
    obtain ⟨hchdir, htype, hpreparation, hlaunched, -, -, hchannel, -⟩ := performs_rehearsed hp
    rw [Rehearsal.course_of_start hchdir htype (map_eq_error_iff.mp hlaunched), ← hpreparation,
      performs_telling_answer htold, hchannel]
    rfl
  | unannounced p id refusal =>
    obtain ⟨m, hp, m', hsent, -⟩ := (rehearsing removal).performs_append.mp h
    obtain ⟨hchdir, htype, hpreparation, hlaunched, -, -, hchannel, -⟩ := performs_rehearsed hp
    obtain ⟨child, hchild, rfl⟩ := map_eq_ok_iff.mp hlaunched
    obtain ⟨hrefused, -⟩ := performs_first hchannel hsent
    rw [Rehearsal.course_of_child hchdir htype hchild, Rehearsal.childCourse_of_refused hrefused,
      ← hpreparation]
  | lost p id cause =>
    obtain ⟨m, hp, m', hsent, m'', ⟨child', hheld, -, hwait, -⟩, -⟩ :=
      (rehearsing removal).performs_append.mp h
    obtain ⟨hchdir, htype, hpreparation, hlaunched, hfaults, hstatus, hchannel, hleft⟩ :=
      performs_rehearsed hp
    obtain ⟨child, hchild, rfl⟩ := map_eq_ok_iff.mp hlaunched
    obtain ⟨htaken, hhost, hkept, -⟩ := performs_first hchannel hsent
    obtain rfl : child = child' := by simpa [hkept, hleft, hchild, Except.toOption] using hheld
    have hending := ending_of_wait hchild (hhost ▸ hfaults) (hhost ▸ hstatus) hwait
    rw [Rehearsal.course_of_child hchdir htype hchild, hending,
      Rehearsal.childCourse_of_lost htaken, ← hpreparation]
  | ended p id raw told =>
    obtain ⟨m, hp, m', hsent, m'', ⟨child', hheld, -, hwait, rfl⟩, htold⟩ :=
      (rehearsing removal).performs_append.mp h
    obtain ⟨hchdir, htype, hpreparation, hlaunched, hfaults, hstatus, hchannel, hleft⟩ :=
      performs_rehearsed hp
    obtain ⟨child, hchild, rfl⟩ := map_eq_ok_iff.mp hlaunched
    obtain ⟨htaken, hhost, hkept, hsecond⟩ := performs_first hchannel hsent
    obtain rfl : child = child' := by simpa [hkept, hleft, hchild, Except.toOption] using hheld
    have hending := ending_of_wait hchild (hhost ▸ hfaults) (hhost ▸ hstatus) hwait
    have hanswer : told = LimitedChannel.answerAt limit 1 := by
      rw [performs_telling_answer htold, hsecond]
      rfl
    rw [Rehearsal.course_of_child hchdir htype hchild, hending,
      Rehearsal.childCourse_of_ended htaken, ← hpreparation, hanswer]

end Supervisor

/-- **What comes of a rehearsal**: it is seen as its course. -/
theorem Rehearsal.perform_eq (r : Rehearsal) (limit : Option Nat) (inv : Invocation)
    (removal : Removal) :
    r.perform limit inv removal = (r.course limit removal).transcript inv := by
  obtain ⟨course, c', hperf, hseen⟩ :=
    Supervisor.transcript_eq (Rehearsal.host removal) r limit inv
  rw [perform, hseen, Supervisor.performs_course_rehearsed hperf]

end LaunchStub
