import LaunchStub.Proofs.Supervisor.Course

/-!
# What the controller is told

The controller reads off the messages of a run how far the stub got, so the messages must tell the
truth and fit together, whatever the host answers and whichever messages are refused. A run is
allowed six reports: nothing, one failure of the set-up in either phase, the process id alone, and
the process id with one of the two kinds of end. `run_reports` says that every run makes one of
them, that each number in it is the one that the devices gave, that nothing is left untold but for a
refusal or a failure that the controller is not told of, and that the stub's own exit is decided by
the report.
-/

namespace LaunchStub

namespace Deed

/-- Was a message sent, taken or not? -/
def isSending : Deed → Bool
  | .sent _ _ => true
  | _ => false

/-- Was a message refused? -/
def isRefusal : Deed → Bool
  | .sent _ (.error _) => true
  | _ => false

theorem isAct_of_isSending {deed : Deed} (h : deed.isSending) : deed.isAct := by
  cases deed <;> simp_all [isSending, isAct, event?]

theorem isAct_of_isRefusal {deed : Deed} (h : deed.isRefusal) : deed.isAct := by
  cases deed <;> simp_all [isRefusal, isAct, event?]

end Deed

namespace Trace

/-- After a refusal nothing is sent any more. -/
def StopsAtRefusal (trace : Trace) : Prop :=
  trace.Pairwise fun earlier later => earlier.isRefusal → ¬ later.isSending

/-- Notes in the journal are neither sent nor refused. -/
theorem stopsAtRefusal_acts {trace : Trace} :
    trace.acts.StopsAtRefusal ↔ trace.StopsAtRefusal := by
  refine pairwise_acts fun earlier later h => ?_
  obtain ⟨hrefusal, hsending⟩ := Classical.not_imp.mp h
  exact ⟨Deed.isAct_of_isRefusal hrefusal,
    Deed.isAct_of_isSending (Classical.not_not.mp hsending)⟩

theorem stopsAtRefusal_cons (deed : Deed) (t : Trace) : StopsAtRefusal (deed :: t) ↔
    (deed.isRefusal → ∀ later ∈ t, ¬ later.isSending) ∧ t.StopsAtRefusal := by
  rw [StopsAtRefusal, List.pairwise_cons]
  exact and_congr_left fun _ => ⟨fun h hrefusal later hlater => h later hlater hrefusal,
    fun h later hlater hrefusal => h hrefusal later hlater⟩

/-- Of what must not follow a refusal, nothing is said before the first one. -/
theorem pairwise_refusal_append {p : Deed → Bool} {t u : Trace}
    (h : ∀ deed ∈ t, deed.isRefusal = false) :
    (t ++ u).Pairwise (fun earlier later => earlier.isRefusal → ¬ p later) ↔
      u.Pairwise fun earlier later => earlier.isRefusal → ¬ p later := by
  have hno : ∀ earlier ∈ t, ∀ later : Deed, earlier.isRefusal → ¬ p later := by
    intro earlier hearlier later hrefusal
    rw [h earlier hearlier] at hrefusal
    cases hrefusal
  rw [List.pairwise_append]
  constructor
  · exact fun htu => htu.2.1
  · intro hu
    exact ⟨List.pairwise_of_forall_mem_list fun earlier hearlier later _ =>
      hno earlier hearlier later, hu, fun earlier hearlier later _ => hno earlier hearlier later⟩

/-- What comes before the first refusal does not matter. -/
theorem stopsAtRefusal_append {t u : Trace} (h : ∀ deed ∈ t, deed.isRefusal = false) :
    StopsAtRefusal (t ++ u) ↔ u.StopsAtRefusal :=
  pairwise_refusal_append h

theorem stopsAtRefusal_telling (message : Message) (told : Except ChannelError Unit) :
    (telling message told).StopsAtRefusal := by
  cases told <;> simp [telling, StopsAtRefusal, Deed.isSending]

end Trace

/-- How a run ends that has made this report: well if the controller was told of an end, by the
invocation's fault if it was told of the working directory, and else by a fault of the system. -/
def StubExit.ofReport : List Message → StubExit
  | [.pid _, .exit _] | [.pid _, .crash _] => .completed
  | [.failure .chdir _] => .invocation
  | _ => .internal

/-- The first message that a run has to send which did these deeds. -/
inductive Opening (deeds : Trace) : Message → Prop where
  /-- The working directory could not be entered. -/
  | noWorkdir {dir : Bytes} {cause : IoError} (h : .changedDir dir (.error cause) ∈ deeds) :
    Opening deeds (.failure .chdir cause.code)
  /-- The kind of program could not be found out. -/
  | noType {target : Bytes} {cause : IoError} (h : .queriedType target (.error cause) ∈ deeds) :
    Opening deeds (.failure .exec cause.code)
  /-- The target could not be started. -/
  | noStart {strategy : Strategy} {request : LaunchRequest} {cause : IoError}
    (h : .launched strategy request (.error (.start cause)) ∈ deeds) :
    Opening deeds (.failure .exec cause.code)
  /-- The target was started. -/
  | started {strategy : Strategy} {request : LaunchRequest} {id : UInt32}
    (h : .launched strategy request (.ok id) ∈ deeds) : Opening deeds (.pid id)

/-- The report of a run that did these deeds. It is cut short by a refusal and by what the
controller is not told of: a queue that could not be created, and a child that was lost. -/
inductive Report (deeds : Trace) : List Message → Prop where
  /-- The notification queue could not be created. -/
  | noQueue {strategy : Strategy} {request : LaunchRequest} {queue : Bytes} {cause : IoError}
    (h : .launched strategy request (.error (.queueCreate queue cause)) ∈ deeds) : Report deeds []
  /-- The first message was refused. -/
  | unheard {message : Message} {refusal : ChannelError} (hfirst : Opening deeds message)
    (hsent : .sent message (.error refusal) ∈ deeds) : Report deeds []
  /-- The set-up failed in a phase. -/
  | failed {phase : Phase} {code : Int} (hfirst : Opening deeds (.failure phase code)) :
    Report deeds [.failure phase code]
  /-- The target was started, and that child was lost. -/
  | lost {strategy : Strategy} {request : LaunchRequest} {id : UInt32} {cause : IoError}
    (hlaunch : .launched strategy request (.ok id) ∈ deeds)
    (hlost : .awaited id (.error cause) ∈ deeds) : Report deeds [.pid id]
  /-- The target was started, that child came to its end, and the message of the end was refused. -/
  | endUnheard {strategy : Strategy} {request : LaunchRequest} {id : UInt32}
    {raw : RawTermination} {refusal : ChannelError}
    (hlaunch : .launched strategy request (.ok id) ∈ deeds)
    (hend : .awaited id (.ok raw) ∈ deeds)
    (hsent : .sent (.ofOutcome raw.classify) (.error refusal) ∈ deeds) : Report deeds [.pid id]
  /-- The target was started, and that child came to its end. -/
  | ended {strategy : Strategy} {request : LaunchRequest} {id : UInt32} {raw : RawTermination}
    (hlaunch : .launched strategy request (.ok id) ∈ deeds)
    (hend : .awaited id (.ok raw) ∈ deeds) : Report deeds [.pid id, .ofOutcome raw.classify]

section

variable {deeds more : Trace} (hmore : ∀ deed ∈ deeds, deed ∈ more)
include hmore

/-- Deeds that are left out of account make no difference to what is sent first. -/
theorem Opening.mono {message : Message} (h : Opening deeds message) : Opening more message := by
  cases h with
  | noWorkdir h => exact .noWorkdir (hmore _ h)
  | noType h => exact .noType (hmore _ h)
  | noStart h => exact .noStart (hmore _ h)
  | started h => exact .started (hmore _ h)

/-- Nor do they make one to a report. -/
theorem Report.mono {messages : List Message} (h : Report deeds messages) :
    Report more messages := by
  cases h with
  | noQueue h => exact .noQueue (hmore _ h)
  | unheard hfirst hsent => exact .unheard (hfirst.mono hmore) (hmore _ hsent)
  | failed hfirst => exact .failed (hfirst.mono hmore)
  | lost hlaunch hlost => exact .lost (hmore _ hlaunch) (hmore _ hlost)
  | endUnheard hlaunch hend hsent =>
    exact .endUnheard (hmore _ hlaunch) (hmore _ hend) (hmore _ hsent)
  | ended hlaunch hend => exact .ended (hmore _ hlaunch) (hmore _ hend)

end

/-- A failure of the set-up makes a report, whatever becomes of its message. -/
theorem Opening.report {deeds : Trace} {phase : Phase} {code : Int}
    {told : Except ChannelError Unit} (hfirst : Opening deeds (.failure phase code))
    (hsent : .sent (.failure phase code) told ∈ deeds) :
    Report deeds (if told = .ok () then [.failure phase code] else []) := by
  cases told with
  | ok _ => exact .failed hfirst
  | error refusal => exact .unheard hfirst hsent

/-! ### The reports of the courses -/

@[simp] theorem Trace.accepted_telling (message : Message) (told : Except ChannelError Unit) :
    (Trace.telling message told).accepted = if told = .ok () then [message] else [] := by
  cases told <;> rfl

/-- What is told is sent, whatever becomes of it. -/
theorem Trace.sent_mem_telling (message : Message) (told : Except ChannelError Unit) :
    .sent message told ∈ Trace.telling message told := by
  cases told <;> exact List.mem_cons_self

namespace Preparation

variable (p : Preparation) (inv : Invocation) (launched : Except LaunchError UInt32)

/-- The controller is told nothing before the launch. -/
theorem accepted_acts : (p.acts inv launched).accepted = [] := by
  have happlied : Trace.accepted (p.applied.map application) = [] := by
    rw [Trace.accepted, List.filterMap_map, List.filterMap_eq_nil_iff]
    exact fun _ _ => rfl
  simp [acts, happlied, Deed.accepted?]

theorem not_isRefusal_of_mem_acts {deed : Deed} (h : deed ∈ p.acts inv launched) :
    deed.isRefusal = false := by
  simp only [acts, List.mem_cons, List.mem_append, List.mem_map, List.not_mem_nil, or_false] at h
  rcases h with rfl | rfl | rfl | ⟨x, -, rfl⟩ | rfl | rfl <;> rfl

theorem launched_mem_acts :
    .launched p.type.strategy (p.request inv) launched ∈ p.acts inv launched := by
  simp [acts]

end Preparation

namespace Course

variable (inv : Invocation)

/-- The messages that are taken in a run of a course. -/
def report : Course → List Message
  | .noWorkdir cause told => if told = .ok () then [.failure .chdir cause.code] else []
  | .noType cause told | .noStart _ cause told =>
    if told = .ok () then [.failure .exec cause.code] else []
  | .noQueue _ _ _ | .unannounced _ _ _ => []
  | .lost _ id _ => [.pid id]
  | .ended _ id raw told => .pid id :: if told = .ok () then [.ofOutcome raw.classify] else []

theorem accepted_acts (course : Course) : (course.acts inv).accepted = course.report := by
  cases course <;> simp [acts, report, Preparation.accepted_acts, Deed.accepted?]

/-- The report decides how the run ends. -/
theorem exit_eq_ofReport (course : Course) : course.exit = StubExit.ofReport course.report := by
  cases course with
  | noWorkdir cause told => cases told <;> rfl
  | noType cause told => cases told <;> rfl
  | noQueue => rfl
  | noStart p cause told => cases told <;> rfl
  | unannounced => rfl
  | lost => rfl
  | ended p id raw told =>
    cases told with
    | ok _ =>
      cases h : raw.classify <;>
        simp [exit, report, StubExit.ofReport, h, Message.ofOutcome, StubExit.afterTelling]
    | error _ => rfl

theorem stopsAtRefusal_acts (course : Course) : (course.acts inv).StopsAtRefusal := by
  have hprepared : ∀ (p : Preparation) launched (t : Trace),
      Trace.StopsAtRefusal (p.acts inv launched ++ t) ↔ t.StopsAtRefusal :=
    fun p launched t =>
      Trace.stopsAtRefusal_append fun _ => p.not_isRefusal_of_mem_acts inv launched
  cases course with
  | noWorkdir cause told =>
    simp [acts, Trace.stopsAtRefusal_cons, Deed.isRefusal, Trace.stopsAtRefusal_telling]
  | noType cause told =>
    simp [acts, Trace.stopsAtRefusal_cons, Deed.isRefusal, Trace.stopsAtRefusal_telling]
  | noQueue p queue cause =>
    rw [acts, hprepared]
    exact List.pairwise_singleton _ _
  | noStart p cause told =>
    rw [acts, hprepared]
    simp [Trace.stopsAtRefusal_cons, Deed.isRefusal, Trace.stopsAtRefusal_telling]
  | unannounced p id refusal =>
    rw [acts, hprepared]
    simp [Trace.StopsAtRefusal, Deed.isSending, Deed.isRefusal]
  | lost p id cause =>
    rw [acts, hprepared]
    simp [Trace.StopsAtRefusal, Deed.isSending, Deed.isRefusal]
  | ended p id raw told =>
    rw [acts, hprepared]
    simp [Trace.stopsAtRefusal_cons, Deed.isRefusal, Trace.stopsAtRefusal_telling]

/-- What a course tells the controller is what its deeds call for. -/
theorem report_of_acts (course : Course) : Report (course.acts inv) course.report := by
  have hlaunched : ∀ (p : Preparation) launched (t : Trace),
      .launched p.type.strategy (p.request inv) launched ∈ p.acts inv launched ++ t :=
    fun p launched t => List.mem_append_left t (p.launched_mem_acts inv launched)
  have htold := Trace.sent_mem_telling
  cases course with
  | noWorkdir cause told =>
    have hfirst : Opening (acts inv (.noWorkdir cause told)) (.failure .chdir cause.code) :=
      .noWorkdir List.mem_cons_self
    exact hfirst.report (by simp [acts, htold])
  | noType cause told =>
    have hfirst : Opening (acts inv (.noType cause told)) (.failure .exec cause.code) :=
      .noType (List.mem_cons_of_mem _ List.mem_cons_self)
    exact hfirst.report (by simp [acts, htold])
  | noQueue p queue cause => exact .noQueue (hlaunched p _ _)
  | noStart p cause told =>
    have hfirst : Opening (acts inv (.noStart p cause told)) (.failure .exec cause.code) :=
      .noStart (hlaunched p _ _)
    exact hfirst.report (by simp [acts, htold])
  | unannounced p id refusal =>
    have hsent : .sent (.pid id) (.error refusal) ∈ acts inv (.unannounced p id refusal) := by
      simp [acts]
    exact .unheard (.started (hlaunched p _ _)) hsent
  | lost p id cause =>
    have hlost : .awaited id (.error cause) ∈ acts inv (.lost p id cause) := by simp [acts]
    exact .lost (hlaunched p _ _) hlost
  | ended p id raw told =>
    have hend : .awaited id (.ok raw) ∈ acts inv (.ended p id raw told) := by simp [acts]
    have hsent : .sent (.ofOutcome raw.classify) told ∈ acts inv (.ended p id raw told) := by
      simp [acts, htold]
    cases told with
    | ok _ => exact .ended (hlaunched p _ _) hend
    | error refusal => exact .endUnheard (hlaunched p _ _) hend hsent

end Course

namespace Supervisor

variable {σ κ χ ω : Type}

/-- **What a run tells the controller**: whatever the devices answer, the messages that are taken
make one of the six reports, nothing is sent after a refusal, and the report decides how the run
ends. The numbers in the report are those of the deeds of this run: the error of the call that
failed, the id of the child that was launched, and the end of that same child. There is no report
only where the queue could not be created or the first message was refused, and none of the end only
where the child was lost or that message was refused. -/
theorem run_reports (s : Supervisor σ κ χ ω) (inv : Invocation) (desk : Desk σ χ ω) :
    ∃ deeds : Trace, (s.run inv desk).2.trace = desk.trace ++ deeds ∧
      s.Performs (desk.scene none) deeds ((s.run inv desk).2.scene none) ∧
      Report deeds deeds.accepted ∧
      deeds.StopsAtRefusal ∧
      (s.run inv desk).1 = StubExit.ofReport deeds.accepted := by
  obtain ⟨deeds, course, htrace, hperf, hacts, hexit⟩ := s.run_takes_course inv desk
  have haccepted : deeds.accepted = course.report := by
    rw [← deeds.accepted_acts, hacts, course.accepted_acts]
  refine ⟨deeds, htrace, hperf, ?_, ?_, ?_⟩
  · rw [haccepted]
    refine (course.report_of_acts inv).mono fun deed hdeed => ?_
    rw [← hacts, Trace.acts] at hdeed
    exact (List.mem_filter.mp hdeed).1
  · rw [← Trace.stopsAtRefusal_acts, hacts]
    exact course.stopsAtRefusal_acts inv
  · rw [hexit, haccepted, course.exit_eq_ofReport]

end Supervisor

end LaunchStub
