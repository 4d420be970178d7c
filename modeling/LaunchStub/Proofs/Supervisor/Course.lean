import LaunchStub.Proofs.Supervisor.Performance

/-!
# The courses that a run can take

A run of the supervisor takes one of seven courses: it ends at the working directory, at the kind of
program, at the queue, at the start, at the process id that the controller does not take, at the
wait, or at the end of the target. Each of them is a list of deeds in which only the answers are
open.

## The model

A `Course` is one of the seven with the answers filled in. `Course.acts` lists its deeds, the
journal left aside, and `Course.exit` says how the run ended. `run_takes_course` is all that is
proved here of the supervisor's own code: every run takes a course. What a run tells whom, in which
order, and with which result is then read off the courses.
-/

namespace LaunchStub

/-- What telling the controller something adds to a run: the message, and where it is refused a line
for the user. -/
def Trace.telling (message : Message) : Except ChannelError Unit → Trace
  | .ok () => [.sent message (.ok ())]
  | .error e => [.sent message (.error e), .told e.message]

/-- How a run ends that has told the controller something last: a refusal ends it in its own way. -/
def StubExit.afterTelling (how : StubExit) : Except ChannelError Unit → StubExit
  | .ok () => how
  | .error _ => .internal

/-- What was found out, seen and done before a launch. -/
structure Preparation where
  /-- What kind of program the target is. -/
  type : AppType
  /-- The variables that the directives were looked for in. -/
  before : Environment
  /-- The directives, each with what became of it. -/
  applied : List ((Directive × Bytes) × Except IoError Unit)
  /-- These were all directives, each applied once. -/
  applied_eq : applied.map Prod.fst = Directive.collect before
  /-- The variables after that. -/
  after : Environment

namespace Preparation

/-- The deed of one directive. -/
def application (x : (Directive × Bytes) × Except IoError Unit) : Deed :=
  .extendedPath x.1.1 x.1.2 x.2

/-- What the host is asked to launch. -/
def request (p : Preparation) (inv : Invocation) : LaunchRequest :=
  ⟨inv.target, inv.targetArgs, .sanitize p.after⟩

/-- The deeds up to the launch, and the launch. -/
def acts (p : Preparation) (inv : Invocation) (launched : Except LaunchError UInt32) : Trace :=
  .changedDir inv.workdir (.ok ()) :: .queriedType inv.target (.ok p.type) ::
    .sawEnvironment p.before :: (p.applied.map application ++
      [.sawEnvironment p.after, .launched p.type.strategy (p.request inv) launched])

/-- What the host is asked in them. -/
def calls (p : Preparation) (inv : Invocation) : List HostCall :=
  .changeDir inv.workdir :: .queryType inv.target ::
    ((Directive.collect p.before).map (fun d => .extendPath d.1 d.2) ++
      [.launch p.type.strategy inv.target inv.targetArgs
        (ChildEnvironment.sanitize p.after).vars])

theorem calls_acts (p : Preparation) (inv : Invocation) (launched : Except LaunchError UInt32) :
    (p.acts inv launched).calls = p.calls inv := by
  have happlied : Trace.calls (p.applied.map application)
      = (Directive.collect p.before).map fun d => .extendPath d.1 d.2 := by
    rw [← p.applied_eq, List.map_map, Trace.calls, List.filterMap_map, ← List.filterMap_eq_map]
    rfl
  simp [acts, calls, happlied, Deed.call?, request]

end Preparation

/-- How a run goes. -/
inductive Course where
  /-- The working directory could not be entered. -/
  | noWorkdir (cause : IoError) (told : Except ChannelError Unit)
  /-- The kind of program could not be found out. -/
  | noType (cause : IoError) (told : Except ChannelError Unit)
  /-- The notification queue could not be created. -/
  | noQueue (p : Preparation) (queue : Bytes) (cause : IoError)
  /-- The target could not be started. -/
  | noStart (p : Preparation) (cause : IoError) (told : Except ChannelError Unit)
  /-- The controller did not take the process id. -/
  | unannounced (p : Preparation) (id : UInt32) (refusal : ChannelError)
  /-- The end of the target could not be awaited. -/
  | lost (p : Preparation) (id : UInt32) (cause : IoError)
  /-- The target came to its end. -/
  | ended (p : Preparation) (id : UInt32) (raw : RawTermination) (told : Except ChannelError Unit)

namespace Course

/-- The deeds of a run that goes this way, in order. -/
def acts (inv : Invocation) : Course → Trace
  | .noWorkdir cause told =>
    .changedDir inv.workdir (.error cause) ::
      .told ("Cannot change to working directory " ++ Utf8.lossy inv.workdir ++ ": "
        ++ cause.message) ::
      Trace.telling (.failure .chdir cause.code) told
  | .noType cause told =>
    .changedDir inv.workdir (.ok ()) :: .queriedType inv.target (.error cause) ::
      .told "Unable to determine application type" ::
      Trace.telling (.failure .exec cause.code) told
  | .noQueue p queue cause =>
    p.acts inv (.error (.queueCreate queue cause)) ++
      [.told (LaunchError.queueCreate queue cause).message]
  | .noStart p cause told =>
    p.acts inv (.error (.start cause)) ++
      .told ("Cannot start child " ++ Supervisor.startedThing p.type.strategy ++ " due to "
        ++ (LaunchError.start cause).message) ::
      Trace.telling (.failure .exec cause.code) told
  | .unannounced p id refusal =>
    p.acts inv (.ok id) ++
      [.sent (.pid id) (.error refusal), .told refusal.message, .released id]
  | .lost p id cause =>
    p.acts inv (.ok id) ++
      [.sent (.pid id) (.ok ()), .awaited id (.error cause),
        .told ("Cannot obtain return codes from child " ++ cause.message)]
  | .ended p id raw told =>
    p.acts inv (.ok id) ++
      .sent (.pid id) (.ok ()) :: .awaited id (.ok raw) ::
      Trace.telling (.ofOutcome raw.classify) told

/-- What the host is asked in a run that goes this way. -/
def calls (inv : Invocation) : Course → List HostCall
  | .noWorkdir _ _ => [.changeDir inv.workdir]
  | .noType _ _ => [.changeDir inv.workdir, .queryType inv.target]
  | .noQueue p _ _ | .noStart p _ _ | .unannounced p _ _ | .lost p _ _ | .ended p _ _ _ =>
    p.calls inv

theorem calls_acts (course : Course) (inv : Invocation) :
    (course.acts inv).calls = course.calls inv := by
  have htelling : ∀ message told, Trace.calls (Trace.telling message told) = [] := by
    intro message told
    cases told <;> rfl
  cases course <;> simp [acts, calls, htelling, Preparation.calls_acts, Deed.call?]

/-- How a run ends that goes this way. -/
def exit : Course → StubExit
  | .noWorkdir _ told => StubExit.invocation.afterTelling told
  | .noType _ told | .noStart _ _ told => StubExit.internal.afterTelling told
  | .noQueue _ _ _ | .unannounced _ _ _ | .lost _ _ _ => .internal
  | .ended _ _ _ told => StubExit.completed.afterTelling told

/-- The outcome that a run of this course ends with, or how it ends without one. -/
def result : Course → Except StubExit Outcome
  | .ended _ _ raw (.ok ()) => .ok raw.classify
  | course => .error course.exit

theorem exit_eq (course : Course) : course.exit = match course.result with
    | .ok _ => .completed
    | .error how => how := by
  cases course with
  | ended p id raw told => cases told <;> rfl
  | _ => rfl

/-- A course with a launch in it starts with what comes before a launch. -/
theorem acts_of_launched {inv : Invocation} {course : Course} {strategy : Strategy}
    {request : LaunchRequest} {answer : Except LaunchError UInt32}
    (h : .launched strategy request answer ∈ course.acts inv) :
    ∃ (p : Preparation) (t : Trace), course.acts inv = p.acts inv answer ++ t ∧
      strategy = p.type.strategy ∧ request = p.request inv := by
  have hprepared : ∀ {p : Preparation} {launched : Except LaunchError UInt32},
      .launched strategy request answer ∈ p.acts inv launched →
      answer = launched ∧ strategy = p.type.strategy ∧ request = p.request inv := by
    intro p launched hmem
    simp only [Preparation.acts, Preparation.application, List.mem_cons, List.mem_append,
      List.mem_map, reduceCtorEq, and_false, exists_false, false_or, Deed.launched.injEq,
      List.not_mem_nil, or_false] at hmem
    exact ⟨hmem.2.2, hmem.1, hmem.2.1⟩
  cases course with
  | noWorkdir cause told => cases told <;> simp [acts, Trace.telling] at h
  | noType cause told => cases told <;> simp [acts, Trace.telling] at h
  | noQueue p queue cause =>
    obtain ⟨rfl, hp⟩ := hprepared (by simpa [acts] using h)
    exact ⟨p, _, rfl, hp⟩
  | noStart p cause told =>
    obtain ⟨rfl, hp⟩ := hprepared (by cases told <;> simpa [acts, Trace.telling] using h)
    exact ⟨p, _, rfl, hp⟩
  | unannounced p id refusal =>
    obtain ⟨rfl, hp⟩ := hprepared (by simpa [acts] using h)
    exact ⟨p, _, rfl, hp⟩
  | lost p id cause =>
    obtain ⟨rfl, hp⟩ := hprepared (by simpa [acts] using h)
    exact ⟨p, _, rfl, hp⟩
  | ended p id raw told =>
    obtain ⟨rfl, hp⟩ := hprepared (by cases told <;> simpa [acts, Trace.telling] using h)
    exact ⟨p, _, rfl, hp⟩

end Course

namespace Supervisor

open Stage

variable {σ κ χ ω α : Type} {s : Supervisor σ κ χ ω} {held : Option κ}
  {P : Except StubExit α → Option κ → Trace → Prop}

/-! ### The stages -/

theorem runs_report {message : Message} {P : Except StubExit Unit → Option κ → Trace → Prop}
    (hok : P (.ok ()) held (Trace.telling message (.ok ())))
    (herror : ∀ e, P (.error .internal) held (Trace.telling message (.error e))) :
    s.Runs held (s.report message) P := by
  rw [report, bind_eq]
  refine runs_send_andThen fun answer => ?_
  cases answer with
  | ok _ => exact runs_done hok
  | error e => exact runs_note_andThen (runs_diagnose_andThen (runs_stop (herror e)))

/-- A failure is told, and the run is over. -/
theorem runs_report_stop {message : Message} {how : StubExit}
    (h : ∀ told, P (.error (how.afterTelling told)) held (Trace.telling message told)) :
    s.Runs held ((s.report message).andThen fun _ => stop how) P := by
  refine runs_andThen (runs_report (runs_stop ?_) fun e => h (.error e))
  rw [List.append_nil]
  exact h (.ok ())

theorem runs_enterWorkdir {workdir : Bytes} {P : Except StubExit Unit → Option κ → Trace → Prop}
    (hok : P (.ok ()) held [.changedDir workdir (.ok ())])
    (herror : ∀ cause told, P (.error (StubExit.invocation.afterTelling told)) held
      (.changedDir workdir (.error cause) ::
        .told ("Cannot change to working directory " ++ Utf8.lossy workdir ++ ": "
          ++ cause.message) ::
        Trace.telling (.failure .chdir cause.code) told)) :
    s.Runs held (s.enterWorkdir workdir) P := by
  rw [enterWorkdir, bind_eq]
  refine runs_ask_andThen (fun _ => held) (fun _ => rfl) (fun c hc => ⟨rfl, by rw [hc]⟩)
    fun answer => ?_
  cases answer with
  | ok _ => exact runs_done hok
  | error cause =>
    exact runs_note_andThen (runs_diagnose_andThen (runs_report_stop (herror cause)))

theorem runs_determineType {target : Bytes}
    {P : Except StubExit AppType → Option κ → Trace → Prop}
    (hok : ∀ type, P (.ok type) held [.queriedType target (.ok type)])
    (herror : ∀ cause told, P (.error (StubExit.internal.afterTelling told)) held
      (.queriedType target (.error cause) :: .told "Unable to determine application type" ::
        Trace.telling (.failure .exec cause.code) told)) :
    s.Runs held (s.determineType target) P := by
  rw [determineType, bind_eq]
  refine runs_ask_andThen (fun _ => held) (fun _ => rfl) (fun c hc => ⟨rfl, by rw [hc]⟩)
    fun answer => ?_
  cases answer with
  | ok type => exact runs_done (hok type)
  | error cause =>
    exact runs_note_andThen (runs_diagnose_andThen (runs_report_stop (herror cause)))

theorem runs_applyDirectives {directives : List (Directive × Bytes)}
    {P : Except StubExit Unit → Option κ → Trace → Prop}
    (h : ∀ applied : List ((Directive × Bytes) × Except IoError Unit),
      applied.map Prod.fst = directives →
      P (.ok ()) held (applied.map Preparation.application)) :
    s.Runs held (s.applyDirectives directives) P := by
  induction directives generalizing P with
  | nil => exact runs_done (h [] rfl)
  | cons d rest ih =>
    rw [applyDirectives, bind_eq]
    refine runs_ask_andThen (fun _ => held) (fun _ => rfl) (fun c hc => ⟨rfl, by rw [hc]⟩)
      fun answer => ?_
    have hrest := ih (P := fun result left acts =>
        P result left (.extendedPath d.1 d.2 answer :: acts)) fun applied happlied =>
      h ((d, answer) :: applied) (by rw [List.map_cons, happlied])
    cases answer <;> exact runs_note_andThen hrest

theorem runs_prepareEnvironment {P : Except StubExit ChildEnvironment → Option κ → Trace → Prop}
    (h : ∀ (before : Environment) (applied : List ((Directive × Bytes) × Except IoError Unit))
      (after : Environment), applied.map Prod.fst = Directive.collect before →
      P (.ok (.sanitize after)) held
        (.sawEnvironment before :: (applied.map Preparation.application ++
          [.sawEnvironment after]))) :
    s.Runs held s.prepareEnvironment P := by
  rw [prepareEnvironment, bind_eq]
  refine runs_ask_andThen (fun _ => held) (fun _ => rfl) (fun c hc => ⟨rfl, by rw [hc]⟩)
    fun before => ?_
  rw [bind_eq]
  refine runs_andThen (runs_applyDirectives fun applied happlied => ?_)
  refine runs_ask_andThen (fun _ => held) (fun _ => rfl) (fun c hc => ⟨rfl, by rw [hc]⟩)
    fun after => ?_
  exact runs_note_andThen (runs_done (h before applied after happlied))

theorem runs_launch {strategy : Strategy} {request : LaunchRequest}
    {P : Except StubExit κ → Option κ → Trace → Prop}
    (hok : ∀ child, P (.ok child) (some child)
      [.launched strategy request (.ok (s.host.childId child))])
    (hqueue : ∀ queue cause, P (.error .internal) none
      [.launched strategy request (.error (.queueCreate queue cause)),
        .told (LaunchError.queueCreate queue cause).message])
    (hstart : ∀ cause told, P (.error (StubExit.internal.afterTelling told)) none
      (.launched strategy request (.error (.start cause)) ::
        .told ("Cannot start child " ++ startedThing strategy ++ " due to "
          ++ (LaunchError.start cause).message) ::
        Trace.telling (.failure .exec cause.code) told)) :
    s.Runs none (s.launch strategy request) P := by
  rw [launch, bind_eq]
  refine runs_note_andThen (runs_ask_andThen Except.toOption (fun _ => rfl)
    (fun c hc => ⟨hc, rfl, rfl⟩) fun answer => ?_)
  match answer with
  | .ok child => exact runs_done (hok child)
  | .error (.queueCreate queue cause) =>
    exact runs_note_andThen (runs_diagnose_andThen (runs_stop (hqueue queue cause)))
  | .error (.start cause) =>
    exact runs_note_andThen (runs_diagnose_andThen (runs_report_stop (hstart cause)))

/-- A child that cannot be announced is let go of. -/
theorem runs_announce {child : κ} {P : Except StubExit Unit → Option κ → Trace → Prop}
    (hok : P (.ok ()) (some child) [.sent (.pid (s.host.childId child)) (.ok ())])
    (herror : ∀ e, P (.error .internal) none
      [.sent (.pid (s.host.childId child)) (.error e), .told e.message,
        .released (s.host.childId child)]) :
    s.Runs (some child) (s.announce child) P := by
  intro desk
  have hrelease : ∀ e, s.Runs (some child)
      ((ask (fun () => .released (s.host.childId child)) (s.host.release child)).andThen
        fun () => stop .internal)
      fun result left acts => P result left
        (Trace.telling (.pid (s.host.childId child)) (.error e) ++ acts) := fun e =>
    runs_ask_andThen (fun _ => none) (fun _ => rfl) (fun c hc => ⟨child, hc, rfl, rfl⟩)
      fun _ => runs_stop (herror e)
  have hreport : s.Runs (some child) (s.report (.pid (s.host.childId child)))
      fun result left acts => left = some child ∧
        ((result = .ok () ∧ acts = Trace.telling (.pid (s.host.childId child)) (.ok ())) ∨
          ∃ e, result = .error .internal ∧
            acts = Trace.telling (.pid (s.host.childId child)) (.error e)) :=
    runs_report ⟨rfl, .inl ⟨rfl, rfl⟩⟩ fun e => ⟨rfl, .inr ⟨e, rfl, rfl⟩⟩
  obtain ⟨deeds, left, htrace, hperf, hp⟩ := hreport desk
  rcases hdesk : s.report (.pid (s.host.childId child)) desk with ⟨result, desk'⟩
  simp only [hdesk] at htrace hperf hp
  simp only [announce, hdesk]
  obtain ⟨rfl, ⟨rfl, hacts⟩ | ⟨e, rfl, hacts⟩⟩ := hp
  · exact ⟨deeds, some child, htrace, hperf, hacts ▸ hok⟩
  · obtain ⟨more, left', htrace', hperf', hp'⟩ := hrelease e desk'
    refine ⟨deeds ++ more, left', ?_, s.performs_append.mpr ⟨_, hperf, hperf'⟩, ?_⟩
    · rw [htrace', htrace, List.append_assoc]
    · rw [Trace.acts_append, hacts]
      exact hp'

theorem runs_awaitOutcome {child : κ} {P : Except StubExit Outcome → Option κ → Trace → Prop}
    (hrefused : ∀ e, P (.error .internal) none
      [.sent (.pid (s.host.childId child)) (.error e), .told e.message,
        .released (s.host.childId child)])
    (hlost : ∀ cause, P (.error .internal) none
      [.sent (.pid (s.host.childId child)) (.ok ()),
        .awaited (s.host.childId child) (.error cause),
        .told ("Cannot obtain return codes from child " ++ cause.message)])
    (hended : ∀ raw told, P
      (match told with
        | .ok () => .ok raw.classify
        | .error _ => .error .internal) none
      (.sent (.pid (s.host.childId child)) (.ok ()) ::
        .awaited (s.host.childId child) (.ok raw) ::
        Trace.telling (.ofOutcome raw.classify) told)) :
    s.Runs (some child) (s.awaitOutcome child) P := by
  rw [awaitOutcome, bind_eq]
  refine runs_note_andThen (runs_andThen (runs_announce ?_ hrefused))
  refine runs_ask_andThen (fun _ => none) (fun _ => rfl)
    (fun c hc => ⟨child, hc, rfl, rfl, rfl⟩) fun answer => ?_
  cases answer with
  | ok raw =>
    refine runs_note_andThen (runs_andThen (runs_report (runs_done ?_) fun e => ?_))
    · exact hended raw (.ok ())
    · exact hended raw (.error e)
  | error cause => exact runs_note_andThen (runs_diagnose_andThen (runs_stop (hlost cause)))

/-! ### The run -/

/-- All stages together take one of the courses, and no child is left in hand. -/
theorem runs_supervise (inv : Invocation) :
    s.Runs none (s.supervise inv) fun result left acts => left = none ∧
      ∃ course : Course, result = course.result ∧ acts = course.acts inv := by
  rw [supervise, bind_eq]
  refine runs_andThen (runs_enterWorkdir ?_ fun cause told => ?_)
  · refine runs_andThen (runs_determineType (fun type => ?_) fun cause told => ?_)
    · refine runs_andThen (runs_prepareEnvironment fun before applied after happlied => ?_)
      let p : Preparation := ⟨type, before, applied, happlied, after⟩
      refine runs_andThen (runs_launch (fun child => ?_) (fun queue cause => ?_)
        fun cause told => ?_)
      · refine runs_awaitOutcome (fun e => ?_) (fun cause => ?_) fun raw told => ?_
        · exact ⟨rfl, .unannounced p (s.host.childId child) e, rfl, by
            simp [Course.acts, Preparation.acts, Preparation.request, p]⟩
        · exact ⟨rfl, .lost p (s.host.childId child) cause, rfl, by
            simp [Course.acts, Preparation.acts, Preparation.request, p]⟩
        · refine ⟨rfl, .ended p (s.host.childId child) raw told, by cases told <;> rfl, ?_⟩
          simp [Course.acts, Preparation.acts, Preparation.request, p]
      · exact ⟨rfl, .noQueue p queue cause, rfl, by
          simp [Course.acts, Preparation.acts, Preparation.request, p]⟩
      · exact ⟨rfl, .noStart p cause told, rfl, by
          simp [Course.acts, Preparation.acts, Preparation.request, p]⟩
    · exact ⟨rfl, .noType cause told, rfl, rfl⟩
  · exact ⟨rfl, .noWorkdir cause told, rfl, rfl⟩

/-- **Every run takes one of the courses**: what it adds to the trace is performed by the devices
and is, the journal left aside, the list of deeds of a course, and it ends as that course does. -/
theorem run_takes_course (s : Supervisor σ κ χ ω) (inv : Invocation) (desk : Desk σ χ ω) :
    ∃ (deeds : Trace) (course : Course),
      (s.run inv desk).2.trace = desk.trace ++ deeds ∧
      s.Performs (desk.scene none) deeds ((s.run inv desk).2.scene none) ∧
      deeds.acts = course.acts inv ∧ (s.run inv desk).1 = course.exit := by
  obtain ⟨deeds, left, htrace, hperf, hleft, course, hresult, hacts⟩ :=
    runs_supervise (s := s) inv desk
  subst hleft
  rcases hrun : s.supervise inv desk with ⟨result, desk'⟩
  simp only [hrun] at htrace hperf hresult
  subst hresult
  have hexit := course.exit_eq
  cases hcourse : course.result with
  | ok outcome =>
    rw [hcourse] at hrun hexit
    refine ⟨deeds ++ [.noted .targetFinished], course, ?_, ?_, ?_, ?_⟩
    · simp only [run, hrun]
      rw [htrace, List.append_assoc]
    · simp only [run, hrun]
      exact s.performs_append.mpr ⟨_, hperf, _, rfl, rfl⟩
    · rw [Trace.acts_append, hacts]
      exact List.append_nil _
    · simp only [run, hrun]
      exact hexit.symm
  | error how =>
    rw [hcourse] at hrun hexit
    refine ⟨deeds, course, ?_, ?_, hacts, ?_⟩
    · simp only [run, hrun]
      exact htrace
    · simp only [run, hrun]
      exact hperf
    · simp only [run, hrun]
      exact hexit.symm

end Supervisor

end LaunchStub
