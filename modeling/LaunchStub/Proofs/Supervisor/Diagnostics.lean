import LaunchStub.Proofs.Supervisor.Agreement
import LaunchStub.Proofs.Supervisor.Reports

/-!
# What the user is told

A run that does not tell the controller of an end tells the user why. At most two things can have
gone wrong: a stage failed, and a message was refused. Each is told once, in this order, on a line
of its own, and nothing else is told; so the user is told nothing exactly if the run is completed,
which takes a launch, the end of that child, and a controller that is told of it.

## What is proved

* `stderr_of_performs` — a stream that takes everything holds the lines that the trace tells of.
* `Course.exit_eq_completed_iff_ended` — what a run has done that is completed.
* `run_tells_user` — these lines are the diagnostics of the failed stage and of the refused message;
  and on a stream that fails, wherever and however often, a run goes as it does on one that takes
  everything.
-/

namespace LaunchStub

theorem LaunchError.message_queueCreate (queue : Bytes) (cause : IoError) :
    (queueCreate queue cause).message =
      "Cannot create " ++ Utf8.lossy queue ++ ": " ++ cause.message := rfl

theorem LaunchError.message_start (cause : IoError) : (start cause).message = cause.message := rfl

namespace Deed

/-- The line that is told, if this deed tells the user one. -/
def told? : Deed → Option String
  | .told text => some text
  | _ => none

/-- The diagnostic of the stage that failed by this deed, if one did. -/
def failure? : Deed → Option String
  | .changedDir dir (.error cause) =>
    some ("Cannot change to working directory " ++ Utf8.lossy dir ++ ": " ++ cause.message)
  | .queriedType _ (.error _) => some "Unable to determine application type"
  | .launched strategy _ (.error (.start cause)) =>
    some ("Cannot start child " ++ (match strategy with
      | .direct => "process"
      | .session => "session") ++ " due to " ++ cause.message)
  | .launched _ _ (.error (.queueCreate queue cause)) =>
    some ("Cannot create " ++ Utf8.lossy queue ++ ": " ++ cause.message)
  | .awaited _ (.error cause) =>
    some ("Cannot obtain return codes from child " ++ cause.message)
  | _ => none

/-- The diagnostic of the message that was refused by this deed, if one was. -/
def refusal? : Deed → Option String
  | .sent _ (.error (.write cause)) => some ("Cannot write to comm socket: " ++ cause.message)
  | .sent _ (.error (.connect path cause)) =>
    some ("Cannot connect comm socket " ++ Utf8.lossy path ++ ": " ++ cause.message)
  | _ => none

end Deed

namespace Trace

/-- The lines for the user, in order. -/
def told (trace : Trace) : List String := trace.filterMap Deed.told?

/-- The diagnostics of the stages that failed. -/
def failures (trace : Trace) : List String := trace.filterMap Deed.failure?

/-- The diagnostics of the messages that were refused. -/
def refusals (trace : Trace) : List String := trace.filterMap Deed.refusal?

theorem told_acts (t : Trace) : told (acts t) = told t := filterMap_acts (fun _ => rfl) t

theorem failures_acts (t : Trace) : failures (acts t) = failures t :=
  filterMap_acts (fun _ => rfl) t

theorem refusals_acts (t : Trace) : refusals (acts t) = refusals t :=
  filterMap_acts (fun _ => rfl) t

@[simp] theorem told_append (t u : Trace) : told (t ++ u) = told t ++ told u :=
  List.filterMap_append

@[simp] theorem failures_append (t u : Trace) : failures (t ++ u) = failures t ++ failures u :=
  List.filterMap_append

@[simp] theorem refusals_append (t u : Trace) : refusals (t ++ u) = refusals t ++ refusals u :=
  List.filterMap_append

@[simp] theorem told_cons (deed : Deed) (t : Trace) :
    told (deed :: t) = deed.told?.toList ++ told t := by
  cases h : deed.told? <;> simp [told, h]

@[simp] theorem failures_cons (deed : Deed) (t : Trace) :
    failures (deed :: t) = deed.failure?.toList ++ failures t := by
  cases h : deed.failure? <;> simp [failures, h]

@[simp] theorem refusals_cons (deed : Deed) (t : Trace) :
    refusals (deed :: t) = deed.refusal?.toList ++ refusals t := by
  cases h : deed.refusal? <;> simp [refusals, h]

@[simp] theorem told_nil : told [] = [] := rfl

@[simp] theorem failures_nil : failures [] = [] := rfl

@[simp] theorem refusals_nil : refusals [] = [] := rfl

/-- The diagnostic that an answer to a message calls for. -/
def refusalOf : Except ChannelError Unit → Option String
  | .ok () => none
  | .error e => some e.message

@[simp] theorem diagnostics_telling (message : Message) (answer : Except ChannelError Unit) :
    told (telling message answer) = (refusalOf answer).toList ∧
      failures (telling message answer) = [] ∧
      refusals (telling message answer) = (refusalOf answer).toList := by
  cases answer with
  | ok _ => exact ⟨rfl, rfl, rfl⟩
  | error e => cases e <;> exact ⟨rfl, rfl, rfl⟩

/-- The bytes of lines, each ended by a line feed. -/
def lines (texts : List String) : Bytes :=
  texts.flatMap fun text => Bytes.ofText text ++ [Bytes.newline]

theorem lines_eq_nil_iff {texts : List String} : lines texts = [] ↔ texts = [] := by
  cases texts <;> simp [lines]

end Trace

/-! ### A stream that takes everything -/

namespace Supervisor

variable {σ κ χ : Type} {host : Host σ κ} {channel : Channel χ}

/-- One deed adds its line. -/
theorem stderr_of_does {c c' : Scene σ κ χ Bytes} {deed : Deed}
    (h : Does ⟨host, channel, Writer.keeping⟩ c deed c') :
    c'.stderr = c.stderr ++ Trace.lines deed.told?.toList := by
  cases deed with
  | told text =>
    obtain rfl := h
    simp [Writer.keeping, Trace.lines, Deed.told?]
  | _ => simpa [Trace.lines, Deed.told?] using h.frame.2

theorem stderr_of_performs {c c' : Scene σ κ χ Bytes} {t : Trace}
    (h : Performs ⟨host, channel, Writer.keeping⟩ c t c') :
    c'.stderr = c.stderr ++ Trace.lines t.told := by
  induction t generalizing c with
  | nil =>
    obtain rfl := h
    simp [Trace.lines]
  | cons deed t ih =>
    obtain ⟨m, hdeed, ht⟩ := h
    rw [ih ht, stderr_of_does hdeed]
    simp [Trace.lines]

end Supervisor

/-! ### The lines of the courses -/

/-- Before the launch nobody is told anything, and nothing has failed. -/
theorem Preparation.diagnostics_acts (p : Preparation) (inv : Invocation)
    (launched : Except LaunchError UInt32) :
    (p.acts inv launched).told = [] ∧ (p.acts inv launched).refusals = [] ∧
      (p.acts inv launched).failures =
        (Deed.failure? (.launched p.type.strategy (p.request inv) launched)).toList := by
  have htold : Trace.told (p.applied.map application) = [] := by
    rw [Trace.told, List.filterMap_map, List.filterMap_eq_nil_iff]
    exact fun _ _ => rfl
  have hfailures : Trace.failures (p.applied.map application) = [] := by
    rw [Trace.failures, List.filterMap_map, List.filterMap_eq_nil_iff]
    exact fun _ _ => rfl
  have hrefusals : Trace.refusals (p.applied.map application) = [] := by
    rw [Trace.refusals, List.filterMap_map, List.filterMap_eq_nil_iff]
    exact fun _ _ => rfl
  simp [acts, htold, hfailures, hrefusals, Deed.told?, Deed.failure?, Deed.refusal?]

namespace Course

variable (inv : Invocation)

/-- The diagnostic of the stage that fails in a course, if one does. -/
def failure (inv : Invocation) : Course → Option String
  | .noWorkdir cause _ =>
    some ("Cannot change to working directory " ++ Utf8.lossy inv.workdir ++ ": "
      ++ cause.message)
  | .noType _ _ => some "Unable to determine application type"
  | .noQueue _ queue cause => some (LaunchError.queueCreate queue cause).message
  | .noStart p cause _ =>
    some ("Cannot start child " ++ Supervisor.startedThing p.type.strategy ++ " due to "
      ++ cause.message)
  | .lost _ _ cause => some ("Cannot obtain return codes from child " ++ cause.message)
  | .unannounced _ _ _ | .ended _ _ _ _ => none

/-- The diagnostic of the message that is refused in a course, if one is. -/
def refusal : Course → Option String
  | .unannounced _ _ refusal => some refusal.message
  | .noWorkdir _ told | .noType _ told | .noStart _ _ told | .ended _ _ _ told =>
    Trace.refusalOf told
  | .noQueue _ _ _ | .lost _ _ _ => none

theorem diagnostics_acts (course : Course) :
    (course.acts inv).told = (course.failure inv).toList ++ course.refusal.toList ∧
      (course.acts inv).failures = (course.failure inv).toList ∧
      (course.acts inv).refusals = course.refusal.toList := by
  cases course with
  | noWorkdir cause told =>
    simp [acts, failure, refusal, Deed.told?, Deed.failure?, Deed.refusal?]
  | noType cause told =>
    simp [acts, failure, refusal, Deed.told?, Deed.failure?, Deed.refusal?]
  | noQueue p queue cause =>
    simp [acts, failure, refusal, p.diagnostics_acts, Deed.told?, Deed.failure?, Deed.refusal?,
      LaunchError.message_queueCreate]
  | noStart p cause told =>
    cases hstrategy : p.type.strategy <;>
      simp [acts, failure, refusal, p.diagnostics_acts, hstrategy, Deed.told?, Deed.failure?,
        Deed.refusal?, LaunchError.message_start, Supervisor.startedThing]
  | unannounced p id refused =>
    have hacts : acts inv (.unannounced p id refused) =
        p.acts inv (.ok id) ++ (Trace.telling (.pid id) (.error refused) ++ [.released id]) := rfl
    simp [hacts, failure, refusal, p.diagnostics_acts, Trace.refusalOf, Deed.told?, Deed.failure?,
      Deed.refusal?]
  | lost p id cause =>
    simp [acts, failure, refusal, p.diagnostics_acts, Deed.told?, Deed.failure?, Deed.refusal?]
  | ended p id raw told =>
    simp [acts, failure, refusal, p.diagnostics_acts, Deed.told?, Deed.failure?, Deed.refusal?]

/-- A course in which nothing goes wrong is one that is completed. -/
theorem exit_eq_completed_iff (course : Course) :
    course.exit = .completed ↔ course.failure inv = none ∧ course.refusal = none := by
  cases course with
  | noWorkdir cause told => cases told <;> simp [exit, failure, StubExit.afterTelling]
  | noType cause told => cases told <;> simp [exit, failure, StubExit.afterTelling]
  | noQueue p queue cause => simp [exit, failure]
  | noStart p cause told => cases told <;> simp [exit, failure, StubExit.afterTelling]
  | unannounced p id refused => simp [exit, refusal]
  | lost p id cause => simp [exit, failure]
  | ended p id raw told =>
    cases told <;> simp [exit, failure, refusal, Trace.refusalOf, StubExit.afterTelling]

/-- A message of an end is taken only in a course that is completed. -/
theorem exit_eq_completed_of_sent {course : Course} {outcome : Outcome}
    (h : .sent (.ofOutcome outcome) (.ok ()) ∈ course.acts inv) : course.exit = .completed := by
  have hreport : Message.ofOutcome outcome ∈ course.report := by
    rw [← course.accepted_acts inv]
    exact List.mem_filterMap.mpr ⟨_, h, rfl⟩
  cases course with
  | ended p id raw told =>
    cases told with
    | ok _ => rfl
    | error e => cases outcome <;> simp [report, Message.ofOutcome] at hreport
  | _ => cases outcome <;> simp [report, Message.ofOutcome] at hreport

/-- A course is completed exactly if a child is launched, comes to its end, and the controller takes
the message of that end. -/
theorem exit_eq_completed_iff_ended (course : Course) : course.exit = .completed ↔
    ∃ (strategy : Strategy) (request : LaunchRequest) (id : UInt32) (raw : RawTermination),
      .launched strategy request (.ok id) ∈ course.acts inv ∧
      .awaited id (.ok raw) ∈ course.acts inv ∧
      .sent (.ofOutcome raw.classify) (.ok ()) ∈ course.acts inv := by
  constructor
  · intro h
    cases course with
    | ended p id raw told =>
      cases told with
      | ok _ =>
        refine ⟨p.type.strategy, p.request inv, id, raw, ?_, by simp [acts], ?_⟩
        · exact List.mem_append_left _ (p.launched_mem_acts inv (.ok id))
        · simp [acts, Trace.sent_mem_telling]
      | error e => contradiction
    | noWorkdir cause told | noType cause told | noStart p cause told =>
      cases told <;> contradiction
    | noQueue | unannounced | lost => contradiction
  · rintro ⟨strategy, request, id, raw, -, -, hsent⟩
    exact exit_eq_completed_of_sent inv hsent

end Course

namespace Supervisor

variable {σ κ χ : Type}

/-- **What a run tells the user**: on a stream that takes everything, one line if a stage failed and
then one line if a message was refused, each the diagnostic of what went wrong, so nothing at all
exactly if the run is completed. That is so exactly if a child was launched and came to its end, and
the controller took the message of that end. On any other stream the run ends in the same way, with
the same host, the same channel and the same trace. -/
theorem run_tells_user (host : Host σ κ) (channel : Channel χ) (inv : Invocation)
    (desk : Desk σ χ Bytes) :
    (∃ (deeds : Trace) (failure refusal : Option String),
      (run ⟨host, channel, Writer.keeping⟩ inv desk).2.trace = desk.trace ++ deeds ∧
      Performs ⟨host, channel, Writer.keeping⟩ (desk.scene none) deeds
        ((run ⟨host, channel, Writer.keeping⟩ inv desk).2.scene none) ∧
      deeds.failures = failure.toList ∧ deeds.refusals = refusal.toList ∧
      (run ⟨host, channel, Writer.keeping⟩ inv desk).2.stderr =
        desk.stderr ++ Trace.lines (failure.toList ++ refusal.toList) ∧
      ((run ⟨host, channel, Writer.keeping⟩ inv desk).2.stderr = desk.stderr ↔
        (run ⟨host, channel, Writer.keeping⟩ inv desk).1 = .completed) ∧
      ((run ⟨host, channel, Writer.keeping⟩ inv desk).1 = .completed ↔
        ∃ (strategy : Strategy) (request : LaunchRequest) (id : UInt32) (raw : RawTermination),
          .launched strategy request (.ok id) ∈ deeds ∧ .awaited id (.ok raw) ∈ deeds ∧
            .sent (.ofOutcome raw.classify) (.ok ()) ∈ deeds)) ∧
    ∀ (ω : Type) (stderr : Writer ω) (stream : ω),
      let kept := run ⟨host, channel, Writer.keeping⟩ inv desk
      let other := run ⟨host, channel, stderr⟩ inv ⟨desk.host, desk.channel, stream, desk.trace⟩
      other.1 = kept.1 ∧ other.2.host = kept.2.host ∧ other.2.channel = kept.2.channel ∧
        other.2.trace = kept.2.trace := by
  constructor
  · obtain ⟨deeds, course, htrace, hperf, hacts, hexit⟩ :=
      run_takes_course ⟨host, channel, Writer.keeping⟩ inv desk
    obtain ⟨htold, hfailures, hrefusals⟩ := course.diagnostics_acts inv
    rw [← hacts, Trace.told_acts] at htold
    rw [← hacts, Trace.failures_acts] at hfailures
    rw [← hacts, Trace.refusals_acts] at hrefusals
    have hstderr := stderr_of_performs hperf
    rw [htold] at hstderr
    refine ⟨deeds, course.failure inv, course.refusal, htrace, hperf, hfailures, hrefusals,
      hstderr, ?_, ?_⟩
    · rw [hexit, course.exit_eq_completed_iff inv]
      refine Iff.trans
        (b := Trace.lines ((course.failure inv).toList ++ course.refusal.toList) = []) ?_ ?_
      · rw [show (run ⟨host, channel, Writer.keeping⟩ inv desk).2.stderr = _ from hstderr]
        exact List.append_right_eq_self
      · rw [Trace.lines_eq_nil_iff]
        simp
    · have hmem : ∀ {deed : Deed}, deed.isAct → (deed ∈ course.acts inv ↔ deed ∈ deeds) :=
        fun hact => hacts ▸ Trace.mem_acts hact
      rw [hexit, course.exit_eq_completed_iff_ended inv]
      exact exists₄_congr fun _ _ _ _ => and_congr (hmem rfl) (and_congr (hmem rfl) (hmem rfl))
  · intro ω stderr stream
    have hsame : desk.SameButStderr ⟨desk.host, desk.channel, stream, desk.trace⟩ :=
      ⟨rfl, rfl, rfl⟩
    obtain ⟨hexit, hhost, hchannel, htrace⟩ :=
      run_sameButStderr host channel Writer.keeping stderr inv hsame
    exact ⟨hexit.symm, hhost.symm, hchannel.symm, htrace.symm⟩

end Supervisor

end LaunchStub
