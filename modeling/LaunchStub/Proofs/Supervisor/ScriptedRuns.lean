import LaunchStub.Proofs.Supervisor.Reports
import LaunchStub.Proofs.Supervisor.LimitedChannel
import LaunchStub.Scripted

/-!
# Scripted runs over a limited channel

A script decides before any run what each run has to tell the controller, and a channel that takes
only so many messages does not change what the host is asked. So a series of runs over such a
channel can be foretold: lay the reports of all runs end to end, and the controller gets the
beginning of that; a run whose report does not get through as a whole ends as an internal fault, and
no other run notices.

## What is proved

* `run_scripted` — one run, from any state of script and channel: the report of the next launch
  goes to the channel as far as there is room, and nothing else depends on the channel.
* `transcript_scripted` — the same for a series of runs, each run's exit included.
-/

namespace LaunchStub

/-! ### What a script foretells -/

/-- What a launch that goes this way has to tell the controller. -/
def ScriptedLaunch.report : ScriptedLaunch → List Message
  | .startFailure errno => [.failure .exec errno]
  | .queueFailure _ => []
  | .child ⟨id, .error _⟩ => [.pid id]
  | .child ⟨id, .ok raw⟩ => [.pid id, .ofOutcome raw.classify]

namespace Script

/-- What one of a series of runs has to tell the controller. -/
def report (script : Script) (run : Nat) : List Message :=
  match script.chdirErrno, script.type with
  | some errno, _ => [.failure .chdir errno]
  | none, .error errno => [.failure .exec errno]
  | none, .ok _ => match script.launches[run]? with
    | some launch => launch.report
    | none => [.failure .exec 0]

/-- What each of a number of runs has to tell the controller. -/
def reports (script : Script) (runs : Nat) : List (List Message) :=
  (List.range runs).map script.report

/-- The script after one run: a launch is used up if the run gets that far. -/
def spent (script : Script) : Script :=
  match script.chdirErrno, script.type with
  | none, .ok _ => { script with launches := script.launches.tail }
  | _, _ => script

/-- What the host is asked in one run. -/
def calls (script : Script) (inv : Invocation) : List HostCall :=
  match script.chdirErrno, script.type with
  | some _, _ => [.changeDir inv.workdir]
  | none, .error _ => [.changeDir inv.workdir, .queryType inv.target]
  | none, .ok type =>
    .changeDir inv.workdir :: .queryType inv.target ::
      ((Directive.collect script.env).map (fun d => .extendPath d.1 d.2) ++
        [.launch type.strategy inv.target inv.targetArgs
          (ChildEnvironment.sanitize script.env).vars])

/-- What a run after the first has to tell is what the spent script says of the run before it. -/
theorem report_succ (script : Script) (run : Nat) :
    script.report (run + 1) = script.spent.report run := by
  cases hchdir : script.chdirErrno <;> cases htype : script.type <;>
    simp [report, spent, hchdir, htype]

theorem reports_succ (script : Script) (runs : Nat) :
    script.reports (runs + 1) = script.report 0 :: script.spent.reports runs := by
  rw [reports, List.range_succ_eq_map, List.map_cons, List.map_map, reports]
  congr 2
  funext run
  exact script.report_succ run

end Script

/-- A report of which the end is missing tells of no end. -/
theorem Script.ofReport_take {script : Script} {run count : Nat}
    (h : count < (script.report run).length) :
    StubExit.ofReport ((script.report run).take count) = .internal := by
  have hshape : (∃ message, script.report run = [message]) ∨
      ∃ id message, script.report run = [.pid id, message] := by
    revert h
    rw [report]
    split
    · exact fun _ => .inl ⟨_, rfl⟩
    · exact fun _ => .inl ⟨_, rfl⟩
    · split
      · rename_i launch _
        match launch with
        | .startFailure errno => exact fun _ => .inl ⟨_, rfl⟩
        | .queueFailure errno => exact fun h => absurd h (Nat.not_lt_zero count)
        | .child ⟨id, .error _⟩ => exact fun _ => .inl ⟨_, rfl⟩
        | .child ⟨id, .ok raw⟩ => exact fun _ => .inr ⟨_, _, rfl⟩
      · exact fun _ => .inl ⟨_, rfl⟩
  obtain ⟨message, hreport⟩ | ⟨id, message, hreport⟩ := hshape <;> rw [hreport] at h ⊢
  · obtain rfl : count = 0 := Nat.lt_one_iff.mp h
    rfl
  · match count, h with
    | 0, _ => rfl
    | 1, _ => rfl

/-- The host is asked the same in every run. -/
theorem Script.calls_spent (script : Script) : script.spent.calls = script.calls := by
  funext inv
  cases hchdir : script.chdirErrno <;> cases htype : script.type <;>
    simp [calls, spent, hchdir, htype]

/-- A run that gets as far as the launch has to tell what becomes of it. -/
theorem Script.report_zero_of_launch {script : Script} {type : AppType}
    (hchdir : script.chdirErrno = none) (htype : script.type = .ok type) :
    script.report 0 = match script.nextLaunch.1 with
      | .error (.start cause) => [.failure .exec cause.code]
      | .error (.queueCreate _ _) => []
      | .ok child => .pid child.id :: match child.ending with
        | .ok raw => [.ofOutcome raw.classify]
        | .error _ => [] := by
  cases hlaunches : script.launches with
  | nil => simp [report, nextLaunch, hchdir, htype, hlaunches, IoError.code]
  | cons launch rest =>
    simp only [report, nextLaunch, hchdir, htype, hlaunches, List.getElem?_cons_zero]
    match launch with
    | .startFailure errno => rfl
    | .queueFailure errno => rfl
    | .child ⟨id, .error _⟩ => rfl
    | .child ⟨id, .ok raw⟩ => rfl

theorem Script.spent_of_launch {script : Script} {type : AppType}
    (hchdir : script.chdirErrno = none) (htype : script.type = .ok type) :
    script.nextLaunch.2 = script.spent := by
  cases hlaunches : script.launches with
  | nil =>
    simp only [spent, nextLaunch, hchdir, htype, hlaunches, List.tail_nil]
    rw [← hlaunches, ← htype, ← hchdir]
  | cons launch rest => simp [spent, nextLaunch, hchdir, htype, hlaunches]

/-! ### One run -/

namespace Supervisor

/-- The devices of a scripted series of runs. -/
def scripted : Supervisor Script ScriptedChild LimitedChannel Bytes :=
  ⟨Script.host, LimitedChannel.device, Writer.keeping⟩

/-- Directives change nothing of a script. -/
theorem performs_applications {c c' : Scene Script ScriptedChild LimitedChannel Bytes}
    {applied : List ((Directive × Bytes) × Except IoError Unit)}
    (h : scripted.Performs c (applied.map Preparation.application) c') : c' = c := by
  induction applied with
  | nil => exact h
  | cons x rest ih =>
    obtain ⟨m, ⟨-, rfl⟩, hrest⟩ := h
    exact ih hrest

/-- What a script answers up to the launch. -/
theorem performs_preparation {c c' : Scene Script ScriptedChild LimitedChannel Bytes}
    {p : Preparation} {inv : Invocation} {launched : Except LaunchError UInt32}
    (h : scripted.Performs c (p.acts inv launched) c') :
    c.host.chdirErrno = none ∧ c.host.type = .ok p.type ∧ p.before = c.host.env ∧
      p.after = c.host.env ∧ c.host.nextLaunch.1.map ScriptedChild.id = launched ∧
      c' = { c with host := c.host.nextLaunch.2, child := c.host.nextLaunch.1.toOption } := by
  obtain ⟨m, ⟨hchdir, rfl⟩, m, ⟨htype, rfl⟩, m, ⟨hbefore, rfl⟩, h⟩ := h
  obtain ⟨m, happlied, m', ⟨hafter, rfl⟩, m'', ⟨-, hlaunched, rfl⟩, rfl⟩ :=
    scripted.performs_append.mp h
  rw [performs_applications happlied] at hafter hlaunched ⊢
  refine ⟨?_, ?_, hbefore.symm, hafter.symm, hlaunched, rfl⟩
  · cases hc : c.host.chdirErrno <;> simp_all [scripted, Script.host, Script.succeedUnless]
  · cases ht : c.host.type <;> simp_all [scripted, Script.host]

/-- Every course from the queue on begins with the same preparation. -/
theorem performs_prepared {c c' : Scene Script ScriptedChild LimitedChannel Bytes}
    {p : Preparation} {inv : Invocation} {launched : Except LaunchError UInt32} {t : Trace}
    (h : scripted.Performs c (p.acts inv launched ++ t) c') :
    c.host.nextLaunch.1.map ScriptedChild.id = launched ∧
      c.host.report 0 = (match c.host.nextLaunch.1 with
        | .error (.start cause) => [.failure .exec cause.code]
        | .error (.queueCreate _ _) => []
        | .ok child => .pid child.id :: match child.ending with
          | .ok raw => [.ofOutcome raw.classify]
          | .error _ => []) ∧
      (p.acts inv launched).calls = c.host.calls inv ∧
      scripted.Performs
        { c with host := c.host.spent, child := c.host.nextLaunch.1.toOption } t c' := by
  obtain ⟨m, hp, ht⟩ := scripted.performs_append.mp h
  obtain ⟨hchdir, htype, hbefore, hafter, hlaunched, rfl⟩ := performs_preparation hp
  refine ⟨hlaunched, Script.report_zero_of_launch hchdir htype, ?_, ?_⟩
  · rw [p.calls_acts, Preparation.calls, hbefore, hafter]
    simp [Script.calls, hchdir, htype]
  · rwa [Script.spent_of_launch hchdir htype] at ht

/-- A course on a script is the one that the script foretells, as far as the channel lets it. -/
theorem performs_course {c c' : Scene Script ScriptedChild LimitedChannel Bytes} {inv : Invocation}
    {course : Course} (h : scripted.Performs c (course.acts inv) c') :
    c'.host = c.host.spent ∧ c'.channel = c.channel.after (c.host.report 0) ∧
      course.report = c.channel.takes (c.host.report 0) ∧
      (course.acts inv).calls = c.host.calls inv := by
  cases course with
  | noWorkdir cause told =>
    obtain ⟨m, ⟨hanswer, rfl⟩, m', rfl, htold⟩ := h
    obtain ⟨errno, hchdir, rfl⟩ : ∃ errno, c.host.chdirErrno = some errno ∧ cause = .os errno := by
      cases hc : c.host.chdirErrno <;> simp_all [scripted, Script.host, Script.succeedUnless]
    obtain ⟨hhost, -, hchannel, htakes⟩ := performs_telling htold
    have hreport : c.host.report 0 = [.failure .chdir errno] := by simp [Script.report, hchdir]
    rw [hreport]
    refine ⟨?_, hchannel, htakes, ?_⟩
    · rw [hhost]
      simp [scripted, Script.host, Script.spent, hchdir]
    · cases told <;> simp [Course.acts, Trace.telling, Deed.call?, Script.calls, hchdir]
  | noType cause told =>
    obtain ⟨m, ⟨hanswer, rfl⟩, m', ⟨hanswer', rfl⟩, m'', rfl, htold⟩ := h
    have hchdir : c.host.chdirErrno = none := by
      cases hc : c.host.chdirErrno <;> simp_all [scripted, Script.host, Script.succeedUnless]
    obtain ⟨errno, htype, rfl⟩ : ∃ errno, c.host.type = .error errno ∧ cause = .os errno := by
      cases ht : c.host.type <;> simp_all [scripted, Script.host]
    obtain ⟨hhost, -, hchannel, htakes⟩ := performs_telling htold
    have hreport : c.host.report 0 = [.failure .exec errno] := by
      simp [Script.report, hchdir, htype]
    rw [hreport]
    refine ⟨?_, hchannel, htakes, ?_⟩
    · rw [hhost]
      simp [scripted, Script.host, Script.spent, hchdir, htype]
    · cases told <;> simp [Course.acts, Trace.telling, Deed.call?, Script.calls, hchdir, htype]
  | noQueue p queue cause =>
    obtain ⟨hlaunched, hreport, hcalls, m, rfl, rfl⟩ := performs_prepared h
    rw [map_eq_error_iff.mp hlaunched] at hreport
    rw [hreport]
    refine ⟨rfl, ?_, ?_, ?_⟩
    · rw [LimitedChannel.after_nil]
    · rw [LimitedChannel.takes_nil, Course.report]
    · simpa [Course.acts, Deed.call?] using hcalls
  | noStart p cause told =>
    obtain ⟨hlaunched, hreport, hcalls, m, rfl, htold⟩ := performs_prepared h
    rw [map_eq_error_iff.mp hlaunched] at hreport
    obtain ⟨hhost, -, hchannel, htakes⟩ := performs_telling htold
    rw [hreport]
    refine ⟨hhost, hchannel, htakes, ?_⟩
    cases told <;> simpa [Course.acts, Trace.telling, Deed.call?] using hcalls
  | unannounced p id refusal =>
    obtain ⟨hlaunched, hreport, hcalls, m, ⟨hanswer, rfl⟩, m', rfl, m'', ⟨child, -, -, rfl⟩, rfl⟩ :=
      performs_prepared h
    have hfull : c.channel.isFull := LimitedChannel.isFull_of_answer_send hanswer
    refine ⟨rfl, ?_, ?_, ?_⟩
    · refine (LimitedChannel.state_send _ _).trans ?_
      simp only [LimitedChannel.after, LimitedChannel.takes_of_isFull hfull]
    · rw [Course.report, LimitedChannel.takes_of_isFull hfull]
    · simpa [Course.acts, Deed.call?] using hcalls
  | lost p id cause =>
    obtain ⟨hlaunched, hreport, hcalls, m, ⟨hanswer, rfl⟩, m', ⟨child, hchild, -, hwait, rfl⟩, m'',
      rfl, rfl⟩ := performs_prepared h
    obtain ⟨child', hnext, rfl⟩ := map_eq_ok_iff.mp hlaunched
    obtain rfl : child' = child := by simpa [hnext, Except.toOption] using hchild
    replace hwait : child'.ending = .error cause := hwait
    replace hanswer : (LimitedChannel.send (.pid child'.id) c.channel).answer = .ok () := hanswer
    rw [hnext] at hreport
    simp only [hwait] at hreport
    rw [hreport]
    refine ⟨rfl, LimitedChannel.state_send _ _, ?_, ?_⟩
    · rw [LimitedChannel.takes_singleton, if_pos hanswer, Course.report]
    · simpa [Course.acts, Deed.call?] using hcalls
  | ended p id raw told =>
    obtain ⟨hlaunched, hreport, hcalls, m, ⟨hanswer, rfl⟩, m', ⟨child, hchild, -, hwait, rfl⟩,
      htold⟩ := performs_prepared h
    obtain ⟨child', hnext, rfl⟩ := map_eq_ok_iff.mp hlaunched
    obtain rfl : child' = child := by simpa [hnext, Except.toOption] using hchild
    replace hwait : child'.ending = .ok raw := hwait
    replace hanswer : (LimitedChannel.send (.pid child'.id) c.channel).answer = .ok () := hanswer
    rw [hnext] at hreport
    simp only [hwait] at hreport
    obtain ⟨hhost, -, hchannel, htakes⟩ := performs_telling htold
    have hstate : (scripted.channel.send (.pid child'.id) c.channel).state
        = c.channel.after [.pid child'.id] := LimitedChannel.state_send _ _
    rw [hstate] at hchannel htakes
    -- The process id was taken, so the two messages are taken as far as the second one is.
    rw [hreport, ← List.singleton_append]
    refine ⟨hhost, ?_, ?_, ?_⟩
    · rw [hchannel, LimitedChannel.after_append]
    · rw [LimitedChannel.takes_append, LimitedChannel.takes_singleton, if_pos hanswer, ← htakes,
        Course.report]
      rfl
    · cases told <;> simpa [Course.acts, Trace.telling, Deed.call?] using hcalls

/-- **One scripted run**: the report that the script foretells goes to the channel as far as there
is room, what gets through decides how the run ends, and neither the script nor what it is asked
depends on the channel. -/
theorem run_scripted (inv : Invocation) (desk : Desk Script LimitedChannel Bytes) :
    (scripted.run inv desk).2.host = desk.host.spent ∧
      (scripted.run inv desk).2.channel = desk.channel.after (desk.host.report 0) ∧
      (scripted.run inv desk).1 = StubExit.ofReport (desk.channel.takes (desk.host.report 0)) ∧
      (scripted.run inv desk).2.trace.calls = desk.trace.calls ++ desk.host.calls inv := by
  obtain ⟨deeds, course, htrace, hperf, hacts, hexit⟩ := scripted.run_takes_course inv desk
  have hcourse := hperf.acts
  rw [hacts] at hcourse
  obtain ⟨hhost, hchannel, hreport, hcalls⟩ := performs_course hcourse
  refine ⟨hhost, hchannel, ?_, ?_⟩
  · rw [hexit, course.exit_eq_ofReport, hreport]
    rfl
  · rw [htrace, Trace.calls_append, ← deeds.calls_acts, hacts, hcalls]
    rfl

/-! ### A series of runs -/

/-- Each run ends in one way. -/
theorem length_runAll {σ κ χ ω : Type} (s : Supervisor σ κ χ ω) (invs : List Invocation)
    (desk : Desk σ χ ω) : (s.runAll invs desk).1.length = invs.length := by
  induction invs generalizing desk with
  | nil => rfl
  | cons inv rest ih => simp [runAll, ih]

/-- Runs after a run meet the spent script and the channel as the run left it. -/
theorem runAll_scripted (invs : List Invocation) (desk : Desk Script LimitedChannel Bytes) :
    (scripted.runAll invs desk).2.channel
        = desk.channel.after (desk.host.reports invs.length).flatten ∧
      (scripted.runAll invs desk).2.trace.calls
        = desk.trace.calls ++ invs.flatMap desk.host.calls ∧
      ∀ run, (scripted.runAll invs desk).1[run]? =
        (desk.host.reports invs.length)[run]?.map fun report =>
          StubExit.ofReport ((desk.channel.after
            ((desk.host.reports invs.length).take run).flatten).takes report) := by
  induction invs generalizing desk with
  | nil => simp [runAll, Script.reports]
  | cons inv rest ih =>
    obtain ⟨hhost, hchannel, hexit, hcalls⟩ := run_scripted inv desk
    obtain ⟨ihchannel, ihcalls, ihexits⟩ := ih (scripted.run inv desk).2
    rw [hhost, hchannel] at ihchannel ihexits
    rw [hhost, hcalls, desk.host.calls_spent] at ihcalls
    rw [List.length_cons, Script.reports_succ, runAll]
    refine ⟨?_, ?_, fun run => ?_⟩
    · rw [List.flatten_cons, LimitedChannel.after_append, ← ihchannel]
    · rw [List.flatMap_cons, ← List.append_assoc, ← ihcalls]
    · cases run with
      | zero => simp [hexit]
      | succ run =>
        rw [List.getElem?_cons_succ, List.getElem?_cons_succ, List.take_succ_cons,
          List.flatten_cons, LimitedChannel.after_append]
        exact ihexits run

/-- Does the whole report of a run lie within the limit, the reports of all runs laid end to end? -/
def isWithin (limit : Option Nat) (reports : List (List Message)) (run : Nat) : Bool :=
  limit.all fun n => (List.range (reports.getD run []).length).all fun place =>
    (reports.take run).flatten.length + place < n

/-- **Scripted runs over a channel with a limit**: the controller gets the first messages of all
reports laid end to end, as many as the limit allows; the host is asked the same as without a limit;
and a run ends as it does without a limit if its report lies within, and as an internal fault if
not. -/
theorem transcript_scripted (script : Script) (invs : List Invocation) (limit : Option Nat) :
    (transcript Script.host script limit invs).sent
        = limit.elim (script.reports invs.length).flatten
            (fun n => (script.reports invs.length).flatten.take n) ∧
      (transcript Script.host script limit invs).calls
        = (transcript Script.host script none invs).calls ∧
      (transcript Script.host script limit invs).exits.length = invs.length ∧
      ∀ run, (transcript Script.host script limit invs).exits[run]? =
        if isWithin limit (script.reports invs.length) run then
          (transcript Script.host script none invs).exits[run]?
        else (transcript Script.host script none invs).exits[run]?.map fun _ => .internal := by
  obtain ⟨hchannel, hcalls, hexits⟩ := runAll_scripted invs ⟨script, ⟨limit, []⟩, [], []⟩
  obtain ⟨-, hfreeCalls, hfreeExits⟩ := runAll_scripted invs ⟨script, ⟨none, []⟩, [], []⟩
  refine ⟨?_, hcalls.trans hfreeCalls.symm, scripted.length_runAll invs _, fun run => ?_⟩
  · refine (congrArg LimitedChannel.accepted hchannel).trans ?_
    cases limit <;> simp [LimitedChannel.after, LimitedChannel.takes]
  · refine (hexits run).trans ?_
    rw [show (transcript Script.host script none invs).exits[run]? = _ from hfreeExits run]
    simp only [LimitedChannel.takes_after_fresh]
    cases hreport : (script.reports invs.length)[run]? with
    | none => simp
    | some report =>
      have hreported : report = script.report run := by
        rw [Script.reports, List.getElem?_map, Option.map_eq_some_iff] at hreport
        obtain ⟨run', hrun, rfl⟩ := hreport
        rw [(List.getElem?_eq_some_iff.mp hrun).2.symm, List.getElem_range]
      cases limit with
      | none => simp [isWithin]
      | some n =>
        have hwithin : isWithin (some n) (script.reports invs.length) run = true ↔
            ∀ place < report.length,
              ((script.reports invs.length).take run).flatten.length + place < n := by
          simp [isWithin, List.getD, hreport]
        simp only [Option.map_some, Option.elim_some, Option.elim_none]
        split
        · rename_i h
          have hroom : report.length ≤
              n - ((script.reports invs.length).take run).flatten.length := by
            have := hwithin.mp h (report.length - 1)
            omega
          rw [List.take_of_length_le hroom]
        · rename_i h
          have hroom : n - ((script.reports invs.length).take run).flatten.length
              < report.length := by
            rw [hwithin] at h
            simp only [Classical.not_forall] at h
            obtain ⟨place, hplace, h⟩ := h
            omega
          rw [hreported] at hroom ⊢
          rw [Script.ofReport_take hroom]

end Supervisor

end LaunchStub
