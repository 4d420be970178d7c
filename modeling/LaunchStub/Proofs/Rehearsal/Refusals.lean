import LaunchStub.Proofs.Rehearsal.Nesting
import LaunchStub.Proofs.Supervisor.PathAnswers

/-!
# Refused directives

That a directive is refused is seen in the journal and nowhere else. Whatever a host answers, the
supervisor goes on with the next directive and then with the launch. And the only refusal that there
is, of a flag that is no answer, leaves the variables alone: it fixes the inherited value, but a
flag comes last, so that no directive is left for which this value counts. So the target gets what
it would get if the flag had not been set at all, even where a later occurrence of the flag is an
answer: occurrences after the first do not count, and all of them are kept from the target.

## What is proved

* `extendAll_without` — directives and the removal of a name that is not the loader's variable do
  not get in each other's way.
* `childVars_of_refused` — a refused flag makes no difference to the variables of a target.
* `refusals_unseen` — neither the answers of a host nor a refused flag can be seen.
-/

namespace LaunchStub

/-- Is a target to be started by this call? -/
def HostCall.isLaunch : HostCall → Bool
  | .launch _ _ _ _ => true
  | _ => false

/-! ### Leaving a name out -/

namespace SteeredEnvironment

open LoaderPath

variable {name : Bytes}

/-- The same state, without any occurrence of a name. -/
def without (env : SteeredEnvironment) (name : Bytes) : SteeredEnvironment :=
  { env with vars := env.vars.without name }

theorem current_without (h : variableName ≠ name) (env : SteeredEnvironment) :
    (env.without name).current = env.current := by
  rw [current, current, without, Environment.get?_without_of_ne h]

theorem extend_without (h : variableName ≠ name) (env : SteeredEnvironment)
    (directive : Directive) (value : Bytes) (removal : Removal) :
    ((env.without name).extend directive value removal).2 =
      (env.extend directive value removal).2.without name := by
  cases hd : env.current.apply directive value with
  | ok path =>
    have hd' : (env.without name).current.apply directive value = .ok path := by
      rw [current_without h, hd]
    rw [extend_of_ok (d := (directive, value)) hd, extend_of_ok (d := (directive, value)) hd']
    exact congrArg (SteeredEnvironment.mk · _)
      (Environment.update_without h env.vars path.value removal)
  | error e =>
    have hd' : (env.without name).current.apply directive value = .error e := by
      rw [current_without h, hd]
    rw [extend_of_error (d := (directive, value)) hd,
      extend_of_error (d := (directive, value)) hd', current_without h]
    rfl

theorem extendAll_without (h : variableName ≠ name) (env : SteeredEnvironment)
    (directives : List (Directive × Bytes)) (removal : Removal) :
    (env.without name).extendAll directives removal =
      (env.extendAll directives removal).without name := by
  induction directives generalizing env with
  | nil => rfl
  | cons d rest ih =>
    rw [extendAll, List.foldl_cons, extend_without h]
    exact ih _

/-- A flag that is no answer leaves the variables alone. -/
theorem vars_extend_of_refused {flag : Bytes} (h : flag ∉ yes ++ no) (env : SteeredEnvironment)
    (removal : Removal) : (env.extend .strict flag removal).2.vars = env.vars := by
  obtain ⟨e, he⟩ := (apply_eq_error_iff env.current .strict flag).mpr ⟨rfl, h⟩
  rw [extend_of_error (d := (.strict, flag)) he]

end SteeredEnvironment

/-- The occurrences of one directive can be left out beforehand. -/
theorem ChildEnvironment.vars_sanitize_without (d : Directive) (env : Environment) :
    (sanitize (env.without d.name)).vars = (sanitize env).vars := by
  rw [← without_sanitize]
  refine List.filter_eq_self.mpr fun v hv => ?_
  have hclean := (sanitize env).clean v hv
  have hname : v.1 ≠ d.name := fun h => by simp [h] at hclean
  simpa using hname

/-- The flag is the last directive, and without it all others are as before. -/
theorem Directive.collect_of_strict {vars : Environment} {flag : Bytes}
    (h : vars.get? strict.name = some flag) :
    collect vars = collect (vars.without strict.name) ++ [(.strict, flag)] := by
  rw [collect_eq_append, collect_eq_append, Environment.get?_without_of_ne (by decide),
    Environment.get?_without_of_ne (by decide), Environment.get?_without, h]
  simp

/-! ### Rehearsals with a refused flag -/

namespace Rehearsal

variable {vars : Environment} {flag : Bytes}

/-- With a refused flag a target is started with what it is started with without the flag. -/
theorem childVars_of_refused (hflag : vars.get? Directive.strict.name = some flag)
    (hrefused : flag ∉ LoaderPath.yes ++ LoaderPath.no) (removal : Removal) :
    childVars removal vars = childVars removal (vars.without Directive.strict.name) := by
  let directives := Directive.collect (vars.without Directive.strict.name)
  let steered := SteeredEnvironment.extendAll ⟨vars, none⟩ directives removal
  have hvars : (SteeredEnvironment.extendAll ⟨vars, none⟩ (Directive.collect vars) removal).vars =
      steered.vars := by
    rw [Directive.collect_of_strict hflag, SteeredEnvironment.extendAll, List.foldl_append]
    exact SteeredEnvironment.vars_extend_of_refused hrefused steered removal
  have hwithout : (SteeredEnvironment.extendAll ⟨vars.without Directive.strict.name, none⟩
      directives removal).vars = steered.vars.without Directive.strict.name :=
    congrArg SteeredEnvironment.vars
      (SteeredEnvironment.extendAll_without (by decide) ⟨vars, none⟩ directives removal)
  rw [childVars, hvars, childVars, hwithout, ChildEnvironment.vars_sanitize_without]

/-- What a host is asked with a refused flag and without it. -/
theorem calls_of_refused (hflag : vars.get? Directive.strict.name = some flag)
    (hrefused : flag ∉ LoaderPath.yes ++ LoaderPath.no) (r : Rehearsal) (limit : Option Nat)
    (inv : Invocation) (removal : Removal) :
    let t := (r.startedWith vars).perform limit inv removal
    let t' := (r.startedWith (vars.without Directive.strict.name)).perform limit inv removal
    (t.calls = t'.calls ∧ ∀ call ∈ t.calls, call.isLaunch = false) ∨
      ∃ before launch, (∀ call ∈ before, call.isLaunch = false) ∧ launch.isLaunch ∧
        t.calls = before ++ [.extendPath .strict flag, launch] ∧
        t'.calls = before ++ [launch] := by
  intro t t'
  obtain ⟨hchdir, type, htype⟩ | hfault := r.reaches_or_fault
  · let directives := Directive.collect (vars.without Directive.strict.name)
    refine .inr ⟨.changeDir inv.workdir :: .queryType inv.target ::
      directives.map (fun d => .extendPath d.1 d.2),
      .launch type.strategy inv.target inv.targetArgs (childVars removal vars), ?_, rfl, ?_, ?_⟩
    · simp only [List.forall_mem_cons, List.forall_mem_map]
      exact ⟨rfl, rfl, fun _ _ => rfl⟩
    · simp only [t, calls_startedWith hchdir htype, Directive.collect_of_strict hflag]
      simp [directives]
    · simp only [t', calls_startedWith hchdir htype, childVars_of_refused hflag hrefused removal]
      simp [directives]
  · refine .inl ⟨by simp only [t, t', calls_of_fault hfault], ?_⟩
    simp only [t, calls_of_fault hfault]
    split <;> simp [HostCall.isLaunch]

end Rehearsal

/-- **Refusals are not seen.** On two hosts that differ only in what they answer to directives, with
any channel and any stream for the user, series of runs end in the same way, leave the same channel
and the same lines for the user, get the same messages accepted, make the same calls, and, the
journal and those answers left aside, have the same trace. And a launch with a flag that is no
answer is the launch without any occurrence of the flag: it ends in the same way, with the same
messages, the same lines and the same calls, but for one directive more, just before the target is
launched, if it gets as far. -/
theorem refusals_unseen :
    (∀ {σ σ' κ χ ω : Type} (host : Host σ κ) (host' : Host σ' κ) (R : σ → σ' → Prop),
      host.SameButPathAnswers host' R → ∀ (channel : Channel χ) (stderr : Writer ω)
        (invocations : List Invocation) (st : σ) (st' : σ') (taken : χ) (read : ω), R st st' →
      let ran := Supervisor.runAll ⟨host, channel, stderr⟩ invocations ⟨st, taken, read, []⟩
      let ran' := Supervisor.runAll ⟨host', channel, stderr⟩ invocations ⟨st', taken, read, []⟩
      ran.1 = ran'.1 ∧ ran.2.channel = ran'.2.channel ∧ ran.2.stderr = ran'.2.stderr ∧
        ran.2.trace.accepted = ran'.2.trace.accepted ∧
        ran.2.trace.calls = ran'.2.trace.calls ∧
        ran.2.trace.withoutPathAnswers = ran'.2.trace.withoutPathAnswers) ∧
    ∀ (r : Rehearsal) (limit : Option Nat) (inv : Invocation) (removal : Removal)
        (vars : Environment) (flag : Bytes),
      vars.get? Directive.strict.name = some flag → flag ∉ LoaderPath.yes ++ LoaderPath.no →
      let t := (r.startedWith vars).perform limit inv removal
      let t' := (r.startedWith (vars.without Directive.strict.name)).perform limit inv removal
      t.exits = t'.exits ∧ t.sent = t'.sent ∧ t.stderr = t'.stderr ∧
        ((t.calls = t'.calls ∧ ∀ call ∈ t.calls, call.isLaunch = false) ∨
          ∃ before launch, (∀ call ∈ before, call.isLaunch = false) ∧ launch.isLaunch ∧
            t.calls = before ++ [.extendPath .strict flag, launch] ∧
            t'.calls = before ++ [launch]) := by
  constructor
  · intro σ σ' κ χ ω host host' R h channel stderr invocations st st' taken read hst ran ran'
    have hbegin : Desk.SameButPathAnswers R (⟨st, taken, read, []⟩ : Desk σ χ ω)
        ⟨st', taken, read, []⟩ := ⟨hst, rfl, rfl, rfl⟩
    obtain ⟨hexits, hdesk⟩ :=
      Supervisor.runAll_sameButPathAnswers h channel stderr invocations hbegin
    refine ⟨hexits, hdesk.channel, hdesk.stderr, ?_, ?_, hdesk.trace⟩
    · rw [← Trace.accepted_withoutPathAnswers, hdesk.trace, Trace.accepted_withoutPathAnswers]
    · rw [← Trace.calls_withoutPathAnswers, hdesk.trace, Trace.calls_withoutPathAnswers]
  · intro r limit inv removal vars flag hflag hrefused
    obtain ⟨hexits, hsent, hstderr⟩ :=
      r.seen_startedWith limit inv removal vars (vars.without Directive.strict.name)
    exact ⟨hexits, hsent, hstderr, Rehearsal.calls_of_refused hflag hrefused r limit inv removal⟩

/-- A script that refuses every directive runs twice as one that refuses none; and the flag `x`
before a flag that is an answer is one directive more and nothing else. -/
theorem refusals_unseen_scripted :
    let script : Script := { env := Supervisor.directed.env.vars, launches := [.queueFailure 28] }
    let refusing := { script with pathErrno := some 22 }
    let inv : Invocation := ⟨.run, [], [], [], [], []⟩
    let flags := [(Directive.strict.name, Bytes.ofText "x"), (Directive.strict.name,
      Bytes.ofText "T"), (LoaderPath.variableName, Bytes.ofText "/i")]
    let inherited := [(LoaderPath.variableName, Bytes.ofText "/i")]
    Supervisor.transcript Script.host refusing none [inv, inv] =
        Supervisor.transcript Script.host script none [inv, inv] ∧
      ((Supervisor.directed.startedWith flags).perform none inv).calls =
        [.changeDir [], .queryType [], .extendPath .strict (Bytes.ofText "x"),
          .launch .session [] [] inherited] ∧
      ((Supervisor.directed.startedWith inherited).perform none inv).calls =
        [.changeDir [], .queryType [], .launch .session [] [] inherited] := by
  intro script refusing inv flags inherited
  constructor
  · obtain ⟨hexits, hchannel, hstderr, -, hcalls, -⟩ := refusals_unseen.1 _ _ _
      Script.sameButPathAnswers LimitedChannel.device Writer.keeping [inv, inv] script refusing
      ⟨none, []⟩ [] ⟨some 22, rfl⟩
    simp only [Supervisor.transcript, hexits, hchannel, hstderr, hcalls]
  · have hcalls : ((Supervisor.directed.startedWith flags).perform none inv).calls =
        [.changeDir [], .queryType [], .extendPath .strict (Bytes.ofText "x"),
          .launch .session [] [] inherited] := by decide
    obtain ⟨-, -, -, ⟨-, hnone⟩ | ⟨before, launch, -, -, hwith, hwithout⟩⟩ :=
      refusals_unseen.2 Supervisor.directed none inv .firstOccurrence flags (Bytes.ofText "x")
        (by decide) (by decide)
    · exact absurd hnone (by rw [hcalls]; decide)
    · rw [hcalls] at hwith
      have hsplit : [HostCall.changeDir [], .queryType []] ++
          [.extendPath .strict (Bytes.ofText "x"), .launch .session [] [] inherited] =
            before ++ [.extendPath .strict (Bytes.ofText "x"), launch] := hwith
      obtain ⟨rfl, hlast⟩ := List.append_inj' hsplit rfl
      obtain rfl : HostCall.launch .session [] [] inherited = launch := by simpa using hlast
      exact ⟨hcalls, hwithout⟩

end LaunchStub
