import LaunchStub.Proofs.Rehearsal.Course

/-!
# Rehearsals with other variables

The variables decide what a host is asked to apply and with what a target is started, and nothing
else: how a run ends, what is sent and what the user reads is the same with any of them. So two
rehearsals that differ in the variables are compared by their calls, and these are read off the
faults, the kind of the target and the variables.

## What is proved

* `seen_startedWith`, `calls_startedWith` — what the variables do not decide, and what they do.
* `launch_nested` — the variables that a target is started with are at rest: a stub that is started
  with them applies nothing and starts its own target with the same.
-/

namespace LaunchStub

/-- Where no variable is a directive none is collected. -/
theorem Directive.collect_of_clean {vars : Environment} (h : ∀ v ∈ vars, ofName? v.1 = none) :
    collect vars = [] := by
  have hoccurrences : occurrences vars = [] :=
    List.filterMap_eq_nil_iff.mpr fun v hv => by rw [h v hv, Option.map_none]
  rw [collect, hoccurrences]
  rfl

/-! ### Courses that go on from a preparation -/

/-- A course for each preparation, the same but for it: what is asked is what the preparation asks,
and of all else that can be seen only a diagnostic may depend on it, by the kind of the target. A
law that holds by computation need not be given. -/
structure Course.GoesOn (rest : Preparation → Course) : Prop where
  /-- What is asked is what the preparation asks. -/
  calls : ∀ p inv, (rest p).calls inv = p.calls inv := by intros; rfl
  /-- The run ends in the same way. -/
  exit : ∀ p q, (rest p).exit = (rest q).exit := by intros; rfl
  /-- The controller is told the same. -/
  report : ∀ p q, (rest p).report = (rest q).report := by intros; rfl
  /-- The same fails, with the same diagnostic for targets of one kind. -/
  failure : ∀ p q inv, p.type = q.type → (rest p).failure inv = (rest q).failure inv := by
    intros; rfl
  /-- The same message is refused. -/
  refusal : ∀ p q, (rest p).refusal = (rest q).refusal := by intros; rfl

namespace Rehearsal

/-- The same rehearsal, begun with other variables. -/
def startedWith (r : Rehearsal) (vars : Environment) : Rehearsal := { r with env := ⟨vars, none⟩ }

variable {r : Rehearsal} {limit : Option Nat} {inv : Invocation} {removal : Removal}
  {type : AppType}

theorem goesOn_childCourse (limit : Option Nat) (id : UInt32)
    (ending : Except IoError RawTermination) :
    Course.GoesOn fun p => childCourse limit p id ending := by
  cases htold : LimitedChannel.answerAt limit 0 with
  | error refusal =>
    simp only [childCourse_of_refused htold]
    exact {}
  | ok _ =>
    cases ending with
    | error e =>
      simp only [childCourse_of_lost htold]
      exact {}
    | ok raw =>
      simp only [childCourse_of_ended htold]
      exact {}

/-- Of a target whose kind is found out the course goes on from its preparation, in a way that the
variables do not decide. -/
theorem exists_goesOn (hchdir : r.faults.chdir = none) (htype : r.type = .ok type)
    (limit : Option Nat) (removal : Removal) : ∃ rest, Course.GoesOn rest ∧
      ∀ vars, (r.startedWith vars).course limit removal =
        rest ((r.startedWith vars).preparation removal type) := by
  match hlaunched : r.launched type.strategy with
  | .error (.queueCreate queue e) =>
    exact ⟨fun p => .noQueue p queue e, {},
      fun vars => course_of_queueCreate hchdir htype hlaunched⟩
  | .error (.start e) =>
    refine ⟨fun p => .noStart p e (LimitedChannel.answerAt limit 0), { failure := ?_ },
      fun vars => course_of_start hchdir htype hlaunched⟩
    intro p q inv hkind
    rw [Course.failure, Course.failure, hkind]
  | .ok child =>
    exact ⟨_, goesOn_childCourse limit child.id (r.ending type.strategy),
      fun vars => course_of_child hchdir htype hlaunched⟩

/-- With any variables a rehearsal ends in the same way, with the same messages and the same lines
for the user. -/
theorem seen_startedWith (r : Rehearsal) (limit : Option Nat) (inv : Invocation)
    (removal : Removal) (vars vars' : Environment) :
    let t := (r.startedWith vars).perform limit inv removal
    let t' := (r.startedWith vars').perform limit inv removal
    t.exits = t'.exits ∧ t.sent = t'.sent ∧ t.stderr = t'.stderr := by
  simp only [perform_eq]
  cases hchdir : r.faults.chdir with
  | some e =>
    rw [course_of_chdir (r := r.startedWith vars) hchdir,
      course_of_chdir (r := r.startedWith vars') hchdir]
    exact ⟨rfl, rfl, rfl⟩
  | none =>
    cases htype : r.type with
    | error e =>
      rw [course_of_type_error (r := r.startedWith vars) hchdir htype,
        course_of_type_error (r := r.startedWith vars') hchdir htype]
      exact ⟨rfl, rfl, rfl⟩
    | ok type =>
      obtain ⟨rest, hrest, hcourse⟩ := exists_goesOn hchdir htype limit removal
      have hfailure := hrest.failure ((r.startedWith vars).preparation removal type)
        ((r.startedWith vars').preparation removal type) inv rfl
      simp only [hcourse, Course.transcript, hfailure]
      refine ⟨?_, hrest.report _ _, ?_⟩
      · rw [hrest.exit]
      · rw [hrest.refusal]

/-! ### What the variables decide -/

/-- What a target is started with by a stub that is started with these variables. -/
def childVars (removal : Removal) (vars : Environment) : Environment :=
  (ChildEnvironment.sanitize
    (SteeredEnvironment.extendAll ⟨vars, none⟩ (Directive.collect vars) removal).vars).vars

/-- Without a fault before the launch the host is asked to apply the directives and then to launch
the target. -/
theorem calls_startedWith (hchdir : r.faults.chdir = none) (htype : r.type = .ok type)
    (limit : Option Nat) (inv : Invocation) (removal : Removal) (vars : Environment) :
    ((r.startedWith vars).perform limit inv removal).calls =
      .changeDir inv.workdir :: .queryType inv.target ::
        ((Directive.collect vars).map (fun d => .extendPath d.1 d.2) ++
          [.launch type.strategy inv.target inv.targetArgs (childVars removal vars)]) := by
  obtain ⟨rest, hrest, hcourse⟩ := exists_goesOn hchdir htype limit removal
  rw [perform_eq, hcourse]
  exact hrest.calls _ inv

/-- With a fault before the launch it is asked for neither, and the variables are not looked at. -/
theorem calls_of_fault (h : r.faults.chdir = none → ∃ e, r.type = .error e) (limit : Option Nat)
    (inv : Invocation) (removal : Removal) (vars : Environment) :
    ((r.startedWith vars).perform limit inv removal).calls =
      .changeDir inv.workdir :: if r.faults.chdir = none then [.queryType inv.target] else [] := by
  rw [perform_eq]
  cases hchdir : r.faults.chdir with
  | some e =>
    rw [course_of_chdir (r := r.startedWith vars) hchdir]
    rfl
  | none =>
    obtain ⟨e, htype⟩ := h hchdir
    rw [course_of_type_error (r := r.startedWith vars) hchdir htype]
    rfl

/-- Either a rehearsal gets as far as the launch or it has a fault before. -/
theorem reaches_or_fault (r : Rehearsal) : (r.faults.chdir = none ∧ ∃ type, r.type = .ok type) ∨
    (r.faults.chdir = none → ∃ e, r.type = .error e) := by
  cases r.faults.chdir with
  | some e => exact .inr nofun
  | none =>
    cases r.type with
    | ok type => exact .inl ⟨rfl, type, rfl⟩
    | error e => exact .inr fun _ => ⟨e, rfl⟩

/-- What is launched, and when. -/
theorem launch_mem_calls_iff {strategy : Strategy} {target arguments : Bytes}
    {vars block : Environment} :
    .launch strategy target arguments block ∈
        ((r.startedWith vars).perform limit inv removal).calls ↔
      r.faults.chdir = none ∧ (∃ type, r.type = .ok type ∧ type.strategy = strategy) ∧
        target = inv.target ∧ arguments = inv.targetArgs ∧ block = childVars removal vars := by
  obtain ⟨hchdir, type, htype⟩ | hfault := r.reaches_or_fault
  · rw [calls_startedWith hchdir htype]
    simp [hchdir, htype, eq_comm]
  · rw [calls_of_fault hfault]
    constructor
    · intro hmem
      split at hmem <;> simp at hmem
    · rintro ⟨hchdir, ⟨type, htype, -⟩, -⟩
      obtain ⟨e, he⟩ := hfault hchdir
      rw [htype] at he
      cases he

/-! ### Variables at rest -/

/-- No directive gets through to a target. -/
theorem childVars_clean (removal : Removal) (vars : Environment) :
    ∀ v ∈ childVars removal vars, Directive.ofName? v.1 = none :=
  ChildEnvironment.clean _

/-- Without directives nothing is applied and nothing is left out. -/
theorem childVars_of_clean {vars : Environment} (h : ∀ v ∈ vars, Directive.ofName? v.1 = none)
    (removal : Removal) : childVars removal vars = vars := by
  rw [childVars, Directive.collect_of_clean h]
  exact ChildEnvironment.vars_sanitize_of_clean h

/-- **Nesting is at rest**, whichever occurrences of a variable go when it is removed: if a target
is launched with some variables, a stub that is started with these, for the same invocation, a
target of the same content and the same faults, applies no directive and launches with the very same
ones; and variables none of which is a directive are handed on as they are, whenever a target is
launched at all. -/
theorem launch_nested (r : Rehearsal) (limit : Option Nat) (inv : Invocation) (removal : Removal)
    (vars : Environment) :
    (∀ strategy target arguments block,
      .launch strategy target arguments block ∈
          ((r.startedWith vars).perform limit inv removal).calls →
      ∀ (r' : Rehearsal) (limit' : Option Nat), r'.content = r.content → r'.faults = r.faults →
        ((r'.startedWith block).perform limit' inv removal).calls = [.changeDir inv.workdir,
          .queryType inv.target, .launch strategy target arguments block]) ∧
    ((∀ v ∈ vars, ∀ d : Directive, v.1 ≠ d.name) →
      ∀ strategy target arguments block,
        .launch strategy target arguments block ∈
            ((r.startedWith vars).perform limit inv removal).calls ↔
          r.faults.chdir = none ∧ (∃ type, r.type = .ok type ∧ type.strategy = strategy) ∧
            target = inv.target ∧ arguments = inv.targetArgs ∧ block = vars) := by
  constructor
  · intro strategy target arguments block hlaunch r' limit' hcontent hfaults
    obtain ⟨hchdir, ⟨type, htype, rfl⟩, rfl, rfl, rfl⟩ := launch_mem_calls_iff.mp hlaunch
    have hchdir' : r'.faults.chdir = none := by rw [hfaults, hchdir]
    have htype' : r'.type = .ok type := by
      rw [← htype, Rehearsal.type, Rehearsal.type, hcontent, hfaults]
    rw [calls_startedWith hchdir' htype', Directive.collect_of_clean (childVars_clean removal vars),
      childVars_of_clean (childVars_clean removal vars)]
    rfl
  · intro hclean strategy target arguments block
    have hnone : ∀ v ∈ vars, Directive.ofName? v.1 = none := by
      intro v hv
      cases hname : Directive.ofName? v.1 with
      | none => rfl
      | some d => exact absurd (Directive.ofName?_eq_some_iff.mp hname) (hclean v hv d)
    rw [launch_mem_calls_iff, childVars_of_clean hnone]

/-- A script to launch without the inherited path, which is listed twice. -/
def listedTwice : Rehearsal where
  env := ⟨[(LoaderPath.variableName, Bytes.ofText "/i"),
    (Directive.strict.name, Bytes.ofText "T"), (LoaderPath.variableName, []),
    (Bytes.ofText "A", Bytes.ofText "1")], none⟩
  content := AppType.scriptMark
  pid := 7
  status := .ofExit 0

/-- Neither listing is left where both go, and none comes back in a nested launch. -/
theorem launch_nested_listedTwice :
    let block := [(Bytes.ofText "A", Bytes.ofText "1")]
    .launch .session [] [] block ∈
        (listedTwice.perform none ⟨.run, [], [], [], [], []⟩ .everyOccurrence).calls ∧
      (({ listedTwice with pid := 8 }.startedWith block).perform (some 0)
          ⟨.run, [], [], [], [], []⟩ .everyOccurrence).calls =
        [.changeDir [], .queryType [], .launch .session [] [] block] := by
  intro block
  have hlaunch : .launch .session [] [] block ∈
      (listedTwice.perform none ⟨.run, [], [], [], [], []⟩ .everyOccurrence).calls := by decide
  obtain ⟨hnested, -⟩ := launch_nested listedTwice none ⟨.run, [], [], [], [], []⟩
    .everyOccurrence listedTwice.env.vars
  exact ⟨hlaunch, hnested _ _ _ _ hlaunch { listedTwice with pid := 8 } (some 0) rfl rfl⟩

end Rehearsal

end LaunchStub
