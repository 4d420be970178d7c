import LaunchStub.LoaderPath
import LaunchStub.Machine
import LaunchStub.Proofs.Directives
import LaunchStub.Proofs.Supervisor.Course
import LaunchStub.Rehearsal

/-!
# The variables of a launch

The directives rewrite one variable of the stub's own environment, up to three times, before the
target is launched with what that environment has become. Through all rewriting the other variables
stay where they are, and in the end the loader's variable has the value that the three directives
give it together, however it got there: an intermediate value may be absent, so that the variable
goes and comes back at another place, and a flag that is no answer is passed over.

## What is proved

* `only_extendAll`, `without_extendAll` — what any list of directives does to an environment in
  which the loader's variable occurs at most once.
* `Rehearsal.steers`, `Machine.steers` — the hosts of this library treat directives that way.
* `launched_variables` — so every launch of a run on such a host has the variables that the stub was
  started with, less the directives, and the loader's variable as `LoaderPath.handedDown` says.
-/

namespace LaunchStub

namespace LoaderPath

/-- The flags that mean yes. -/
def yes : List Bytes := [Bytes.ofText "T", Bytes.ofText "t"]

/-- The flags that mean no. -/
def no : List Bytes := [Bytes.ofText "F", Bytes.ofText "f"]

/-- The value that the loader's variable has for a target, by the variables that the stub was
started with: the inherited value if no directive says anything, and else what the first values of
the directives and the inherited value make together. -/
def handedDown (env : Environment) : Option Bytes :=
  let first := env.get? Directive.first.name
  let last := env.get? Directive.last.name
  let strict := env.get? Directive.strict.name
  let inherited := env.get? variableName
  if first = none ∧ last = none ∧ strict.all (· ∉ yes ++ no) then inherited
  else compose first inherited last (strict.any (· ∈ yes))

theorem flag?_eq (value : Bytes) : flag? value =
    if value ∈ yes then some true else if value ∈ no then some false else none := by
  simp [flag?, yes, no]

theorem flag?_eq_none_iff {value : Bytes} : flag? value = none ↔ value ∉ yes ++ no := by
  rw [flag?_eq]
  by_cases hyes : value ∈ yes
  · simp [hyes]
  · by_cases hno : value ∈ no <;> simp [hyes, hno]

/-- A directive is refused exactly if it is a flag that is no answer. -/
theorem apply_eq_error_iff (path : LoaderPath) (d : Directive) (value : Bytes) :
    (∃ e, path.apply d value = .error e) ↔ d = .strict ∧ value ∉ yes ++ no := by
  cases d with
  | first => simp [apply]
  | last => simp [apply]
  | strict =>
    rw [apply, ← flag?_eq_none_iff]
    cases flag? value <;> simp

/-- Is a directive taken in, in whatever state? -/
def accepts (d : Directive × Bytes) : Bool := d.1 ≠ .strict || (flag? d.2).isSome

/-- The state that a directive leads to: the same if it is refused. -/
def followedBy (path : LoaderPath) (d : Directive × Bytes) : LoaderPath :=
  match path.apply d.1 d.2 with
  | .ok path => path
  | .error _ => path

/-- The state that directives lead to. -/
def applyAll (path : LoaderPath) (directives : List (Directive × Bytes)) : LoaderPath :=
  directives.foldl followedBy path

theorem followedBy_of_ok {path path' : LoaderPath} {d : Directive × Bytes}
    (h : path.apply d.1 d.2 = .ok path') : path.followedBy d = path' := by
  rw [followedBy, h]

theorem followedBy_of_error {path : LoaderPath} {d : Directive × Bytes} {e : StrictnessError}
    (h : path.apply d.1 d.2 = .error e) : path.followedBy d = path := by
  rw [followedBy, h]

theorem followedBy_first (path : LoaderPath) (value : Bytes) :
    path.followedBy (.first, value) = { path with first := some value } := rfl

theorem followedBy_last (path : LoaderPath) (value : Bytes) :
    path.followedBy (.last, value) = { path with last := some value } := rfl

/-- A flag on a state that is not strict makes it strict exactly if it means yes. -/
theorem followedBy_strict {path : LoaderPath} (h : path.strict = false) (flag : Bytes) :
    path.followedBy (.strict, flag) = { path with strict := decide (flag ∈ yes) } := by
  rw [followedBy, apply, flag?_eq]
  by_cases hyes : flag ∈ yes
  · simp [hyes]
  · by_cases hno : flag ∈ no <;> simp [hyes, hno, ← h]

theorem accepts_of_apply {path path' : LoaderPath} {d : Directive × Bytes}
    (h : path.apply d.1 d.2 = .ok path') : accepts d := by
  obtain ⟨directive, value⟩ := d
  cases directive with
  | first => rfl
  | last => rfl
  | strict => cases hflag : flag? value <;> simp_all [apply, accepts]

theorem not_accepts_of_apply {path : LoaderPath} {d : Directive × Bytes} {e : StrictnessError}
    (h : path.apply d.1 d.2 = .error e) : accepts d = false := by
  obtain ⟨directive, value⟩ := d
  cases directive with
  | first => simp [apply] at h
  | last => simp [apply] at h
  | strict => cases hflag : flag? value <;> simp_all [apply, accepts]

/-- Refused directives lead nowhere. -/
theorem applyAll_of_not_accepts (path : LoaderPath) {directives : List (Directive × Bytes)}
    (h : directives.any accepts = false) : path.applyAll directives = path := by
  induction directives with
  | nil => rfl
  | cons d rest ih =>
    rw [List.any_cons, Bool.or_eq_false_iff] at h
    rw [applyAll, List.foldl_cons]
    cases hd : path.apply d.1 d.2 with
    | ok path' =>
      rw [accepts_of_apply hd] at h
      exact absurd h.1 (by decide)
    | error e =>
      rw [followedBy_of_error hd]
      exact ih h.2

/-- The state that the directives of an environment lead to. -/
theorem applyAll_collect (inherited : Option Bytes) (vars : Environment) :
    applyAll ⟨inherited, none, none, false⟩ (Directive.collect vars) =
      ⟨inherited, vars.get? Directive.first.name, vars.get? Directive.last.name,
        (vars.get? Directive.strict.name).any (· ∈ yes)⟩ := by
  rw [Directive.collect_eq_append]
  cases vars.get? Directive.first.name <;> cases vars.get? Directive.last.name <;>
    cases vars.get? Directive.strict.name <;>
    simp [applyAll, followedBy_first, followedBy_last, followedBy_strict]

/-- No directive of an environment is taken in exactly if there are none but a flag that is no
answer. -/
theorem any_accepts_collect (vars : Environment) :
    (Directive.collect vars).any accepts = false ↔
      vars.get? Directive.first.name = none ∧ vars.get? Directive.last.name = none ∧
        (vars.get? Directive.strict.name).all (· ∉ yes ++ no) := by
  rw [Directive.collect_eq_append]
  cases vars.get? Directive.first.name <;> cases vars.get? Directive.last.name <;>
    cases vars.get? Directive.strict.name <;> simp [accepts, flag?_eq_none_iff]

end LoaderPath

namespace SteeredEnvironment

open LoaderPath Environment

variable {env : SteeredEnvironment}

/-- Directives, one after the other. -/
def extendAll (env : SteeredEnvironment) (directives : List (Directive × Bytes))
    (removal : Removal := .everyOccurrence) : SteeredEnvironment :=
  directives.foldl (fun env d => (env.extend d.1 d.2 removal).2) env

theorem extend_of_ok {d : Directive × Bytes} {path : LoaderPath}
    (h : env.current.apply d.1 d.2 = .ok path) (removal : Removal) :
    (env.extend d.1 d.2 removal).2 =
      ⟨env.vars.update variableName path.value removal, some path⟩ := by
  rw [extend, h]

theorem extend_of_error {d : Directive × Bytes} {e : StrictnessError}
    (h : env.current.apply d.1 d.2 = .error e) (removal : Removal) :
    (env.extend d.1 d.2 removal).2 = ⟨env.vars, some env.current⟩ := by
  rw [extend, h]

/-- It does not matter which occurrences of a variable go that occurs at most once. -/
theorem extend_of_isSingle (h : env.vars.IsSingle variableName) (directive : Directive)
    (value : Bytes) (removal : Removal) :
    env.extend directive value removal = env.extend directive value := by
  rw [extend, extend]
  cases env.current.apply directive value with
  | ok path => simp only [update_of_isSingle h path.value removal]
  | error e => rfl

/-- A variable that occurs at most once still does so after a directive. -/
theorem isSingle_extend (h : env.vars.IsSingle variableName) (d : Directive × Bytes) :
    (env.extend d.1 d.2).2.vars.IsSingle variableName := by
  cases hd : env.current.apply d.1 d.2 with
  | ok path => rw [extend_of_ok hd]; exact isSingle_of_only_eq (only_update h path.value)
  | error e => rw [extend_of_error hd]; exact h

/-- Directives leave all other variables as they are. -/
theorem without_extendAll (env : SteeredEnvironment) (directives : List (Directive × Bytes)) :
    (env.extendAll directives).vars.without variableName = env.vars.without variableName := by
  induction directives generalizing env with
  | nil => rfl
  | cons d rest ih =>
    refine (ih (env.extend d.1 d.2).2).trans ?_
    cases hd : env.current.apply d.1 d.2 with
    | ok path => rw [extend_of_ok hd, without_update]
    | error e => rw [extend_of_error hd]

/-- The loader's variable is left alone until a directive is taken in, and has the value of the
state from then on. -/
theorem only_extendAll (h : env.vars.IsSingle variableName)
    (directives : List (Directive × Bytes)) :
    (env.extendAll directives).vars.only variableName =
      if directives.any accepts then entry variableName (env.current.applyAll directives).value
      else env.vars.only variableName := by
  induction directives generalizing env with
  | nil => rfl
  | cons d rest ih =>
    rw [extendAll, List.foldl_cons, ← extendAll, List.any_cons, applyAll, List.foldl_cons]
    cases hd : env.current.apply d.1 d.2 with
    | ok path =>
      have honly := only_update h path.value
      rw [extend_of_ok hd, ih (isSingle_of_only_eq honly), accepts_of_apply hd, Bool.true_or,
        if_pos rfl, honly]
      split
      · rw [followedBy_of_ok hd]
        rfl
      · rename_i hrest
        rw [followedBy_of_ok hd, ← applyAll, applyAll_of_not_accepts path (by simpa using hrest)]
    | error e =>
      rw [extend_of_error hd, @ih ⟨env.vars, some env.current⟩ h, not_accepts_of_apply hd,
        Bool.false_or, followedBy_of_error hd]
      rfl

/-- All directives of an environment together. -/
theorem only_extendAll_collect {vars : Environment} (h : vars.IsSingle variableName) :
    (extendAll ⟨vars, none⟩ (Directive.collect vars)).vars.only variableName
      = entry variableName (handedDown vars) := by
  have hstate : (current ⟨vars, none⟩).applyAll (Directive.collect vars) = _ :=
    applyAll_collect (vars.get? variableName) vars
  rw [only_extendAll h, only_eq_entry h, hstate]
  cases hany : (Directive.collect vars).any accepts with
  | true =>
    have hnone := mt (any_accepts_collect vars).mpr (by rw [hany]; decide)
    simp only [handedDown, hnone, if_true, if_false]
    rfl
  | false =>
    have hnone := (any_accepts_collect vars).mp hany
    simp only [handedDown, hnone, Bool.false_eq_true, if_false, if_true, and_self]

end SteeredEnvironment

/-! ### Hosts that follow the directives -/

/-- The host keeps the stub's variables as `view` shows them: directives change them as they change
a steered environment in which the loader's variable occurs at most once, and the steps before them
do not. -/
structure Host.Steers {σ κ : Type} (host : Host σ κ) (view : σ → SteeredEnvironment) : Prop where
  /-- Entering a directory changes no variable. -/
  changeDir : ∀ dir st, view (host.changeDir dir st).state = view st
  /-- Finding out the kind of a program changes no variable. -/
  queryType : ∀ target st, view (host.queryType target st).state = view st
  /-- The variables are shown as they are. -/
  environment : ∀ st, (host.environment st).answer = (view st).vars
  /-- Showing the variables changes none. -/
  environment_state : ∀ st, view (host.environment st).state = view st
  /-- A directive changes the loader's variable. -/
  extendPath : ∀ directive value st, (view st).vars.IsSingle LoaderPath.variableName →
    view (host.extendPath directive value st).state = ((view st).extend directive value).2

theorem Rehearsal.steers (removal : Removal) :
    (Rehearsal.host removal).Steers Rehearsal.env where
  changeDir _ _ := rfl
  queryType _ _ := rfl
  environment _ := rfl
  environment_state _ := rfl
  extendPath directive value _ hsingle :=
    congrArg Prod.snd (SteeredEnvironment.extend_of_isSingle hsingle directive value removal)

theorem Machine.steers : Machine.host.Steers Machine.env where
  changeDir dir m := by
    simp only [host, changeDir]
    split <;> rfl
  queryType _ _ := rfl
  environment _ := rfl
  environment_state _ := rfl
  extendPath _ _ _ _ := rfl

namespace Supervisor

variable {σ κ χ ω : Type} {s : Supervisor σ κ χ ω} {view : σ → SteeredEnvironment}

/-- Directives are applied to the variables in view. -/
theorem view_of_performs_applications (hsteers : s.host.Steers view)
    {applied : List ((Directive × Bytes) × Except IoError Unit)} {c c' : Scene σ κ χ ω}
    (hsingle : (view c.host).vars.IsSingle LoaderPath.variableName)
    (h : s.Performs c (applied.map Preparation.application) c') :
    view c'.host = (view c.host).extendAll (applied.map Prod.fst) := by
  induction applied generalizing c with
  | nil => rw [show c' = c from h]; rfl
  | cons x rest ih =>
    obtain ⟨m, ⟨-, hm⟩, hrest⟩ := h
    have hstep : view m.host = ((view c.host).extend x.1.1 x.1.2).2 := by
      rw [hm]
      exact hsteers.extendPath x.1.1 x.1.2 c.host hsingle
    rw [ih (by rw [hstep]; exact SteeredEnvironment.isSingle_extend hsingle x.1) hrest, hstep]
    rfl

/-- What a prepared launch is given: the variables that the run started with, after all their own
directives. -/
theorem after_of_performs_acts (hsteers : s.host.Steers view) {env : Environment}
    (hsingle : env.IsSingle LoaderPath.variableName) {p : Preparation} {inv : Invocation}
    {launched : Except LaunchError UInt32} {c c' : Scene σ κ χ ω}
    (hview : view c.host = ⟨env, none⟩) (h : s.Performs c (p.acts inv launched) c') :
    p.after = (SteeredEnvironment.extendAll ⟨env, none⟩ (Directive.collect env)).vars := by
  obtain ⟨c₁, ⟨-, rfl⟩, c₂, ⟨-, rfl⟩, c₃, ⟨hbefore, rfl⟩, hrest⟩ := h
  obtain ⟨c₄, happlied, c₅, ⟨hafter, -⟩, -⟩ := s.performs_append.mp hrest
  have hstart : view (s.host.queryType inv.target
      (s.host.changeDir inv.workdir c.host).state).state = ⟨env, none⟩ := by
    rw [hsteers.queryType, hsteers.changeDir, hview]
  have hseen : p.before = env := by rw [← hbefore, hsteers.environment, hstart]
  have hsteered := (hsteers.environment_state _).trans hstart
  have happly := view_of_performs_applications hsteers (by rw [hsteered]; exact hsingle) happlied
  rw [hsteered, p.applied_eq, hseen] at happly
  rw [← hafter, hsteers.environment, happly]

/-- **The variables of every launch**, on a host that follows the directives, for an environment in
which the loader's variable occurs at most once and all else may repeat: the variables that the run
started with, in their order, without the directives and the loader's variable; and that variable,
if it has a value by the directives, exactly once and with this value. -/
theorem launched_variables (hsteers : s.host.Steers view) {env : Environment}
    (hsingle : env.IsSingle LoaderPath.variableName) (inv : Invocation) {desk : Desk σ χ ω}
    (hview : view desk.host = ⟨env, none⟩) :
    ∃ deeds, (s.run inv desk).2.trace = desk.trace ++ deeds ∧
      ∀ strategy request answer, .launched strategy request answer ∈ deeds →
        request.env.vars.without LoaderPath.variableName =
          Environment.without (env.filter fun v => (Directive.ofName? v.1).isNone)
            LoaderPath.variableName ∧
        request.env.vars.only LoaderPath.variableName =
          Environment.entry LoaderPath.variableName (LoaderPath.handedDown env) := by
  obtain ⟨deeds, course, htrace, hperf, hacts, -⟩ := run_takes_course s inv desk
  refine ⟨deeds, htrace, fun strategy request answer hmem => ?_⟩
  rw [← Trace.mem_acts rfl, hacts] at hmem
  obtain ⟨p, t, hp, -, rfl⟩ := Course.acts_of_launched hmem
  have hprepared := hperf.acts
  rw [hacts, hp] at hprepared
  obtain ⟨c, hbegin, -⟩ := s.performs_append.mp hprepared
  have hafter := after_of_performs_acts hsteers hsingle hview hbegin
  constructor
  · rw [Preparation.request, ChildEnvironment.without_sanitize, hafter,
      SteeredEnvironment.without_extendAll]
    exact (ChildEnvironment.without_sanitize LoaderPath.variableName env).symm
  · rw [Preparation.request, ChildEnvironment.only_sanitize (by decide), hafter,
      SteeredEnvironment.only_extendAll_collect hsingle]

/-- A script to launch with a directive that occurs twice, a flag that is no answer, and an
inherited path between them. -/
def directed : Rehearsal where
  env := ⟨[(Bytes.ofText "A", Bytes.ofText "1"), (Directive.first.name, Bytes.ofText "/b"),
    (LoaderPath.variableName, Bytes.ofText "/i"), (Directive.strict.name, Bytes.ofText "x"),
    (Directive.first.name, Bytes.ofText "/c"), (Bytes.ofText "A", Bytes.ofText "2")], none⟩
  content := AppType.scriptMark
  pid := 7
  status := .ofExit 0

/-- The supervisor of a rehearsal. -/
def rehearsing (removal : Removal := .firstOccurrence) :
    Supervisor Rehearsal RehearsedChild LimitedChannel Bytes :=
  ⟨Rehearsal.host removal, LimitedChannel.device, Writer.keeping⟩

/-- The desk that the launch of `directed` starts from, with a controller that takes everything. -/
def directedDesk : Desk Rehearsal LimitedChannel Bytes := ⟨directed, ⟨none, []⟩, [], []⟩

/-- The launch of `directed` has the path that its first directive and the inherited one make. -/
theorem launched_variables_directed :
    ∃ strategy request answer,
      .launched strategy request answer ∈
        (rehearsing.run ⟨.run, [], [], [], [], []⟩ directedDesk).2.trace ∧
      request.env.vars.without LoaderPath.variableName =
        [(Bytes.ofText "A", Bytes.ofText "1"), (Bytes.ofText "A", Bytes.ofText "2")] ∧
      request.env.vars.only LoaderPath.variableName =
        [(LoaderPath.variableName, Bytes.ofText "/b:/i")] := by
  let request : LaunchRequest := ⟨[], [], .sanitize [(Bytes.ofText "A", Bytes.ofText "1"),
    (LoaderPath.variableName, Bytes.ofText "/b:/i"), (Bytes.ofText "A", Bytes.ofText "2")]⟩
  have hsingle : directed.env.vars.IsSingle LoaderPath.variableName := by decide
  have hview : Rehearsal.env directedDesk.host = ⟨directed.env.vars, none⟩ := rfl
  have hlaunch : .launched .session request (.ok 7) ∈
      (rehearsing.run ⟨.run, [], [], [], [], []⟩ directedDesk).2.trace := by decide
  obtain ⟨deeds, htrace, hvars⟩ := launched_variables (s := rehearsing)
    (Rehearsal.steers .firstOccurrence) hsingle
    ⟨.run, [], [], [], [], []⟩ hview
  have hmem := hlaunch
  rw [htrace] at hmem
  obtain ⟨hwithout, honly⟩ := hvars .session request (.ok 7) hmem
  exact ⟨.session, request, .ok 7, hlaunch, hwithout.trans (by decide), honly.trans (by decide)⟩

end Supervisor

end LaunchStub
