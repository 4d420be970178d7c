import LaunchStub.Supervisor

/-!
# Runs side by side

Two supervisors whose devices cannot be told apart do the same. What it is that cannot be told
apart is left open: it is a relation of desks, and two supervisors match under it if every single
question to a device gets the same answer on related desks and leaves them related.

## The model

`Stage.Agrees` compares two stages under a relation of desks: from related desks they give the same
result and leave related desks. Stages put together of stages that agree agree
(`Stage.Agrees.andThen`), so what is shown of the few stages that touch a device
(`Supervisor.Matches`) holds of a whole run (`Supervisor.Matches.run`) and of a series of runs
(`Supervisor.Matches.runAll`).

The first use is that nothing of a run depends on what becomes of a line for the user: the relation
is `Desk.SameButStderr`, two desks on which all but the streams is the same.
-/

namespace LaunchStub

variable {σ κ χ ω σ' χ' ω' α β : Type}

namespace Stage

/-- Started from related desks, two stages give the same result and leave related desks. -/
def Agrees (R : Desk σ χ ω → Desk σ' χ' ω' → Prop) (first : Stage σ χ ω α)
    (second : Stage σ' χ' ω' α) : Prop :=
  ∀ d d', R d d' → (first d).1 = (second d').1 ∧ R (first d).2 (second d').2

variable {R : Desk σ χ ω → Desk σ' χ' ω' → Prop}

theorem Agrees.done (a : α) : Agrees R (done a) (done a) := fun _ _ h => ⟨rfl, h⟩

theorem Agrees.stop (how : StubExit) : Agrees (α := α) R (stop how) (stop how) :=
  fun _ _ h => ⟨rfl, h⟩

/-- Of two agreeing stages each is followed by another: these start with the same value. -/
theorem Agrees.andThen {first : Stage σ χ ω β} {first' : Stage σ' χ' ω' β}
    {next : β → Stage σ χ ω α} {next' : β → Stage σ' χ' ω' α} (h : Agrees R first first')
    (hnext : ∀ b, Agrees R (next b) (next' b)) :
    Agrees R (first.andThen next) (first'.andThen next') := by
  intro d d' hd
  obtain ⟨hresult, hdesks⟩ := h d d' hd
  rcases hfirst : first d with ⟨result, m⟩
  rcases hfirst' : first' d' with ⟨result', m'⟩
  simp only [hfirst, hfirst'] at hresult hdesks
  subst hresult
  simp only [Stage.andThen, hfirst, hfirst']
  cases result with
  | error how => exact ⟨rfl, hdesks⟩
  | ok b => exact hnext b m m' hdesks

end Stage

namespace Supervisor

open Stage

/-- Applies one directive and notes what came of it. -/
def heed (s : Supervisor σ κ χ ω) (d : Directive × Bytes) : Stage σ χ ω Unit :=
  (ask (.extendedPath d.1 d.2) (s.host.extendPath d.1 d.2)).andThen fun
    | .ok () => note .directiveApplied
    | .error _ => note .directiveIgnored

/-- Directives are heeded one by one, and what comes of one is not looked at by the next. -/
theorem applyDirectives_cons (s : Supervisor σ κ χ ω) (d : Directive × Bytes)
    (rest : List (Directive × Bytes)) :
    s.applyDirectives (d :: rest) = (s.heed d).andThen fun _ => s.applyDirectives rest := by
  rw [applyDirectives, bind_eq, heed, andThen_assoc]
  congr 1
  funext answer
  cases answer <;> rfl

/-- Two supervisors with devices that, asked the same on related desks, answer the same and leave
related desks. What a host answers to a directive may differ: the supervisor only notes it. -/
structure Matches (s : Supervisor σ κ χ ω) (s' : Supervisor σ' κ χ' ω')
    (R : Desk σ χ ω → Desk σ' χ' ω' → Prop) : Prop where
  /-- The journal takes the same notes. -/
  note : ∀ event, Agrees R (note event) (note event)
  /-- The user is told the same. -/
  diagnose : ∀ text, Agrees R (s.diagnose text) (s'.diagnose text)
  /-- The controller is told the same, and takes it or not. -/
  send : ∀ message, Agrees R (s.send message) (s'.send message)
  /-- A directory is entered by both or by none. -/
  changeDir : ∀ dir, Agrees R (ask (.changedDir dir) (s.host.changeDir dir))
    (ask (.changedDir dir) (s'.host.changeDir dir))
  /-- A target is of the same kind. -/
  queryType : ∀ target, Agrees R (ask (.queriedType target) (s.host.queryType target))
    (ask (.queriedType target) (s'.host.queryType target))
  /-- The variables are the same. -/
  environment : Agrees R (ask .sawEnvironment s.host.environment)
    (ask .sawEnvironment s'.host.environment)
  /-- A directive has the same effect. -/
  heed : ∀ d, Agrees R (s.heed d) (s'.heed d)
  /-- A launch comes to the same. -/
  launch : ∀ strategy request,
    Agrees R (ask (fun answer => .launched strategy request (answer.map s.host.childId))
        (s.host.launch strategy request))
      (ask (fun answer => .launched strategy request (answer.map s'.host.childId))
        (s'.host.launch strategy request))
  /-- A child has the same process id. -/
  childId : s.host.childId = s'.host.childId
  /-- A child comes to the same end. -/
  wait : ∀ child, Agrees R (ask (.awaited (s.host.childId child)) (s.host.wait child))
    (ask (.awaited (s'.host.childId child)) (s'.host.wait child))
  /-- A child is let go of. -/
  release : ∀ child,
    Agrees R (ask (fun () => .released (s.host.childId child)) (s.host.release child))
      (ask (fun () => .released (s'.host.childId child)) (s'.host.release child))

namespace Matches

variable {s : Supervisor σ κ χ ω} {s' : Supervisor σ' κ χ' ω'}
  {R : Desk σ χ ω → Desk σ' χ' ω' → Prop} (h : s.Matches s' R)

include h

theorem report (message : Message) : Agrees R (s.report message) (s'.report message) := by
  refine (h.send message).andThen fun answer => ?_
  cases answer with
  | ok _ => exact .done ()
  | error e => exact (h.note _).andThen fun _ => (h.diagnose _).andThen fun _ => .stop _

/-- A failure that the user and then the controller is told of. -/
theorem failure (event : LogEvent) (text : String) (message : Message) (how : StubExit) :
    Agrees (α := α) R
      ((Stage.note event).andThen fun _ => (s.diagnose text).andThen fun _ =>
        (s.report message).andThen fun _ => Stage.stop how)
      ((Stage.note event).andThen fun _ => (s'.diagnose text).andThen fun _ =>
        (s'.report message).andThen fun _ => Stage.stop how) :=
  (h.note event).andThen fun _ => (h.diagnose text).andThen fun _ =>
    (h.report message).andThen fun _ => .stop how

theorem enterWorkdir (workdir : Bytes) :
    Agrees R (s.enterWorkdir workdir) (s'.enterWorkdir workdir) := by
  refine (h.changeDir workdir).andThen fun answer => ?_
  cases answer with
  | ok _ => exact .done ()
  | error e => exact h.failure _ _ _ _

theorem determineType (target : Bytes) :
    Agrees R (s.determineType target) (s'.determineType target) := by
  refine (h.queryType target).andThen fun answer => ?_
  cases answer with
  | ok type => exact .done type
  | error e => exact h.failure _ _ _ _

theorem applyDirectives (directives : List (Directive × Bytes)) :
    Agrees R (s.applyDirectives directives) (s'.applyDirectives directives) := by
  induction directives with
  | nil => exact .done ()
  | cons d rest ih =>
    rw [applyDirectives_cons, applyDirectives_cons]
    exact (h.heed d).andThen fun _ => ih

theorem prepareEnvironment : Agrees R s.prepareEnvironment s'.prepareEnvironment :=
  h.environment.andThen fun _ => (h.applyDirectives _).andThen fun _ =>
    h.environment.andThen fun _ => (h.note _).andThen fun _ => .done _

theorem launchTarget (strategy : Strategy) (request : LaunchRequest) :
    Agrees R (s.launch strategy request) (s'.launch strategy request) := by
  refine (h.note _).andThen fun _ => (h.launch strategy request).andThen fun answer => ?_
  match answer with
  | .ok child => exact .done child
  | .error (.start cause) => exact h.failure _ _ _ _
  | .error (.queueCreate queue cause) =>
    exact (h.note _).andThen fun _ => (h.diagnose _).andThen fun _ => .stop _

theorem announce (child : κ) : Agrees R (s.announce child) (s'.announce child) := by
  intro d d' hd
  obtain ⟨hresult, hdesks⟩ := h.report (.pid (s.host.childId child)) d d' hd
  have hrelease : ∀ how, Agrees (α := Unit) R
      ((ask (fun () => .released (s.host.childId child)) (s.host.release child)).andThen
        fun () => Stage.stop how)
      ((ask (fun () => .released (s'.host.childId child)) (s'.host.release child)).andThen
        fun () => Stage.stop how) :=
    fun how => (h.release child).andThen fun _ => .stop how
  simp only [Supervisor.announce, ← h.childId] at hrelease ⊢
  rcases hfirst : s.report (.pid (s.host.childId child)) d with ⟨result, m⟩
  rcases hsecond : s'.report (.pid (s.host.childId child)) d' with ⟨result', m'⟩
  simp only [hfirst, hsecond] at hresult hdesks
  subst hresult
  cases result with
  | ok _ => exact ⟨rfl, hdesks⟩
  | error how => exact hrelease how m m' hdesks

theorem awaitOutcome (child : κ) : Agrees R (s.awaitOutcome child) (s'.awaitOutcome child) := by
  refine (h.note _).andThen fun _ => (h.announce child).andThen fun _ =>
    (h.wait child).andThen fun answer => ?_
  cases answer with
  | ok raw => exact (h.note _).andThen fun _ => (h.report _).andThen fun _ => .done _
  | error cause => exact (h.note _).andThen fun _ => (h.diagnose _).andThen fun _ => .stop _

theorem supervise (inv : Invocation) : Agrees R (s.supervise inv) (s'.supervise inv) :=
  (h.enterWorkdir _).andThen fun _ => (h.determineType _).andThen fun _ =>
    h.prepareEnvironment.andThen fun _ => (h.launchTarget _ _).andThen fun child =>
      h.awaitOutcome child

/-- Runs of matching supervisors end in the same way and leave related desks. -/
theorem run (inv : Invocation) {d : Desk σ χ ω} {d' : Desk σ' χ' ω'} (hd : R d d') :
    (s.run inv d).1 = (s'.run inv d').1 ∧ R (s.run inv d).2 (s'.run inv d').2 := by
  obtain ⟨hresult, hdesks⟩ := h.supervise inv d d' hd
  rcases hfirst : s.supervise inv d with ⟨result, m⟩
  rcases hsecond : s'.supervise inv d' with ⟨result', m'⟩
  simp only [hfirst, hsecond] at hresult hdesks
  subst hresult
  simp only [Supervisor.run, hfirst, hsecond]
  cases result with
  | error how => exact ⟨rfl, hdesks⟩
  | ok outcome => exact ⟨rfl, (h.note .targetFinished m m' hdesks).2⟩

/-- So do series of runs. -/
theorem runAll (invocations : List Invocation) {d : Desk σ χ ω} {d' : Desk σ' χ' ω'}
    (hd : R d d') :
    (s.runAll invocations d).1 = (s'.runAll invocations d').1 ∧
      R (s.runAll invocations d).2 (s'.runAll invocations d').2 := by
  induction invocations generalizing d d' with
  | nil => exact ⟨rfl, hd⟩
  | cons inv rest ih =>
    obtain ⟨hexit, hdesks⟩ := h.run inv hd
    obtain ⟨hexits, hlast⟩ := ih hdesks
    refine ⟨?_, hlast⟩
    show (s.run inv d).1 :: (s.runAll rest (s.run inv d).2).1 = _
    rw [hexit, hexits]
    rfl

end Matches

end Supervisor

/-! ### Lines for the user -/

/-- Two desks on which all but the streams for the user is the same. -/
structure Desk.SameButStderr (d : Desk σ χ ω) (d' : Desk σ χ ω') : Prop where
  /-- The hosts are in the same state. -/
  host : d.host = d'.host
  /-- The channels are in the same state. -/
  channel : d.channel = d'.channel
  /-- The same has happened. -/
  trace : d.trace = d'.trace

theorem Stage.sameRun_note (event : LogEvent) :
    Agrees Desk.SameButStderr (note event : Stage σ χ ω Unit) (note event : Stage σ χ ω' Unit) := by
  intro d d' hd
  have htrace : d.trace ++ [.noted event] = d'.trace ++ [.noted event] := by rw [hd.trace]
  exact ⟨rfl, hd.host, hd.channel, htrace⟩

theorem Stage.sameRun_ask (deed : α → Deed) (operation : σ → Reply σ α) :
    Agrees Desk.SameButStderr (ask deed operation : Stage σ χ ω α)
      (ask deed operation : Stage σ χ ω' α) := by
  intro d d' hd
  obtain ⟨host, channel, stderr, trace⟩ := d
  obtain ⟨rfl, rfl, rfl⟩ := hd
  exact ⟨rfl, rfl, rfl, rfl⟩

namespace Supervisor

open Stage

variable (host : Host σ κ) (channel : Channel χ) (stderr : Writer ω) (stderr' : Writer ω')

/-- Supervisors that differ in the stream only match: the one place where it is touched is a line
for the user, and what it answers is not looked at. -/
theorem matches_sameButStderr :
    Matches ⟨host, channel, stderr⟩ ⟨host, channel, stderr'⟩ Desk.SameButStderr where
  note := sameRun_note
  diagnose text := by
    intro d d' hd
    have htrace : d.trace ++ [.told text] = d'.trace ++ [.told text] := by rw [hd.trace]
    exact ⟨rfl, hd.host, hd.channel, htrace⟩
  send message := by
    intro d d' hd
    obtain ⟨host, channel, stderr, trace⟩ := d
    obtain ⟨rfl, rfl, rfl⟩ := hd
    exact ⟨rfl, rfl, rfl, rfl⟩
  changeDir _ := sameRun_ask _ _
  queryType _ := sameRun_ask _ _
  environment := sameRun_ask _ _
  heed d := by
    refine (sameRun_ask _ _).andThen fun answer => ?_
    cases answer <;> exact sameRun_note _
  launch _ _ := sameRun_ask _ _
  childId := rfl
  wait _ := sameRun_ask _ _
  release _ := sameRun_ask _ _

/-- **Lines for the user make no difference**: two runs that write them on different streams end
in the same way and leave the same host, the same channel and the same trace. -/
theorem run_sameButStderr (inv : Invocation) {d : Desk σ χ ω} {d' : Desk σ χ ω'}
    (hd : d.SameButStderr d') :
    (run ⟨host, channel, stderr⟩ inv d).1 = (run ⟨host, channel, stderr'⟩ inv d').1 ∧
      (run ⟨host, channel, stderr⟩ inv d).2.SameButStderr
        (run ⟨host, channel, stderr'⟩ inv d').2 :=
  (matches_sameButStderr host channel stderr stderr').run inv hd

end Supervisor

end LaunchStub
