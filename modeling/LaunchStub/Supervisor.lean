import LaunchStub.Invocation
import LaunchStub.StubExit
import LaunchStub.Trace

/-!
# The supervisor

One invocation, one child: enter the working directory, find out what the target is, apply the
directives, launch the target, tell its process id, await its end, tell its end.

## The model

A `Stage` is a part of a run: it works on a `Desk`, the states of the three devices and the trace,
and either goes on with a value or ends the run. The stages stand here in the order in which a run
takes them, and `Supervisor.supervise` is their sequence. A stage that fails tells the user and,
where the controller expects it, the controller; the run is then over. A message that is refused
ends the run too, whatever stage it came from.
-/

namespace LaunchStub

/-- The states of the devices in the middle of a run, and the trace so far. -/
structure Desk (σ χ ω : Type) where
  /-- The host. -/
  host : σ
  /-- The channel to the controller. -/
  channel : χ
  /-- The stream that the user reads. -/
  stderr : ω
  /-- What has happened. -/
  trace : Trace := []

/-- A part of a run: it goes on with a value, or ends the run. -/
def Stage (σ χ ω α : Type) : Type := Desk σ χ ω → Except StubExit α × Desk σ χ ω

namespace Stage

variable {σ χ ω α β : Type}

/-- Goes on with a value, nothing done. -/
def done (a : α) : Stage σ χ ω α := fun desk => (.ok a, desk)

/-- Ends the run. -/
def stop (how : StubExit) : Stage σ χ ω α := fun desk => (.error how, desk)

/-- Does one stage and then, unless the run is over, the next. -/
def andThen (first : Stage σ χ ω α) (next : α → Stage σ χ ω β) : Stage σ χ ω β := fun desk =>
  match first desk with
  | (.ok a, desk) => next a desk
  | (.error how, desk) => (.error how, desk)

instance : Monad (Stage σ χ ω) where
  pure := done
  bind := andThen

/-- The sequence of two stages, written as a `do` block. -/
theorem bind_eq (first : Stage σ χ ω α) (next : α → Stage σ χ ω β) :
    first >>= next = first.andThen next := rfl

/-- Nothing done before a stage changes nothing. -/
@[simp] theorem done_andThen (a : α) (next : α → Stage σ χ ω β) : (done a).andThen next = next a :=
  rfl

/-- Nothing done after a stage changes nothing. -/
@[simp] theorem andThen_done (first : Stage σ χ ω α) : first.andThen done = first := by
  funext desk
  simp only [andThen, done]
  split <;> simp_all

/-- After the end of the run nothing is done. -/
@[simp] theorem stop_andThen (how : StubExit) (next : α → Stage σ χ ω β) :
    (stop how : Stage σ χ ω α).andThen next = stop how := rfl

/-- Stages can be grouped in any way. -/
theorem andThen_assoc {γ : Type} (first : Stage σ χ ω α) (second : α → Stage σ χ ω β)
    (third : β → Stage σ χ ω γ) :
    (first.andThen second).andThen third = first.andThen fun a => (second a).andThen third := by
  funext desk
  simp only [andThen]
  rcases first desk with ⟨_ | _, _⟩ <;> rfl

/-- Adds something to the trace. -/
def record (deed : Deed) : Stage σ χ ω Unit := fun desk =>
  (.ok (), { desk with trace := desk.trace ++ [deed] })

/-- Notes an event. -/
def note (event : LogEvent) : Stage σ χ ω Unit := record (.noted event)

/-- Has the host do something, which the answer makes a deed. -/
def ask (deed : α → Deed) (operation : σ → Reply σ α) : Stage σ χ ω α := fun desk =>
  let reply := operation desk.host
  (.ok reply.answer, { desk with
    host := reply.state
    trace := desk.trace ++ reply.events.map .noted ++ [deed reply.answer] })

end Stage

/-- The devices that a supervisor works with. -/
structure Supervisor (σ κ χ ω : Type) where
  /-- The operating system. -/
  host : Host σ κ
  /-- The way to the controller. -/
  channel : Channel χ
  /-- The stream that the user reads. -/
  stderr : Writer ω

namespace Supervisor

open Stage

variable {σ κ χ ω : Type} (s : Supervisor σ κ χ ω)

/-- Tells the user something, as one line. Whether that works makes no difference. -/
def diagnose (text : String) : Stage σ χ ω Unit := fun desk =>
  (.ok (), { desk with
    stderr := (s.stderr.write (Bytes.ofText text ++ [Bytes.newline]) desk.stderr).2
    trace := desk.trace ++ [.told text] })

/-- Sends a message, as it is. -/
def send (message : Message) : Stage σ χ ω (Except ChannelError Unit) := fun desk =>
  let reply := s.channel.send message desk.channel
  (.ok reply.answer, { desk with
    channel := reply.state
    trace := desk.trace ++ reply.events.map .noted ++ [.sent message reply.answer] })

/-- Tells the controller something. If the message is refused the run is over. -/
def report (message : Message) : Stage σ χ ω Unit := do
  match ← s.send message with
  | .ok () => done ()
  | .error e =>
    note .channelWriteFailed
    s.diagnose e.message
    stop .internal

/-- Enters the working directory. -/
def enterWorkdir (workdir : Bytes) : Stage σ χ ω Unit := do
  match ← ask (.changedDir workdir) (s.host.changeDir workdir) with
  | .ok () => done ()
  | .error e =>
    note .workdirRefused
    s.diagnose ("Cannot change to working directory " ++ Utf8.lossy workdir ++ ": " ++ e.message)
    s.report (.failure .chdir e.code)
    stop .invocation

/-- Finds out what kind of program the target is. -/
def determineType (target : Bytes) : Stage σ χ ω AppType := do
  match ← ask (.queriedType target) (s.host.queryType target) with
  | .ok type => done type
  | .error e =>
    note .unknownType
    s.diagnose "Unable to determine application type"
    s.report (.failure .exec e.code)
    stop .internal

/-- Applies directives, one after the other. One that fails is passed over. -/
def applyDirectives : List (Directive × Bytes) → Stage σ χ ω Unit
  | [] => done ()
  | (directive, value) :: rest => do
    match ← ask (.extendedPath directive value) (s.host.extendPath directive value) with
    | .ok () => note .directiveApplied
    | .error _ => note .directiveIgnored
    applyDirectives rest

/-- Applies the directives found in the environment, and settles the child's variables after that.
-/
def prepareEnvironment : Stage σ χ ω ChildEnvironment := do
  let before ← ask .sawEnvironment s.host.environment
  s.applyDirectives (Directive.collect before)
  let after ← ask .sawEnvironment s.host.environment
  note .environmentPrepared
  done (.sanitize after)

/-- What a strategy starts, in words. -/
def startedThing : Strategy → String
  | .direct => "process"
  | .session => "session"

/-- Launches the target. -/
def launch (strategy : Strategy) (request : LaunchRequest) : Stage σ χ ω κ := do
  note .launching
  match ← ask (fun answer => .launched strategy request (answer.map s.host.childId))
      (s.host.launch strategy request) with
  | .ok child => done child
  | .error (.start cause) =>
    note .launchFailed
    s.diagnose ("Cannot start child " ++ startedThing strategy ++ " due to "
      ++ (LaunchError.start cause).message)
    s.report (.failure .exec cause.code)
    stop .internal
  | .error (.queueCreate queue cause) =>
    note .launchSetupFailed
    s.diagnose (LaunchError.queueCreate queue cause).message
    stop .internal

/-- Tells the controller the child's process id. If that is refused the child is let go of. -/
def announce (child : κ) : Stage σ χ ω Unit := fun desk =>
  match s.report (.pid (s.host.childId child)) desk with
  | (.ok (), desk) => (.ok (), desk)
  | (.error how, desk) =>
    (ask (fun () => .released (s.host.childId child)) (s.host.release child)).andThen
      (fun () => stop how) desk

/-- Tells the controller of the child, awaits its end and tells the controller of that. -/
def awaitOutcome (child : κ) : Stage σ χ ω Outcome := do
  note .targetStarted
  s.announce child
  match ← ask (.awaited (s.host.childId child)) (s.host.wait child) with
  | .ok raw =>
    let outcome := raw.classify
    note .terminationClassified
    s.report (.ofOutcome outcome)
    done outcome
  | .error e =>
    note .waitFailed
    s.diagnose ("Cannot obtain return codes from child " ++ e.message)
    stop .internal

/-- All stages of a run. -/
def supervise (inv : Invocation) : Stage σ χ ω Outcome := do
  s.enterWorkdir inv.workdir
  let type ← s.determineType inv.target
  let env ← s.prepareEnvironment
  let child ← s.launch type.strategy ⟨inv.target, inv.targetArgs, env⟩
  s.awaitOutcome child

/-- One run: supervises the target that the invocation names, and says how that went. -/
def run (inv : Invocation) (desk : Desk σ χ ω) : StubExit × Desk σ χ ω :=
  match s.supervise inv desk with
  | (.ok _, desk) => (.completed, { desk with trace := desk.trace ++ [.noted .targetFinished] })
  | (.error how, desk) => (how, desk)

/-- Several runs, one after the other, with the same devices. -/
def runAll : List Invocation → Desk σ χ ω → List StubExit × Desk σ χ ω
  | [], desk => ([], desk)
  | inv :: rest, desk =>
    let (how, desk) := s.run inv desk
    let (hows, desk) := runAll rest desk
    (how :: hows, desk)

end Supervisor

end LaunchStub
