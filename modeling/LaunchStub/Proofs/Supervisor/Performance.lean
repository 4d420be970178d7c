import LaunchStub.Supervisor

/-!
# What the devices do in a run

The trace of a run says what the supervisor did and what it was answered. Here a trace is held
against the devices: each deed is something that a device does in the state that the deeds before
it left it in, and the answer in the deed is the one that the device gives.

## The model

A `Scene` holds the states of the devices and the child that the stub has in hand. A launch puts a
child there, and awaiting its end or letting go of it takes it away, so in a trace that
`Supervisor.Performs` allows no child is awaited that was not launched, and none twice.

`Supervisor.Runs` says of a stage, whatever desk it starts from, that the deeds it adds to the
trace are performed by the devices, and which deeds and which result these can be. Its rules follow
the way in which stages are put together: what is shown of a stage is shown of its first step and,
with that step's deed put in front, of the rest.
-/

namespace LaunchStub

namespace Deed

/-- Is this more than a note in the journal? -/
def isAct (deed : Deed) : Bool := deed.event?.isNone

end Deed

namespace Trace

/-- The trace without the notes in the journal. -/
def acts (trace : Trace) : Trace := trace.filter Deed.isAct

@[simp] theorem acts_nil : acts [] = [] := rfl

@[simp] theorem acts_append (t u : Trace) : acts (t ++ u) = acts t ++ acts u :=
  List.filter_append t u

@[simp] theorem acts_cons_noted (event : LogEvent) (t : Trace) :
    acts (.noted event :: t) = acts t := rfl

@[simp] theorem acts_map_noted (events : List LogEvent) : acts (events.map .noted) = [] := by
  induction events with
  | nil => rfl
  | cons event rest ih => rw [List.map_cons, acts_cons_noted, ih]

theorem acts_cons {deed : Deed} (h : deed.isAct) (t : Trace) : acts (deed :: t) = deed :: acts t :=
  List.filter_cons_of_pos h

theorem mem_acts {deed : Deed} (h : deed.isAct) {t : Trace} : deed ∈ acts t ↔ deed ∈ t := by
  rw [acts, List.mem_filter]
  exact and_iff_left h

/-- What is read off the deeds that are no notes can be read off the whole trace. -/
theorem filterMap_acts {α : Type} {f : Deed → Option α} (h : ∀ event, f (.noted event) = none)
    (t : Trace) : (acts t).filterMap f = t.filterMap f := by
  rw [acts, List.filterMap_filter]
  congr 1
  funext deed
  cases deed with
  | noted event => exact (h event).symm
  | _ => rfl

/-- What holds of every two deeds one of which is a note can be said without the notes. -/
theorem pairwise_acts {R : Deed → Deed → Prop}
    (h : ∀ earlier later : Deed, ¬ R earlier later → earlier.isAct ∧ later.isAct) {t : Trace} :
    (acts t).Pairwise R ↔ t.Pairwise R := by
  rw [acts, List.pairwise_filter]
  constructor
  · refine fun hacts => hacts.imp fun {earlier later} hnext => ?_
    refine Classical.byContradiction fun hR => ?_
    obtain ⟨hearlier, hlater⟩ := h earlier later hR
    exact hR (hnext hearlier hlater)
  · exact fun ht => ht.imp fun hnext _ _ => hnext

theorem accepted_acts (t : Trace) : accepted (acts t) = accepted t :=
  filterMap_acts (fun _ => rfl) t

theorem calls_acts (t : Trace) : calls (acts t) = calls t := filterMap_acts (fun _ => rfl) t

@[simp] theorem accepted_nil : accepted [] = [] := rfl

@[simp] theorem calls_nil : calls [] = [] := rfl

@[simp] theorem accepted_cons (deed : Deed) (t : Trace) :
    accepted (deed :: t) = deed.accepted?.toList ++ accepted t := by
  cases h : deed.accepted? <;> simp [accepted, h]

@[simp] theorem calls_cons (deed : Deed) (t : Trace) :
    calls (deed :: t) = deed.call?.toList ++ calls t := by
  cases h : deed.call? <;> simp [calls, h]

@[simp] theorem accepted_append (t u : Trace) : accepted (t ++ u) = accepted t ++ accepted u :=
  List.filterMap_append

@[simp] theorem calls_append (t u : Trace) : calls (t ++ u) = calls t ++ calls u :=
  List.filterMap_append

end Trace

/-- The states of the devices in the middle of a run, and the child that the stub has in hand. -/
structure Scene (σ κ χ ω : Type) where
  /-- The host. -/
  host : σ
  /-- The channel to the controller. -/
  channel : χ
  /-- The stream that the user reads. -/
  stderr : ω
  /-- The child that was launched and neither awaited nor let go of. -/
  child : Option κ

variable {σ κ χ ω α β : Type}

/-- The devices as they are on a desk. -/
def Desk.scene (desk : Desk σ χ ω) (child : Option κ) : Scene σ κ χ ω :=
  ⟨desk.host, desk.channel, desk.stderr, child⟩

namespace Supervisor

open Stage

variable (s : Supervisor σ κ χ ω)

/-- One deed: what a device answers in a scene, and the scene after it. The deeds of a whole
program, which connects and pauses, are none of a supervisor's. -/
def Does (c : Scene σ κ χ ω) : Deed → Scene σ κ χ ω → Prop
  | .changedDir dir answer, c' =>
    (s.host.changeDir dir c.host).answer = answer ∧
      c' = { c with host := (s.host.changeDir dir c.host).state }
  | .queriedType target answer, c' =>
    (s.host.queryType target c.host).answer = answer ∧
      c' = { c with host := (s.host.queryType target c.host).state }
  | .sawEnvironment answer, c' =>
    (s.host.environment c.host).answer = answer ∧
      c' = { c with host := (s.host.environment c.host).state }
  | .extendedPath directive value answer, c' =>
    (s.host.extendPath directive value c.host).answer = answer ∧
      c' = { c with host := (s.host.extendPath directive value c.host).state }
  | .launched strategy request answer, c' =>
    c.child = none ∧ ((s.host.launch strategy request c.host).answer.map s.host.childId) = answer ∧
      c' = { c with
        host := (s.host.launch strategy request c.host).state
        child := (s.host.launch strategy request c.host).answer.toOption }
  | .awaited id answer, c' =>
    ∃ child, c.child = some child ∧ s.host.childId child = id ∧
      (s.host.wait child c.host).answer = answer ∧
      c' = { c with host := (s.host.wait child c.host).state, child := none }
  | .released id, c' =>
    ∃ child, c.child = some child ∧ s.host.childId child = id ∧
      c' = { c with host := (s.host.release child c.host).state, child := none }
  | .sent message answer, c' =>
    (s.channel.send message c.channel).answer = answer ∧
      c' = { c with channel := (s.channel.send message c.channel).state }
  | .told text, c' =>
    c' = { c with
      stderr := (s.stderr.write (Bytes.ofText text ++ [Bytes.newline]) c.stderr).2 }
  | .noted _, c' => c' = c
  | .connected _ _, _ | .disconnected, _ | .paused _ _, _ => False

/-- Only sending touches the channel, and only a line for the user the stream. -/
theorem Does.frame {s : Supervisor σ κ χ ω} {c c' : Scene σ κ χ ω} {deed : Deed}
    (h : s.Does c deed c') :
    (c'.channel = c.channel ∨ ∃ message answer, deed = .sent message answer) ∧
      (c'.stderr = c.stderr ∨ ∃ text, deed = .told text) := by
  cases deed with
  | sent message answer =>
    obtain ⟨-, rfl⟩ := h
    exact ⟨.inr ⟨message, answer, rfl⟩, .inl rfl⟩
  | told text =>
    obtain rfl := h
    exact ⟨.inl rfl, .inr ⟨text, rfl⟩⟩
  | noted event =>
    obtain rfl := h
    exact ⟨.inl rfl, .inl rfl⟩
  | launched strategy request answer =>
    obtain ⟨-, -, rfl⟩ := h
    exact ⟨.inl rfl, .inl rfl⟩
  | awaited id answer =>
    obtain ⟨child, -, -, -, rfl⟩ := h
    exact ⟨.inl rfl, .inl rfl⟩
  | released id =>
    obtain ⟨child, -, -, rfl⟩ := h
    exact ⟨.inl rfl, .inl rfl⟩
  | connected _ _ => exact h.elim
  | disconnected => exact h.elim
  | paused _ _ => exact h.elim
  | _ =>
    obtain ⟨-, rfl⟩ := h
    exact ⟨.inl rfl, .inl rfl⟩

/-- All deeds of a trace, one after the other. -/
def Performs (c : Scene σ κ χ ω) : Trace → Scene σ κ χ ω → Prop
  | [], c' => c' = c
  | deed :: t, c' => ∃ m, s.Does c deed m ∧ Performs m t c'

theorem performs_append {c c' : Scene σ κ χ ω} {t u : Trace} :
    s.Performs c (t ++ u) c' ↔ ∃ m, s.Performs c t m ∧ s.Performs m u c' := by
  induction t generalizing c with
  | nil => simp [Performs]
  | cons deed t ih =>
    simp only [List.cons_append, Performs, ih]
    constructor
    · rintro ⟨m, hdeed, n, ht, hu⟩
      exact ⟨n, ⟨m, hdeed, ht⟩, hu⟩
    · rintro ⟨n, ⟨m, hdeed, ht⟩, hu⟩
      exact ⟨m, hdeed, n, ht, hu⟩

/-- Notes in the journal change nothing. -/
theorem performs_map_noted (c : Scene σ κ χ ω) (events : List LogEvent) :
    s.Performs c (events.map .noted) c := by
  induction events with
  | nil => rfl
  | cons event rest ih => exact ⟨c, rfl, ih⟩

/-- What is performed is performed without the notes too. -/
theorem Performs.acts {s : Supervisor σ κ χ ω} {c c' : Scene σ κ χ ω} {t : Trace}
    (h : s.Performs c t c') : s.Performs c t.acts c' := by
  induction t generalizing c with
  | nil => exact h
  | cons deed t ih =>
    obtain ⟨m, hdeed, ht⟩ := h
    by_cases hact : deed.isAct
    · rw [Trace.acts_cons hact]
      exact ⟨m, hdeed, ih ht⟩
    · cases deed with
      | noted event =>
        rw [Does] at hdeed
        subst hdeed
        exact ih ht
      | _ => exact absurd rfl hact

/-! ### What a stage does -/

/-- What a stage does, started with a child in hand or without one: its deeds are performed by the
devices, and they, its result and the child that is left in hand are as `P` says. -/
def Runs (held : Option κ) (stage : Stage σ χ ω α)
    (P : Except StubExit α → Option κ → Trace → Prop) : Prop :=
  ∀ desk, ∃ deeds left, (stage desk).2.trace = desk.trace ++ deeds ∧
    s.Performs (desk.scene held) deeds ((stage desk).2.scene left) ∧
    P (stage desk).1 left deeds.acts

variable {s} {held : Option κ} {P : Except StubExit α → Option κ → Trace → Prop}

theorem runs_done {a : α} (h : P (.ok a) held []) : s.Runs held (done a) P :=
  fun desk => ⟨[], held, (List.append_nil desk.trace).symm, rfl, h⟩

theorem runs_stop {how : StubExit} (h : P (.error how) held []) : s.Runs held (stop how) P :=
  fun desk => ⟨[], held, (List.append_nil desk.trace).symm, rfl, h⟩

/-- One stage and then another: the second starts with the child that the first leaves in hand, and
is not started if the first ends the run. -/
theorem runs_andThen {first : Stage σ χ ω β} {next : β → Stage σ χ ω α}
    (h : s.Runs held first fun result left acts => match result with
      | .error how => P (.error how) left acts
      | .ok b => s.Runs left (next b) fun result' left' acts' => P result' left' (acts ++ acts')) :
    s.Runs held (first.andThen next) P := by
  intro desk
  obtain ⟨deeds, left, htrace, hperf, hp⟩ := h desk
  rcases hfirst : first desk with ⟨how | b, desk'⟩
  · simp only [hfirst] at htrace hperf hp
    simp only [andThen, hfirst]
    exact ⟨deeds, left, htrace, hperf, hp⟩
  · simp only [hfirst] at htrace hperf hp
    obtain ⟨more, left', htrace', hperf', hp'⟩ := hp desk'
    simp only [andThen, hfirst]
    refine ⟨deeds ++ more, left', ?_, ?_, ?_⟩
    · rw [htrace', htrace, List.append_assoc]
    · exact s.performs_append.mpr ⟨_, hperf, hperf'⟩
    · rw [Trace.acts_append]
      exact hp'

/-- A device of the host is asked something, and its answer decides what comes next. -/
theorem runs_ask_andThen {deed : β → Deed} {operation : σ → Reply σ β} (left : β → Option κ)
    {next : β → Stage σ χ ω α} (hact : ∀ b, (deed b).isAct)
    (hdoes : ∀ c : Scene σ κ χ ω, c.child = held →
      s.Does c (deed (operation c.host).answer)
        { c with
          host := (operation c.host).state
          child := left (operation c.host).answer })
    (h : ∀ b, s.Runs (left b) (next b) fun result left' acts => P result left' (deed b :: acts)) :
    s.Runs held ((ask deed operation).andThen next) P := by
  refine runs_andThen fun desk => ?_
  refine ⟨(operation desk.host).events.map .noted ++ [deed (operation desk.host).answer],
    left (operation desk.host).answer, ?_, ?_, ?_⟩
  · simp only [ask, List.append_assoc]
  · exact s.performs_append.mpr ⟨_, s.performs_map_noted _ _, _, hdoes (desk.scene held) rfl, rfl⟩
  · rw [Trace.acts_append, Trace.acts_map_noted, List.nil_append, Trace.acts_cons (hact _)]
    exact h _

theorem runs_note_andThen {event : LogEvent} {next : Unit → Stage σ χ ω α}
    (h : s.Runs held (next ()) P) : s.Runs held ((note event).andThen next) P :=
  runs_andThen fun _ => ⟨[.noted event], held, rfl, ⟨_, rfl, rfl⟩, h⟩

theorem runs_diagnose_andThen {text : String} {next : Unit → Stage σ χ ω α}
    (h : s.Runs held (next ()) fun result left acts => P result left (.told text :: acts)) :
    s.Runs held ((s.diagnose text).andThen next) P :=
  runs_andThen fun _ => ⟨[.told text], held, rfl, ⟨_, rfl, rfl⟩, h⟩

theorem runs_send_andThen {message : Message} {next : Except ChannelError Unit → Stage σ χ ω α}
    (h : ∀ answer, s.Runs held (next answer) fun result left acts =>
      P result left (.sent message answer :: acts)) :
    s.Runs held ((s.send message).andThen next) P := by
  refine runs_andThen fun desk => ?_
  refine ⟨(s.channel.send message desk.channel).events.map .noted ++
    [.sent message (s.channel.send message desk.channel).answer], held, ?_, ?_, ?_⟩
  · simp only [send, List.append_assoc]
  · exact s.performs_append.mpr ⟨_, s.performs_map_noted _ _, _, ⟨rfl, rfl⟩, rfl⟩
  · rw [Trace.acts_append, Trace.acts_map_noted, List.nil_append, Trace.acts_cons rfl]
    exact h _

end Supervisor

end LaunchStub
