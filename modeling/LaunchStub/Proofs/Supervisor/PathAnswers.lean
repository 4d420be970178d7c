import LaunchStub.Proofs.Supervisor.Agreement
import LaunchStub.Proofs.Supervisor.Performance
import LaunchStub.Scripted

/-!
# What a host answers to directives

A directive that a host refuses is passed over, and so is the fact that it did not refuse it: the
supervisor notes the answer in the journal and does nothing else with it. Two hosts that do the same
but for these answers are therefore told apart by nobody, the journal left aside.

## The model

The two hosts need not be of one kind: their states correspond by a relation, and
`Host.SameButPathAnswers` says that every call answers the same in states that correspond and leaves
states that correspond, a directive without the part about the answer. So a host may for instance
refuse every second directive, or keep count of them, as long as its variables are those of the
other.
-/

namespace LaunchStub

variable {σ σ' κ χ ω α : Type}

/-! ### Traces without the answers -/

namespace Deed

/-- The deed without what a host answered to a directive. -/
def withoutPathAnswer : Deed → Deed
  | .extendedPath directive value _ => .extendedPath directive value (.ok ())
  | deed => deed

theorem accepted?_withoutPathAnswer (deed : Deed) :
    deed.withoutPathAnswer.accepted? = deed.accepted? := by
  cases deed <;> rfl

theorem call?_withoutPathAnswer (deed : Deed) : deed.withoutPathAnswer.call? = deed.call? := by
  cases deed <;> rfl

end Deed

namespace Trace

/-- The trace without the notes in the journal and without what a host answered to directives. -/
def withoutPathAnswers (trace : Trace) : Trace := trace.acts.map Deed.withoutPathAnswer

theorem withoutPathAnswers_append (t u : Trace) :
    withoutPathAnswers (t ++ u) = withoutPathAnswers t ++ withoutPathAnswers u := by
  simp [withoutPathAnswers]

theorem withoutPathAnswers_notes (events : List LogEvent) :
    withoutPathAnswers (events.map .noted) = [] := by
  simp [withoutPathAnswers]

/-- What was accepted and what was asked can be read off what is left. -/
theorem filterMap_withoutPathAnswers {f : Deed → Option α}
    (hnoted : ∀ event, f (.noted event) = none)
    (hf : ∀ deed : Deed, f deed.withoutPathAnswer = f deed) (t : Trace) :
    t.withoutPathAnswers.filterMap f = t.filterMap f := by
  rw [withoutPathAnswers, List.filterMap_map, ← filterMap_acts hnoted]
  congr 1
  funext deed
  exact hf deed

theorem accepted_withoutPathAnswers (t : Trace) : t.withoutPathAnswers.accepted = t.accepted :=
  filterMap_withoutPathAnswers (fun _ => rfl) Deed.accepted?_withoutPathAnswer t

theorem calls_withoutPathAnswers (t : Trace) : t.withoutPathAnswers.calls = t.calls :=
  filterMap_withoutPathAnswers (fun _ => rfl) Deed.call?_withoutPathAnswer t

end Trace

/-! ### Hosts that differ in the answers -/

/-- The same answer, and states that correspond. -/
def Reply.Like (R : σ → σ' → Prop) (r : Reply σ α) (r' : Reply σ' α) : Prop :=
  r.answer = r'.answer ∧ R r.state r'.state

/-- In states that correspond two hosts do the same, but for what they answer to directives. -/
structure Host.SameButPathAnswers (host : Host σ κ) (host' : Host σ' κ) (R : σ → σ' → Prop) :
    Prop where
  /-- A directory is entered by both or by none. -/
  changeDir : ∀ dir {st st'}, R st st' → (host.changeDir dir st).Like R (host'.changeDir dir st')
  /-- A target is of the same kind. -/
  queryType : ∀ target {st st'}, R st st' →
    (host.queryType target st).Like R (host'.queryType target st')
  /-- The variables are the same. -/
  environment : ∀ {st st'}, R st st' → (host.environment st).Like R (host'.environment st')
  /-- A directive has the same effect. -/
  extendPath : ∀ directive value {st st'}, R st st' →
    R (host.extendPath directive value st).state (host'.extendPath directive value st').state
  /-- A launch comes to the same. -/
  launch : ∀ strategy request {st st'}, R st st' →
    (host.launch strategy request st).Like R (host'.launch strategy request st')
  /-- A child has the same process id. -/
  childId : host.childId = host'.childId
  /-- A child comes to the same end. -/
  wait : ∀ child {st st'}, R st st' → (host.wait child st).Like R (host'.wait child st')
  /-- A child is let go of in the same way. -/
  release : ∀ child {st st'}, R st st' → (host.release child st).Like R (host'.release child st')

/-- Two desks on which the same has happened, the journal and the answers to directives left aside,
and on which the hosts are in states that correspond. -/
structure Desk.SameButPathAnswers (R : σ → σ' → Prop) (d : Desk σ χ ω) (d' : Desk σ' χ ω) :
    Prop where
  /-- The states of the hosts correspond. -/
  host : R d.host d'.host
  /-- The channels are in the same state. -/
  channel : d.channel = d'.channel
  /-- The user has read the same. -/
  stderr : d.stderr = d'.stderr
  /-- The same has happened. -/
  trace : d.trace.withoutPathAnswers = d'.trace.withoutPathAnswers

namespace Stage

variable {R : σ → σ' → Prop}

/-- Notes are left aside, so they need not be the same ones. -/
theorem note_samePath (event event' : LogEvent) :
    Agrees (Desk.SameButPathAnswers R) (note event : Stage σ χ ω Unit)
      (note event' : Stage σ' χ ω Unit) := by
  intro d d' hd
  refine ⟨rfl, hd.host, hd.channel, hd.stderr, ?_⟩
  simp only [note, record, Trace.withoutPathAnswers_append, hd.trace]
  rfl

/-- What a deed that is added leaves to be seen. -/
theorem trace_ask (d : Desk σ χ ω) (deed : α → Deed) (operation : σ → Reply σ α) :
    (ask deed operation d).2.trace.withoutPathAnswers = d.trace.withoutPathAnswers ++
      Trace.withoutPathAnswers [deed (operation d.host).answer] := by
  simp only [ask, Trace.withoutPathAnswers_append, Trace.withoutPathAnswers_notes,
    List.append_nil]

theorem ask_samePath {deed deed' : α → Deed} {operation : σ → Reply σ α}
    {operation' : σ' → Reply σ' α} (hdeed : deed = deed')
    (h : ∀ {st st'}, R st st' → (operation st).Like R (operation' st')) :
    Agrees (Desk.SameButPathAnswers R) (ask deed operation : Stage σ χ ω α)
      (ask deed' operation' : Stage σ' χ ω α) := by
  intro d d' hd
  obtain ⟨hanswer, hstate⟩ := h hd.host
  refine ⟨congrArg Except.ok hanswer, hstate, hd.channel, hd.stderr, ?_⟩
  rw [trace_ask, trace_ask, hd.trace, hdeed, hanswer]

end Stage

namespace Supervisor

open Stage

variable {host : Host σ κ} {host' : Host σ' κ} {R : σ → σ' → Prop}

/-- Whatever the answer, one of two notes follows a directive and nothing else. -/
theorem heed_eq_note (s : Supervisor σ κ χ ω) (d : Directive × Bytes) (desk : Desk σ χ ω) :
    ∃ event, s.heed d desk =
      note event (ask (.extendedPath d.1 d.2) (s.host.extendPath d.1 d.2) desk).2 := by
  cases hanswer : (s.host.extendPath d.1 d.2 desk.host).answer with
  | ok _ => exact ⟨.directiveApplied, by simp only [heed, Stage.andThen, ask, hanswer]⟩
  | error e => exact ⟨.directiveIgnored, by simp only [heed, Stage.andThen, ask, hanswer]⟩

theorem heed_samePath (h : host.SameButPathAnswers host' R) (channel : Channel χ)
    (stderr : Writer ω) (d : Directive × Bytes) :
    Agrees (Desk.SameButPathAnswers R) (heed ⟨host, channel, stderr⟩ d)
      (heed ⟨host', channel, stderr⟩ d) := by
  intro desk desk' hdesk
  obtain ⟨event, hfirst⟩ := heed_eq_note ⟨host, channel, stderr⟩ d desk
  obtain ⟨event', hsecond⟩ := heed_eq_note ⟨host', channel, stderr⟩ d desk'
  rw [hfirst, hsecond]
  refine note_samePath event event' _ _ ⟨?_, hdesk.channel, hdesk.stderr, ?_⟩
  · exact h.extendPath d.1 d.2 hdesk.host
  · rw [trace_ask, trace_ask, hdesk.trace]
    rfl

/-- Supervisors whose hosts differ in the answers to directives only match. -/
theorem matches_sameButPathAnswers (h : host.SameButPathAnswers host' R) (channel : Channel χ)
    (stderr : Writer ω) :
    Matches ⟨host, channel, stderr⟩ ⟨host', channel, stderr⟩ (Desk.SameButPathAnswers R) where
  note event := note_samePath event event
  diagnose text := by
    intro d d' hd
    obtain ⟨st, taken, read, trace⟩ := d
    obtain ⟨hhost, rfl, rfl, htrace⟩ := hd
    refine ⟨rfl, hhost, rfl, rfl, ?_⟩
    simp only [diagnose, Trace.withoutPathAnswers_append, htrace]
  send message := by
    intro d d' hd
    obtain ⟨st, taken, read, trace⟩ := d
    obtain ⟨hhost, rfl, rfl, htrace⟩ := hd
    refine ⟨rfl, hhost, rfl, rfl, ?_⟩
    simp only [send, Trace.withoutPathAnswers_append, htrace]
  changeDir dir := ask_samePath rfl (h.changeDir dir)
  queryType target := ask_samePath rfl (h.queryType target)
  environment := ask_samePath rfl h.environment
  heed := heed_samePath h channel stderr
  launch strategy request := ask_samePath (by rw [h.childId]) (h.launch strategy request)
  childId := h.childId
  wait child := ask_samePath (by rw [h.childId]) (h.wait child)
  release child := ask_samePath (by rw [h.childId]) (h.release child)

/-- **Answers to directives make no difference**: series of runs on hosts that differ in them only
end in the same way, and leave the same channel, the same lines for the user and, the journal and
these answers left aside, the same trace. -/
theorem runAll_sameButPathAnswers (h : host.SameButPathAnswers host' R) (channel : Channel χ)
    (stderr : Writer ω) (invocations : List Invocation) {d : Desk σ χ ω} {d' : Desk σ' χ ω}
    (hd : Desk.SameButPathAnswers R d d') :
    (runAll ⟨host, channel, stderr⟩ invocations d).1 =
        (runAll ⟨host', channel, stderr⟩ invocations d').1 ∧
      Desk.SameButPathAnswers R (runAll ⟨host, channel, stderr⟩ invocations d).2
        (runAll ⟨host', channel, stderr⟩ invocations d').2 :=
  (matches_sameButPathAnswers h channel stderr).runAll invocations hd

end Supervisor

/-- Scripts that differ in whether directives fail correspond. -/
theorem Script.sameButPathAnswers : Script.host.SameButPathAnswers Script.host
    fun script script' => ∃ errno, script' = { script with pathErrno := errno } where
  changeDir dir script _ := by
    rintro ⟨errno, rfl⟩
    exact ⟨rfl, errno, rfl⟩
  queryType target script _ := by
    rintro ⟨errno, rfl⟩
    exact ⟨rfl, errno, rfl⟩
  environment := by
    rintro script _ ⟨errno, rfl⟩
    exact ⟨rfl, errno, rfl⟩
  extendPath directive value script _ := by
    rintro ⟨errno, rfl⟩
    exact ⟨errno, rfl⟩
  launch strategy request script _ := by
    rintro ⟨errno, rfl⟩
    obtain ⟨env, type, chdirErrno, pathErrno, _ | ⟨next, rest⟩⟩ := script
    · exact ⟨rfl, errno, rfl⟩
    · exact ⟨rfl, errno, rfl⟩
  childId := rfl
  wait child script _ := by
    rintro ⟨errno, rfl⟩
    exact ⟨rfl, errno, rfl⟩
  release child script _ := by
    rintro ⟨errno, rfl⟩
    exact ⟨rfl, errno, rfl⟩

end LaunchStub
