import LaunchStub.Proofs.Directives
import LaunchStub.Proofs.Supervisor.Reports

/-!
# The order of the calls

What a host is asked in a run, and when. A call is made only once the calls before it have
succeeded, the directives apart, which are applied whatever became of those before them; and no call
is made that a refused message has made pointless.

## The model

`Deed.asks` picks out the calls: the questions to the host, and awaiting the end of a child. Letting
go of a child is no call, since nothing is asked by it. `Requests` lists the sequences of calls that
a run may make, one constructor for each place where a run may stop asking. What the sequence says
of the directives and of the child's variables is said by look-ups and by names, not by the
functions that the supervisor uses.
-/

namespace LaunchStub

/-- Is the host or a child asked something? -/
def Deed.asks : Deed → Bool
  | .changedDir _ _ | .queriedType _ _ | .sawEnvironment _ | .extendedPath _ _ _
  | .launched _ _ _ | .awaited _ _ => true
  | _ => false

theorem Deed.isAct_of_asks {deed : Deed} (h : deed.asks) : deed.isAct := by
  cases deed <;> simp_all [asks, isAct, event?]

/-- The calls that a run may make for an invocation, in order. -/
inductive Requests (inv : Invocation) : Trace → Prop where
  /-- The working directory cannot be entered. -/
  | noWorkdir (cause : IoError) : Requests inv [.changedDir inv.workdir (.error cause)]
  /-- The kind of program cannot be found out. -/
  | noType (cause : IoError) :
    Requests inv [.changedDir inv.workdir (.ok ()), .queriedType inv.target (.error cause)]
  /-- The variables are seen, every directive among them is applied once with the first value of its
  name, the variables are seen again, and the target is launched with what they are then. Of a
  child that was launched the end may be awaited, once. -/
  | launch {type : AppType} {before after : Environment}
    {applied : List ((Directive × Bytes) × Except IoError Unit)} {strategy : Strategy}
    {request : LaunchRequest} {answer : Except LaunchError UInt32} {waits : Trace}
    (hdirectives : applied.map Prod.fst =
      Directive.all.filterMap fun d => (before.get? d.name).map (d, ·))
    (hstrategy : strategy = .direct ↔ type = .console)
    (htarget : request.target = inv.target) (harguments : request.arguments = inv.targetArgs)
    (henv : request.env.vars = after.filter fun v => v.1 ∉ Directive.all.map Directive.name)
    (hwaits : waits = [] ∨ ∃ id ending, answer = .ok id ∧ waits = [.awaited id ending]) :
    Requests inv (.changedDir inv.workdir (.ok ()) :: .queriedType inv.target (.ok type) ::
      .sawEnvironment before :: (applied.map (fun x => .extendedPath x.1.1 x.1.2 x.2) ++
        .sawEnvironment after :: .launched strategy request answer :: waits))

namespace Trace

/-- The calls of a trace. -/
def requests (trace : Trace) : Trace := trace.filter Deed.asks

theorem requests_acts (trace : Trace) : trace.acts.requests = trace.requests := by
  rw [requests, acts, List.filter_filter, requests]
  refine List.filter_congr fun deed _ => ?_
  cases h : deed.asks with
  | true => simp [Deed.isAct_of_asks h]
  | false => rfl

/-- Every wait comes after the message that announced the child, and that message was taken. -/
def AwaitsAnnounced (trace : Trace) : Prop :=
  ∀ earlier id ending later, trace = earlier ++ .awaited id ending :: later →
    .sent (.pid id) (.ok ()) ∈ earlier

theorem awaitsAnnounced_of_acts {trace : Trace} (h : trace.acts.AwaitsAnnounced) :
    trace.AwaitsAnnounced := by
  intro earlier id ending later htrace
  have hacts : trace.acts = acts earlier ++ .awaited id ending :: acts later := by
    rw [htrace, acts_append, acts_cons rfl]
  exact (mem_acts rfl).mp (h (acts earlier) id ending (acts later) hacts)

theorem awaitsAnnounced_of_not_mem {t : Trace} (h : ∀ id ending, .awaited id ending ∉ t) :
    t.AwaitsAnnounced := by
  rintro earlier id ending later rfl
  exact absurd (List.mem_append_right _ List.mem_cons_self) (h id ending)

/-- Once a child is announced its end may be awaited at any time. -/
theorem awaitsAnnounced_append {t u : Trace} {id : UInt32} (hsent : .sent (.pid id) (.ok ()) ∈ t)
    (ht : ∀ id' ending, .awaited id' ending ∉ t)
    (hu : ∀ id' ending, .awaited id' ending ∈ u → id' = id) : AwaitsAnnounced (t ++ u) := by
  intro earlier id' ending later htrace
  obtain ⟨middle, rfl, hrest⟩ | ⟨middle, rfl, hrest⟩ := List.append_eq_append_iff.mp htrace
  · obtain rfl := hu id' ending (by rw [hrest]; simp)
    exact List.mem_append_left middle hsent
  · cases middle with
    | nil =>
      obtain rfl := hu id' ending (by rw [← List.nil_append u, ← hrest]; simp)
      simpa using hsent
    | cons deed middle =>
      obtain ⟨rfl, -⟩ := List.cons.inj hrest
      exact absurd (by simp) (ht id' ending)

/-- After a refusal nothing is asked any more. -/
def AsksNothingRefused (trace : Trace) : Prop :=
  trace.Pairwise fun earlier later => earlier.isRefusal → ¬ later.asks

theorem asksNothingRefused_acts {trace : Trace} :
    trace.acts.AsksNothingRefused ↔ trace.AsksNothingRefused := by
  refine pairwise_acts fun earlier later h => ?_
  obtain ⟨hrefusal, hasks⟩ := Classical.not_imp.mp h
  exact ⟨Deed.isAct_of_isRefusal hrefusal, Deed.isAct_of_asks (Classical.not_not.mp hasks)⟩

theorem asksNothingRefused_append {t u : Trace} (h : ∀ deed ∈ t, deed.isRefusal = false) :
    AsksNothingRefused (t ++ u) ↔ u.AsksNothingRefused :=
  pairwise_refusal_append h

theorem asksNothingRefused_cons {deed : Deed} (h : deed.isRefusal = false) {t : Trace} :
    AsksNothingRefused (deed :: t) ↔ t.AsksNothingRefused :=
  asksNothingRefused_append fun _ hmem => List.mem_singleton.mp hmem ▸ h

theorem asksNothingRefused_of_not_asks {t : Trace} (h : ∀ deed ∈ t, deed.asks = false) :
    t.AsksNothingRefused := by
  refine List.pairwise_of_forall_mem_list fun earlier _ later hlater _ => ?_
  rw [h later hlater]
  exact Bool.false_ne_true

theorem asksNothingRefused_telling (message : Message) (told : Except ChannelError Unit) :
    (telling message told).AsksNothingRefused := by
  refine asksNothingRefused_of_not_asks ?_
  cases told <;> simp [telling, Deed.asks]

end Trace

/-! ### The calls of the courses -/

theorem Directive.ofName?_isNone (name : Bytes) :
    (ofName? name).isNone = decide (name ∉ all.map Directive.name) := by
  have hall : ∀ d : Directive, d ∈ all := fun d => by cases d <;> decide
  rw [Bool.eq_iff_iff, Option.isNone_iff_eq_none, ofName?_eq_none_iff, decide_eq_true_iff,
    List.mem_map]
  constructor
  · rintro h ⟨d, -, hd⟩
    exact h d hd.symm
  · intro h d hd
    exact h ⟨d, hall d, hd.symm⟩

theorem AppType.strategy_eq_direct_iff (type : AppType) :
    type.strategy = .direct ↔ type = .console := by
  cases type <;> simp [strategy]

namespace Preparation

variable (p : Preparation) (inv : Invocation) (launched : Except LaunchError UInt32)

theorem application_eq (x : (Directive × Bytes) × Except IoError Unit) :
    application x = .extendedPath x.1.1 x.1.2 x.2 := rfl

theorem asks_of_mem_acts {deed : Deed} (h : deed ∈ p.acts inv launched) : deed.asks := by
  simp only [acts, List.mem_cons, List.mem_append, List.mem_map, List.not_mem_nil, or_false] at h
  rcases h with rfl | rfl | rfl | ⟨x, -, rfl⟩ | rfl | rfl <;> rfl

theorem awaited_not_mem_acts (id : UInt32) (ending : Except IoError RawTermination) :
    .awaited id ending ∉ p.acts inv launched := by
  simp [acts, application]

/-- What is asked up to the launch and what is awaited after it. -/
theorem requests_acts {waits : Trace}
    (hwaits : waits = [] ∨ ∃ id ending, launched = .ok id ∧ waits = [.awaited id ending]) :
    Requests inv (p.acts inv launched ++ waits) := by
  have hdirectives : p.applied.map Prod.fst =
      Directive.all.filterMap fun d => (p.before.get? d.name).map (d, ·) := by
    rw [p.applied_eq, Directive.collect_eq]
  have henv : (p.request inv).env.vars =
      p.after.filter fun v => v.1 ∉ Directive.all.map Directive.name :=
    List.filter_congr fun v _ => Directive.ofName?_isNone v.1
  have hrequests := Requests.launch hdirectives p.type.strategy_eq_direct_iff
    (show (p.request inv).target = inv.target from rfl) rfl henv hwaits
  simpa [acts, funext application_eq] using hrequests

end Preparation

namespace Course

variable (inv : Invocation)

theorem requests_acts (course : Course) : Requests inv (course.acts inv).requests := by
  have hprepared : ∀ (p : Preparation) launched (t : Trace),
      Trace.requests (p.acts inv launched ++ t) = p.acts inv launched ++ Trace.requests t := by
    intro p launched t
    rw [Trace.requests, List.filter_append,
      List.filter_eq_self.mpr fun _ => p.asks_of_mem_acts inv launched]
    rfl
  cases course with
  | noWorkdir cause told => cases told <;> exact .noWorkdir cause
  | noType cause told => cases told <;> exact .noType cause
  | noQueue p queue cause =>
    rw [acts, hprepared]
    exact p.requests_acts inv _ (.inl rfl)
  | noStart p cause told =>
    rw [acts, hprepared]
    refine p.requests_acts inv _ (.inl ?_)
    cases told <;> rfl
  | unannounced p id refusal =>
    rw [acts, hprepared]
    exact p.requests_acts inv _ (.inl rfl)
  | lost p id cause =>
    rw [acts, hprepared]
    exact p.requests_acts inv _ (.inr ⟨id, .error cause, rfl, rfl⟩)
  | ended p id raw told =>
    rw [acts, hprepared]
    refine p.requests_acts inv _ (.inr ⟨id, .ok raw, rfl, ?_⟩)
    cases told <;> rfl

theorem awaitsAnnounced_acts (course : Course) : (course.acts inv).AwaitsAnnounced := by
  cases course with
  | noWorkdir cause told =>
    exact Trace.awaitsAnnounced_of_not_mem (by cases told <;> simp [acts, Trace.telling])
  | noType cause told =>
    exact Trace.awaitsAnnounced_of_not_mem (by cases told <;> simp [acts, Trace.telling])
  | noQueue p queue cause =>
    exact Trace.awaitsAnnounced_of_not_mem (by simp [acts, p.awaited_not_mem_acts])
  | noStart p cause told =>
    refine Trace.awaitsAnnounced_of_not_mem ?_
    cases told <;> simp [acts, Trace.telling, p.awaited_not_mem_acts]
  | unannounced p id refusal =>
    exact Trace.awaitsAnnounced_of_not_mem (by simp [acts, p.awaited_not_mem_acts])
  | lost p id cause =>
    rw [acts, List.append_cons]
    refine Trace.awaitsAnnounced_append (List.mem_append_right _ (List.mem_singleton_self _)) ?_ ?_
    · simp [p.awaited_not_mem_acts]
    · simp
  | ended p id raw told =>
    rw [acts, List.append_cons]
    refine Trace.awaitsAnnounced_append (List.mem_append_right _ (List.mem_singleton_self _)) ?_ ?_
    · simp [p.awaited_not_mem_acts]
    · cases told <;> simp [Trace.telling]

/-- Nothing is refused before what is sent last, and from there on nothing is asked. -/
theorem asksNothingRefused_acts (course : Course) : (course.acts inv).AsksNothingRefused := by
  have hprepared : ∀ (p : Preparation) launched (t : Trace),
      Trace.AsksNothingRefused (p.acts inv launched ++ t) ↔ t.AsksNothingRefused :=
    fun p launched t =>
      Trace.asksNothingRefused_append fun _ => p.not_isRefusal_of_mem_acts inv launched
  cases course with
  | noWorkdir cause told =>
    rw [acts, Trace.asksNothingRefused_cons rfl, Trace.asksNothingRefused_cons rfl]
    exact Trace.asksNothingRefused_telling _ told
  | noType cause told =>
    rw [acts, Trace.asksNothingRefused_cons rfl, Trace.asksNothingRefused_cons rfl,
      Trace.asksNothingRefused_cons rfl]
    exact Trace.asksNothingRefused_telling _ told
  | noQueue p queue cause =>
    rw [acts, hprepared]
    exact Trace.asksNothingRefused_of_not_asks (by simp [Deed.asks])
  | noStart p cause told =>
    rw [acts, hprepared, Trace.asksNothingRefused_cons rfl]
    exact Trace.asksNothingRefused_telling _ told
  | unannounced p id refusal =>
    rw [acts, hprepared]
    exact Trace.asksNothingRefused_of_not_asks (by simp [Deed.asks])
  | lost p id cause =>
    rw [acts, hprepared, Trace.asksNothingRefused_cons rfl, Trace.asksNothingRefused_cons rfl]
    exact Trace.asksNothingRefused_of_not_asks (by simp [Deed.asks])
  | ended p id raw told =>
    rw [acts, hprepared, Trace.asksNothingRefused_cons rfl, Trace.asksNothingRefused_cons rfl]
    exact Trace.asksNothingRefused_telling _ told

end Course

namespace Supervisor

variable {σ κ χ ω : Type}

/-- **The order of the calls**: whatever the devices answer, the calls of a run are made in the
order of `Requests`; a wait comes only after the controller has taken the child's process id; and
after a message that was refused nothing is asked any more. -/
theorem run_asks_in_order (s : Supervisor σ κ χ ω) (inv : Invocation) (desk : Desk σ χ ω) :
    ∃ deeds : Trace, (s.run inv desk).2.trace = desk.trace ++ deeds ∧
      s.Performs (desk.scene none) deeds ((s.run inv desk).2.scene none) ∧
      Requests inv deeds.requests ∧
      deeds.AwaitsAnnounced ∧
      deeds.AsksNothingRefused := by
  obtain ⟨deeds, course, htrace, hperf, hacts, -⟩ := s.run_takes_course inv desk
  refine ⟨deeds, htrace, hperf, ?_, ?_, ?_⟩
  · rw [← deeds.requests_acts, hacts]
    exact course.requests_acts inv
  · refine Trace.awaitsAnnounced_of_acts ?_
    rw [hacts]
    exact course.awaitsAnnounced_acts inv
  · rw [← Trace.asksNothingRefused_acts, hacts]
    exact course.asksNothingRefused_acts inv

end Supervisor

end LaunchStub
