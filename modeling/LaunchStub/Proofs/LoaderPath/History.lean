import Mathlib.Data.List.Induction
import LaunchStub.Proofs.LoaderPath.LaunchBlock

/-!
# The loader's variable after any history

Directives are not the only ones to change the loader's variable: anybody in the process may set it
or remove it between two of them. Still the value after a directive is settled by the directives
alone, and by what the variable was when the first of them came, even if that one was refused.

## The model

A history is a list of `PathEvent`s: directives, and changes from outside, which may leave any
variables behind. `inherited`, `lastValue` and `lastFlag` read off a history what the value depends
on; `Machine.undergoAll` lets a machine undergo it.

## What is proved

* `Machine.current_undergoAll` — the state that the next directive meets is the one that is read off
  the history.
* `Machine.extendPath_after_history` — so are the variable after a directive that is taken in, and
  what a refused one leaves behind.
-/

namespace LaunchStub

/-- Something that happens to the loader's variable. -/
inductive PathEvent where
  /-- A directive is applied. -/
  | directive (d : Directive) (value : Bytes)
  /-- Somebody else changes the variables, to these. -/
  | outside (vars : Environment)
  deriving DecidableEq, Repr

namespace PathEvent

open LoaderPath

/-- Is this a directive? -/
def isDirective : PathEvent → Bool
  | .directive _ _ => true
  | .outside _ => false

/-- The value of a directive of this kind. -/
def valueOf? (d : Directive) : PathEvent → Option Bytes
  | .directive d' value => if d' = d then some value else none
  | .outside _ => none

/-- The answer of a flag, if it is one. -/
def flag? : PathEvent → Option Bool
  | .directive .strict value =>
    if yes.contains value then some true else if no.contains value then some false else none
  | _ => none

/-- The value that the variable has when the first directive comes, if it starts with this one. -/
def inherited (initial : Option Bytes) : List PathEvent → Option Bytes
  | [] => initial
  | .outside vars :: rest => inherited (vars.get? variableName) rest
  | .directive _ _ :: _ => initial

/-- The value of the last directive of a kind. -/
def lastValue (d : Directive) (events : List PathEvent) : Option Bytes :=
  (events.filterMap (valueOf? d)).getLast?

/-- The answer of the last flag that was one; without any, no. -/
def lastFlag (events : List PathEvent) : Bool := (events.filterMap flag?).getLast?.getD false

/-- The state that a history leads to. -/
def state (initial : Option Bytes) (events : List PathEvent) : LoaderPath :=
  ⟨inherited initial events, lastValue .first events, lastValue .last events, lastFlag events⟩

/-! ### One event more -/

variable {initial : Option Bytes} {events : List PathEvent}

/-- The last thing that is read off a history is read off its last event, or off those before. -/
theorem getLast?_filterMap_concat {α : Type} (read : PathEvent → Option α)
    (events : List PathEvent) (event : PathEvent) :
    ((events ++ [event]).filterMap read).getLast? =
      (read event).or (events.filterMap read).getLast? := by
  rw [List.filterMap_append]
  cases h : read event with
  | none => simp [h]
  | some x => simp [h]

theorem lastValue_concat (d : Directive) (events : List PathEvent) (event : PathEvent) :
    lastValue d (events ++ [event]) = (event.valueOf? d).or (lastValue d events) :=
  getLast?_filterMap_concat (valueOf? d) events event

theorem lastFlag_concat (events : List PathEvent) (event : PathEvent) :
    lastFlag (events ++ [event]) = event.flag?.getD (lastFlag events) := by
  rw [lastFlag, getLast?_filterMap_concat, Option.getD_or]
  rfl

/-- Nothing that comes behind a directive changes what was inherited. -/
theorem inherited_append_of_any (h : events.any isDirective) (more : List PathEvent) :
    inherited initial (events ++ more) = inherited initial events := by
  induction events generalizing initial with
  | nil => contradiction
  | cons event rest ih =>
    cases event with
    | directive d value => rfl
    | outside vars => exact ih h

/-- As long as there is no directive the last change counts. -/
theorem inherited_append_of_not_any (h : events.any isDirective = false)
    (more : List PathEvent) :
    inherited initial (events ++ more) = inherited (inherited initial events) more := by
  induction events generalizing initial with
  | nil => rfl
  | cons event rest ih =>
    cases event with
    | directive d value => contradiction
    | outside vars => exact ih h

theorem inherited_concat_directive (d : Directive) (value : Bytes) :
    inherited initial (events ++ [.directive d value]) = inherited initial events := by
  cases h : events.any isDirective with
  | true => exact inherited_append_of_any h _
  | false => exact inherited_append_of_not_any h _

/-- What is read off directives only is not there without one. -/
theorem filterMap_of_not_any {α : Type} {read : PathEvent → Option α}
    (hread : ∀ vars, read (.outside vars) = none) (h : events.any isDirective = false) :
    events.filterMap read = [] := by
  rw [List.filterMap_eq_nil_iff]
  intro event hevent
  cases event with
  | directive d value => exact absurd rfl (List.any_eq_false.mp h _ hevent)
  | outside vars => exact hread vars

/-- Without a directive there is nothing but the inherited value. -/
theorem state_of_not_any (h : events.any isDirective = false) :
    state initial events = ⟨inherited initial events, none, none, false⟩ := by
  have hvalue : ∀ d, events.filterMap (valueOf? d) = [] :=
    fun d => filterMap_of_not_any (fun _ => rfl) h
  have hflag : events.filterMap flag? = [] := filterMap_of_not_any (fun _ => rfl) h
  rw [state, lastValue, lastValue, lastFlag, hvalue, hvalue, hflag]
  rfl

/-- A directive changes the state as it changes any state. -/
theorem state_concat_directive (d : Directive) (value : Bytes) :
    state initial (events ++ [.directive d value]) =
      (state initial events).followedBy (d, value) := by
  rw [state, inherited_concat_directive, lastValue_concat, lastValue_concat, lastFlag_concat]
  cases d with
  | first => rfl
  | last => rfl
  | strict =>
    rw [followedBy, apply, flag?_eq]
    simp only [valueOf?, flag?, reduceCtorEq, if_false, Option.none_or]
    by_cases hyes : value ∈ yes
    · simp [hyes, state]
    · by_cases hno : value ∈ no <;> simp [hyes, hno, state]

/-- A change from outside counts as long as no directive has come, and only for what is
inherited. -/
theorem state_concat_outside (vars : Environment) :
    state initial (events ++ [.outside vars]) =
      if events.any isDirective then state initial events
      else ⟨vars.get? variableName, none, none, false⟩ := by
  split
  · rename_i h
    rw [state, inherited_append_of_any h, lastValue_concat, lastValue_concat, lastFlag_concat]
    rfl
  · rename_i h
    rw [Bool.not_eq_true] at h
    rw [state_of_not_any (by simpa [isDirective] using h), inherited_append_of_not_any h]
    rfl

end PathEvent

namespace Machine

open LoaderPath Environment PathEvent

variable {m : Machine}

/-- The machine after an event. -/
def undergo (m : Machine) : PathEvent → Machine
  | .directive d value => (m.extendPath d value).state
  | .outside vars => { m with env := { m.env with vars := vars } }

/-- The machine after a history. -/
def undergoAll (m : Machine) (events : List PathEvent) : Machine := events.foldl undergo m

/-- The machine on which the inherited value is fixed, if it was not already. -/
def withPathFixed (m : Machine) : Machine :=
  { m with env := { m.env with path := some m.env.current } }

theorem undergoAll_append (m : Machine) (events later : List PathEvent) :
    m.undergoAll (events ++ later) = (m.undergoAll events).undergoAll later :=
  List.foldl_append

theorem undergoAll_concat (m : Machine) (events : List PathEvent) (event : PathEvent) :
    m.undergoAll (events ++ [event]) = (m.undergoAll events).undergo event :=
  m.undergoAll_append events [event]

/-- A directive that is taken in is answered so, and the variable has the value of the new state. -/
theorem extendPath_of_ok {d : Directive} {value : Bytes} {path : LoaderPath}
    (h : m.env.current.apply d value = .ok path) :
    (m.extendPath d value).answer = .ok () ∧
      (m.extendPath d value).state.env.path = some path ∧
      (m.extendPath d value).state.env.value = path.value := by
  simp only [extendPath, SteeredEnvironment.extend, h, true_and]
  cases path.value with
  | none => exact get?_without m.env.vars variableName
  | some v => exact get?_put m.env.vars variableName v

/-- A directive that is refused fixes the inherited value and does nothing else. -/
theorem extendPath_of_error {d : Directive} {value : Bytes} {e : StrictnessError}
    (h : m.env.current.apply d value = .error e) :
    m.extendPath d value = ⟨.error (.described .invalidInput e.message), m.withPathFixed, []⟩ := by
  simp only [extendPath, SteeredEnvironment.extend, h]
  rfl

/-- Once a directive has come the inherited value stays fixed. -/
theorem withPathFixed_of_isSome (h : m.env.path.isSome) : m.withPathFixed = m := by
  obtain ⟨path, hpath⟩ := Option.isSome_iff_exists.mp h
  rw [withPathFixed, SteeredEnvironment.current, hpath, Option.getD_some, ← hpath]

/-- Any directive fixes what is inherited. -/
theorem path_isSome_undergoAll (hfresh : m.env.path = none) (events : List PathEvent) :
    (m.undergoAll events).env.path.isSome = events.any isDirective := by
  induction events using List.reverseRecOn with
  | nil => rw [undergoAll, List.foldl_nil, hfresh]; rfl
  | append_singleton events event ih =>
    rw [undergoAll_concat, List.any_append]
    cases event with
    | directive d value =>
      cases hd : (m.undergoAll events).env.current.apply d value with
      | ok path => simp [undergo, (extendPath_of_ok hd).2.1, isDirective]
      | error e => simp [undergo, extendPath_of_error hd, withPathFixed, isDirective]
    | outside vars => simpa [undergo, isDirective] using ih

/-- The state that the next directive meets is the one that the history leads to. -/
theorem current_undergoAll (hfresh : m.env.path = none) (events : List PathEvent) :
    (m.undergoAll events).env.current = state (m.env.vars.get? variableName) events := by
  induction events using List.reverseRecOn with
  | nil => rw [undergoAll, List.foldl_nil, SteeredEnvironment.current, hfresh]; rfl
  | append_singleton events event ih =>
    rw [undergoAll_concat]
    cases event with
    | directive d value =>
      rw [state_concat_directive, ← ih, undergo]
      cases hd : (m.undergoAll events).env.current.apply d value with
      | ok path =>
        rw [SteeredEnvironment.current, (extendPath_of_ok hd).2.1,
          followedBy_of_ok (d := (d, value)) hd]
        rfl
      | error e =>
        rw [extendPath_of_error hd, followedBy_of_error (d := (d, value)) hd]
        rfl
    | outside vars =>
      rw [state_concat_outside, ← ih, ← path_isSome_undergoAll hfresh]
      cases hpath : (m.undergoAll events).env.path with
      | none => simp [undergo, SteeredEnvironment.current, hpath]
      | some path => simp [undergo, SteeredEnvironment.current, hpath]

/-- **A directive after any history** of directives and changes from outside, on a machine where
none came before: it is refused exactly if it is a flag that is no answer. Taken in, it leaves the
variable with what the last values of the directives, this one among them, and the value inherited
at the first directive make together, or without a value if that is nothing. Refused, it leaves the
variable alone, and all that comes later goes as if it had done nothing but fix the inherited value,
which it does only if it is the first. -/
theorem extendPath_after_history (m : Machine) (hfresh : m.env.path = none)
    (events : List PathEvent) (d : Directive) (value : Bytes) :
    let met := m.undergoAll events
    let reply := met.extendPath d value
    let history := events ++ [.directive d value]
    ((∃ e, reply.answer = .error e) ↔ d = .strict ∧ value ∉ yes ++ no) ∧
      (reply.answer = .ok () → reply.state.env.value =
        compose (lastValue .first history) (inherited m.env.value history)
          (lastValue .last history) (lastFlag history)) ∧
      (∀ e, reply.answer = .error e → reply.state.env.value = met.env.value ∧
        (∀ later, m.undergoAll (history ++ later) = met.withPathFixed.undergoAll later) ∧
        (events.any isDirective → met.withPathFixed = met)) := by
  intro met reply history
  rw [← apply_eq_error_iff met.env.current]
  cases hd : met.env.current.apply d value with
  | ok path =>
    obtain ⟨hanswer, -, hvalue⟩ := extendPath_of_ok hd
    refine ⟨by simp [reply, hanswer], fun _ => ?_, fun e he => ?_⟩
    · have hpath : path = state m.env.value history := by
        rw [state_concat_directive, ← followedBy_of_ok (d := (d, value)) hd]
        exact congrArg (followedBy · _) (current_undergoAll hfresh events)
      rw [hvalue, hpath]
      rfl
    · rw [hanswer] at he
      contradiction
  | error e =>
    have hreply : reply = _ := extendPath_of_error hd
    refine ⟨by simp [hreply], fun hok => ?_, fun _ _ => ⟨?_, fun later => ?_, fun hany => ?_⟩⟩
    · rw [hreply] at hok
      contradiction
    · rw [hreply]
      rfl
    · have hstate : m.undergoAll history = met.withPathFixed :=
        (m.undergoAll_concat events _).trans (congrArg Reply.state hreply)
      rw [undergoAll_append, hstate]
    · exact withPathFixed_of_isSome ((path_isSome_undergoAll hfresh events).trans hany)

/-- A machine whose loader's variable has a value and on which nothing has happened yet. -/
def uneventful : Machine where
  store := ⟨⟨[], []⟩, []⟩
  env := ⟨[(variableName, Bytes.ofText "/a")], none⟩
  stub := 1
  child := 2
  conduct := { status := .ofExit 0 }
  queueDir := []

/-- The value that counts is the one at the refused first directive, and not the one that is set
before the next. -/
theorem extendPath_after_history_refused :
    let history : List PathEvent :=
      [.outside [(variableName, Bytes.ofText "/b")], .directive .strict (Bytes.ofText "maybe"),
        .outside [(variableName, Bytes.ofText "/c")]]
    ((uneventful.undergoAll history).extendPath .first (Bytes.ofText "/x")).state.env.value =
      some (Bytes.ofText "/x:/b") := by
  intro history
  obtain ⟨-, hvalue, -⟩ :=
    extendPath_after_history uneventful rfl history .first (Bytes.ofText "/x")
  exact (hvalue rfl).trans (by decide)

end Machine

end LaunchStub
