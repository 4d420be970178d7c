import Mathlib.Data.List.Induction
import LaunchStub.Proofs.LoaderPath.LaunchBlock

/-!
# Directives in any order

Directives can come in any order and any number of times, and a flag among them may be no answer.
What counts in the end is the order among the values of each directive: those of different ones can
be exchanged.

## The model

A step is a directive with its value, and `valuesOf d` picks the values of one directive out of a
sequence of steps. So two sequences are interleavings of the same three subsequences if `valuesOf`
finds the same in both for each directive. `answers` says what becomes of each step, and `lasting`
leaves those out that count for nothing.

## What is proved

* `followedBy_comm`, `followedBy_overwrites` — steps of different directives can be exchanged, and
  of two steps of one directive the later counts if it is taken in.
* `answers_eq` — what becomes of a step does not hang on the state that it meets.
* `applyAll_lasting` — without the steps that count for nothing the state is the same.
* `applyAll_of_interleaved` — all together, for two interleavings of the same subsequences.
-/

namespace LaunchStub.LoaderPath

variable {path : LoaderPath} {s t : Directive × Bytes} {steps steps' : List (Directive × Bytes)}

/-- The state before any directive. -/
def untouched (inherited : Option Bytes) : LoaderPath := { inherited := inherited }

/-- The values of one directive, in order. -/
def valuesOf (d : Directive) (steps : List (Directive × Bytes)) : List Bytes :=
  (steps.filter fun s => s.1 = d).map Prod.snd

/-- The answer of the last flag that is one; without any, no. -/
def lastAnswer (flags : List Bytes) : Bool :=
  (flags.filter (yes ++ no).contains).getLast?.any yes.contains

/-- Steps, one after the other, each with the error that it is refused with, if it is. -/
def answers (path : LoaderPath) :
    List (Directive × Bytes) → List ((Directive × Bytes) × Option StrictnessError)
  | [] => []
  | s :: rest => match path.apply s.1 s.2 with
    | .ok path => (s, none) :: answers path rest
    | .error e => (s, some e) :: answers path rest

/-- The steps that are taken in and not overwritten: no later one of the same directive is taken
in. -/
def unoverwritten :
    List ((Directive × Bytes) × Option StrictnessError) → List (Directive × Bytes)
  | [] => []
  | (s, refusal) :: rest =>
    if refusal = none ∧ ∀ later ∈ rest, later.1.1 = s.1 → later.2 ≠ none then
      s :: unoverwritten rest
    else unoverwritten rest

/-- The steps that are left when those that count for nothing are deleted. -/
def lasting (path : LoaderPath) (steps : List (Directive × Bytes)) : List (Directive × Bytes) :=
  unoverwritten (path.answers steps)

/-! ### Two steps -/

/-- What a step does to a state. -/
theorem followedBy_eq (path : LoaderPath) (s : Directive × Bytes) :
    path.followedBy s = match s.1 with
      | .first => { path with first := some s.2 }
      | .last => { path with last := some s.2 }
      | .strict => { path with strict := (flag? s.2).getD path.strict } := by
  obtain ⟨d, value⟩ := s
  cases d with
  | first => rfl
  | last => rfl
  | strict => cases h : flag? value <;> simp [followedBy, apply, h]

/-- No step changes what was inherited. -/
theorem inherited_followedBy (path : LoaderPath) (s : Directive × Bytes) :
    (path.followedBy s).inherited = path.inherited := by
  rw [followedBy_eq]
  split <;> rfl

/-- Steps of different directives can be exchanged. -/
theorem followedBy_comm (h : s.1 ≠ t.1) :
    (path.followedBy s).followedBy t = (path.followedBy t).followedBy s := by
  obtain ⟨d, value⟩ := s
  obtain ⟨d', value'⟩ := t
  simp only [followedBy_eq]
  cases d <;> cases d' <;> first | contradiction | rfl

/-- A step that is taken in overwrites one of the same directive. -/
theorem followedBy_overwrites (h : t.1 = s.1) (ht : accepts t) :
    (path.followedBy s).followedBy t = path.followedBy t := by
  obtain ⟨d, value⟩ := s
  obtain ⟨d', value'⟩ := t
  obtain rfl : d' = d := h
  simp only [followedBy_eq]
  cases d' with
  | first => rfl
  | last => rfl
  | strict =>
    obtain ⟨answer, hanswer⟩ := Option.isSome_iff_exists.mp (by simpa [accepts] using ht)
    simp [hanswer]

/-- A step that is refused leaves the state alone. -/
theorem followedBy_of_not_accepts (h : accepts s = false) : path.followedBy s = path := by
  cases hs : path.apply s.1 s.2 with
  | ok path' =>
    rw [accepts_of_apply hs] at h
    contradiction
  | error e => exact followedBy_of_error hs

/-! ### What becomes of each step -/

/-- What becomes of a step does not hang on the state that it meets. -/
theorem answers_eq (path : LoaderPath) (steps : List (Directive × Bytes)) :
    path.answers steps =
      steps.map fun s => (s, if accepts s then none else some ⟨s.2⟩) := by
  induction steps generalizing path with
  | nil => rfl
  | cons s rest ih =>
    rw [answers, List.map_cons]
    cases hs : path.apply s.1 s.2 with
    | ok path' =>
      rw [accepts_of_apply hs, ← ih path']
      rfl
    | error e =>
      have he : e = ⟨s.2⟩ := by
        obtain ⟨d, value⟩ := s
        cases d with
        | first => contradiction
        | last => contradiction
        | strict =>
          rw [apply] at hs
          split at hs
          · contradiction
          · exact (Except.error.inj hs).symm
      rw [not_accepts_of_apply hs, he, ← ih path]
      rfl

/-- The steps of one directive are its values. -/
theorem filter_eq_valuesOf (d : Directive) (steps : List (Directive × Bytes)) :
    (steps.filter fun s => s.1 = d) = (valuesOf d steps).map fun value => (d, value) := by
  rw [valuesOf, List.map_map]
  conv => lhs; rw [← List.map_id (steps.filter fun s => s.1 = d)]
  refine List.map_congr_left fun s hs => ?_
  obtain rfl : s.1 = d := by simpa using (List.mem_filter.mp hs).2
  rfl

/-- What becomes of the steps of one directive hangs on its values only. -/
theorem filter_answers (path : LoaderPath) (d : Directive) (steps : List (Directive × Bytes)) :
    (path.answers steps).filter (fun answer => answer.1.1 = d) =
      ((valuesOf d steps).map fun value => (d, value)).map fun s =>
        (s, if accepts s then none else some ⟨s.2⟩) := by
  rw [answers_eq, List.filter_map, ← filter_eq_valuesOf]
  rfl

/-! ### What the steps lead to -/

/-- A flag that is no answer leaves the last answer as it was. -/
theorem lastAnswer_concat (flags : List Bytes) (flag : Bytes) :
    lastAnswer (flags ++ [flag]) = (flag? flag).getD (lastAnswer flags) := by
  rw [lastAnswer, List.filter_append, flag?_eq]
  by_cases hyes : flag ∈ yes
  · simp [hyes]
  · by_cases hno : flag ∈ no <;> simp [hyes, hno, lastAnswer]

/-- The state hangs on what was inherited and on the last values only. -/
theorem applyAll_untouched (inherited : Option Bytes) (steps : List (Directive × Bytes)) :
    (untouched inherited).applyAll steps =
      ⟨inherited, (valuesOf .first steps).getLast?, (valuesOf .last steps).getLast?,
        lastAnswer (valuesOf .strict steps)⟩ := by
  induction steps using List.reverseRecOn with
  | nil => rfl
  | append_singleton steps s ih =>
    have hconcat : (untouched inherited).applyAll (steps ++ [s]) =
        ((untouched inherited).applyAll steps).followedBy s := List.foldl_append
    rw [hconcat, ih, followedBy_eq]
    obtain ⟨d, value⟩ := s
    cases d <;> simp [valuesOf, lastAnswer_concat]

/-- A step that is overwritten later counts for nothing. -/
theorem applyAll_followedBy (h : ∃ t ∈ steps, t.1 = s.1 ∧ accepts t) :
    (path.followedBy s).applyAll steps = path.applyAll steps := by
  induction steps generalizing path with
  | nil => simp at h
  | cons t rest ih =>
    rw [applyAll, applyAll, List.foldl_cons, List.foldl_cons]
    by_cases ht : t.1 = s.1 ∧ accepts t
    · rw [followedBy_overwrites ht.1 ht.2]
    · have hrest : ∃ t ∈ rest, t.1 = s.1 ∧ accepts t := by
        obtain ⟨u, hu, hs⟩ := h
        rcases List.mem_cons.mp hu with rfl | hu
        · exact absurd hs ht
        · exact ⟨u, hu, hs⟩
      by_cases hst : t.1 = s.1
      · have hrefused : accepts t = false := by simpa [hst] using ht
        rw [followedBy_of_not_accepts hrefused, followedBy_of_not_accepts hrefused]
        exact ih hrest
      · rw [followedBy_comm (Ne.symm hst)]
        exact ih hrest

/-- A step is not overwritten if no later one of the same directive is taken in. -/
theorem forall_answers_iff : (∀ later ∈ path.answers steps, later.1.1 = s.1 → later.2 ≠ none) ↔
    ¬ ∃ t ∈ steps, t.1 = s.1 ∧ accepts t := by
  rw [answers_eq, List.forall_mem_map]
  constructor
  · rintro h ⟨t, ht, hdirective, haccepts⟩
    exact h t ht hdirective (if_pos haccepts)
  · intro h t ht hdirective hanswer
    refine h ⟨t, ht, hdirective, ?_⟩
    simpa using hanswer

/-- Without the steps that count for nothing the state is the same. -/
theorem applyAll_lasting (path : LoaderPath) (steps : List (Directive × Bytes)) :
    path.applyAll (path.lasting steps) = path.applyAll steps := by
  induction steps generalizing path with
  | nil => rfl
  | cons s rest ih =>
    have hstep : path.applyAll (s :: rest) = (path.followedBy s).applyAll rest := rfl
    rw [hstep, lasting, answers]
    cases hs : path.apply s.1 s.2 with
    | error e =>
      simp only [unoverwritten, reduceCtorEq, false_and, if_false]
      rw [followedBy_of_error hs]
      exact ih path
    | ok path' =>
      have hanswers : path'.answers rest = path.answers rest := by rw [answers_eq, answers_eq]
      simp only [unoverwritten, forall_answers_iff, true_and]
      split
      · rw [← followedBy_of_ok hs]
        exact ih (path.followedBy s)
      · rename_i hlater
        rw [hanswers, applyAll_followedBy (not_not.mp hlater)]
        exact ih path

/-- **Directives in any order.** Take two sequences of steps that are interleavings of the same
subsequences, one for each directive, and a state that no directive has come to. In both the same
steps of each subsequence are refused, and both lead to the same state and the same path. That state
holds what was inherited, the last values of the two directives that have one, and the answer of the
last flag that is one; so it is the same without the steps that are refused and those that are
overwritten by a later one of the same directive. No step changes what was inherited. -/
theorem applyAll_of_interleaved (h : ∀ d, valuesOf d steps = valuesOf d steps')
    (inherited : Option Bytes) :
    let start := untouched inherited
    (∀ d, (start.answers steps).filter (fun answer => answer.1.1 = d) =
      (start.answers steps').filter (fun answer => answer.1.1 = d)) ∧
    start.applyAll steps = start.applyAll steps' ∧
    (start.applyAll steps).value = (start.applyAll steps').value ∧
    start.applyAll steps =
      ⟨inherited, (valuesOf .first steps).getLast?, (valuesOf .last steps).getLast?,
        lastAnswer (valuesOf .strict steps)⟩ ∧
    start.applyAll (start.lasting steps) = start.applyAll steps ∧
    ∀ (path : LoaderPath) (s : Directive × Bytes),
      (path.followedBy s).inherited = path.inherited := by
  intro start
  have hstate : start.applyAll steps = start.applyAll steps' := by
    rw [applyAll_untouched, applyAll_untouched, h, h, h]
  refine ⟨fun d => ?_, hstate, congrArg value hstate, applyAll_untouched inherited steps,
    applyAll_lasting start steps, inherited_followedBy⟩
  rw [filter_answers, filter_answers, h]

/-- Two interleavings in which flags are refused and values overwritten. Of the six steps three
count. -/
theorem applyAll_of_interleaved_refused :
    let steps : List (Directive × Bytes) :=
      [(.strict, Bytes.ofText "T"), (.first, Bytes.ofText "/a"), (.strict, Bytes.ofText "yes"),
        (.first, Bytes.ofText "/b"), (.last, Bytes.ofText "/z"), (.strict, Bytes.ofText "f")]
    let steps' : List (Directive × Bytes) :=
      [(.last, Bytes.ofText "/z"), (.first, Bytes.ofText "/a"), (.first, Bytes.ofText "/b"),
        (.strict, Bytes.ofText "T"), (.strict, Bytes.ofText "yes"), (.strict, Bytes.ofText "f")]
    (∀ d, valuesOf d steps = valuesOf d steps') ∧
      (untouched (some (Bytes.ofText "/i"))).lasting steps =
        [(.first, Bytes.ofText "/b"), (.last, Bytes.ofText "/z"), (.strict, Bytes.ofText "f")] ∧
      ((untouched (some (Bytes.ofText "/i"))).applyAll steps').value =
        some (Bytes.ofText "/b:/i:/z") := by
  intro steps steps'
  have hvalues : ∀ d, valuesOf d steps = valuesOf d steps' := by
    intro d
    cases d <;> decide
  obtain ⟨-, -, hvalue, hstate, -, -⟩ :=
    applyAll_of_interleaved hvalues (some (Bytes.ofText "/i"))
  refine ⟨hvalues, by decide, ?_⟩
  rw [← hvalue, hstate]
  decide

end LaunchStub.LoaderPath
