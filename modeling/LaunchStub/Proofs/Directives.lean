import LaunchStub.Proofs.Environment

/-!
# The directives of an environment

Collecting the directives sorts them by kind and keeps the first of each kind. Said by look-ups: of
each kind, in the order of application, the value that a look-up of its reserved name finds.
-/

namespace LaunchStub

namespace Directive

/-- A name that is no directive's finds none. -/
theorem ofName?_eq_none_iff {name : Bytes} :
    ofName? name = none ↔ ∀ d : Directive, name ≠ d.name := by
  rw [Option.eq_none_iff_forall_not_mem]
  exact forall_congr' fun d => not_congr ofName?_eq_some_iff

/-- The first directive of a kind is the one that a look-up of its name finds. -/
theorem find?_occurrences (env : Environment) (d : Directive) :
    (occurrences env).find? (fun o => o.1 = d) = (env.get? d.name).map (d, ·) := by
  induction env with
  | nil => rfl
  | cons v rest ih =>
    obtain ⟨name, value⟩ := v
    rw [Environment.get?, List.lookup_cons, occurrences, List.filterMap_cons]
    by_cases h : d.name = name
    · subst h
      simp
    · rw [beq_false_of_ne h]
      cases hname : ofName? name with
      | none => exact ih
      | some d' =>
        have hd : d' ≠ d := by
          rintro rfl
          exact h (ofName?_eq_some_iff.mp hname).symm
        simp only [Option.map_some, List.find?_cons, hd, decide_false]
        exact ih

/-- The directives that are applied: of each kind, in order, the value of its reserved name. -/
theorem collect_eq (env : Environment) :
    collect env = all.filterMap fun d => (env.get? d.name).map (d, ·) := by
  rw [collect]
  congr 1
  funext d
  exact find?_occurrences env d

/-- The same, kind by kind. -/
theorem collect_eq_append (env : Environment) :
    collect env = ((env.get? first.name).map (first, ·)).toList ++
      (((env.get? last.name).map (last, ·)).toList ++
        ((env.get? strict.name).map (strict, ·)).toList) := by
  rw [collect_eq, all]
  cases hfirst : env.get? first.name <;> cases hlast : env.get? last.name <;>
    cases hstrict : env.get? strict.name <;> simp [hfirst, hlast, hstrict]

end Directive

/-- Leaving the directives out keeps the entries of every other name. -/
theorem ChildEnvironment.only_sanitize {name : Bytes} (h : Directive.ofName? name = none)
    (env : Environment) : (sanitize env).vars.only name = env.only name := by
  rw [Environment.only, sanitize, List.filter_filter, Environment.only]
  refine List.filter_congr fun v _ => ?_
  by_cases hv : v.1 = name <;> simp [hv, h]

/-- Leaving the directives out and leaving a name out can be done in either order. -/
theorem ChildEnvironment.without_sanitize (name : Bytes) (env : Environment) :
    (sanitize env).vars.without name = (sanitize (env.without name)).vars :=
  List.filter_filter.trans ((List.filter_congr fun _ _ => Bool.and_comm _ _).trans
    List.filter_filter.symm)

end LaunchStub
