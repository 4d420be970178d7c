import LaunchStub.Directive

/-!
# Entries of an environment by name

Where names may repeat, what happens to one name is best said by cutting the environment in two: the
entries of that name (`Environment.only`) and all others (`Environment.without`), each in their
order. Putting and removing a value touch the first part alone, and on a name that occurs at most
once they say exactly what that part is afterwards; there it makes no difference either how much of
a name goes when it is removed (`Environment.update_of_isSingle`).
-/

namespace LaunchStub

namespace Environment

variable {env : Environment} {name : Bytes}

/-- The entries of a name. -/
def only (env : Environment) (name : Bytes) : Environment := env.filter fun v => v.1 = name

/-- Does a name occur at most once? -/
def IsSingle (env : Environment) (name : Bytes) : Prop := (env.only name).length ≤ 1

instance (env : Environment) (name : Bytes) : Decidable (env.IsSingle name) :=
  inferInstanceAs (Decidable ((env.only name).length ≤ 1))

/-- The entry of a name that has this value or no entry. -/
def entry (name : Bytes) (value : Option Bytes) : Environment := (value.map (name, ·)).toList

theorem only_cons_self (value : Bytes) (rest : Environment) :
    only ((name, value) :: rest) name = (name, value) :: rest.only name :=
  List.filter_cons_of_pos (decide_eq_true rfl)

theorem only_cons_of_ne {v : Bytes × Bytes} (h : v.1 ≠ name) (rest : Environment) :
    only (v :: rest) name = rest.only name :=
  List.filter_cons_of_neg (by simpa using h)

/-- A look-up finds the first entry of a name. -/
theorem get?_eq_only (env : Environment) (name : Bytes) :
    env.get? name = (env.only name).head?.map Prod.snd := by
  induction env with
  | nil => rfl
  | cons v rest ih =>
    obtain ⟨k, value⟩ := v
    by_cases h : k = name
    · subst h
      rw [only_cons_self, get?, List.lookup_cons_self]
      rfl
    · rw [only_cons_of_ne h, ← ih, get?, List.lookup_cons, beq_false_of_ne (Ne.symm h)]
      rfl

/-- A name that occurs at most once has the entry that a look-up finds, and no other. -/
theorem only_eq_entry (h : env.IsSingle name) : env.only name = entry name (env.get? name) := by
  rw [get?_eq_only]
  match honly : env.only name with
  | [] => rfl
  | [v] =>
    have hv : v ∈ env.only name := by rw [honly]; exact List.mem_singleton_self v
    obtain rfl : v.1 = name := by simpa using (List.mem_filter.mp hv).2
    rfl
  | _ :: _ :: _ => simp [IsSingle, honly] at h

theorem isSingle_of_only_eq {value : Option Bytes} (h : env.only name = entry name value) :
    env.IsSingle name := by
  rw [IsSingle, h]
  cases value <;> simp [entry]

/-- A name has no entries where it does not occur. -/
theorem only_eq_nil_iff : env.only name = [] ↔ ∀ v ∈ env, v.1 ≠ name := by
  simp [only, List.filter_eq_nil_iff]

/-- Where a name does not occur there is nothing to leave out. -/
theorem without_of_only_eq_nil (h : env.only name = []) : env.without name = env :=
  List.filter_eq_self.mpr fun v hv => by simpa using only_eq_nil_iff.mp h v hv

theorem only_without_self (env : Environment) (name : Bytes) : (env.without name).only name = [] :=
  only_eq_nil_iff.mpr fun v hv => by simpa using (List.mem_filter.mp hv).2

/-- Where all occurrences of a name are left out a look-up finds none. -/
theorem get?_without (env : Environment) (name : Bytes) : (env.without name).get? name = none := by
  rw [get?_eq_only, only_without_self]
  rfl

/-! ### Putting and removing -/

theorem without_put (env : Environment) (name value : Bytes) :
    (env.put name value).without name = env.without name := by
  induction env with
  | nil => simp [put, without]
  | cons v rest ih =>
    by_cases h : v.1 = name
    · simp [put, without, h]
    · simp only [put, h, if_false, without, List.filter_cons, ne_eq, not_false_eq_true,
        decide_true, if_true]
      exact congrArg (v :: ·) ih

/-- Of a name that is removed nothing is left, or all but its first occurrence. -/
theorem without_remove (env : Environment) (name : Bytes) (removal : Removal) :
    (env.remove name removal).without name = env.without name := by
  cases removal with
  | everyOccurrence => exact without_of_only_eq_nil (only_without_self env name)
  | firstOccurrence =>
    induction env with
    | nil => rfl
    | cons v rest ih =>
      by_cases h : v.1 = name
      · simp [remove, without, h]
      · simp only [remove, List.eraseP_cons, h, decide_false, cond_false, without,
          List.filter_cons, ne_eq, not_false_eq_true, decide_true, if_true]
        exact congrArg (v :: ·) ih

/-- The first entry of a name gives way to the new one. -/
theorem only_put (env : Environment) (name value : Bytes) :
    (env.put name value).only name = (name, value) :: (env.only name).tail := by
  induction env with
  | nil => simp [put, only]
  | cons v rest ih =>
    obtain ⟨k, old⟩ := v
    by_cases h : k = name
    · subst h
      simp only [put, if_true]
      rw [only_cons_self, only_cons_self, List.tail_cons]
    · simp only [put, h, if_false]
      rw [only_cons_of_ne h, only_cons_of_ne h, ih]

/-- Where the first occurrence of a name goes the others are left. -/
theorem only_remove_first (env : Environment) (name : Bytes) :
    (env.remove name .firstOccurrence).only name = (env.only name).tail := by
  induction env with
  | nil => rfl
  | cons v rest ih =>
    obtain ⟨k, old⟩ := v
    by_cases h : k = name
    · subst h
      rw [only_cons_self, List.tail_cons, remove, List.eraseP_cons_of_pos (by simp)]
    · rw [only_cons_of_ne h, remove, List.eraseP_cons_of_neg (by simpa using h),
        only_cons_of_ne h, ← ih, remove]

theorem tail_only (h : env.IsSingle name) : (env.only name).tail = [] := by
  rw [only_eq_entry h]
  cases env.get? name <;> rfl

/-- A name that occurs at most once goes altogether, whichever removal it is. -/
theorem remove_of_isSingle (h : env.IsSingle name) (removal : Removal) :
    env.remove name removal = env.without name := by
  cases removal with
  | everyOccurrence => rfl
  | firstOccurrence =>
    have honly := (only_remove_first env name).trans (tail_only h)
    rw [← without_remove env name .firstOccurrence, without_of_only_eq_nil honly]

theorem update_of_isSingle (h : env.IsSingle name) (value : Option Bytes) (removal : Removal) :
    env.update name value removal = env.update name value := by
  cases value with
  | none => exact remove_of_isSingle h removal
  | some value => rfl

/-- Updating a name touches no other name. -/
theorem without_update (env : Environment) (name : Bytes) (value : Option Bytes)
    (removal : Removal) : (env.update name value removal).without name = env.without name := by
  cases value with
  | none => exact without_remove env name removal
  | some value => exact without_put env name value

/-- Updating a name that occurs at most once leaves the entry of the new value. -/
theorem only_update (h : env.IsSingle name) (value : Option Bytes) :
    (env.update name value).only name = entry name value := by
  cases value with
  | none => exact only_without_self env name
  | some value =>
    exact (only_put env name value).trans (congrArg ((name, value) :: ·) (tail_only h))

/-! ### Two names -/

variable {other : Bytes}

/-- Leaving a name out does not touch the entries of another. -/
theorem only_without (h : other ≠ name) (env : Environment) :
    (env.without name).only other = env.only other := by
  rw [only, without, List.filter_filter, only]
  refine List.filter_congr fun v _ => ?_
  by_cases hv : v.1 = other
  · simp [hv, h]
  · simp [hv]

theorem get?_without_of_ne (h : other ≠ name) (env : Environment) :
    (env.without name).get? other = env.get? other := by
  rw [get?_eq_only, only_without h, ← get?_eq_only]

theorem without_cons_of_eq {v : Bytes × Bytes} (h : v.1 = name) (rest : Environment) :
    without (v :: rest) name = rest.without name :=
  List.filter_cons_of_neg (by simpa using h)

theorem without_cons_of_ne {v : Bytes × Bytes} (h : v.1 ≠ name) (rest : Environment) :
    without (v :: rest) name = v :: rest.without name :=
  List.filter_cons_of_pos (by simpa using h)

theorem put_without (h : other ≠ name) (env : Environment) (value : Bytes) :
    (env.without name).put other value = (env.put other value).without name := by
  induction env with
  | nil => exact (without_cons_of_ne h []).symm
  | cons v rest ih =>
    by_cases hname : v.1 = name
    · have hother : v.1 ≠ other := fun hv => h (hv.symm.trans hname)
      rw [without_cons_of_eq hname, ih, put, if_neg hother, without_cons_of_eq hname]
    · rw [without_cons_of_ne hname, put, put]
      split
      · rw [without_cons_of_ne h]
      · rw [without_cons_of_ne hname, ih]

theorem without_without (env : Environment) (name other : Bytes) :
    (env.without name).without other = (env.without other).without name := by
  simp only [without, List.filter_filter, Bool.and_comm]

theorem remove_without (h : other ≠ name) (env : Environment) (removal : Removal) :
    (env.without name).remove other removal = (env.remove other removal).without name := by
  cases removal with
  | everyOccurrence => exact without_without env name other
  | firstOccurrence =>
    induction env with
    | nil => rfl
    | cons v rest ih =>
      by_cases hname : v.1 = name
      · have hother : v.1 ≠ other := fun hv => h (hv.symm.trans hname)
        rw [without_cons_of_eq hname, ih, remove, remove,
          List.eraseP_cons_of_neg (by simpa using hother), without_cons_of_eq hname]
      · rw [without_cons_of_ne hname, remove, remove]
        by_cases hother : v.1 = other
        · rw [List.eraseP_cons_of_pos (by simpa using hother),
            List.eraseP_cons_of_pos (by simpa using hother)]
        · rw [List.eraseP_cons_of_neg (by simpa using hother),
            List.eraseP_cons_of_neg (by simpa using hother), without_cons_of_ne hname]
          exact congrArg (v :: ·) ih

/-- Leaving a name out and updating another can be done in either order. -/
theorem update_without (h : other ≠ name) (env : Environment) (value : Option Bytes)
    (removal : Removal) :
    (env.without name).update other value removal =
      (env.update other value removal).without name := by
  cases value with
  | none => exact remove_without h env removal
  | some value => exact put_without h env value

end Environment

end LaunchStub
