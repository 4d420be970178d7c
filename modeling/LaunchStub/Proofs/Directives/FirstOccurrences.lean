import LaunchStub.Proofs.Directives
import Mathlib.Data.List.Destutter
import Mathlib.Logic.Relation

/-!
# Which occurrence of a directive counts

A list of variables may hold a directive more than once, between any other variables. Of each
directive that occurs the first occurrence counts, and the order in which the directives are applied
is their own and not that of the list.

## The model

`Environment.HasFirst` says what the first occurrence of a name is by cutting the list there. The
directives can be found in another way than `Directive.collect` finds them: all occurrences are
sorted by the place of the directive in the order of application, which must keep those of one
directive in their order, and of neighbours of the same kind the first is kept
(`Directive.collectBySorting`). Both find the same.

A `Environment.Change` of a list spares the directives: another variable is put in, taken out or
moved, or the whole list is reordered but for entries of equal names, which keep their order.
-/

namespace LaunchStub

/-! ### First occurrences -/

namespace Environment

variable {env env' : Environment} {name value : Bytes}

/-- The first occurrence of a name has this value. -/
def HasFirst (env : Environment) (name value : Bytes) : Prop :=
  ∃ before after, env = before ++ (name, value) :: after ∧ ∀ v ∈ before, v.1 ≠ name

/-- A look-up finds the first occurrence. -/
theorem get?_eq_some_iff : env.get? name = some value ↔ env.HasFirst name value := by
  have hne : ∀ before : Environment, (∀ v ∈ before, (name != v.1) = true) ↔
      ∀ v ∈ before, v.1 ≠ name := fun before => by
    refine forall₂_congr fun v _ => ?_
    rw [bne_iff_ne, ne_comm]
  rw [get?, List.lookup_eq_some_iff]
  simp only [hne, HasFirst]

/-- A look-up finds something exactly if the name occurs. -/
theorem isSome_get?_iff : (env.get? name).isSome ↔ name ∈ env.map Prod.fst := by
  rw [get?, List.lookup_isSome_iff, List.mem_map]
  refine exists_congr fun v => and_congr_right fun _ => ?_
  rw [beq_iff_eq, eq_comm]

theorem only_append (before after : Environment) (name : Bytes) :
    only (before ++ after) name = before.only name ++ after.only name :=
  List.filter_append before after

/-- One change of the variables that spares the directives. -/
inductive Change : Environment → Environment → Prop where
  /-- Another variable is put in. -/
  | insert (before after : Environment) {v : Bytes × Bytes} (h : ∀ d : Directive, v.1 ≠ d.name) :
    Change (before ++ after) (before ++ v :: after)
  /-- Another variable is taken out. -/
  | remove (before after : Environment) {v : Bytes × Bytes} (h : ∀ d : Directive, v.1 ≠ d.name) :
    Change (before ++ v :: after) (before ++ after)
  /-- Another variable is moved towards the end. -/
  | moveBack (before between after : Environment) {v : Bytes × Bytes}
    (h : ∀ d : Directive, v.1 ≠ d.name) :
    Change (before ++ v :: (between ++ after)) (before ++ between ++ v :: after)
  /-- Another variable is moved towards the beginning. -/
  | moveForward (before between after : Environment) {v : Bytes × Bytes}
    (h : ∀ d : Directive, v.1 ≠ d.name) :
    Change (before ++ between ++ v :: after) (before ++ v :: (between ++ after))
  /-- The variables are reordered, those of equal names in the order they had. -/
  | reorder {env env' : Environment} (h : env.Perm env')
    (hnames : ∀ name, env.filter (fun v => v.1 = name) = env'.filter fun v => v.1 = name) :
    Change env env'

/-- Two neighbours of different names may change places. -/
theorem Change.swap (before after : Environment) {v w : Bytes × Bytes} (h : v.1 ≠ w.1) :
    Change (before ++ v :: w :: after) (before ++ w :: v :: after) := by
  refine .reorder ((List.Perm.swap w v after).append_left before) fun name => ?_
  by_cases hv : v.1 = name
  · have hw : w.1 ≠ name := fun hw => h (hv.trans hw.symm)
    simp [hv, hw]
  · simp [hv, List.filter_cons]

/-- A change that spares the directives leaves the entries of every directive as they are. -/
theorem Change.only_eq (h : Change env env') (d : Directive) :
    env'.only d.name = env.only d.name := by
  have hother : ∀ {v : Bytes × Bytes} (rest : Environment), (∀ d : Directive, v.1 ≠ d.name) →
      only (v :: rest) d.name = rest.only d.name :=
    fun rest hv => only_cons_of_ne (hv d) rest
  cases h with
  | insert before after hv => simp only [only_append, hother _ hv]
  | remove before after hv => simp only [only_append, hother _ hv]
  | moveBack before between after hv =>
    simp only [only_append, hother _ hv, List.append_assoc]
  | moveForward before between after hv =>
    simp only [only_append, hother _ hv, List.append_assoc]
  | reorder _ hnames => exact (hnames d.name).symm

end Environment

namespace Directive

variable {env env' : Environment}

/-! ### Finding them by sorting -/

/-- The place of a directive in the order of application. -/
def place (d : Directive) : Nat := all.idxOf d

theorem place_injective : Function.Injective place := by
  intro d d'
  cases d <;> cases d' <;> decide

/-- Is a directive not to be applied after another? -/
def notAfter (a b : Directive × Bytes) : Bool := place a.1 ≤ place b.1

theorem notAfter_trans (a b c : Directive × Bytes) (hab : notAfter a b) (hbc : notAfter b c) :
    notAfter a c :=
  decide_eq_true ((of_decide_eq_true hab).trans (of_decide_eq_true hbc))

theorem notAfter_total (a b : Directive × Bytes) : notAfter a b || notAfter b a := by
  simpa [notAfter] using Nat.le_total (place a.1) (place b.1)

/-- The directives among the variables, sorted by their places; those of one kind keep their order.
-/
def sorted (env : Environment) : List (Directive × Bytes) := (occurrences env).mergeSort notAfter

/-- The first of each run of one kind in the sorted directives. -/
def collectBySorting (env : Environment) : List (Directive × Bytes) :=
  (sorted env).destutter fun a b => a.1 ≠ b.1

theorem pairwise_sorted (env : Environment) :
    (sorted env).Pairwise fun a b => place a.1 ≤ place b.1 :=
  (List.pairwise_mergeSort notAfter_trans notAfter_total (occurrences env)).imp of_decide_eq_true

/-- Sorting keeps the occurrences of one kind in their order, so the first one stays the first. -/
theorem find?_sorted (env : Environment) (d : Directive) :
    (sorted env).find? (fun o => o.1 = d) = (occurrences env).find? fun o => o.1 = d := by
  have hkind : ((occurrences env).filter fun o => o.1 = d).Pairwise fun a b => notAfter a b := by
    refine List.pairwise_of_forall_mem_list fun a ha b hb => ?_
    have ha : a.1 = d := by simpa using (List.mem_filter.mp ha).2
    have hb : b.1 = d := by simpa using (List.mem_filter.mp hb).2
    exact decide_eq_true (by rw [ha, hb])
  have hsub := (List.sublist_mergeSort notAfter_trans notAfter_total hkind
    List.filter_sublist).filter fun o => o.1 = d
  rw [List.filter_filter] at hsub
  simp only [Bool.and_self] at hsub
  have hlength := ((List.mergeSort_perm (occurrences env) notAfter).filter
    fun o => o.1 = d).length_eq
  rw [sorted, ← List.head?_filter, ← hsub.eq_of_length hlength.symm, List.head?_filter]

/-- A directive in front of directives of later places is the first of its kind, and of the others
the first are found behind it. -/
theorem firsts_cons_of_lt {x : Directive × Bytes} {l : List (Directive × Bytes)}
    (h : ∀ y ∈ l, place x.1 < place y.1) :
    all.filterMap (fun d => (x :: l).find? fun o => o.1 = d) =
      x :: all.filterMap fun d => l.find? fun o => o.1 = d := by
  obtain ⟨kind, value⟩ := x
  have hnone : ∀ d, place d ≤ place kind → l.find? (fun o => o.1 = d) = none := by
    intro d hd
    refine List.find?_eq_none.mpr fun y hy hyd => ?_
    have hlt : place kind < place y.1 := h y hy
    rw [of_decide_eq_true hyd] at hlt
    omega
  cases kind with
  | first => simp [all, List.filterMap_cons, hnone first (by decide)]
  | last => simp [all, List.filterMap_cons, hnone first (by decide), hnone last (by decide)]
  | strict =>
    simp [all, hnone first (by decide), hnone last (by decide), hnone strict (by decide)]

/-- Of directives sorted by their places, keeping the first of each run keeps the first of each
kind. -/
theorem destutter_of_sorted {x : Directive × Bytes} {l : List (Directive × Bytes)}
    (h : (x :: l).Pairwise fun a b => place a.1 ≤ place b.1) :
    l.destutter' (fun a b => a.1 ≠ b.1) x =
      all.filterMap fun d => (x :: l).find? fun o => o.1 = d := by
  induction l generalizing x with
  | nil =>
    rw [List.destutter'_nil, firsts_cons_of_lt (by simp)]
    simp
  | cons y l ih =>
    have hle := List.pairwise_cons.mp h
    by_cases hkind : x.1 = y.1
    · -- the second of the same kind is dropped, and was not the first of any kind
      rw [List.destutter'_cons_neg _ (by simpa using hkind),
        ih (h.sublist ((List.sublist_cons_self y l).cons_cons x))]
      congr 1
      funext d
      by_cases hd : x.1 = d
      · simp [hd]
      · have hyd : y.1 ≠ d := hkind ▸ hd
        simp [hd, hyd]
    · have hlt : ∀ z ∈ y :: l, place x.1 < place z.1 := by
        intro z hz
        have hxy := hle.1 y List.mem_cons_self
        have hne : place x.1 ≠ place y.1 := fun hplace => hkind (place_injective hplace)
        rcases List.mem_cons.mp hz with rfl | hz
        · omega
        · have hyz := (List.pairwise_cons.mp hle.2).1 z hz
          omega
      rw [List.destutter'_cons_pos _ (by simpa using hkind), ih hle.2, firsts_cons_of_lt hlt]

/-- Sorting finds what collecting finds. -/
theorem collectBySorting_eq (env : Environment) : collectBySorting env = collect env := by
  rw [collect]
  simp only [← find?_sorted]
  have hsorted := pairwise_sorted env
  rw [collectBySorting]
  cases hlist : sorted env with
  | nil => rfl
  | cons x l =>
    rw [hlist] at hsorted
    exact destutter_of_sorted hsorted

/-! ### What is collected -/

theorem mem_collect_iff {d : Directive} {value : Bytes} :
    (d, value) ∈ collect env ↔ env.HasFirst d.name value := by
  rw [collect_eq, ← Environment.get?_eq_some_iff, List.mem_filterMap]
  constructor
  · rintro ⟨d', -, hd'⟩
    obtain ⟨value', hvalue, heq⟩ := Option.map_eq_some_iff.mp hd'
    obtain ⟨rfl, rfl⟩ := Prod.mk.inj heq
    exact hvalue
  · intro hvalue
    exact ⟨d, by cases d <;> decide, by rw [hvalue]; rfl⟩

/-- Of each directive that occurs there is one, in the order of application. -/
theorem map_fst_collect (env : Environment) :
    (collect env).map Prod.fst = all.filter fun d => d.name ∈ env.map Prod.fst := by
  rw [collect_eq, List.map_filterMap, ← List.filterMap_eq_filter]
  congr 1
  funext d
  simp only [Option.map_map, ← Environment.isSome_get?_iff]
  cases hvalue : env.get? d.name <;> simp [Option.guard, hvalue]

/-- The entries of the directives decide what is collected. -/
theorem collect_congr (h : ∀ d : Directive, env'.only d.name = env.only d.name) :
    collect env' = collect env := by
  rw [collect_eq, collect_eq]
  simp only [Environment.get?_eq_only, h]

/-- Changes that spare the directives change nothing of what is collected. -/
theorem collect_of_changes (h : Relation.ReflTransGen Environment.Change env env') :
    collect env' = collect env := by
  induction h with
  | refl => rfl
  | tail _ hchange ih => exact (collect_congr hchange.only_eq).trans ih

/-- **What is collected**: one entry for each directive whose name occurs among the variables, in
the order of application, with the value of the name's first occurrence; the same is found by
sorting; and no changes that spare the directives make a difference. -/
theorem collect_firstOccurrences (env : Environment) :
    (collect env).map Prod.fst =
        [.first, .last, .strict].filter (fun d => d.name ∈ env.map Prod.fst) ∧
      (∀ d value, (d, value) ∈ collect env ↔ env.HasFirst d.name value) ∧
      collect env = collectBySorting env ∧
      ∀ env', Relation.ReflTransGen Environment.Change env env' → collect env' = collect env :=
  ⟨map_fst_collect env, fun _ _ => mem_collect_iff, (collectBySorting_eq env).symm,
    fun _ => collect_of_changes⟩

/-- Two directives that occur twice each, and a variable that is none. -/
def scattered : Environment :=
  [(strict.name, Bytes.ofText "T"), (Bytes.ofText "A", Bytes.ofText "1"),
    (first.name, Bytes.ofText "/b"), (strict.name, Bytes.ofText "x"),
    (first.name, Bytes.ofText "/c")]

/-- With the other variable taken out and the first two directives in the other order, the same is
collected. -/
theorem collect_firstOccurrences_scattered :
    ∃ env', Relation.ReflTransGen Environment.Change scattered env' ∧
      env'.map Prod.fst = [first.name, strict.name, strict.name, first.name] ∧
      collect env' = [(.first, Bytes.ofText "/b"), (.strict, Bytes.ofText "T")] := by
  have htake : Environment.Change scattered
      ([(strict.name, Bytes.ofText "T")] ++ [(first.name, Bytes.ofText "/b"),
        (strict.name, Bytes.ofText "x"), (first.name, Bytes.ofText "/c")]) :=
    .remove [(strict.name, Bytes.ofText "T")] _ fun d => by cases d <;> decide
  have hswap := Environment.Change.swap [] [(strict.name, Bytes.ofText "x"),
    (first.name, Bytes.ofText "/c")] (v := (strict.name, Bytes.ofText "T"))
    (w := (first.name, Bytes.ofText "/b")) (by decide)
  obtain ⟨-, -, -, hchanges⟩ := collect_firstOccurrences scattered
  have hsteps := (Relation.ReflTransGen.single htake).tail hswap
  exact ⟨_, hsteps, rfl, (hchanges _ hsteps).trans (by decide)⟩

end Directive

end LaunchStub
