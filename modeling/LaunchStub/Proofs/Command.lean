import LaunchStub.Command
import LaunchStub.Proofs.Directives.FirstOccurrences

/-!
# The commands of the two strategies

A target is started by the same command whichever way its end is awaited: a session and an ordinary
child differ in their process groups and streams only. The command names the target, passes the
argument string on as one argument or leaves it out, and gives the variables in a table.

## The model

A request keeps its variables in a list, in which a name may occur more than once and a look-up
finds the first occurrence. The table of a command has each name once, with the value of its last
occurrence (`Environment.HasLast`), and is sorted by the names in dictionary order. Where no name
occurs twice there is nothing between the two. `Command.Conveys` says this of a command.

A command can also be made step by step, from one that names the program only: an argument is added,
then the variables one after the other, and for a session at last what it does with its process
group and streams (`Command.directInSteps`, `SessionStart.commandInSteps`).

## What is proved

* `Bytes.le_iff` — the order of a table is the dictionary order of lists.
* `Command.mem_enter_iff`, `Command.sorted_enter` — what entering a variable does to a sorted table.
* `Command.mem_table_iff`, `Command.get?_table` — what is in the table of a list.
* `Command.directInSteps_eq`, `SessionStart.commandInSteps_eq` — commands made step by step.
* `Command.commands_convey` — what the commands of the two strategies are.
-/

namespace LaunchStub

/-- The order by octets is the dictionary order of lists. -/
theorem Bytes.le_iff (s t : Bytes) : le s t = true ↔ s ≤ t := by
  induction s generalizing t with
  | nil => simp [le]
  | cons a s ih =>
    cases t with
    | nil => simp [le]
    | cons b t =>
      rw [le, List.cons_le_cons_iff]
      by_cases hlt : a < b
      · simp [hlt]
      · by_cases hgt : b < a
        · have hne : a ≠ b := by
            rintro rfl
            exact hlt hgt
          simp [hlt, hgt, hne]
        · have heq : a = b := UInt8.le_antisymm (UInt8.not_lt.mp hgt) (UInt8.not_lt.mp hlt)
          simp [heq, ih]

/-! ### Last occurrences -/

namespace Environment

variable {env : Environment} {name value : Bytes}

/-- The last occurrence of a name has this value. -/
def HasLast (env : Environment) (name value : Bytes) : Prop :=
  ∃ before after, env = before ++ (name, value) :: after ∧ ∀ v ∈ after, v.1 ≠ name

theorem HasLast.mem (h : env.HasLast name value) : (name, value) ∈ env := by
  obtain ⟨before, after, rfl, -⟩ := h
  simp

/-- The last occurrence of a name is its last entry. -/
theorem hasLast_iff_only : env.HasLast name value ↔
    (env.only name).getLast? = some (name, value) := by
  rw [List.getLast?_eq_some_iff]
  constructor
  · rintro ⟨before, after, rfl, hafter⟩
    exact ⟨only before name, by rw [only_append, only_cons_self, only_eq_nil_iff.mpr hafter]⟩
  · rintro ⟨entries, hentries⟩
    obtain ⟨before, rest, rfl, -, hrest⟩ := List.filter_eq_append_iff.mp hentries
    obtain ⟨others, after, rfl, -, -, hafter⟩ := List.filter_eq_cons_iff.mp hrest
    exact ⟨before ++ others, after, by rw [List.append_assoc], only_eq_nil_iff.mp hafter⟩

/-- The last occurrence in a list with one entry more is that entry, unless it has another name. -/
theorem hasLast_concat {v : Bytes × Bytes} : HasLast (env ++ [v]) name value ↔
    v = (name, value) ∨ v.1 ≠ name ∧ env.HasLast name value := by
  rw [hasLast_iff_only, hasLast_iff_only, only_append, List.getLast?_append]
  by_cases hv : v.1 = name
  · subst hv
    simp [only]
  · have hne : v ≠ (name, value) := fun h => hv (congrArg Prod.fst h)
    rw [only_cons_of_ne hv]
    simp [only, hv, hne]

/-- A name that occurs has a last value. -/
theorem exists_hasLast_iff : (∃ value, env.HasLast name value) ↔ name ∈ env.map Prod.fst := by
  constructor
  · rintro ⟨value, h⟩
    exact List.mem_map_of_mem h.mem
  · intro h
    obtain ⟨v, hv, rfl⟩ := List.mem_map.mp h
    have hentry : v ∈ env.only v.1 := List.mem_filter.mpr ⟨hv, decide_eq_true rfl⟩
    obtain ⟨w, hw⟩ := Option.isSome_iff_exists.mp
      (List.getLast?_isSome.mpr (List.ne_nil_of_mem hentry))
    have hname : w.1 = v.1 := by simpa using (List.mem_filter.mp (List.mem_of_getLast? hw)).2
    exact ⟨w.2, hasLast_iff_only.mpr (by rw [hw, ← hname])⟩

/-! ### Lists without repeated names -/

/-- Where no name is repeated the name of an entry occurs neither before nor behind it. -/
theorem exists_split_of_mem (h : (env.map Prod.fst).Nodup) (hmem : (name, value) ∈ env) :
    ∃ before after, env = before ++ (name, value) :: after ∧ (∀ v ∈ before, v.1 ≠ name) ∧
      ∀ v ∈ after, v.1 ≠ name := by
  obtain ⟨before, after, rfl⟩ := List.append_of_mem hmem
  rw [List.map_append, List.map_cons, List.nodup_append, List.nodup_cons] at h
  obtain ⟨-, ⟨hafter, -⟩, hbefore⟩ := h
  refine ⟨before, after, rfl, fun v hv => ?_, fun v hv hname => ?_⟩
  · exact hbefore v.1 (List.mem_map_of_mem hv) name List.mem_cons_self
  · exact hafter (List.mem_map.mpr ⟨v, hv, hname⟩)

/-- Where no name is repeated every occurrence is the last. -/
theorem hasLast_iff_mem (h : (env.map Prod.fst).Nodup) :
    env.HasLast name value ↔ (name, value) ∈ env := by
  refine ⟨HasLast.mem, fun hmem => ?_⟩
  obtain ⟨before, after, heq, -, hafter⟩ := exists_split_of_mem h hmem
  exact ⟨before, after, heq, hafter⟩

/-- Where no name is repeated a look-up finds every entry. -/
theorem get?_eq_some_iff_mem (h : (env.map Prod.fst).Nodup) :
    env.get? name = some value ↔ (name, value) ∈ env := by
  rw [get?_eq_some_iff]
  constructor
  · rintro ⟨before, after, rfl, -⟩
    simp
  · intro hmem
    obtain ⟨before, after, heq, hbefore, -⟩ := exists_split_of_mem h hmem
    exact ⟨before, after, heq, hbefore⟩

/-- The names of the variables increase in dictionary order. -/
def IsSorted (env : Environment) : Prop := env.Pairwise fun v w => v.1 < w.1

theorem IsSorted.nodup (h : env.IsSorted) : (env.map Prod.fst).Nodup := by
  rw [List.Nodup, List.pairwise_map]
  exact h.imp Std.ne_of_lt

end Environment

/-- Leaving the directives out keeps the last value of every other name. -/
theorem ChildEnvironment.hasLast_sanitize {vars : Environment} {name value : Bytes} :
    (sanitize vars).vars.HasLast name value ↔
      vars.HasLast name value ∧ ∀ d : Directive, name ≠ d.name := by
  rw [← Directive.ofName?_eq_none_iff]
  constructor
  · intro h
    have hname : Directive.ofName? name = none := (sanitize vars).clean _ h.mem
    rw [Environment.hasLast_iff_only, only_sanitize hname] at h
    exact ⟨Environment.hasLast_iff_only.mpr h, hname⟩
  · rintro ⟨h, hname⟩
    rw [Environment.hasLast_iff_only, only_sanitize hname]
    exact Environment.hasLast_iff_only.mp h

/-! ### Tables -/

namespace Command

open Environment (IsSorted HasLast)

variable {vars entries : Environment} {name value : Bytes}

/-- Where a variable goes in a table: in place of the first entry, in front of it or behind it. -/
theorem enter_cons_cases (w : Bytes × Bytes) (rest : Environment) (name value : Bytes) :
    (w.1 = name ∧ enter (w :: rest) name value = (name, value) :: rest) ∨
    (name < w.1 ∧ enter (w :: rest) name value = (name, value) :: w :: rest) ∨
    (w.1 < name ∧ enter (w :: rest) name value = w :: enter rest name value) := by
  rw [enter]
  by_cases hname : w.1 = name
  · exact .inl ⟨hname, if_pos hname⟩
  · rw [if_neg hname]
    by_cases hle : Bytes.le name w.1
    · have hlt : name < w.1 := Std.lt_of_le_of_ne ((Bytes.le_iff _ _).mp hle) (Ne.symm hname)
      exact .inr (.inl ⟨hlt, if_pos hle⟩)
    · have hlt : w.1 < name := List.not_le.mp (mt (Bytes.le_iff _ _).mpr hle)
      exact .inr (.inr ⟨hlt, if_neg hle⟩)

/-- Entering a variable into a sorted table replaces the entry of its name. -/
theorem mem_enter_iff (h : entries.IsSorted) {v : Bytes × Bytes} :
    v ∈ enter entries name value ↔ v = (name, value) ∨ v.1 ≠ name ∧ v ∈ entries := by
  induction entries with
  | nil => simp [enter]
  | cons w rest ih =>
    obtain ⟨hbehind, hrest⟩ := List.pairwise_cons.mp h
    -- The names behind are greater, so an entry that is replaced was the only one of its name.
    rcases enter_cons_cases w rest name value with ⟨rfl, heq⟩ | ⟨hlt, heq⟩ | ⟨hlt, heq⟩
    · have hne : v ∈ rest → w.1 ≠ v.1 := fun hv => Std.ne_of_lt (hbehind v hv)
      rw [heq]
      grind
    · have hne : v ∈ rest → name ≠ v.1 := fun hv => Std.ne_of_lt (List.lt_trans hlt (hbehind v hv))
      have hw : name ≠ w.1 := Std.ne_of_lt hlt
      rw [heq]
      grind
    · have hw : w.1 ≠ name := Std.ne_of_lt hlt
      rw [heq, List.mem_cons, ih hrest]
      grind

/-- A sorted table stays sorted. -/
theorem sorted_enter (h : entries.IsSorted) (name value : Bytes) :
    (enter entries name value).IsSorted := by
  induction entries with
  | nil => exact List.pairwise_singleton _ _
  | cons w rest ih =>
    obtain ⟨hbehind, hrest⟩ := List.pairwise_cons.mp h
    rcases enter_cons_cases w rest name value with ⟨rfl, heq⟩ | ⟨hlt, heq⟩ | ⟨hlt, heq⟩
    · rw [heq]
      exact List.pairwise_cons.mpr ⟨hbehind, hrest⟩
    · rw [heq]
      refine List.pairwise_cons.mpr ⟨fun v hv => ?_, h⟩
      rcases List.mem_cons.mp hv with rfl | hv
      · exact hlt
      · exact List.lt_trans hlt (hbehind v hv)
    · rw [heq]
      refine List.pairwise_cons.mpr ⟨fun v hv => ?_, ih hrest⟩
      rcases (mem_enter_iff hrest).mp hv with rfl | ⟨-, hv⟩
      · exact hlt
      · exact hbehind v hv

theorem table_concat (vars : Environment) (v : Bytes × Bytes) :
    table (vars ++ [v]) = enter (table vars) v.1 v.2 := by
  rw [table, List.foldl_append]
  rfl

theorem sorted_table (vars : Environment) : (table vars).IsSorted := by
  induction vars using List.reverseRecOn with
  | nil => exact List.Pairwise.nil
  | append_singleton vars v ih =>
    rw [table_concat]
    exact sorted_enter ih v.1 v.2

/-- The table of a list holds each name with its last value. -/
theorem mem_table_iff : (name, value) ∈ table vars ↔ vars.HasLast name value := by
  -- From the end of the list: the last entry is entered last, and replaces what was there.
  induction vars using List.reverseRecOn with
  | nil => exact ⟨fun h => absurd h List.not_mem_nil, fun h => absurd h.mem List.not_mem_nil⟩
  | append_singleton vars v ih =>
    rw [table_concat, mem_enter_iff (sorted_table vars), Environment.hasLast_concat, ih]
    exact or_congr eq_comm (and_congr_left' ne_comm)

/-- Where no name is repeated the table gives each name the value that the list gives it. -/
theorem get?_table (h : (vars.map Prod.fst).Nodup) (name : Bytes) :
    (table vars).get? name = vars.get? name := by
  refine Option.ext fun value => ?_
  rw [Environment.get?_eq_some_iff_mem (sorted_table vars).nodup,
    Environment.get?_eq_some_iff_mem h, mem_table_iff, Environment.hasLast_iff_mem h]

/-! ### Commands step by step -/

/-- A command that says nothing but its program. -/
def ofProgram (program : Bytes) : Command where
  program := held program
  arguments := []
  env := []
  leadsGroup := false
  stdinNull := false
  stdoutNull := false
  faithful := isFit program

/-- Adds an argument. -/
def addArgument (command : Command) (argument : Bytes) : Command :=
  { command with
    arguments := command.arguments ++ [held argument]
    faithful := command.faithful && isFit argument }

/-- Adds variables one after the other. -/
def addVariables (command : Command) (vars : Environment) : Command :=
  vars.foldl (fun command v => { command with env := enter command.env v.1 v.2 }) command

/-- The command for an ordinary child, made step by step. -/
def directInSteps (request : LaunchRequest) : Command :=
  let command := ofProgram request.target
  let command :=
    if request.arguments = [] then command else command.addArgument request.arguments
  command.addVariables request.env.vars

theorem addVariables_eq (command : Command) (vars : Environment) :
    command.addVariables vars =
      { command with env := vars.foldl (fun table v => enter table v.1 v.2) command.env } := by
  rw [addVariables]
  induction vars generalizing command with
  | nil => rfl
  | cons v vars ih => exact ih { command with env := enter command.env v.1 v.2 }

/-- The steps that every command begins with. -/
theorem directInSteps_eq (request : LaunchRequest) : directInSteps request = direct request := by
  rw [directInSteps, addVariables_eq]
  by_cases h : request.arguments = []
  · simp [h, direct, ofRequest, ofProgram, argumentsOf, table, isFit]
  · simp [h, direct, ofRequest, ofProgram, addArgument, argumentsOf, table]

end Command

/-- The command for a session, made step by step: the streams and the process group come last. -/
def SessionStart.commandInSteps (start : SessionStart) : Command :=
  let command := Command.ofProgram start.request.target
  let command :=
    if start.request.arguments = [] then command
    else command.addArgument start.request.arguments
  let command := command.addVariables start.request.env.vars
  let command :=
    if start.foreground then command else { command with leadsGroup := true, stdinNull := true }
  if start.visible then command else { command with stdoutNull := true }

/-- A session's command goes on from that of an ordinary child. -/
theorem SessionStart.commandInSteps_eq (start : SessionStart) :
    start.commandInSteps = start.command := by
  have hbegin := Command.directInSteps_eq start.request
  rw [Command.directInSteps] at hbegin
  rw [commandInSteps, hbegin, command]
  cases start.foreground <;> cases start.visible <;> rfl

/-! ### What commands convey -/

namespace Command

theorem held_of_not_mem {string : Bytes} (h : Bytes.nul ∉ string) : held string = string := by
  have hfit : isFit string := by simpa [isFit] using h
  rw [held, if_pos hfit]

theorem map_held_argumentsOf {arguments : Bytes} (h : Bytes.nul ∉ arguments) :
    (argumentsOf arguments).map held = if arguments = [] then [] else [arguments] := by
  rw [argumentsOf]
  split
  · rfl
  · rw [List.map_singleton, held_of_not_mem h]

/-- A command conveys a target, an argument string and variables: it names them, the variables in a
sorted table with the last values, and leaves the directives out. -/
structure Conveys (command : Command) (target arguments : Bytes) (vars : Environment) : Prop where
  /-- The program is the target. -/
  program : command.program = target
  /-- The argument string is one argument, or none if it is empty. -/
  arguments : command.arguments = if arguments = [] then [] else [arguments]
  /-- The names of the variables increase in dictionary order. -/
  sorted : command.env.Pairwise fun v w => v.1 < w.1
  /-- They are the names that the variables have, but for the directives'. -/
  names (name : Bytes) : name ∈ command.env.map Prod.fst ↔
    name ∈ vars.map Prod.fst ∧ ∀ d : Directive, name ≠ d.name
  /-- Each has its last value. -/
  values (name value : Bytes) : (name, value) ∈ command.env ↔
    vars.HasLast name value ∧ ∀ d : Directive, name ≠ d.name
  /-- Where no name but a directive's is repeated, each has the value that the target's environment
  gives it. -/
  lookups : ((ChildEnvironment.sanitize vars).vars.map Prod.fst).Nodup →
    ∀ name, command.env.get? name = (ChildEnvironment.sanitize vars).get? name

/-- The command of a request, whatever its process group and streams are. -/
theorem conveys_ofRequest {target arguments : Bytes} (htarget : Bytes.nul ∉ target)
    (harguments : Bytes.nul ∉ arguments) (vars : Environment)
    (leadsGroup stdinNull stdoutNull : Bool) :
    (ofRequest ⟨target, arguments, .sanitize vars⟩ leadsGroup stdinNull stdoutNull).Conveys
      target arguments vars := by
  have hvalues : ∀ name value, (name, value) ∈ table (ChildEnvironment.sanitize vars).vars ↔
      vars.HasLast name value ∧ ∀ d : Directive, name ≠ d.name :=
    fun _ _ => mem_table_iff.trans ChildEnvironment.hasLast_sanitize
  refine ⟨held_of_not_mem htarget, map_held_argumentsOf harguments, sorted_table _,
    fun name => ?_, hvalues, fun hnames name => get?_table hnames name⟩
  calc name ∈ (table (ChildEnvironment.sanitize vars).vars).map Prod.fst
    _ ↔ ∃ value, (name, value) ∈ table (ChildEnvironment.sanitize vars).vars := by simp
    _ ↔ ∃ value, vars.HasLast name value ∧ ∀ d : Directive, name ≠ d.name :=
      exists_congr fun value => hvalues name value
    _ ↔ (∃ value, vars.HasLast name value) ∧ ∀ d : Directive, name ≠ d.name := exists_and_right
    _ ↔ name ∈ vars.map Prod.fst ∧ ∀ d : Directive, name ≠ d.name :=
      and_congr_left' Environment.exists_hasLast_iff

/-- **The commands of the two strategies** are of the same program, arguments and variables, and
convey the target, the argument string and the variables without the directives. Each is what one
gets by making it step by step. -/
theorem commands_convey {target arguments : Bytes} (htarget : Bytes.nul ∉ target)
    (harguments : Bytes.nul ∉ arguments) (vars : Environment) (foreground visible : Bool) :
    let request : LaunchRequest := ⟨target, arguments, .sanitize vars⟩
    let start : SessionStart := ⟨request, foreground, visible⟩
    (start.command.program = (direct request).program ∧
      start.command.arguments = (direct request).arguments ∧
      start.command.env = (direct request).env) ∧
    start.command.Conveys target arguments vars ∧ (direct request).Conveys target arguments vars ∧
    start.commandInSteps = start.command ∧ directInSteps request = direct request :=
  ⟨⟨rfl, rfl, rfl⟩, conveys_ofRequest htarget harguments vars _ _ _,
    conveys_ofRequest htarget harguments vars _ _ _, SessionStart.commandInSteps_eq _,
    directInSteps_eq _⟩

/-- Variables with a directive in between, and the names of the others out of order. -/
def unordered : Environment :=
  [(Bytes.ofText "LANG", Bytes.ofText "C"), (Directive.first.name, Bytes.ofText "/b"),
    (Bytes.ofText "HOME", Bytes.ofText "/h")]

/-- A background session and an ordinary child are given them in order, with the values that a
look-up finds; and where one occurs again, they are given its last value. -/
theorem commands_convey_unordered :
    let request (vars : Environment) : LaunchRequest :=
      ⟨Bytes.ofText "/t", Bytes.ofText "-a b", .sanitize vars⟩
    let session vars := (SessionStart.mk (request vars) false true).command
    (session unordered).arguments = [Bytes.ofText "-a b"] ∧
      (session unordered).env.get? (Bytes.ofText "LANG") = some (Bytes.ofText "C") ∧
      (direct (request unordered)).env =
        [(Bytes.ofText "HOME", Bytes.ofText "/h"), (Bytes.ofText "LANG", Bytes.ofText "C")] ∧
      (Bytes.ofText "LANG", Bytes.ofText "de") ∈
        (session (unordered ++ [(Bytes.ofText "LANG", Bytes.ofText "de")])).env := by
  have htarget : Bytes.nul ∉ Bytes.ofText "/t" := by decide
  have harguments : Bytes.nul ∉ Bytes.ofText "-a b" := by decide
  obtain ⟨-, hsession, -, -⟩ := commands_convey htarget harguments unordered false true
  have hlookup := hsession.lookups (by decide) (Bytes.ofText "LANG")
  obtain ⟨-, hagain, -, -⟩ := commands_convey htarget harguments
    (unordered ++ [(Bytes.ofText "LANG", Bytes.ofText "de")]) false true
  refine ⟨hsession.arguments, hlookup, by decide, (hagain.values _ _).mpr ⟨?_, ?_⟩⟩
  · exact ⟨unordered, [], rfl, by simp⟩
  · intro d
    cases d <;> decide

end Command

end LaunchStub
