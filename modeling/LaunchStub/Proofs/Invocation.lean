import LaunchStub.Invocation

/-!
# Reading and listing invocations

An argument vector is read by its strings behind the first. How many there are decides whether the
word for the action is looked at, and that word decides whether there is an invocation. Nothing else
is looked at: the other five strings are its fields, as they are and in their order, so listing the
fields of an invocation gives back what was read.

## The model

The strings can also be taken off the end one by one, each time with an empty string in place of one
that is missing (`Invocation.parseFromEnd`). None is missing once there are six of them, and both
ways read the same.

## What is proved

* `Invocation.parse_cases` — the three ways in which reading can end.
* `Invocation.parseFromEnd_eq` — reading from the end.
* `Invocation.parse_eq_arity_iff`, `Invocation.parse_eq_unknownAction_iff`,
  `Invocation.parse_eq_ok_iff` — when it ends in each of the three ways.
* `Invocation.parse_reads_positionals` — all of this, and what has no influence.
-/

namespace LaunchStub

/-! ### Words for actions -/

namespace Action

variable {word : Bytes}

theorem ofName?_eq_some_iff {action : Action} :
    ofName? word = some action ↔ word = action.name := by
  constructor
  · intro h
    rw [ofName?] at h
    split at h
    · rename_i hword
      rw [hword, ← Option.some.inj h]
    · split at h
      · rename_i hword
        rw [hword, ← Option.some.inj h]
      · contradiction
  · rintro rfl
    exact ofName?_name action

/-- Only two words stand for actions. -/
theorem ofName?_eq_none_iff :
    ofName? word = none ↔ word ≠ Bytes.ofText "run" ∧ word ≠ Bytes.ofText "debug" := by
  rw [Option.eq_none_iff_forall_not_mem]
  constructor
  · intro h
    exact ⟨fun hrun => h .run (ofName?_eq_some_iff.mpr hrun),
      fun hdebug => h .debug (ofName?_eq_some_iff.mpr hdebug)⟩
  · rintro ⟨hrun, hdebug⟩ action haction
    have hword := ofName?_eq_some_iff.mp haction
    cases action with
    | run => exact hrun hword
    | debug => exact hdebug hword

end Action

namespace Invocation

/-- The last of some strings, an empty one if there is none, and those in front of it. -/
def takeLast (strings : List Bytes) : Bytes × List Bytes :=
  (strings.getLast?.getD [], strings.dropLast)

/-- Reads an argument vector, the program's name first, from its end. -/
def parseFromEnd (arguments : List Bytes) : Except UsageError Invocation :=
  let given := arguments.drop 1
  if given.length ≠ 6 then .error (.arity given.length)
  else
    let (targetArgs, given) := takeLast given
    let (target, given) := takeLast given
    let (workdir, given) := takeLast given
    let (continuation, given) := takeLast given
    let (channel, given) := takeLast given
    let (action, _) := takeLast given
    match Action.ofName? action with
    | some action => .ok ⟨action, channel, continuation, workdir, target, targetArgs⟩
    | none => .error (.unknownAction action)

variable {arguments other : List Bytes} {inv : Invocation} {word : Bytes}

/-! ### How reading can end -/

/-- Six strings are a word and five others. -/
theorem exists_of_length_eq {given : List Bytes} (h : given.length = 6) :
    ∃ word channel continuation workdir target targetArgs,
      given = [word, channel, continuation, workdir, target, targetArgs] := by
  match given, h with
  | [_, _, _, _, _, _], _ => exact ⟨_, _, _, _, _, _, rfl⟩

/-- Of six strings the first is looked at. -/
theorem parse_of_tail_eq {channel continuation workdir target targetArgs : Bytes}
    (h : arguments.tail = [word, channel, continuation, workdir, target, targetArgs]) :
    parse arguments = match Action.ofName? word with
      | some action => .ok ⟨action, channel, continuation, workdir, target, targetArgs⟩
      | none => .error (.unknownAction word) := by
  cases haction : Action.ofName? word <;> simp [parse, h, haction]

/-- Any other number of strings is reported, whatever they are. -/
theorem parse_of_length_ne (h : arguments.tail.length ≠ 6) :
    parse arguments = .error (.arity arguments.tail.length) := by
  rw [parse, List.drop_one]
  split
  · rename_i htail
    rw [htail] at h
    exact absurd rfl h
  · rfl

/-- The number is reported, or it is six and the word is, or there is an invocation whose list was
given. -/
theorem parse_cases (arguments : List Bytes) :
    (arguments.tail.length ≠ 6 ∧ parse arguments = .error (.arity arguments.tail.length)) ∨
    (∃ word, (arguments.tail.length = 6 ∧ arguments.tail.head? = some word ∧
      word ≠ Bytes.ofText "run" ∧ word ≠ Bytes.ofText "debug") ∧
      parse arguments = .error (.unknownAction word)) ∨
    ∃ inv, inv.positionals = arguments.tail ∧ parse arguments = .ok inv := by
  by_cases hlength : arguments.tail.length = 6
  · obtain ⟨word, channel, continuation, workdir, target, targetArgs, htail⟩ :=
      exists_of_length_eq hlength
    have hparse := parse_of_tail_eq htail
    cases haction : Action.ofName? word with
    | none =>
      rw [haction] at hparse
      exact .inr (.inl ⟨word, ⟨hlength, by rw [htail]; rfl, Action.ofName?_eq_none_iff.mp haction⟩,
        hparse⟩)
    | some action =>
      rw [haction] at hparse
      refine .inr (.inr ⟨_, ?_, hparse⟩)
      rw [htail, Action.ofName?_eq_some_iff.mp haction]
      rfl
  · exact .inl ⟨hlength, parse_of_length_ne hlength⟩

/-- Strings that are taken off the end one by one are the same fields. -/
theorem parseFromEnd_eq (arguments : List Bytes) : parseFromEnd arguments = parse arguments := by
  by_cases hlength : arguments.tail.length = 6
  · obtain ⟨word, channel, continuation, workdir, target, targetArgs, htail⟩ :=
      exists_of_length_eq hlength
    rw [parse_of_tail_eq htail, parseFromEnd, List.drop_one, htail]
    rfl
  · rw [parse_of_length_ne hlength, parseFromEnd, List.drop_one, if_pos hlength]

/-! ### When it ends so -/

theorem length_positionals (inv : Invocation) : inv.positionals.length = 6 := rfl

theorem head?_positionals (inv : Invocation) : inv.positionals.head? = some inv.action.name := rfl

theorem parse_eq_arity_iff {count : Nat} : parse arguments = .error (.arity count) ↔
    arguments.tail.length ≠ 6 ∧ count = arguments.tail.length := by
  rcases parse_cases arguments with ⟨hlength, h⟩ | ⟨word, ⟨hlength, -⟩, h⟩ | ⟨inv, hinv, h⟩
  · rw [h, Except.error.injEq, UsageError.arity.injEq]
    exact ⟨fun hcount => ⟨hlength, hcount.symm⟩, fun hcount => hcount.2.symm⟩
  · rw [h]
    exact ⟨nofun, fun h => absurd hlength h.1⟩
  · rw [h, ← hinv]
    exact ⟨nofun, fun h => absurd inv.length_positionals h.1⟩

theorem parse_eq_unknownAction_iff : parse arguments = .error (.unknownAction word) ↔
    arguments.tail.length = 6 ∧ arguments.tail.head? = some word ∧
      word ≠ Bytes.ofText "run" ∧ word ≠ Bytes.ofText "debug" := by
  rcases parse_cases arguments with ⟨hlength, h⟩ | ⟨first, hfirst, h⟩ | ⟨inv, hinv, h⟩
  · rw [h]
    exact ⟨nofun, fun h => absurd h.1 hlength⟩
  · rw [h, Except.error.injEq, UsageError.unknownAction.injEq]
    constructor
    · rintro rfl
      exact hfirst
    · intro hword
      exact Option.some.inj (hfirst.2.1.symm.trans hword.2.1)
  · rw [h, ← hinv, head?_positionals, ← Action.ofName?_eq_none_iff]
    refine ⟨nofun, fun ⟨_, hword, hnone⟩ => ?_⟩
    rw [← Option.some.inj hword, Action.ofName?_name] at hnone
    contradiction

/-- An invocation is read exactly if its list is what was given. -/
theorem parse_eq_ok_iff : parse arguments = .ok inv ↔ inv.positionals = arguments.tail := by
  constructor
  · intro h
    rcases parse_cases arguments with ⟨-, herror⟩ | ⟨word, -, herror⟩ | ⟨inv', hinv, hok⟩
    · rw [herror] at h
      contradiction
    · rw [herror] at h
      contradiction
    · rw [hok] at h
      rw [← Except.ok.inj h, hinv]
  · intro h
    rw [parse_of_tail_eq h.symm, Action.ofName?_name]

/-- There is an invocation exactly if there are six strings and the first is an action's word. -/
theorem exists_parse_eq_ok_iff : (∃ inv, parse arguments = .ok inv) ↔
    arguments.tail.length = 6 ∧ (arguments.tail.head? = some (Bytes.ofText "run") ∨
      arguments.tail.head? = some (Bytes.ofText "debug")) := by
  constructor
  · rintro ⟨inv, h⟩
    rw [← parse_eq_ok_iff.mp h, head?_positionals]
    refine ⟨inv.length_positionals, ?_⟩
    cases inv.action with
    | run => exact .inl rfl
    | debug => exact .inr rfl
  · rintro ⟨hlength, hword⟩
    rcases parse_cases arguments with ⟨hne, -⟩ | ⟨word, ⟨-, hfirst, hrun, hdebug⟩, -⟩ | ⟨inv, -, h⟩
    · contradiction
    · rw [hfirst, Option.some.injEq, Option.some.injEq] at hword
      exact absurd hword (not_or.mpr ⟨hrun, hdebug⟩)
    · exact ⟨inv, h⟩

/-- The number of strings and the first of them decide on the error or the action. -/
theorem map_action_parse_congr (hlength : other.tail.length = arguments.tail.length)
    (hhead : other.tail.head? = arguments.tail.head?) :
    (parse other).map action = (parse arguments).map action := by
  rcases parse_cases arguments with ⟨hne, h⟩ | ⟨word, hword, h⟩ | ⟨inv, hinv, h⟩
  · rw [h, ← hlength, parse_of_length_ne (hlength ▸ hne)]
  · rw [h, parse_eq_unknownAction_iff.mpr (by rwa [hlength, hhead])]
  · obtain ⟨inv', h'⟩ : ∃ inv', parse other = .ok inv' := by
      rw [exists_parse_eq_ok_iff, hlength, hhead]
      exact exists_parse_eq_ok_iff.mp ⟨inv, h⟩
    rw [← hinv, ← parse_eq_ok_iff.mp h', head?_positionals, head?_positionals,
      Option.some.injEq] at hhead
    have haction : inv'.action = inv.action := by
      rw [← Option.some.injEq, ← Action.ofName?_name, hhead, Action.ofName?_name]
    rw [h, h']
    exact congrArg Except.ok haction

/-- **What is read**: a number of strings other than six is the error, whatever they are; of six a
first one that is no action's word is; and otherwise there is an invocation, the one whose list is
the strings as they were given. Taken off the end one by one they read the same. And the number of
strings and the first of them decide whether there is an error, and which, or which action there is,
whatever the others are and whatever is in front of them. -/
theorem parse_reads_positionals (arguments : List Bytes) :
    (∀ count, parse arguments = .error (.arity count) ↔
      arguments.tail.length ≠ 6 ∧ count = arguments.tail.length) ∧
    (∀ word, parse arguments = .error (.unknownAction word) ↔
      arguments.tail.length = 6 ∧ arguments.tail.head? = some word ∧
        word ≠ Bytes.ofText "run" ∧ word ≠ Bytes.ofText "debug") ∧
    (∀ inv, parse arguments = .ok inv ↔ inv.positionals = arguments.tail) ∧
    ((∃ inv, parse arguments = .ok inv) ↔
      arguments.tail.length = 6 ∧ (arguments.tail.head? = some (Bytes.ofText "run") ∨
        arguments.tail.head? = some (Bytes.ofText "debug"))) ∧
    parseFromEnd arguments = parse arguments ∧
    ∀ other : List Bytes, other.tail.length = arguments.tail.length →
      other.tail.head? = arguments.tail.head? →
      (parse other).map action = (parse arguments).map action :=
  ⟨fun _ => parse_eq_arity_iff, fun _ => parse_eq_unknownAction_iff, fun _ => parse_eq_ok_iff,
    exists_parse_eq_ok_iff, parseFromEnd_eq arguments, fun _ => map_action_parse_congr⟩

/-- An argument vector without a program's name, with strings that are empty, look like options or
are no text. -/
def unusual : List Bytes :=
  [[], Bytes.ofText "debug", [], [0xff], Bytes.ofText "--", Bytes.ofText "-v", []]

/-- It is read as it is, and with the same action as any other six strings with its first one. -/
theorem parse_reads_positionals_unusual :
    parse unusual = .ok ⟨.debug, [], [0xff], Bytes.ofText "--", Bytes.ofText "-v", []⟩ ∧
      ∀ program a b c d e, (parse [program, Bytes.ofText "debug", a, b, c, d, e]).map action =
        .ok .debug := by
  obtain ⟨-, -, hok, -, -, hsame⟩ := parse_reads_positionals unusual
  have hparse := (hok ⟨.debug, [], [0xff], Bytes.ofText "--", Bytes.ofText "-v", []⟩).mpr rfl
  refine ⟨hparse, fun program a b c d e => (hsame _ rfl rfl).trans ?_⟩
  rw [hparse]
  rfl

end Invocation

end LaunchStub
