import Mathlib.Data.List.TakeWhile
import LaunchStub.Proofs.Pause

/-!
# Pauses one after the other

Several pauses can share a stream to show their messages on and a stream to read lines from. What
one leaves the next one finds: room for a number of octets, the rest of the data and, behind them,
an error that is raised once.

## The model

`ChunkedInput.after` gives the streams after a series of pauses, and `Paused` says what a pause does
to the streams that it finds. `LimitedOutput.shows` tells a message that is shown whole and handed
on, and `ChunkedInput.raises` is the error that a read that comes to the end of the data is told of;
an interruption is none.

## What is proved

* `LimitedOutput.showLine_eq` — a line is written up to where the room ends.
* `ChunkedInput.remaining_readLine`, `failure_readLine`, `answer_readLine` — a read takes the data
  up to the first newline, wherever the chunks end.
* `ChunkedInput.pauses_alike` — chunks and interruptions make no difference to a series of pauses.
* `ChunkedInput.pauses_in_turn` — what every pause of a series finds, does and leaves.
-/

namespace LaunchStub

/-! ### Lines -/

namespace Bytes

variable {data more : Bytes}

/-- Texts as lines. -/
def asLines (texts : List Bytes) : Bytes := texts.flatMap (· ++ [newline])

theorem asLines_cons (text : Bytes) (texts : List Bytes) :
    asLines (text :: texts) = text ++ [newline] ++ asLines texts :=
  List.flatMap_cons

/-- The first octets, as many as there is room for. -/
def upTo (room : Option Nat) (data : Bytes) : Bytes := room.elim data (data.take ·)

/-- What is left of the data when a line has been taken: all behind the first newline or, without
one, nothing. -/
def TakesLine (data rest : Bytes) : Prop :=
  (∃ line, newline ∉ line ∧ data = line ++ newline :: rest) ∨ newline ∉ data ∧ rest = []

/-- The data behind the first newline. -/
def behindLine (data : Bytes) : Bytes := (data.dropWhile (· ≠ newline)).tail

theorem dropWhile_eq_nil_iff_newline_not_mem :
    data.dropWhile (· ≠ newline) = [] ↔ newline ∉ data := by
  rw [List.dropWhile_eq_nil_iff]
  exact ⟨fun h hmem => by simpa using h newline hmem,
    fun h b hb => decide_eq_true fun heq => h (heq ▸ hb)⟩

theorem dropWhile_eq_cons_behindLine (h : newline ∈ data) :
    data.dropWhile (· ≠ newline) = newline :: data.behindLine := by
  have hhead := List.head?_dropWhile_not (· ≠ newline) data
  rw [behindLine]
  cases hrest : data.dropWhile (· ≠ newline) with
  | nil => exact absurd h (dropWhile_eq_nil_iff_newline_not_mem.mp hrest)
  | cons b rest =>
    rw [hrest] at hhead
    obtain rfl : b = newline := by simpa using hhead
    rfl

theorem behindLine_of_not_mem (h : newline ∉ data) : data.behindLine = [] := by
  rw [behindLine, dropWhile_eq_nil_iff_newline_not_mem.mpr h, List.tail_nil]

theorem takesLine_behindLine (data : Bytes) : TakesLine data data.behindLine := by
  by_cases h : newline ∈ data
  · refine .inl ⟨_, newline_not_mem_takeWhile data, ?_⟩
    rw [← dropWhile_eq_cons_behindLine h, List.takeWhile_append_dropWhile]
  · exact .inr ⟨h, behindLine_of_not_mem h⟩

theorem behindLine_append_of_mem (h : newline ∈ data) (more : Bytes) :
    (data ++ more).behindLine = data.behindLine ++ more := by
  have hne : data.dropWhile (· ≠ newline) ≠ [] :=
    fun hnil => dropWhile_eq_nil_iff_newline_not_mem.mp hnil h
  rw [behindLine, List.dropWhile_append, if_neg (by simpa using hne), behindLine,
    List.tail_append_of_ne_nil hne]

theorem behindLine_append_of_not_mem (h : newline ∉ data) (more : Bytes) :
    (data ++ more).behindLine = more.behindLine := by
  rw [behindLine, List.dropWhile_append, dropWhile_eq_nil_iff_newline_not_mem.mpr h]
  rfl

theorem upTo_append (room : Option Nat) (data more : Bytes) :
    upTo room (data ++ more) = upTo room data ++ upTo (room.map (· - data.length)) more := by
  cases room with
  | none => rfl
  | some room => exact List.take_append

end Bytes

/-! ### Room -/

namespace LimitedOutput

variable {out : LimitedOutput} {bytes more : Bytes}

/-- Is there room for all these bytes? -/
def fits (out : LimitedOutput) (bytes : Bytes) : Bool := out.room.all (bytes.length ≤ ·)

/-- Is the message shown whole and handed on? -/
def shows (out : LimitedOutput) (message : Bytes) : Bool :=
  out.fits (message ++ [Bytes.newline]) && !out.flushFails

/-- The stream when it has taken of the bytes what there was room for. -/
def taking (out : LimitedOutput) (bytes : Bytes) : LimitedOutput :=
  { out with
    written := out.written ++ Bytes.upTo out.room bytes
    room := out.room.map (· - bytes.length) }

theorem write_eq (bytes : Bytes) (out : LimitedOutput) :
    out.write bytes =
      (if out.fits bytes then .ok () else .error (.bare .brokenPipe), out.taking bytes) := by
  obtain ⟨_ | room, flushFails, written, flushes⟩ := out
  · rfl
  · simp [write, fits, taking, Bytes.upTo]

theorem taking_nil (out : LimitedOutput) : out.taking [] = out := by
  obtain ⟨_ | room, flushFails, written, flushes⟩ := out <;>
    simp [taking, Bytes.upTo]

/-- The room is what it was at first less what has been written since. -/
theorem room_taking (h : out.written = []) (bytes : Bytes) :
    (out.taking bytes).room = out.room.map (· - (out.taking bytes).written.length) := by
  obtain ⟨_ | room, flushFails, written, flushes⟩ := out
  · rfl
  · obtain rfl : written = [] := h
    simp only [taking, Bytes.upTo, Option.map_some, Option.elim_some, List.nil_append,
      List.length_take, Option.some.injEq]
    omega

theorem taking_append (out : LimitedOutput) (bytes more : Bytes) :
    out.taking (bytes ++ more) = (out.taking bytes).taking more := by
  simp only [taking, Bytes.upTo_append, List.append_assoc, Option.map_map, List.length_append,
    Function.comp_def, Nat.sub_sub]

theorem fits_taking (h : out.fits bytes) (more : Bytes) :
    (out.taking bytes).fits more = out.fits (bytes ++ more) := by
  obtain ⟨_ | room, flushFails, written, flushes⟩ := out
  · rfl
  · simp only [fits, taking, Option.map_some, Option.all_some, decide_eq_true_eq,
      List.length_append, decide_eq_decide] at h ⊢
    omega

/-- Behind bytes that did not fit the stream takes none. -/
theorem taking_append_of_not_fits (h : ¬ out.fits bytes) (more : Bytes) :
    out.taking (bytes ++ more) = out.taking bytes ∧ ¬ out.fits (bytes ++ more) := by
  rw [taking_append]
  obtain ⟨_ | room, flushFails, written, flushes⟩ := out
  · exact absurd rfl h
  · simp only [fits, Option.all_some, decide_eq_true_eq, List.length_append] at h ⊢
    have hfull : room - bytes.length = 0 := by omega
    refine ⟨?_, by omega⟩
    simp only [taking, Option.map_some, hfull, Bytes.upTo, Option.elim_some, List.take_zero,
      List.append_nil, Nat.zero_sub]

/-- To write bytes and, unless that fails, more is to write all of them. -/
theorem both_write (bytes more : Bytes) :
    Writer.both (device.write bytes) (device.write more) = device.write (bytes ++ more) := by
  funext out
  simp only [Writer.both, device, write_eq]
  by_cases h : out.fits bytes
  · rw [if_pos h, ← fits_taking h, taking_append]
  · obtain ⟨htaking, hfits⟩ := taking_append_of_not_fits h more
    rw [if_neg h, if_neg hfits, htaking]

/-- A line is written up to where the room ends. -/
theorem showLine_eq (message : Bytes) (out : LimitedOutput) :
    device.showLine message out =
      (if out.shows message then .ok () else .error (.bare .brokenPipe),
        { out.taking (message ++ [Bytes.newline]) with
          flushes := out.flushes + (out.shows message).toNat }) := by
  rw [Writer.showLine, Writer.both_assoc, both_write]
  simp only [Writer.both, device, write_eq]
  by_cases hfits : out.fits (message ++ [Bytes.newline])
  · cases hflush : out.flushFails <;> simp [flush, taking, shows, hfits, hflush]
  · simp [taking, shows, hfits]

end LimitedOutput

/-! ### Reading -/

namespace ChunkedInput

variable {chunk : Bytes} {rest : List Bytes} {failure : Option IoError} {a b : ChunkedInput}

/-- The error that a read that finds no newline is told of. An interruption is none. -/
def raises (input : ChunkedInput) : Option IoError :=
  input.failure.filter fun e => !e.isInterrupted

theorem remaining_cons (chunk : Bytes) (rest : List Bytes) (failure : Option IoError) :
    remaining ⟨chunk :: rest, failure⟩ = chunk ++ remaining ⟨rest, failure⟩ :=
  List.flatten_cons

theorem mem_remaining_cons {b : UInt8} :
    b ∈ remaining ⟨chunk :: rest, failure⟩ ↔ b ∈ chunk ∨ b ∈ remaining ⟨rest, failure⟩ := by
  rw [remaining_cons, List.mem_append]

theorem readLine_cons_of_mem (h : Bytes.newline ∈ chunk) (rest : List Bytes)
    (failure : Option IoError) :
    readLine ⟨chunk :: rest, failure⟩ =
      (.ok (chunk.takeWhile (· ≠ Bytes.newline) ++ [Bytes.newline]),
        ⟨chunk.behindLine :: rest, failure⟩) := by
  rw [readLine, readLineFrom, Bytes.dropWhile_eq_cons_behindLine h]

theorem readLine_cons_of_not_mem (h : Bytes.newline ∉ chunk) (rest : List Bytes)
    (failure : Option IoError) :
    readLine ⟨chunk :: rest, failure⟩ =
      ((readLine ⟨rest, failure⟩).1.map (chunk ++ ·), (readLine ⟨rest, failure⟩).2) := by
  rw [readLine, readLineFrom, Bytes.dropWhile_eq_nil_iff_newline_not_mem.mpr h]
  rfl

/-- A read takes the data up to the first newline, wherever the chunks end. -/
theorem remaining_readLine (input : ChunkedInput) :
    input.readLine.2.remaining = input.remaining.behindLine := by
  obtain ⟨chunks, failure⟩ := input
  induction chunks with
  | nil => rfl
  | cons chunk rest ih =>
    rw [remaining_cons]
    by_cases h : Bytes.newline ∈ chunk
    · rw [readLine_cons_of_mem h, Bytes.behindLine_append_of_mem h]
      exact remaining_cons _ rest failure
    · rw [readLine_cons_of_not_mem h, Bytes.behindLine_append_of_not_mem h, ih]

/-- The error behind the data is gone when a read has come to it. -/
theorem failure_readLine (input : ChunkedInput) :
    input.readLine.2.failure =
      if Bytes.newline ∈ input.remaining then input.failure else none := by
  obtain ⟨chunks, failure⟩ := input
  induction chunks with
  | nil => rfl
  | cons chunk rest ih =>
    by_cases h : Bytes.newline ∈ chunk
    · rw [readLine_cons_of_mem h, if_pos (mem_remaining_cons.mpr (.inl h))]
    · rw [readLine_cons_of_not_mem h, ih]
      simp only [mem_remaining_cons, h, false_or]

/-- A read fails if it comes to an error behind the data. -/
theorem answer_readLine (input : ChunkedInput) :
    (input.readLine.1.map fun _ => ()) =
      if Bytes.newline ∈ input.remaining then .ok () else input.raises.elim (.ok ()) .error := by
  obtain ⟨chunks, failure⟩ := input
  induction chunks with
  | nil =>
    cases failure with
    | none => rfl
    | some e =>
      cases h : e.isInterrupted <;>
        simp [readLine, readLineFrom, atEnd, remaining, raises, Option.filter, Except.map, h]
  | cons chunk rest ih =>
    by_cases h : Bytes.newline ∈ chunk
    · rw [readLine_cons_of_mem h, if_pos (mem_remaining_cons.mpr (.inl h))]
      rfl
    · rw [readLine_cons_of_not_mem h]
      simp only [mem_remaining_cons, h, false_or]
      refine Eq.trans ?_ ih
      cases (readLine ⟨rest, failure⟩).1 <;> rfl

/-! ### A series of pauses -/

/-- What a pause makes of streams with a limit and in chunks. -/
structure Paused (message : Bytes) (out : LimitedOutput) (inp : ChunkedInput)
    (answer : Except IoError Unit) (out' : LimitedOutput) (inp' : ChunkedInput) : Prop where
  /-- Unless the message is shown, and only then, a broken pipe ends it before it reads. The error
  behind the data can be a broken pipe too, but who is told of that one has read. -/
  broken : answer = .error (.bare .brokenPipe) ∧ inp' = inp ↔ ¬ out.shows message
  /-- Otherwise it takes a line of the data. -/
  takes : out.shows message → Bytes.TakesLine inp.remaining inp'.remaining
  /-- It is then told of the error behind the data if no newline is in front of it. -/
  told : out.shows message →
    ∀ e, answer = .error e ↔ Bytes.newline ∉ inp.remaining ∧ inp.raises = some e
  /-- The error behind the data waits until a read has come to it, and is then gone. -/
  failure : out.shows message →
    inp'.failure = if Bytes.newline ∈ inp.remaining then inp.failure else none
  /-- The stream was handed on once more if the message is shown. -/
  flushes : out'.flushes = out.flushes + if out.shows message then 1 else 0

/-- The streams after pauses with one message after the other. -/
def after (messages : List Bytes) (out : LimitedOutput) (inp : ChunkedInput) :
    LimitedOutput × ChunkedInput :=
  ((pauses messages out inp).1.getLast?.elim out Prod.snd, (pauses messages out inp).2)

/-- Two inputs with the same data and the same error to be told of behind them. -/
def Alike (a b : ChunkedInput) : Prop := a.remaining = b.remaining ∧ a.raises = b.raises

instance (a b : ChunkedInput) : Decidable (Alike a b) := inferInstanceAs (Decidable (_ ∧ _))

/-- A pause on these streams. -/
def turn (message : Bytes) (out : LimitedOutput) (inp : ChunkedInput) :
    Except IoError Unit × LimitedOutput × ChunkedInput :=
  pause LimitedOutput.device device message out inp

theorem turn_eq (message : Bytes) (out : LimitedOutput) (inp : ChunkedInput) :
    turn message out inp =
      ((if out.shows message then inp.readLine.1.map fun _ => ()
          else .error (.bare .brokenPipe)),
        { out.taking (message ++ [Bytes.newline]) with
          flushes := out.flushes + (out.shows message).toNat },
        if out.shows message then inp.readLine.2 else inp) := by
  rw [turn, pause_eq, LimitedOutput.showLine_eq]
  cases out.shows message <;> rfl

/-- A read that is told of an error has come to it: the input is not what it was. -/
theorem readLine_ne_of_told {e : IoError} {inp : ChunkedInput}
    (hnot : Bytes.newline ∉ inp.remaining) (hraises : inp.raises = some e) :
    inp.readLine.2 ≠ inp := by
  intro hsame
  have hgone := failure_readLine inp
  rw [hsame, if_neg hnot] at hgone
  simp [raises, hgone] at hraises

theorem answer_readLine_eq_error_iff {e : IoError} (inp : ChunkedInput) :
    (inp.readLine.1.map fun _ => ()) = .error e ↔
      Bytes.newline ∉ inp.remaining ∧ inp.raises = some e := by
  rw [answer_readLine]
  by_cases hmem : Bytes.newline ∈ inp.remaining
  · simp [hmem]
  · cases inp.raises <;> simp [hmem]

/-- Every pause is as said. -/
theorem paused_turn (message : Bytes) (out : LimitedOutput) (inp : ChunkedInput) :
    Paused message out inp (turn message out inp).1 (turn message out inp).2.1
      (turn message out inp).2.2 := by
  rw [turn_eq]
  by_cases hshows : out.shows message
  · simp only [if_pos hshows]
    refine ⟨?_, fun _ => ?_, fun _ e => answer_readLine_eq_error_iff inp,
      fun _ => failure_readLine inp, by simp [hshows]⟩
    -- The error that is told of behind the data could be a broken pipe, but then it is gone.
    · refine iff_of_false (fun ⟨htold, hsame⟩ => ?_) (not_not_intro hshows)
      obtain ⟨hnot, hraises⟩ := (answer_readLine_eq_error_iff inp).mp htold
      exact readLine_ne_of_told hnot hraises hsame
    · rw [remaining_readLine]
      exact Bytes.takesLine_behindLine inp.remaining
  · simp only [if_neg hshows]
    exact ⟨iff_of_true ⟨rfl, rfl⟩ hshows, fun h => absurd h hshows, fun h => absurd h hshows,
      fun h => absurd h hshows, by simp [hshows]⟩

theorem pauses_cons (message : Bytes) (rest : List Bytes) (out : LimitedOutput)
    (inp : ChunkedInput) :
    pauses (message :: rest) out inp =
      (((turn message out inp).1, (turn message out inp).2.1) ::
          (pauses rest (turn message out inp).2.1 (turn message out inp).2.2).1,
        (pauses rest (turn message out inp).2.1 (turn message out inp).2.2).2) :=
  rfl

theorem after_cons (message : Bytes) (rest : List Bytes) (out : LimitedOutput)
    (inp : ChunkedInput) :
    after (message :: rest) out inp =
      after rest (turn message out inp).2.1 (turn message out inp).2.2 := by
  rw [after, after, pauses_cons, List.getLast?_cons]
  cases (pauses rest _ _).1.getLast? <;> rfl

/-- A series of pauses goes on with the streams that an earlier one leaves. -/
theorem pauses_append (before later : List Bytes) (out : LimitedOutput) (inp : ChunkedInput) :
    pauses (before ++ later) out inp =
      ((pauses before out inp).1 ++
          (pauses later (after before out inp).1 (after before out inp).2).1,
        (pauses later (after before out inp).1 (after before out inp).2).2) := by
  induction before generalizing out inp with
  | nil => rfl
  | cons message rest ih =>
    rw [List.cons_append, pauses_cons, ih, after_cons, pauses_cons]
    rfl

theorem length_pauses (messages : List Bytes) (out : LimitedOutput) (inp : ChunkedInput) :
    (pauses messages out inp).1.length = messages.length := by
  induction messages generalizing out inp with
  | nil => rfl
  | cons message rest ih => rw [pauses_cons, List.length_cons, ih, List.length_cons]

/-- What a series does with a message that comes after others. -/
theorem pauses_getElem? (before : List Bytes) (message : Bytes) (later : List Bytes)
    (out : LimitedOutput) (inp : ChunkedInput) :
    (pauses (before ++ message :: later) out inp).1[before.length]? =
      some ((turn message (after before out inp).1 (after before out inp).2).1,
        (turn message (after before out inp).1 (after before out inp).2).2.1) := by
  rw [pauses_append, List.getElem?_append_right (Nat.le_of_eq (length_pauses before out inp)),
    length_pauses, Nat.sub_self]
  rfl

/-- The streams after a series are those that its last pause leaves. -/
theorem after_concat (before : List Bytes) (message : Bytes) (out : LimitedOutput)
    (inp : ChunkedInput) :
    after (before ++ [message]) out inp =
      (turn message (after before out inp).1 (after before out inp).2).2 := by
  rw [after, pauses_append]
  simp only [pauses_cons]
  rw [pauses, List.getLast?_concat]
  rfl

/-- What is written after a series of pauses: their messages as lines, as far as there is room. -/
theorem after_output (messages : List Bytes) (out : LimitedOutput) (inp : ChunkedInput) :
    ∃ flushes, (after messages out inp).1 =
      { out.taking (Bytes.asLines messages) with flushes := flushes } := by
  induction messages generalizing out inp with
  | nil => exact ⟨out.flushes, out.taking_nil.symm⟩
  | cons message rest ih =>
    -- The first message is written, or a part of it, and the others come behind.
    rw [after_cons, turn_eq]
    obtain ⟨flushes, hrest⟩ := ih { out.taking (message ++ [Bytes.newline]) with
      flushes := out.flushes + (out.shows message).toNat } _
    refine ⟨flushes, hrest.trans ?_⟩
    rw [Bytes.asLines_cons, out.taking_append (message ++ [Bytes.newline])]
    rfl

/-- From inputs that are alike a read gets the same answer and leaves inputs that are. -/
theorem Alike.readLine (h : Alike a b) :
    (a.readLine.1.map fun _ => ()) = (b.readLine.1.map fun _ => ()) ∧
      Alike a.readLine.2 b.readLine.2 := by
  obtain ⟨hremaining, hraises⟩ := h
  refine ⟨?_, ?_, ?_⟩
  · simp only [answer_readLine, hremaining, hraises]
  · rw [remaining_readLine, remaining_readLine, hremaining]
  · simp only [raises, failure_readLine, hremaining]
    split
    · exact hraises
    · rfl

/-- Chunks and interruptions make no difference to a series of pauses. -/
theorem pauses_alike (h : Alike a b) (messages : List Bytes) (out : LimitedOutput) :
    (pauses messages out a).1 = (pauses messages out b).1 ∧
      Alike (pauses messages out a).2 (pauses messages out b).2 := by
  induction messages generalizing out a b with
  | nil => exact ⟨rfl, h⟩
  | cons message rest ih =>
    simp only [pauses_cons, turn_eq]
    by_cases hshows : out.shows message
    · obtain ⟨hanswer, halike⟩ := h.readLine
      simp only [if_pos hshows, hanswer]
      exact ⟨congrArg _ (ih halike _).1, (ih halike _).2⟩
    · simp only [if_neg hshows]
      exact ⟨congrArg _ (ih h _).1, (ih h _).2⟩

/-- **Pauses in turn.** Whatever room there is, whether handing on fails or not, whatever the input
gives, at each pause of a series as much has been written as there is room for of the messages so
far as lines, the room is what it was less what has been written, and the pause does with the
streams it finds what `Paused` says. Another input with the same data and the same error to be told
of gives the same series and has the same left. -/
theorem pauses_in_turn (room : Option Nat) (flushFails : Bool) (input : ChunkedInput)
    (before : List Bytes) (message : Bytes) (later : List Bytes) :
    let start : LimitedOutput := { room, flushFails }
    let series := pauses (before ++ message :: later) start input
    let found := after before start input
    let left := after (before ++ [message]) start input
    (∃ answer, series.1[before.length]? = some (answer, left.1) ∧
      Paused message found.1 found.2 answer left.1 left.2) ∧
    found.1.room = room.map (· - found.1.written.length) ∧ found.1.flushFails = flushFails ∧
    left.1.written = Bytes.upTo room (Bytes.asLines (before ++ [message])) ∧
    ∀ other, Alike input other →
      (pauses (before ++ message :: later) start other).1 = series.1 ∧
        Alike series.2 (pauses (before ++ message :: later) start other).2 := by
  intro start series found left
  have hleft : left = (turn message found.1 found.2).2 := after_concat before message start input
  obtain ⟨flushes, hfound⟩ := after_output before start input
  obtain ⟨flushes', hwritten⟩ := after_output (before ++ [message]) start input
  refine ⟨⟨(turn message found.1 found.2).1, ?_, ?_⟩, ?_, ?_, ?_, fun other halike => ?_⟩
  · rw [hleft]
    exact pauses_getElem? before message later start input
  · rw [hleft]
    exact paused_turn message found.1 found.2
  · rw [hfound]
    exact LimitedOutput.room_taking rfl _
  · rw [hfound]
    rfl
  · rw [hwritten]
    exact List.nil_append _
  · obtain ⟨hsteps, hrest⟩ := pauses_alike halike (before ++ message :: later) start
    exact ⟨hsteps.symm, hrest⟩

/-- The same data in other chunks. The second pause comes to the error behind them and loses a part
of a line, the third meets the end of the data, and there is no room for the fourth. -/
theorem pauses_in_turn_rechunked :
    let input : ChunkedInput := ⟨[Bytes.ofText "x\ny", Bytes.ofText "z"], some (.os 5)⟩
    let other : ChunkedInput := ⟨["x", "\ny", "z"].map Bytes.ofText, some (.os 5)⟩
    let series := pauses (["ab", "c", "d", "efg"].map Bytes.ofText) { room := some 10 }
    Alike input other ∧
      (series other).1.map Prod.fst =
        [.ok (), .error (.os 5), .ok (), .error (.bare .brokenPipe)] ∧
      Alike (series input).2 (series other).2 := by
  intro input other series
  have halike : Alike input other := by decide
  obtain ⟨-, -, -, -, hother⟩ := pauses_in_turn (some 10) false input [Bytes.ofText "ab"]
    (Bytes.ofText "c") [Bytes.ofText "d", Bytes.ofText "efg"]
  obtain ⟨hsteps, hleft⟩ := hother other halike
  refine ⟨halike, ?_, hleft⟩
  exact (congrArg (List.map Prod.fst) hsteps).trans rfl

end ChunkedInput

end LaunchStub
