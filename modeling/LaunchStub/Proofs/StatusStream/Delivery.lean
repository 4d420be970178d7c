import LaunchStub.Host
import LaunchStub.Proofs.StatusStream.Lines

/-!
# Messages over a stream that breaks

A stream need not take a line in one go. It takes as many octets as it likes, the rest has to be
offered again, and at some octet it may break: from then on it takes nothing any more. So the
controller may have got a part of a line of which the sender was told that it could not be written.

## The model

`BrittleStream` is such a stream. How much each write takes is given beforehand (`Gulp`), as is the
place where the stream breaks, and both are arbitrary. One write is `BrittleStream.writeOnce`;
`BrittleStream.writeAll` offers the rest of the bytes until all are taken or the stream fails, and
begins again when it is interrupted. Messages go over it as over any stream (`Channel.ofWriter`).

## What is proved

* `BrittleStream.writeAll_eq` — however small the writes are, what arrives is what there is room
  for, and the writer is told of a failure exactly if that is not all.
* `BrittleStream.sendAll_delivers` — the stream is read without doubt, and the lines that arrive
  whole are those of the messages that the sender was told were taken.
-/

namespace LaunchStub

/-- What a stream does with one write. -/
inductive Gulp where
  /-- It takes one octet and at most so many more. -/
  | takes (more : Nat)
  /-- It is interrupted before it has taken any. -/
  | interrupted
  deriving DecidableEq, Repr

/-- An error that does not go away when the call is made again. -/
structure LastingError where
  /-- The error. -/
  error : IoError
  /-- It is no interruption. -/
  lasting : error.isInterrupted = false

/-- A stream that takes what it is offered in parts and breaks at some octet. -/
structure BrittleStream where
  /-- The bytes taken so far. -/
  received : Bytes := []
  /-- What the stream does with the writes to come; with those after them it takes all. -/
  gulps : List Gulp := []
  /-- How many octets the stream takes before it breaks; without a limit it never does. -/
  room : Option Nat := none
  /-- The error that a broken stream fails with. -/
  cause : LastingError

namespace BrittleStream

variable {s : BrittleStream} {bytes : Bytes}

/-- Takes the first octets, at most as many as given and as there is room for. -/
def accept (bytes : Bytes) (most : Nat) (s : BrittleStream) : Except IoError Nat × BrittleStream :=
  let count := s.room.elim most (min most)
  if count = 0 then (.error s.cause.error, s)
  else (.ok count, { s with
    received := s.received ++ bytes.take count
    room := s.room.map (· - count) })

/-- One write: says how many octets were taken. -/
def writeOnce (bytes : Bytes) (s : BrittleStream) : Except IoError Nat × BrittleStream :=
  let after := { s with gulps := s.gulps.tail }
  match s.gulps.head? with
  | none => after.accept bytes bytes.length
  | some (.takes more) => after.accept bytes (min (more + 1) bytes.length)
  | some .interrupted => (.error (.os Errno.interrupted), after)

/-- What one write of some bytes can come to. -/
inductive Written (s : BrittleStream) (bytes : Bytes) : Except IoError Nat × BrittleStream → Prop
  /-- It is interrupted. -/
  | interrupted (h : s.gulps ≠ []) :
      Written s bytes (.error (.os Errno.interrupted), { s with gulps := s.gulps.tail })
  /-- The stream is broken. -/
  | broken (hroom : s.room = some 0) :
      Written s bytes (.error s.cause.error, { s with gulps := s.gulps.tail })
  /-- The first octets are taken. -/
  | took {count : Nat} (hpos : 0 < count) (hle : count ≤ bytes.length)
      (hroom : ∀ room ∈ s.room, count ≤ room) :
      Written s bytes (.ok count,
        { s with
          received := s.received ++ bytes.take count
          gulps := s.gulps.tail
          room := s.room.map (· - count) })

theorem written_accept {most : Nat} (hpos : 0 < most) (hle : most ≤ bytes.length) :
    Written s bytes ({ s with gulps := s.gulps.tail }.accept bytes most) := by
  rw [accept]
  cases hroom : s.room with
  | none =>
    rw [Option.elim_none, if_neg (Nat.ne_of_gt hpos)]
    have htook := Written.took hpos hle (s := s) (by simp [hroom])
    rwa [hroom] at htook
  | some room =>
    rw [Option.elim_some]
    by_cases hzero : min most room = 0
    · rw [if_pos hzero]
      have hbroken : Written s bytes _ := .broken (by rw [hroom]; congr 1; omega)
      rwa [hroom] at hbroken
    · rw [if_neg hzero]
      have hcount : 0 < min most room := Nat.pos_of_ne_zero hzero
      have htook : Written s bytes _ := .took hcount (by omega)
        (by intro r hr; rw [hroom, Option.mem_some_iff] at hr; omega)
      rwa [hroom] at htook

theorem written_writeOnce (s : BrittleStream) (h : bytes ≠ []) :
    Written s bytes (s.writeOnce bytes) := by
  have hlength := List.length_pos_iff.mpr h
  rw [writeOnce]
  split
  · exact written_accept hlength (Nat.le_refl _)
  · exact written_accept (by omega) (Nat.min_le_right _ _)
  · rename_i hgulps
    refine .interrupted fun hnil => ?_
    rw [hnil] at hgulps
    contradiction

/-- A write that is gone on with has left less to do. -/
theorem Written.lt_of_ok {count : Nat} {after : BrittleStream}
    (h : Written s bytes (.ok count, after)) :
    (bytes.drop count).length + after.gulps.length < bytes.length + s.gulps.length := by
  cases h with
  | took hpos hle hroom =>
    rw [List.length_drop, List.length_tail]
    omega

/-- Only finitely many interruptions are to come. -/
theorem Written.lt_of_interrupted {e : IoError} {after : BrittleStream}
    (h : Written s bytes (.error e, after)) (hagain : e.isInterrupted) :
    bytes.length + after.gulps.length < bytes.length + s.gulps.length := by
  cases h with
  | interrupted h =>
    have hlength := List.length_pos_iff.mpr h
    rw [List.length_tail]
    omega
  | broken hroom =>
    rw [s.cause.lasting] at hagain
    contradiction

/-- Writes all bytes: what is left of them is offered again until none are left. -/
def writeAll (bytes : Bytes) (s : BrittleStream) : Except IoError Unit × BrittleStream :=
  if _hne : bytes = [] then (.ok (), s)
  else
    match hwrite : s.writeOnce bytes with
    | (.ok 0, after) => (.error (.bare .writeZero), after)
    | (.ok (count + 1), after) => writeAll (bytes.drop (count + 1)) after
    | (.error e, after) =>
      if _hagain : e.isInterrupted then writeAll bytes after else (.error e, after)
termination_by bytes.length + s.gulps.length
decreasing_by
  · exact (hwrite ▸ written_writeOnce s _hne).lt_of_ok
  · exact (hwrite ▸ written_writeOnce s _hne).lt_of_interrupted _hagain

/-- Is there room for all these bytes? -/
def fits (s : BrittleStream) (bytes : Bytes) : Bool := s.room.all (bytes.length ≤ ·)

/-- As many of these bytes as there is room for. -/
def fitting (s : BrittleStream) (bytes : Bytes) : Bytes := s.room.elim bytes (bytes.take ·)

theorem fitting_of_fits (h : s.fits bytes) : s.fitting bytes = bytes := by
  cases hroom : s.room with
  | none => rw [fitting, hroom, Option.elim_none]
  | some room =>
    rw [fits, hroom, Option.all_some, decide_eq_true_eq] at h
    rw [fitting, hroom, Option.elim_some, List.take_of_length_le h]

/-- Behind bytes that fit there is room for what they have left. -/
theorem fitting_append_of_fits {after : BrittleStream} (h : s.fits bytes)
    (hroom : after.room = s.room.map (· - bytes.length)) (more : Bytes) :
    s.fitting (bytes ++ more) = bytes ++ after.fitting more := by
  rw [fitting, fitting, hroom]
  cases hlimit : s.room with
  | none => rfl
  | some room =>
    rw [fits, hlimit, Option.all_some, decide_eq_true_eq] at h
    rw [Option.elim_some, Option.map_some, Option.elim_some, List.take_append,
      List.take_of_length_le h]

/-- Bytes that do not fit are cut off in their middle, and nothing comes behind them. -/
theorem fitting_of_not_fits (h : ¬ s.fits bytes) :
    s.fitting bytes <+: bytes ∧ s.fitting bytes ≠ bytes ∧
      (∀ more, s.fitting (bytes ++ more) = s.fitting bytes) ∧
      s.room.map (· - bytes.length) = some 0 := by
  cases hroom : s.room with
  | none => simp [fits, hroom] at h
  | some room =>
    rw [fits, hroom, Option.all_some, decide_eq_true_eq, Nat.not_le] at h
    simp only [fitting, hroom, Option.elim_some, Option.map_some]
    refine ⟨?_, fun heq => ?_, fun more => ?_, ?_⟩
    · exact List.take_prefix room bytes
    · have hlength := congrArg List.length heq
      rw [List.length_take] at hlength
      omega
    · exact List.take_append_of_le_length (Nat.le_of_lt h)
    · rw [Nat.sub_eq_zero_of_le (Nat.le_of_lt h)]

/-- After a part has been taken there is room for the rest if there was room for all. -/
theorem fits_rest {after : BrittleStream} {count : Nat}
    (h : Written s bytes (.ok count, after)) :
    after.fits (bytes.drop count) = s.fits bytes ∧
      after.received ++ after.fitting (bytes.drop count) = s.received ++ s.fitting bytes ∧
      after.room.map (· - (bytes.drop count).length) = s.room.map (· - bytes.length) ∧
      after.cause = s.cause := by
  cases h with
  | took hpos hle hroom =>
    cases hlimit : s.room with
    | none => simp [fits, fitting, hlimit]
    | some room =>
      have hcount : count ≤ room := hroom room hlimit
      have hparts : bytes.take count ++ (bytes.drop count).take (room - count) =
          bytes.take room := by
        rw [← List.take_add, Nat.add_sub_cancel' hcount]
      refine ⟨?_, ?_, ?_, rfl⟩
      · simp only [fits, hlimit, Option.map_some, Option.all_some, List.length_drop,
          decide_eq_decide]
        omega
      · simp only [fitting, hlimit, Option.map_some, Option.elim_some, List.append_assoc, hparts]
      · simp only [Option.map_some, List.length_drop, Option.some.injEq]
        omega

/-- **However small the writes are**, what arrives is what there is room for, and the writer is told
of a failure exactly if that is not all. -/
theorem writeAll_eq (bytes : Bytes) (s : BrittleStream) :
    ∃ gulps, s.writeAll bytes =
      (if s.fits bytes then .ok () else .error s.cause.error,
        { s with
          received := s.received ++ s.fitting bytes
          gulps := gulps
          room := s.room.map (· - bytes.length) }) := by
  fun_induction writeAll bytes s with
  | case1 s =>
    refine ⟨s.gulps, ?_⟩
    obtain ⟨received, gulps, room, cause⟩ := s
    cases room <;> simp [fits, fitting]
  | case2 bytes s hne after hwrite =>
    cases hwrite ▸ written_writeOnce s hne with
    | took hpos hle hroom => contradiction
  | case3 bytes s hne count after hwrite ih =>
    obtain ⟨gulps, ih⟩ := ih
    obtain ⟨hfits, hreceived, hroom, hcause⟩ := fits_rest (hwrite ▸ written_writeOnce s hne)
    refine ⟨gulps, ?_⟩
    rw [ih, hfits, hreceived, hroom, hcause]
  | case4 bytes s hne e after hwrite hagain ih =>
    cases hwrite ▸ written_writeOnce s hne with
    | interrupted h => exact ih
    | broken hroom =>
      rw [s.cause.lasting] at hagain
      contradiction
  | case5 bytes s hne e after hwrite hagain =>
    cases hwrite ▸ written_writeOnce s hne with
    | interrupted h => exact absurd rfl hagain
    | broken hroom =>
      have hlength := List.length_pos_iff.mpr hne
      refine ⟨s.gulps.tail, ?_⟩
      simp [fits, fitting, hroom, Nat.ne_of_gt hlength]

/-- The stream as a device. Nothing is held back. -/
def device : Writer BrittleStream := ⟨writeAll, fun s => (.ok (), s)⟩

end BrittleStream

/-- Sends messages one after the other, whatever becomes of them, and gives the answers. -/
def Channel.sendAll {χ : Type} (channel : Channel χ) :
    List Message → χ → List (Except ChannelError Unit) × χ
  | [], state => ([], state)
  | m :: rest, state =>
    let reply := channel.send m state
    let (answers, state) := sendAll channel rest reply.state
    (reply.answer :: answers, state)

/-- These bytes are what may have arrived of messages of which the first was refused: a line that is
not whole, and nothing at all if there was no such message. -/
def Message.BreaksOff : List Message → Bytes → Prop
  | [], cut => cut = []
  | m :: _, cut => cut <+: m.line ∧ cut ≠ m.line

theorem Message.BreaksOff.newline_not_mem {refused : List Message} {cut : Bytes}
    (h : BreaksOff refused cut) : Bytes.newline ∉ cut := by
  cases refused with
  | nil =>
    rw [show cut = [] from h]
    exact List.not_mem_nil
  | cons m rest => exact newline_not_mem_of_prefix h.1 h.2

namespace BrittleStream

variable {s : BrittleStream}

/-- One message: its line arrives whole, or as much of it as there is room for. -/
theorem send_eq (m : Message) (s : BrittleStream) :
    ∃ gulps, ((Channel.ofWriter device).send m s).answer =
        (if s.fits m.line then .ok () else .error (.write s.cause.error)) ∧
      ((Channel.ofWriter device).send m s).state =
        { s with
          received := s.received ++ s.fitting m.line
          gulps := gulps
          room := s.room.map (· - m.line.length) } := by
  obtain ⟨gulps, hwrite⟩ := writeAll_eq m.line s
  refine ⟨gulps, ?_⟩
  simp only [Channel.ofWriter, device, hwrite]
  cases s.fits m.line <;> exact ⟨rfl, rfl⟩

/-- What is sent over a broken stream is refused and leaves no trace. -/
theorem sendAll_of_broken (messages : List Message) (hroom : s.room = some 0) :
    ((Channel.ofWriter device).sendAll messages s).1 =
        messages.map (fun _ => .error (.write s.cause.error)) ∧
      ((Channel.ofWriter device).sendAll messages s).2.received = s.received := by
  induction messages generalizing s with
  | nil => exact ⟨rfl, rfl⟩
  | cons m rest ih =>
    obtain ⟨gulps, hanswer, hstate⟩ := send_eq m s
    have hfits : s.fits m.line = false := by
      simp [fits, hroom, m.line_ne_nil]
    have hfitting : s.fitting m.line = [] := by
      simp [fitting, hroom]
    obtain ⟨hanswers, hreceived⟩ := @ih ((Channel.ofWriter device).send m s).state
      (by rw [hstate, hroom]; simp)
    simp only [Channel.sendAll]
    rw [hanswers, hreceived, hanswer, hstate, hfits, hfitting]
    exact ⟨rfl, List.append_nil _⟩

/-- The messages are taken up to some point and refused from there on, and the bytes that arrive are
the lines of those taken and a part of the next. -/
theorem sendAll_eq (messages : List Message) (s : BrittleStream) :
    ∃ taken refused cut, messages = taken ++ refused ∧
      ((Channel.ofWriter device).sendAll messages s).1 =
        taken.map (fun _ => .ok ()) ++ refused.map (fun _ => .error (.write s.cause.error)) ∧
      ((Channel.ofWriter device).sendAll messages s).2.received =
        s.received ++ (Message.stream taken ++ cut) ∧
      s.fitting (Message.stream messages) = Message.stream taken ++ cut ∧
      Message.BreaksOff refused cut := by
  induction messages generalizing s with
  | nil =>
    refine ⟨[], [], [], rfl, rfl, ?_, ?_, rfl⟩
    · exact (List.append_nil s.received).symm
    · cases h : s.room <;> simp [fitting, h]
  | cons m rest ih =>
    obtain ⟨gulps, hanswer, hstate⟩ := send_eq m s
    simp only [Channel.sendAll]
    by_cases hfits : s.fits m.line
    · -- The whole line arrives, and the rest is sent with what room is left.
      obtain ⟨taken, refused, cut, hrest, hanswers, hreceived, hfitting, hcut⟩ :=
        ih ((Channel.ofWriter device).send m s).state
      refine ⟨m :: taken, refused, cut, by rw [hrest]; rfl, ?_, ?_, ?_, hcut⟩
      · rw [hanswers, hanswer, hfits, hstate]
        rfl
      · rw [hreceived, hstate, fitting_of_fits hfits]
        simp only [Message.stream_cons, List.append_assoc]
      · have hroom : ((Channel.ofWriter device).send m s).state.room =
            s.room.map (· - m.line.length) := by rw [hstate]
        rw [Message.stream_cons, fitting_append_of_fits hfits hroom, hfitting,
          Message.stream_cons, List.append_assoc]
    · -- The line does not fit: the stream breaks in it.
      obtain ⟨hcut, hne, hmore, hroom⟩ := fitting_of_not_fits hfits
      obtain ⟨hanswers, hreceived⟩ := sendAll_of_broken rest
        (s := ((Channel.ofWriter device).send m s).state) (by rw [hstate, hroom])
      refine ⟨[], m :: rest, s.fitting m.line, rfl, ?_, ?_, ?_, hcut, hne⟩
      · rw [hanswers, hanswer, if_neg hfits, hstate]
        rfl
      · rw [hreceived, hstate]
        rfl
      · rw [Message.stream_cons, hmore]
        rfl

end BrittleStream

/-- **What the controller can make of the status stream**: different lists of messages have
different streams; and over a stream that takes its bytes in parts of any size and breaks at any
octet, messages are taken up to some point and refused from there on, the lines that arrive whole
are exactly those of the messages taken, and what comes behind them is at most the beginning of the
line that was refused first. -/
theorem BrittleStream.sendAll_delivers (messages : List Message) (gulps : List Gulp)
    (room : Option Nat) (cause : LastingError) :
    Function.Injective Message.stream ∧
      let sent :=
        (Channel.ofWriter BrittleStream.device).sendAll messages ⟨[], gulps, room, cause⟩
      ∃ taken refused cut, messages = taken ++ refused ∧
        sent.1 =
          taken.map (fun _ => .ok ()) ++ refused.map (fun _ => .error (.write cause.error)) ∧
        sent.2.received = Message.stream taken ++ cut ∧
        sent.2.received.completeLines = taken.map Message.line ∧
        sent.2.received.unfinished = cut ∧
        Message.BreaksOff refused cut ∧
        sent.2.received =
          room.elim (Message.stream messages) ((Message.stream messages).take ·) := by
  refine ⟨Message.stream_injective, ?_⟩
  obtain ⟨taken, refused, cut, hmessages, hanswers, hreceived, hfitting, hcut⟩ :=
    BrittleStream.sendAll_eq messages ⟨[], gulps, room, cause⟩
  obtain ⟨hlines, hrest⟩ := Message.completeLines_stream taken hcut.newline_not_mem
  rw [List.nil_append] at hreceived
  refine ⟨taken, refused, cut, hmessages, hanswers, hreceived, ?_, ?_, hcut, ?_⟩
  · rw [hreceived, hlines]
  · rw [hreceived, hrest]
  · rw [hreceived, ← hfitting]
    rfl

end LaunchStub
