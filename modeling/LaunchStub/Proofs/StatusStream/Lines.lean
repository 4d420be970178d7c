import LaunchStub.Message
import LaunchStub.Proofs.Bytes

/-!
# The lines of the status stream

The controller gets one stream of bytes and must find the messages in it. No message holds a line
feed, so the line feeds cut the stream where one message ends and the next begins; and a blank cuts
each message into a word and a number, which tell what message it is. A stream that breaks off in
the middle of a line is read without doubt too: what is behind the last line feed is no message.

## What is proved

* `Message.text_injective` — a text is the text of one message.
* `Message.splitAt_stream` — the runs between the line feeds of a stream are the texts of its
  messages, in order, and then what was left unfinished.
* `Message.stream_append_inj` — so the messages and the unfinished rest are determined by the bytes.
-/

namespace LaunchStub

namespace Bytes

/-- The octet between the word and the number of a message. -/
def blank : UInt8 := 0x20

/-- The lines that bytes hold, each with the line feed that ends it. -/
def completeLines (received : Bytes) : List Bytes :=
  (splitAt newline received).dropLast.map fun run => run ++ [newline]

/-- What comes behind the last line feed. -/
def unfinished (received : Bytes) : Bytes := (splitAt newline received).getLastD []

end Bytes

namespace Message

open Bytes

/-! ### Texts -/

/-- The word that a message starts with. -/
def word : Message → String
  | .pid _ => "pid"
  | .exit _ => "exit"
  | .crash _ => "crash"
  | .failure .chdir _ => "err:chdir"
  | .failure .exec _ => "err:exec"

/-- The number that a message ends with. -/
def number : Message → Int
  | .pid id => id.toNat
  | .exit code => code
  | .crash cause => cause.code
  | .failure _ code => code

/-- A message is its word, a blank and its number. -/
theorem ofText_text (m : Message) :
    ofText m.text = ofText m.word ++ blank :: ofText (Decimal.int m.number) := by
  have hblank : ofText " " = [blank] := rfl
  have htext : m.text = m.word ++ (" " ++ Decimal.int m.number) := by
    cases m with
    | pid id => exact @String.append_assoc "pid" " " _
    | exit code => exact @String.append_assoc "exit" " " _
    | crash cause => exact @String.append_assoc "crash" " " _
    | failure phase code =>
      cases phase with
      | chdir => exact @String.append_assoc "err:chdir" " " _
      | exec => exact @String.append_assoc "err:exec" " " _
  rw [htext, ofText_append, ofText_append, hblank, List.singleton_append]

/-- All words. -/
def words : List String := ["pid", "exit", "crash", "err:chdir", "err:exec"]

theorem word_mem_words (m : Message) : m.word ∈ words := by
  cases m with
  | failure phase code => cases phase <;> simp [word, words]
  | _ => simp [word, words]

/-- Words hold neither line feeds nor blanks. -/
theorem not_mem_word (m : Message) : newline ∉ ofText m.word ∧ blank ∉ ofText m.word := by
  have hwords : ∀ w ∈ words, newline ∉ ofText w ∧ blank ∉ ofText w := by decide
  exact hwords m.word m.word_mem_words

theorem blank_not_mem_number (m : Message) : blank ∉ ofText (Decimal.int m.number) :=
  not_mem_ofText_int (by decide) (by decide) m.number

/-- The line feed that ends a line is the only one in it. -/
theorem newline_not_mem_text (m : Message) : newline ∉ ofText m.text := by
  rw [ofText_text, List.mem_append, List.mem_cons, not_or, not_or]
  exact ⟨(not_mem_word m).1, by decide,
    not_mem_ofText_int (by decide) (by decide) m.number⟩

/-- Splitting a text at its blank gives the word and the number. -/
theorem splitAt_text (m : Message) :
    splitAt blank (ofText m.text) = [ofText m.word, ofText (Decimal.int m.number)] := by
  rw [ofText_text, splitAt_append_cons, splitAt_of_not_mem (not_mem_word m).2,
    splitAt_of_not_mem m.blank_not_mem_number]
  rfl

/-- The word says which form a message has, and the number fills the form. -/
theorem eq_of_word_of_number {m m' : Message} (hword : m.word = m'.word)
    (hnumber : m.number = m'.number) : m = m' := by
  rcases m with id | code | cause | ⟨_ | _, code⟩ <;>
    rcases m' with id' | code' | cause' | ⟨_ | _, code'⟩ <;>
    simp only [word, number, String.reduceEq] at hword hnumber
  · rw [UInt32.toNat_inj.mp (Int.ofNat.inj hnumber)]
  · rw [hnumber]
  · cases cause <;> cases cause' <;> first | rfl | exact absurd hnumber (by decide)
  · rw [hnumber]
  · rw [hnumber]

/-- Different messages have different texts. -/
theorem text_injective {m m' : Message} (h : ofText m.text = ofText m'.text) : m = m' := by
  have hsplit := splitAt_text m
  rw [h, splitAt_text m', List.cons.injEq, List.cons.injEq] at hsplit
  obtain ⟨hword, hnumber, -⟩ := hsplit
  exact eq_of_word_of_number (ofText_injective hword.symm)
    (Decimal.int_injective (ofText_injective hnumber.symm))

/-! ### Streams -/

/-- The bytes of messages that are sent one after the other. -/
def stream (messages : List Message) : Bytes := messages.flatMap line

@[simp] theorem stream_nil : stream [] = [] := rfl

@[simp] theorem stream_cons (m : Message) (rest : List Message) :
    stream (m :: rest) = m.line ++ stream rest := List.flatMap_cons

theorem line_ne_nil (m : Message) : m.line ≠ [] := by simp [line]

/-- A line that breaks off before its end holds no line feed. -/
theorem newline_not_mem_of_prefix {m : Message} {cut : Bytes} (h : cut <+: m.line)
    (hne : cut ≠ m.line) : newline ∉ cut := by
  rw [line, List.prefix_concat_iff] at h
  rcases h with h | h
  · exact absurd h hne
  · exact fun hmem => m.newline_not_mem_text (h.subset hmem)

/-- The line feeds of a stream, whether or not it breaks off in a line, are the ends of its
messages. -/
theorem splitAt_stream (messages : List Message) {cut : Bytes} (h : newline ∉ cut) :
    splitAt newline (stream messages ++ cut) =
      messages.map (fun m => ofText m.text) ++ [cut] := by
  have hlines : stream messages =
      (messages.map fun m => ofText m.text).flatMap fun run => run ++ [newline] := by
    rw [List.flatMap_map]
    rfl
  rw [hlines]
  refine splitAt_lines (fun run hrun => ?_) h
  obtain ⟨m, -, rfl⟩ := List.mem_map.mp hrun
  exact m.newline_not_mem_text

/-- A stream that breaks off in a line tells its messages and what it breaks off with. -/
theorem stream_append_inj {messages messages' : List Message} {cut cut' : Bytes}
    (h : newline ∉ cut) (h' : newline ∉ cut')
    (heq : stream messages ++ cut = stream messages' ++ cut') :
    messages = messages' ∧ cut = cut' := by
  have hruns := splitAt_stream messages h
  rw [heq, splitAt_stream messages' h'] at hruns
  obtain ⟨htexts, hcut⟩ := List.append_inj' hruns rfl
  refine ⟨?_, (List.singleton_inj.mp hcut).symm⟩
  exact ((List.map_inj_right fun _ _ => text_injective).mp htexts).symm

/-- The stream of a list of messages is that of no other list. -/
theorem stream_injective : Function.Injective stream := by
  intro messages messages' h
  exact (stream_append_inj List.not_mem_nil List.not_mem_nil (congrArg (· ++ []) h)).1

/-- What the controller reads off a stream that breaks off in a line. -/
theorem completeLines_stream (messages : List Message) {cut : Bytes} (h : newline ∉ cut) :
    completeLines (stream messages ++ cut) = messages.map line ∧
      unfinished (stream messages ++ cut) = cut := by
  rw [completeLines, unfinished, splitAt_stream messages h]
  constructor
  · rw [List.dropLast_concat, List.map_map]
    rfl
  · rw [List.getLastD_concat]

end Message

end LaunchStub
