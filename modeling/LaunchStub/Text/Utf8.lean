import LaunchStub.Bytes

/-!
# Reading bytes as UTF-8

Names are bytes, messages are text: a name shown inside a message is read as UTF-8. Where it is not
UTF-8, each *maximal subpart* of an ill-formed sequence counts as one piece: the longest run of
octets that begins some well-formed code, or a single octet where none does.

## The model

`Utf8.feed` is one octet of a small machine whose state, `Utf8.Partial`, is the code begun so far:
how many octets it still lacks, the range of the next one, and the value read up to here. The range
is what rules out overlong codes, surrogates and values past the last scalar. `Utf8.pieces` runs
the machine over a byte string. From it come `Utf8.lossy`, which writes U+FFFD for an ill-formed
piece, and `Utf8.text?`, which is defined on well-formed strings only.
-/

namespace LaunchStub.Utf8

/-- A code of several octets, begun and not yet complete. -/
structure Partial where
  /-- How many octets are still to come. -/
  owed : Nat
  /-- The least octet that may come next. -/
  low : UInt8
  /-- The greatest octet that may come next. -/
  high : UInt8
  /-- The bits of the scalar value read so far. -/
  value : Nat
  deriving DecidableEq, Repr

/-- What an octet does to the machine. -/
inductive Reaction where
  /-- The octet completes the code of a character. -/
  | complete (c : Char)
  /-- The octet belongs to a code that goes on. -/
  | continues (code : Partial)
  /-- The octet cannot stand here. -/
  | refused
  deriving DecidableEq, Repr

/-- The first octet of a code. -/
def lead (b : UInt8) : Reaction :=
  let n := b.toNat
  if n ≤ 0x7f then .complete (Char.ofNat n)
  else if 0xc2 ≤ n ∧ n ≤ 0xdf then .continues ⟨1, 0x80, 0xbf, n - 0xc0⟩
  else if n = 0xe0 then .continues ⟨2, 0xa0, 0xbf, 0⟩
  else if n = 0xed then .continues ⟨2, 0x80, 0x9f, 0xd⟩
  else if 0xe1 ≤ n ∧ n ≤ 0xef then .continues ⟨2, 0x80, 0xbf, n - 0xe0⟩
  else if n = 0xf0 then .continues ⟨3, 0x90, 0xbf, 0⟩
  else if 0xf1 ≤ n ∧ n ≤ 0xf3 then .continues ⟨3, 0x80, 0xbf, n - 0xf0⟩
  else if n = 0xf4 then .continues ⟨3, 0x80, 0x8f, 4⟩
  else .refused

/-- A later octet of a code: six more bits, if it lies in the range the code allows. -/
def feed (code : Partial) (b : UInt8) : Reaction :=
  if code.low ≤ b ∧ b ≤ code.high then
    let value := code.value * 64 + (b.toNat - 0x80)
    if code.owed ≤ 1 then .complete (Char.ofNat value)
    else .continues ⟨code.owed - 1, 0x80, 0xbf, value⟩
  else .refused

/-- A part of a byte string: a character, or a maximal subpart of something that is none. -/
inductive Piece where
  /-- The well-formed code of a character. -/
  | char (c : Char)
  /-- A maximal subpart of an ill-formed sequence. -/
  | illFormed
  deriving DecidableEq, Repr

/-- The pieces of a byte string that stands after an unfinished code, if there is one. -/
def piecesAfter : Option Partial → Bytes → List Piece
  | none, [] => []
  | some _, [] => [.illFormed]
  | none, b :: rest =>
    match lead b with
    | .complete c => .char c :: piecesAfter none rest
    | .continues code => piecesAfter (some code) rest
    | .refused => .illFormed :: piecesAfter none rest
  | some code, b :: rest =>
    match feed code b with
    | .complete c => .char c :: piecesAfter none rest
    | .continues code => piecesAfter (some code) rest
    | .refused =>
      .illFormed :: match lead b with
        | .complete c => .char c :: piecesAfter none rest
        | .continues code => piecesAfter (some code) rest
        | .refused => .illFormed :: piecesAfter none rest

/-- The pieces of a byte string, in order. -/
def pieces (s : Bytes) : List Piece := piecesAfter none s

/-- How a piece is shown: U+FFFD stands for what is no character. -/
def Piece.shown : Piece → Char
  | .char c => c
  | .illFormed => '\uFFFD'

/-- The character a piece is, if it is one. -/
def Piece.char? : Piece → Option Char
  | .char c => some c
  | .illFormed => none

/-- The text of a byte string, with one U+FFFD for each ill-formed piece. -/
def lossy (s : Bytes) : String := String.ofList ((pieces s).map Piece.shown)

/-- The text of a well-formed byte string; nothing for any other. -/
def text? (s : Bytes) : Option String := ((pieces s).mapM Piece.char?).map String.ofList

end LaunchStub.Utf8
