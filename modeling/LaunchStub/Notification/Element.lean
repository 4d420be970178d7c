import LaunchStub.Bytes

/-!
# Queue elements

A session announces the end of its target by one 32-bit element: the result in the high half, the
low sixteen bits of the session's id in the low half. It travels as four bytes, least significant
first.
-/

namespace LaunchStub.Element

/-- The element for a result and a session id. -/
def pack (result : UInt16) (session : UInt32) : UInt32 :=
  (result.toUInt32 <<< 16) ||| (session &&& 0xffff)

/-- The result in an element. -/
def result (element : UInt32) : UInt16 := (element >>> 16).toUInt16

/-- How many bytes an element takes. -/
def size : Nat := 4

end LaunchStub.Element
