import LaunchStub.Text.Printable

/-!
# Quoted text

A value named in a diagnostic is put in double quotes, with every character that would be unclear
written as an escape.
-/

namespace LaunchStub.Text

/-- A character inside double quotes: a backslash before the quote and the backslash, letters for
tab, carriage return, line feed and the zero character, the hexadecimal number of any other that is
not shown, and the character itself otherwise. -/
def escape (c : Char) : List Char :=
  if c = '\t' then ['\\', 't']
  else if c = '\r' then ['\\', 'r']
  else if c = '\n' then ['\\', 'n']
  else if c = '\x00' then ['\\', '0']
  else if c = '"' ∨ c = '\\' then ['\\', c]
  else if isShown c then [c]
  else ['\\', 'u', '\x7b'] ++ Nat.toDigits 16 c.toNat ++ ['\x7d']

/-- The text in double quotes. -/
def quoted (text : String) : String :=
  String.ofList (['"'] ++ text.toList.flatMap escape ++ ['"'])

end LaunchStub.Text
