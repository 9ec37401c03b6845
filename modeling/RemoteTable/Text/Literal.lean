import RemoteTable.Text.CharSet
import RemoteTable.Text.Hex
import RemoteTable.Text.PrintTable

/-!
Texts as they are shown in messages: in quotes, with everything escaped that would not be seen.
-/

namespace RemoteTable.Text

/-- Whether a character shows by itself in a message. -/
def isVisible (c : Char) : Bool :=
  decide (32 ≤ c.toNat ∧ c.toNat < 127) ||
    (!within invisibleBounds c.toNat && !within extendingBounds c.toNat)

def literalChar (c : Char) : List Char :=
  if c = Char.ofNat 0 then ['\\', '0']
  else if c = '\t' then ['\\', 't']
  else if c = '\r' then ['\\', 'r']
  else if c = '\n' then ['\\', 'n']
  else if c = '"' ∨ c = '\\' then ['\\', c]
  else if isVisible c then [c]
  else '\\' :: 'u' :: '\x7b' :: hexDigits c.toNat ++ ['\x7d']

/-- A text in quotes, for a message. -/
def literal (s : String) : String :=
  String.ofList ('"' :: s.toList.flatMap literalChar ++ ['"'])

end RemoteTable.Text
