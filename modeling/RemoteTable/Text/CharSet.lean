/-!
Sets of characters as inversion lists: the ascending code points at which membership changes,
the first of them being the first member.
-/

namespace RemoteTable.Text

/-- Whether a code point belongs to the set with these bounds. -/
def within : List Nat → Nat → Bool
  | [], _ => false
  | bound :: bounds, c => if c < bound then false else !within bounds c

end RemoteTable.Text
