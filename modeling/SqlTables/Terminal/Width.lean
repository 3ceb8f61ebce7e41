import SqlTables.Terminal.WidthTable

/-!
# Display width

How many columns of a terminal a text takes.
-/

set_option autoImplicit false

namespace SqlTables.Terminal

/-- The columns that a character takes. -/
def charWidth (c : Char) : Nat :=
  let n := c.toNat
  if 0x20 ≤ n && n < 0x7F then 1
  else if Text.inRanges zeroWidthRanges n then 0
  else if Text.inRanges doubleWidthRanges n then 2
  else 1

/-- The columns that a text takes. -/
def width : List Char → Nat
  | [] => 0
  | c :: s => charWidth c + width s

/-- A text with spaces at its end up to a width. -/
def padded (w : Nat) (s : List Char) : List Char := s ++ List.replicate (w - width s) ' '

end SqlTables.Terminal
