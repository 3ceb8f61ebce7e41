import SqlTables.Decimal.Fixed
import SqlTables.Text.Printable

/-!
# Quality of a text

The share of characters that can be printed, line ends and tabs among them.  A text of which less
than half can be printed was probably not read in its own encoding.
-/

set_option autoImplicit false

namespace SqlTables.Text

/-- A share: so many of a total. -/
structure Share where
  good : Nat
  total : Nat
deriving DecidableEq, Repr

namespace Share

/-- The share, as the nearest double, with a number of decimal places. -/
def text (places : Nat) (s : Share) : String :=
  Decimal.fixed places (.nearest s.good s.total)

/-- Whether the share is less than a half. -/
def isPoor (s : Share) : Bool := 2 * s.good < s.total

end Share

/-- Whether a character counts as good text. -/
def isGood (c : Char) : Bool := isPrintable c || c == '\n' || c == '\r' || c == '\t'

/-- The share of good characters; a text without characters is all good. -/
def quality (s : List Char) : Share :=
  if s.isEmpty then ⟨1, 1⟩ else ⟨s.countP isGood, s.length⟩

end SqlTables.Text
