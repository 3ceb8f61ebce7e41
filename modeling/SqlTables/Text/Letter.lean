import SqlTables.Text.WordTable

/-!
# Word characters

The characters that make up unquoted names: letters and numerics of every script, and the
underscore.  Combining marks do not count.
-/

set_option autoImplicit false

namespace SqlTables.Text

/-- Letters, digits and other numerics. -/
def isAlphanumeric (c : Char) : Bool :=
  if c.toNat < 0x80 then c.isAlphanum else inRanges letterRanges c.toNat

/-- Letters, numerics and the underscore. -/
def isWordChar (c : Char) : Bool := isAlphanumeric c || c == '_'

end SqlTables.Text
