/-!
# Newlines

Texts come with three spellings of the end of a line.  `unifyNewlines` makes each of them a line
feed; `lines` splits a text at these and at the other characters that end a line.
-/

set_option autoImplicit false

namespace SqlTables.Text

/-- The text with a line feed for each carriage return, and for each that a line feed follows. -/
def unifyNewlines : List Char → List Char
  | [] => []
  | '\r' :: '\n' :: rest => '\n' :: unifyNewlines rest
  | '\r' :: rest => '\n' :: unifyNewlines rest
  | c :: rest => c :: unifyNewlines rest

/-- The text without the byte order mark in front. -/
def dropMark : List Char → List Char
  | '\uFEFF' :: rest => rest
  | s => s

/-- Whether a character ends a line. -/
def endsLine (c : Char) : Bool :=
  let n := c.toNat
  (0x0A ≤ n && n ≤ 0x0D) || (0x1C ≤ n && n ≤ 0x1E) || n == 0x85 || n == 0x2028 || n == 0x2029

/-- The lines of a text whose newlines are line feeds; what follows the last end of line is a line
only if it is not empty.  `current` is the line being read, reversed. -/
def linesFrom (current : List Char) : List Char → List (List Char)
  | [] => if current.isEmpty then [] else [current.reverse]
  | c :: rest =>
    if endsLine c then current.reverse :: linesFrom [] rest else linesFrom (c :: current) rest

/-- The lines of a text. -/
def lines (s : List Char) : List (List Char) := linesFrom [] (unifyNewlines s)

theorem not_mem_unifyNewlines (s : List Char) : '\r' ∉ unifyNewlines s := by
  fun_induction unifyNewlines s <;> simp_all [eq_comm]

end SqlTables.Text
