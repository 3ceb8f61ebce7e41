/-!
# Places in a text

A cursor is a place in a text with the number of its line and column, which indentation is told
from.  Lines end at line feeds, carriage returns, next-line controls and the two separators.
-/

set_option autoImplicit false

namespace SqlTables.Document.Yaml

/-- Whether a character ends a line. -/
def isBreak (c : Char) : Bool :=
  c == '\n' || c == '\r' || c == '\u0085' || c == '\u2028' || c == '\u2029'

/-- Whether a character is a space, a tab or ends a line. -/
def isSpaceOrBreak (c : Char) : Bool := c == ' ' || c == '\t' || isBreak c

/-- Whether a text ends here or goes on with a space, a tab or a line end. -/
def endsHere (c : Option Char) : Bool := c.all isSpaceOrBreak

/-- Whether a text ends here or goes on with a space or a line end. -/
def endsUntabbed (c : Option Char) : Bool := c.all fun c => c == ' ' || isBreak c

/-- Whether a line ends here. -/
def endsLine (c : Option Char) : Bool := c.all isBreak

/-- A place in a text. -/
structure Cursor where
  /-- What follows. -/
  rest : List Char
  index : Nat
  line : Nat
  column : Nat
deriving Repr, Inhabited

namespace Cursor

/-- The beginning of a text. -/
def start (s : List Char) : Cursor := ⟨s, 0, 0, 0⟩

/-- The next character. -/
def peek (c : Cursor) : Option Char := c.rest.head?

/-- The character after so many others. -/
def peekAt (c : Cursor) (n : Nat) : Option Char := c.rest[n]?

/-- The place after the next character. -/
def advance (c : Cursor) : Cursor :=
  match c.rest with
  | [] => c
  | x :: rest =>
    if isBreak x && !(x == '\r' && rest.head? == some '\n') then ⟨rest, c.index + 1, c.line + 1, 0⟩
    else if x == '\uFEFF' then ⟨rest, c.index + 1, c.line, c.column⟩
    else ⟨rest, c.index + 1, c.line, c.column + 1⟩

/-- The place after so many characters. -/
def advanceBy (c : Cursor) : Nat → Cursor
  | 0 => c
  | n + 1 => c.advance.advanceBy n

/-- The place after a run of characters with a property, and the run. -/
def takeWhile (p : Char → Bool) (c : Cursor) : List Char × Cursor :=
  let run := c.rest.takeWhile p
  (run, c.advanceBy run.length)

/-- The place after a run of characters with a property. -/
def skipWhile (p : Char → Bool) (c : Cursor) : Cursor := (c.takeWhile p).2

/-- The end of a line, as it stands in a text that was read, and the place after it. -/
def takeBreak (c : Cursor) : List Char × Cursor :=
  match c.rest with
  | '\r' :: '\n' :: _ => (['\n'], c.advanceBy 2)
  | x :: _ =>
    if x == '\r' || x == '\n' || x == '\u0085' then (['\n'], c.advance)
    else if isBreak x then ([x], c.advance)
    else ([], c)
  | [] => ([], c)

/-- Whether a mark of three characters that begins or ends a document stands here. -/
def atMark (c : Cursor) : Bool :=
  (("---".toList.isPrefixOf c.rest) || ("...".toList.isPrefixOf c.rest)) && endsHere (c.peekAt 3)

end Cursor

end SqlTables.Document.Yaml
