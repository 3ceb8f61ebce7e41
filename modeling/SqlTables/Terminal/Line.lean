import SqlTables.Terminal.Markup
import SqlTables.Terminal.Width

/-!
# Printed lines

What markup looks like as lines of a terminal: controls that would move the cursor are dropped, and
tabs become spaces up to the next stop.
-/

set_option autoImplicit false

namespace SqlTables.Terminal

/-- Whether a character is a control that is not printed: bell, backspace, vertical tab, form feed
and carriage return. -/
def isDropped (c : Char) : Bool :=
  c == '\x07' || c == '\x08' || c == '\x0b' || c == '\x0c' || c == '\r'

/-- The distance of tab stops. -/
def tabStop : Nat := 8

/-- A line from a column on, with its tabs as spaces, at least one each. -/
def expandTabs (column : Nat) : List Char → List Char
  | [] => []
  | c :: rest =>
    if c == '\t' then
      let next := (column / tabStop + 1) * tabStop
      List.replicate (next - column) ' ' ++ expandTabs next rest
    else c :: expandTabs (column + charWidth c) rest

/-- The lines of a text: its parts between line feeds. -/
def splitLines : List Char → List (List Char)
  | [] => [[]]
  | c :: rest =>
    if c == '\n' then [] :: splitLines rest else (splitLines rest).modifyHead (c :: ·)

/-- The lines that markup shows. -/
def shownLines (markup : List Char) : List (List Char) :=
  (splitLines ((plain markup).filter fun c => !isDropped c)).map (expandTabs 0)

/-- Lines, each with a line feed. -/
def unlines (lines : List (List Char)) : List Char := lines.flatMap (· ++ ['\n'])

/-- What markup shows when it is printed. -/
def printed (markup : String) : String := String.ofList (unlines (shownLines markup.toList))

end SqlTables.Terminal
