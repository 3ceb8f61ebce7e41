import SqlTables.Document.Display

/-!
# Writing JSON

Two layouts: on one line, and indented by two spaces a level with one item or member a line.
Characters outside ASCII are written as they are.  Values that JSON has no form for are written as
the text they display.
-/

set_option autoImplicit false

namespace SqlTables.Document.Json

/-- One character of a string. -/
def escapedChar (c : Char) : List Char :=
  if c == '"' || c == '\\' then ['\\', c]
  else if c == '\n' then ['\\', 'n']
  else if c == '\r' then ['\\', 'r']
  else if c == '\t' then ['\\', 't']
  else if c == '\x08' then ['\\', 'b']
  else if c == '\x0c' then ['\\', 'f']
  else if c.toNat < 0x20 then '\\' :: 'u' :: hexadecimal 4 c.toNat
  else [c]

/-- A string in double quotes. -/
def quoted (s : String) : String :=
  String.ofList ('"' :: s.toList.flatMap escapedChar ++ ['"'])

/-- A double; infinities and the undefined number have names. -/
def floatText (x : Float) : String :=
  if x.isNaN then "NaN"
  else if x.isInf then (if x < 0 then "-Infinity" else "Infinity")
  else Document.floatText x

/-- A value that holds no others. -/
def scalarText : Value → String
  | .null => "null"
  | .bool b => if b then "true" else "false"
  | .int n => toString n
  | .float x => floatText x
  | v => quoted v.display

/-- A value on one line. -/
def compact : Value → String
  | .list items | .tuple items | .set items => "[" ++ ", ".intercalate (compactItems items) ++ "]"
  | .map entries => "\x7b" ++ ", ".intercalate (compactEntries entries) ++ "\x7d"
  | v => scalarText v
where
  /-- The items of a list. -/
  compactItems : List Value → List String
  | [] => []
  | x :: xs => compact x :: compactItems xs
  /-- The members of an object. -/
  compactEntries : List (Value × Value) → List String
  | [] => []
  | (k, v) :: rest => (quoted k.display ++ ": " ++ compact v) :: compactEntries rest

/-- Lines between brackets: each item on a line of its own, one level deeper. -/
def block (opening closing margin : String) : List String → String
  | [] => opening ++ closing
  | items =>
    let inner := margin ++ "  "
    opening ++ "\n" ++ inner ++ (",\n" ++ inner).intercalate items ++ "\n" ++ margin ++ closing

/-- A value in indented lines; `margin` is the white space before its last line. -/
def indented (margin : String) : Value → String
  | .list items | .tuple items | .set items => block "[" "]" margin (indentedItems margin items)
  | .map entries => block "\x7b" "\x7d" margin (indentedEntries margin entries)
  | v => scalarText v
where
  /-- The items of a list. -/
  indentedItems (margin : String) : List Value → List String
  | [] => []
  | x :: xs => indented (margin ++ "  ") x :: indentedItems margin xs
  /-- The members of an object. -/
  indentedEntries (margin : String) : List (Value × Value) → List String
  | [] => []
  | (k, v) :: rest =>
    (quoted k.display ++ ": " ++ indented (margin ++ "  ") v) :: indentedEntries margin rest

/-- A value in indented lines. -/
def pretty (v : Value) : String := indented "" v

end SqlTables.Document.Json
