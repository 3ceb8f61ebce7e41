import SqlTables.Decimal.Reading
import SqlTables.Document.ReadError
import SqlTables.Document.Yaml.Cursor
import SqlTables.Text.Repertoire

/-!
# Scalars as written

The three ways to write a scalar: plain, in quotes, and as a block of indented lines.  In the first
two a single line break is read as a space and further ones as line feeds.
-/

set_option autoImplicit false

namespace SqlTables.Document.Yaml

/-- A break and those after it, folded: one alone is a space, and an ordinary one before others is
dropped. -/
def folded (first breaks : List Char) : List Char :=
  if first ≠ ['\n'] then first ++ breaks
  else if breaks.isEmpty then [' ']
  else breaks

/-! ## Plain scalars -/

/-- Whether a colon before this character ends a plain scalar. -/
def endsPlain (inFlow : Bool) (next : Option Char) : Bool :=
  endsHere next || (inFlow && next.any ",[]\x7b\x7d".toList.contains)

/-- The characters of a plain scalar up to a space, a line end or a character of structure. -/
def plainRun (inFlow : Bool) : List Char → List Char
  | [] => []
  | c :: rest =>
    if isSpaceOrBreak c then []
    else if c == ':' && endsPlain inFlow rest.head? then []
    else if inFlow && ",?[]\x7b\x7d".toList.contains c then []
    else c :: plainRun inFlow rest

/-- Line breaks and spaces inside a plain scalar: `none` where a document ends, else the breaks.
`fuel` bounds the number of characters. -/
def plainBreaks : Nat → Cursor → Option (List Char) × Cursor
  | 0, c => (some [], c)
  | fuel + 1, c =>
    match c.peek with
    | some ' ' => plainBreaks fuel c.advance
    | some x =>
      if isBreak x then
        let (b, next) := c.takeBreak
        if next.atMark then (none, next)
        else match plainBreaks fuel next with
          | (some more, final) => (some (b ++ more), final)
          | (none, final) => (none, final)
      else (some [], c)
    | none => (some [], c)

/-- What stands between two runs of a plain scalar, and whether a line ended there.  Nothing stands
there at the end of the scalar. -/
def plainSpaces (c : Cursor) : List Char × Cursor × Bool :=
  let (spaces, afterSpaces) := c.takeWhile (· == ' ')
  if afterSpaces.peek.any isBreak then
    let (b, next) := afterSpaces.takeBreak
    if next.atMark then ([], next, true)
    else match plainBreaks next.rest.length next with
      | (some breaks, final) => (folded b breaks, final, true)
      | (none, final) => ([], final, true)
  else (spaces, afterSpaces, false)

/-- A plain scalar from a place on, with the spaces before the next run and the characters so far.
Gives the characters, the place after it and whether a line ended last. -/
def plainFrom (inFlow : Bool) (indent : Int) :
    Nat → Cursor → List Char → List Char → Bool → List Char × Cursor × Bool
  | 0, c, _, soFar, ended => (soFar, c, ended)
  | fuel + 1, c, spaces, soFar, ended =>
    if c.peek == some '#' then (soFar, c, ended)
    else
      let run := plainRun inFlow c.rest
      if run.isEmpty then (soFar, c, ended)
      else
        let text := soFar ++ spaces ++ run
        let (more, next, lineEnded) := plainSpaces (c.advanceBy run.length)
        if more.isEmpty || next.peek == some '#' || (!inFlow && (next.column : Int) < indent) then
          (text, next, lineEnded)
        else plainFrom inFlow indent fuel next more text lineEnded

/-- A plain scalar. -/
def plain (inFlow : Bool) (indent : Int) (c : Cursor) : List Char × Cursor × Bool :=
  plainFrom inFlow indent (c.rest.length + 1) c [] [] false

/-! ## Quoted scalars -/

/-- The character of an escape of one letter. -/
def shortEscape? (c : Char) : Option Char :=
  match c with
  | '0' => some '\x00'
  | 'a' => some '\x07'
  | 'b' => some '\x08'
  | 't' => some '\t'
  | '\t' => some '\t'
  | 'n' => some '\n'
  | 'v' => some '\x0b'
  | 'f' => some '\x0c'
  | 'r' => some '\r'
  | 'e' => some '\x1b'
  | ' ' => some ' '
  | '"' => some '"'
  | '\\' => some '\\'
  | '/' => some '/'
  | 'N' => some '\u0085'
  | '_' => some '\u00a0'
  | 'L' => some '\u2028'
  | 'P' => some '\u2029'
  | _ => none

/-- The number of hexadecimal digits of an escape. -/
def escapeWidth? (c : Char) : Option Nat :=
  match c with
  | 'x' => some 2
  | 'u' => some 4
  | 'U' => some 8
  | _ => none

/-- The breaks after the end of a line in a quoted scalar; spaces before and after them do not
count.  A document must not end there. -/
def quotedBreaks : Nat → Cursor → Option (List Char × Cursor)
  | 0, _ => none
  | fuel + 1, c =>
    if c.atMark then none
    else
      let next := c.skipWhile fun x => x == ' ' || x == '\t'
      if next.peek.any isBreak then do
        let (b, afterBreak) := next.takeBreak
        let (more, final) ← quotedBreaks fuel afterBreak
        return (b ++ more, final)
      else some ([], next)

/-- What must not be missing in a text of the format. -/
def formed {α : Type} (x : Option α) : Except ReadError α :=
  match x with
  | some a => .ok a
  | none => .error .malformed

section Quoted

variable [Text.Repertoire]

/-- The character of a number. -/
def numberedChar (code : Nat) : Except ReadError Char :=
  if 0x110000 ≤ code then .error (.noCharacter code) else .ok (Text.Repertoire.charOf code)

/-- An escape, after its backslash. -/
def escape (c : Cursor) : Except ReadError (List Char × Cursor) :=
  match c.peek with
  | none => .error .malformed
  | some x =>
    match shortEscape? x, escapeWidth? x with
    | some e, _ => .ok ([e], c.advance)
    | none, some width =>
      let digits := (c.advance.rest.take width)
      if digits.length = width && digits.all (Decimal.digitValue · < 16) then
        (numberedChar (Decimal.ofDigits 16 digits)).map fun e => ([e], c.advanceBy (width + 1))
      else .error .malformed
    | none, none =>
      if isBreak x then formed (quotedBreaks (c.rest.length + 1) c.takeBreak.2)
      else .error .malformed

/-- A quoted scalar after its opening quote, and the place after its closing one. -/
def quotedFrom (double : Bool) : Nat → Cursor → Except ReadError (List Char × Cursor)
  | 0, _ => .error .malformed
  | fuel + 1, c =>
    match c.rest with
    | [] => .error .malformed
    | '\'' :: rest =>
      if double then do
        let (more, final) ← quotedFrom double fuel c.advance
        return ('\'' :: more, final)
      else if rest.head? == some '\'' then do
        let (more, final) ← quotedFrom double fuel (c.advanceBy 2)
        return ('\'' :: more, final)
      else .ok ([], c.advance)
    | '"' :: _ =>
      if double then .ok ([], c.advance)
      else do
        let (more, final) ← quotedFrom double fuel c.advance
        return ('"' :: more, final)
    | x :: _ =>
      if double && x == '\\' then do
        let (e, next) ← escape c.advance
        let (more, final) ← quotedFrom double fuel next
        return (e ++ more, final)
      else if isSpaceOrBreak x then
        let (spaces, next) := c.takeWhile fun x => x == ' ' || x == '\t'
        if next.peek.any isBreak then do
          let (b, afterBreak) := next.takeBreak
          let (breaks, afterBreaks) ← formed (quotedBreaks (next.rest.length + 1) afterBreak)
          let (more, final) ← quotedFrom double fuel afterBreaks
          return (folded b breaks ++ more, final)
        else do
          let (more, final) ← quotedFrom double fuel next
          return (spaces ++ more, final)
      else do
        let (more, final) ← quotedFrom double fuel c.advance
        return (x :: more, final)

/-- A quoted scalar from its opening quote on. -/
def quoted (double : Bool) (c : Cursor) : Except ReadError (List Char × Cursor) :=
  quotedFrom double (c.rest.length + 1) c.advance

end Quoted

/-! ## Block scalars -/

/-- What becomes of the line breaks at the end of a block. -/
inductive Chomping where
  /-- All are dropped. -/
  | strip
  /-- One is kept. -/
  | clip
  /-- All are kept. -/
  | keep
deriving DecidableEq, Repr

/-- The sign that says what becomes of the breaks at the end. -/
def chomping? (c : Option Char) : Option Chomping :=
  match c with
  | some '+' => some .keep
  | some '-' => some .strip
  | _ => none

/-- The digit that says how far a block is indented; zero is not allowed. -/
def increment? (c : Option Char) : Option Nat :=
  match c with
  | some d => if d.isDigit then some (d.toNat - 0x30) else none
  | none => none

/-- The signs after the indicator of a block, in either order, and the place after them. -/
def blockSigns (c : Cursor) : Option (Chomping × Option Nat × Cursor) :=
  let (chomping, increment, next) :=
    match chomping? c.peek with
    | some ch =>
      match increment? c.advance.peek with
      | some n => (ch, some n, c.advanceBy 2)
      | none => (ch, none, c.advance)
    | none =>
      match increment? c.peek with
      | some n =>
        match chomping? c.advance.peek with
        | some ch => (ch, some n, c.advanceBy 2)
        | none => (Chomping.clip, some n, c.advance)
      | none => (Chomping.clip, none, c)
  if increment = some 0 || !endsUntabbed next.peek then none else some (chomping, increment, next)

/-- The place after the rest of a line, on which only a comment may stand. -/
def restOfLine? (c : Cursor) : Option Cursor :=
  let next := c.skipWhile (· == ' ')
  let final := if next.peek == some '#' then next.skipWhile (!isBreak ·) else next
  if endsLine final.peek then some final.takeBreak.2 else none

/-- The breaks and spaces before the first line of a block, and the deepest column among them. -/
def leadingBreaks : Nat → Cursor → Nat → List Char × Nat × Cursor
  | 0, c, deepest => ([], deepest, c)
  | fuel + 1, c, deepest =>
    match c.peek with
    | some ' ' => leadingBreaks fuel c.advance (max deepest c.advance.column)
    | some x =>
      if isBreak x then
        let (b, next) := c.takeBreak
        let (more, deep, final) := leadingBreaks fuel next deepest
        (b ++ more, deep, final)
      else ([], deepest, c)
    | none => ([], deepest, c)

/-- The place after the spaces up to a column. -/
def skipIndent (indent : Nat) : Nat → Cursor → Cursor
  | 0, c => c
  | fuel + 1, c =>
    if c.column < indent && c.peek == some ' ' then skipIndent indent fuel c.advance else c

/-- The breaks between two lines of a block, and the place where the next one begins. -/
def blockBreaks (indent : Nat) : Nat → Cursor → List Char × Cursor
  | 0, c => ([], c)
  | fuel + 1, c =>
    let next := skipIndent indent indent c
    if next.peek.any isBreak then
      let (b, afterBreak) := next.takeBreak
      let (more, final) := blockBreaks indent fuel afterBreak
      (b ++ more, final)
    else ([], next)

/-- The lines of a block, with the breaks before the first and the characters so far.  Gives the
characters, the break and the breaks after the last line, and the place after them. -/
def blockLines (fold : Bool) (indent : Nat) :
    Nat → Cursor → List Char → List Char → List Char × List Char × List Char × Cursor
  | 0, c, breaks, soFar => (soFar, [], breaks, c)
  | fuel + 1, c, breaks, soFar =>
    let solid := !c.peek.any fun x => x == ' ' || x == '\t'
    let (line, lineEnd) := c.takeWhile (!isBreak ·)
    let text := soFar ++ breaks ++ line
    let (b, afterBreak) := lineEnd.takeBreak
    let (nextBreaks, next) := blockBreaks indent (afterBreak.rest.length + 1) afterBreak
    if next.column = indent && next.peek.isSome then
      let nextSolid := !next.peek.any fun x => x == ' ' || x == '\t'
      if fold && b == ['\n'] && solid && nextSolid then
        let joint := if nextBreaks.isEmpty then [' '] else []
        blockLines fold indent fuel next nextBreaks (text ++ joint)
      else blockLines fold indent fuel next nextBreaks (text ++ b)
    else (text, b, nextBreaks, next)

/-- A block scalar from its indicator on, inside a collection at `indent`. -/
def block? (fold : Bool) (indent : Int) (c : Cursor) : Option (List Char × Cursor) := do
  let (chomping, increment, afterSigns) ← blockSigns c.advance
  let lines ← restOfLine? afterSigns
  let least := max 1 (indent + 1).toNat
  let fuel := lines.rest.length + 1
  let (column, breaks, first) :=
    match increment with
    | some n =>
      let column := least + n - 1
      let (breaks, first) := blockBreaks column fuel lines
      (column, breaks, first)
    | none =>
      let (breaks, deepest, first) := leadingBreaks fuel lines 0
      (max least deepest, breaks, first)
  let (text, b, trailing, final) :=
    if first.column = column && first.peek.isSome then blockLines fold column fuel first breaks []
    else ([], [], breaks, first)
  return match chomping with
    | .strip => (text, final)
    | .clip => (text ++ b, final)
    | .keep => (text ++ b ++ trailing, final)

end SqlTables.Document.Yaml
