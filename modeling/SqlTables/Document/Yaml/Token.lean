import SqlTables.Bytes.Utf8
import SqlTables.Document.Yaml.Scalar

/-!
# Tokens

A YAML text as a sequence of tokens.  Indentation becomes tokens of its own: a collection begins
where a line is indented further than the collection around it and ends where one is indented less.
Whether a scalar is a key is only known at the colon after it, so the token for a key is put before
it then.
-/

set_option autoImplicit false

namespace SqlTables.Document.Yaml

/-- The tag of a node as written: a suffix, and the handle that stands for the front of it. -/
structure TagName where
  handle : Option String
  suffix : String
deriving DecidableEq, Repr

/-- A directive before a document. -/
inductive Directive where
  /-- The version of the language. -/
  | version (major minor : Nat)
  /-- What a handle of tags stands for. -/
  | handle (name front : String)
  /-- Any other. -/
  | reserved
deriving DecidableEq, Repr

/-- A token. -/
inductive Token where
  | directive (d : Directive)
  | documentStart
  | documentEnd
  | streamEnd
  | blockSequenceStart
  | blockMappingStart
  | blockEnd
  | flowSequenceStart
  | flowSequenceEnd
  | flowMappingStart
  | flowMappingEnd
  | blockEntry
  | flowEntry
  | key
  | value
  | alias (name : String)
  | anchor (name : String)
  | tag (name : TagName)
  /-- A scalar, and whether it is plain. -/
  | scalar (text : String) (isPlain : Bool)
  /-- The place from which on the text cannot be cut into tokens. -/
  | fault (error : ReadError)
deriving DecidableEq, Repr

/-- A place at which a key may turn out to begin. -/
structure PossibleKey where
  /-- How many tokens come before it. -/
  position : Nat
  /-- Whether it must be a key, since nothing else may stand there. -/
  required : Bool
  index : Nat
  line : Nat
  column : Nat
deriving DecidableEq, Repr

/-- How far a text has been cut into tokens. -/
structure Lexer where
  cursor : Cursor
  tokens : Array Token := #[]
  /-- The column of the innermost block collection; `-1` outside of all. -/
  indent : Int := -1
  /-- The columns of those around it. -/
  outer : List Int := []
  /-- How many flow collections are open. -/
  flowDepth : Nat := 0
  /-- Whether a key may begin here. -/
  allowsKey : Bool := true
  /-- The possible keys by the depth of flow collections. -/
  keys : List (Nat × PossibleKey) := []
deriving Repr

namespace Lexer

/-- Whether a flow collection is open. -/
def inFlow (l : Lexer) : Bool := l.flowDepth != 0

/-- Adds a token. -/
def push (l : Lexer) (t : Token) : Lexer := { l with tokens := l.tokens.push t }

/-- Puts a token in front of those from a position on. -/
def insertAt (l : Lexer) (position : Nat) (t : Token) : Lexer :=
  let before := l.tokens.extract 0 position
  { l with tokens := before.push t ++ l.tokens.extract position l.tokens.size }

/-- The place after spaces, comments and line ends; a key may begin after a line end outside of
flow collections. -/
def skipToToken : Nat → Lexer → Lexer
  | 0, l => l
  | fuel + 1, l =>
    let afterSpaces := l.cursor.skipWhile (· == ' ')
    let next :=
      if afterSpaces.peek == some '#' then afterSpaces.skipWhile (!isBreak ·) else afterSpaces
    if next.peek.any isBreak then
      skipToToken fuel
        { l with cursor := next.takeBreak.2, allowsKey := l.allowsKey || !l.inFlow }
    else { l with cursor := next }

/-- Drops the possible keys that can no longer be keys: a key stands on one line and is not longer
than 1024 characters. -/
def dropStaleKeys (l : Lexer) : Option Lexer :=
  let isStale (k : PossibleKey) : Bool :=
    k.line != l.cursor.line || l.cursor.index - k.index > 1024
  if l.keys.any fun (_, k) => isStale k && k.required then none
  else some { l with keys := l.keys.filter fun (_, k) => !isStale k }

/-- Forgets the possible key of the present depth. -/
def forgetKey (l : Lexer) : Option Lexer :=
  match l.keys.lookup l.flowDepth with
  | some k =>
    if k.required then none else some { l with keys := l.keys.filter (·.1 != l.flowDepth) }
  | none => some l

/-- Remembers that a key may begin here. -/
def rememberKey (l : Lexer) : Option Lexer :=
  if l.allowsKey then do
    let c := l.cursor
    let required := !l.inFlow && l.indent == (c.column : Int)
    let l ← l.forgetKey
    return { l with keys := (l.flowDepth, ⟨l.tokens.size, required, c.index, c.line, c.column⟩) :: l.keys }
  else some l

/-- Ends the block collections that are indented further than a column. -/
def unwind (l : Lexer) (column : Int) : Lexer :=
  if l.inFlow then l else go l.outer l
where
  /-- Ends collections while there are any around. -/
  go : List Int → Lexer → Lexer
  | [], l => l
  | i :: is, l =>
    if l.indent > column then go is { (l.push .blockEnd) with indent := i, outer := is } else l

/-- Begins a block collection at a column, if it is indented further than the one around it. -/
def addIndent (l : Lexer) (column : Nat) : Option Lexer :=
  if l.indent < column then some { l with indent := column, outer := l.indent :: l.outer } else none

/-- Adds a token of so many characters. -/
def take (l : Lexer) (t : Token) (width : Nat) : Lexer :=
  { (l.push t) with cursor := l.cursor.advanceBy width }

/-- Adds the end of the text. -/
def takeEnd (l : Lexer) : Option Lexer := do
  let l ← (l.unwind (-1)).forgetKey
  return { (l.push .streamEnd) with allowsKey := false, keys := [] }

/-- Adds a mark of a document. -/
def takeMark (l : Lexer) (t : Token) : Option Lexer := do
  let l ← (l.unwind (-1)).forgetKey
  return { (l.take t 3) with allowsKey := false }

/-- Adds the start of a flow collection. -/
def takeFlowStart (l : Lexer) (t : Token) : Option Lexer := do
  let l ← l.rememberKey
  return { (l.take t 1) with flowDepth := l.flowDepth + 1, allowsKey := true }

/-- Adds the end of a flow collection. -/
def takeFlowEnd (l : Lexer) (t : Token) : Option Lexer := do
  let l ← l.forgetKey
  return { (l.take t 1) with flowDepth := l.flowDepth - 1, allowsKey := false }

/-- Adds a comma of a flow collection. -/
def takeFlowEntry (l : Lexer) : Option Lexer := do
  let l ← { l with allowsKey := true }.forgetKey
  return l.take .flowEntry 1

/-- Begins a block collection here if one is needed; none may begin where no key may. -/
def openBlock (l : Lexer) (t : Token) : Option Lexer :=
  if l.inFlow then some l
  else if !l.allowsKey then none
  else match l.addIndent l.cursor.column with
    | some deeper => some (deeper.push t)
    | none => some l

/-- Adds the dash of a sequence. -/
def takeBlockEntry (l : Lexer) : Option Lexer := do
  let l ← l.openBlock .blockSequenceStart
  let l ← { l with allowsKey := true }.forgetKey
  return l.take .blockEntry 1

/-- Adds the question mark of a key. -/
def takeKey (l : Lexer) : Option Lexer := do
  let l ← l.openBlock .blockMappingStart
  let l ← { l with allowsKey := !l.inFlow }.forgetKey
  return l.take .key 1

/-- Adds the colon of a value.  If a key may have begun before, it did. -/
def takeValue (l : Lexer) : Option Lexer :=
  match l.keys.lookup l.flowDepth with
  | some k =>
    let l := { l with keys := l.keys.filter (·.1 != l.flowDepth) }
    let keyed := l.insertAt k.position .key
    let blocked :=
      if l.inFlow then keyed
      else match keyed.addIndent k.column with
        | some deeper => deeper.insertAt k.position .blockMappingStart
        | none => keyed
    some { (blocked.take .value 1) with allowsKey := false }
  | none => do
    let l ← l.openBlock .blockMappingStart
    let l ← { l with allowsKey := !l.inFlow }.forgetKey
    return l.take .value 1

/-- Whether a character may stand in the name of an anchor or a handle. -/
def isNameChar (c : Char) : Bool := c.isAlphanum || c == '-' || c == '_'

/-- Adds an anchor or an alias. -/
def takeName (l : Lexer) (t : String → Token) : Option Lexer := do
  let l ← l.rememberKey
  let (name, next) := l.cursor.advance.takeWhile isNameChar
  if name.isEmpty then none
  else if !(endsHere next.peek || next.peek.any "?:,]\x7d%@\x60".toList.contains) then none
  else some { (l.push (t (String.ofList name))) with cursor := next, allowsKey := false }

/-- Whether a character may stand in a tag, besides the escapes of bytes. -/
def isTagChar (c : Char) : Bool := c.isAlphanum || "-;/?:@&=+$,_.!~*\x27()[]".toList.contains c

/-- The bytes of the escapes of bytes at the head of a text, and what follows them. -/
def byteEscapes : Nat → List Char → Option (List UInt8 × List Char)
  | fuel + 1, '%' :: a :: b :: rest => do
    if [a, b].all (Decimal.digitValue · < 16) then
      let (more, left) ← byteEscapes fuel rest
      return (UInt8.ofNat (Decimal.ofDigits 16 [a, b]) :: more, left)
    else none
  | _, '%' :: _ => none
  | _, s => some ([], s)

/-- The characters of a tag, its escapes read, and what follows. -/
def tagChars : Nat → List Char → Option (List Char × List Char)
  | 0, s => some ([], s)
  | fuel + 1, s =>
    match s with
    | '%' :: _ => do
      let (bytes, rest) ← byteEscapes s.length s
      let chars ← (Bytes.Utf8.decoder.decode bytes).toOption
      let (more, left) ← tagChars fuel rest
      return (chars ++ more, left)
    | c :: rest =>
      if isTagChar c then do
        let (more, left) ← tagChars fuel rest
        return (c :: more, left)
      else some ([], s)
    | [] => some ([], s)

/-- A tag without its handle, which is not empty, and the place after it. -/
def tagUri (c : Cursor) : Option (String × Cursor) := do
  let (chars, left) ← tagChars (c.rest.length + 1) c.rest
  let width := c.rest.length - left.length
  if width = 0 then none else some (String.ofList chars, c.advanceBy width)

/-- A handle of tags, between exclamation marks, and the place after it.  One mark alone before a
space is a handle too. -/
def tagHandle (c : Cursor) : Option (String × Cursor) :=
  match c.rest with
  | '!' :: rest =>
    if rest.head? == some ' ' then some ("!", c.advance)
    else
      let name := rest.takeWhile isNameChar
      match rest.drop name.length with
      | '!' :: _ => some (String.ofList ('!' :: name ++ ['!']), c.advanceBy (name.length + 2))
      | _ => none
  | _ => none

/-- Whether a tag has a handle with two exclamation marks. -/
def hasHandle (s : List Char) : Bool :=
  (s.takeWhile fun c => !(c == ' ' || isBreak c)).contains '!'

/-- Adds a tag. -/
def takeTag (l : Lexer) : Option Lexer := do
  let l ← l.rememberKey
  let c := l.cursor
  let (name, next) ←
    match c.peekAt 1 with
    | some '<' => do
      let (uri, next) ← tagUri (c.advanceBy 2)
      if next.peek == some '>' then some ((⟨none, uri⟩ : TagName), next.advance) else none
    | x =>
      if endsHere x then some ((⟨none, "!"⟩ : TagName), c.advance)
      else if hasHandle (c.rest.drop 1) then do
        let (handle, afterHandle) ← tagHandle c
        let (uri, next) ← tagUri afterHandle
        some ((⟨some handle, uri⟩ : TagName), next)
      else do
        let (uri, next) ← tagUri c.advance
        some ((⟨some "!", uri⟩ : TagName), next)
  if endsUntabbed next.peek then
    some { (l.push (.tag name)) with cursor := next, allowsKey := false }
  else none

/-- A number of a version, and the place after it. -/
def versionNumber (c : Cursor) : Option (Nat × Cursor) :=
  match c.takeWhile Char.isDigit with
  | ([], _) => none
  | (ds, next) => some (Decimal.ofDigits 10 ds, next)

/-- What a directive says after its name, and the place after it. -/
def directiveBody (name : List Char) (c : Cursor) : Option (Directive × Cursor) :=
  let first := c.skipWhile (· == ' ')
  if name = "YAML".toList then do
    let (major, afterMajor) ← versionNumber first
    if afterMajor.peek == some '.' then
      let (minor, next) ← versionNumber afterMajor.advance
      if endsUntabbed next.peek then some (.version major minor, next) else none
    else none
  else if name = "TAG".toList then do
    let (handle, afterHandle) ← tagHandle first
    if afterHandle.peek == some ' ' then
      let (front, next) ← tagUri (afterHandle.skipWhile (· == ' '))
      if endsUntabbed next.peek then some (.handle handle front, next) else none
    else none
  else some (.reserved, c.skipWhile (!isBreak ·))

/-- Adds a directive. -/
def takeDirective (l : Lexer) : Option Lexer := do
  let l ← (l.unwind (-1)).forgetKey
  let (name, afterName) := l.cursor.advance.takeWhile isNameChar
  if name.isEmpty || !endsUntabbed afterName.peek then none
  else
    let (d, afterBody) ← directiveBody name afterName
    let next ← restOfLine? afterBody
    return { (l.push (.directive d)) with cursor := next, allowsKey := false }

/-- Adds a block scalar. -/
def takeBlock (l : Lexer) (fold : Bool) : Option Lexer := do
  let l ← { l with allowsKey := true }.forgetKey
  let (text, next) ← block? fold l.indent l.cursor
  return { (l.push (.scalar (String.ofList text) false)) with cursor := next }

variable [Text.Repertoire]

/-- Adds a quoted scalar. -/
def takeQuoted (l : Lexer) (double : Bool) : Except ReadError Lexer := do
  let l ← formed l.rememberKey
  let (text, next) ← quoted double l.cursor
  return { (l.push (.scalar (String.ofList text) false)) with cursor := next, allowsKey := false }

/-- Adds a plain scalar. -/
def takePlain (l : Lexer) : Option Lexer := do
  let l ← l.rememberKey
  let (text, next, ended) := plain l.inFlow (l.indent + 1) l.cursor
  return { (l.push (.scalar (String.ofList text) true)) with cursor := next, allowsKey := ended }

/-- Whether a plain scalar may begin here. -/
def startsPlain (l : Lexer) (c : Char) (next : Option Char) : Bool :=
  !(isSpaceOrBreak c || "-?:,[]\x7b\x7d#&*!|>\x27\x22%@\x60".toList.contains c)
    || (!endsHere next && (c == '-' || (!l.inFlow && (c == '?' || c == ':'))))

/-- Adds the token that begins with a character, with the character after it. -/
def takeFrom (l : Lexer) (c : Char) (following : Option Char) : Option Lexer :=
  match c with
  | '[' => l.takeFlowStart .flowSequenceStart
  | '\x7b' => l.takeFlowStart .flowMappingStart
  | ']' => l.takeFlowEnd .flowSequenceEnd
  | '\x7d' => l.takeFlowEnd .flowMappingEnd
  | ',' => l.takeFlowEntry
  | '*' => l.takeName .alias
  | '&' => l.takeName .anchor
  | '!' => l.takeTag
  | _ =>
    if c == '-' && endsHere following then l.takeBlockEntry
    else if c == '?' && (l.inFlow || endsHere following) then l.takeKey
    else if c == ':' && (l.inFlow || endsHere following) then l.takeValue
    else if c == '|' && !l.inFlow then l.takeBlock false
    else if c == '>' && !l.inFlow then l.takeBlock true
    else if l.startsPlain c following then l.takePlain
    else none

/-- Adds the next token, or more than one where block collections end or begin. -/
def next (l : Lexer) : Except ReadError Lexer := do
  let l := skipToToken (l.cursor.rest.length + 1) l
  let l ← formed l.dropStaleKeys
  let l := l.unwind l.cursor.column
  let cur := l.cursor
  match cur.peek with
  | none => formed l.takeEnd
  | some c =>
    if c == '%' && cur.column == 0 then formed l.takeDirective
    else if c == '-' && cur.column == 0 && cur.atMark then formed (l.takeMark .documentStart)
    else if c == '.' && cur.column == 0 && cur.atMark then formed (l.takeMark .documentEnd)
    else if c == '\'' then l.takeQuoted false
    else if c == '"' then l.takeQuoted true
    else formed (l.takeFrom c (cur.peekAt 1))

/-- Adds tokens until the text ends or has a fault; `fuel` bounds their number. -/
def run : Nat → Lexer → Array Token
  | 0, l => l.tokens.push (.fault .malformed)
  | fuel + 1, l =>
    match l.next with
    | .error e => l.tokens.push (.fault e)
    | .ok more => if more.tokens.back? == some .streamEnd then more.tokens else run fuel more

end Lexer

/-- Whether a character may stand in a YAML text. -/
def isAllowed (c : Char) : Bool :=
  let n := c.toNat
  n == 0x09 || n == 0x0A || n == 0x0D || (0x20 ≤ n && n ≤ 0x7E) || n == 0x85
    || (0xA0 ≤ n && n ≤ 0xFFFD) || 0x10000 ≤ n

/-- The tokens of a text, up to the end of the stream or to a fault. -/
def Token.scan [Text.Repertoire] (text : String) : List Token :=
  let chars := text.toList
  if chars.all isAllowed then
    let body := match chars with
      | '\uFEFF' :: rest => rest
      | other => other
    (Lexer.run (chars.length + 2) { cursor := .start body }).toList
  else [.fault .malformed]

end SqlTables.Document.Yaml
