import SqlTables.Decimal.Reading
import SqlTables.Document.ReadError
import SqlTables.Text.Repertoire

/-!
# Reading JSON

A reader of JSON texts, by recursive descent on the characters.  Besides the standard it accepts
`NaN` and the infinities; a whole number stays a whole number of any size, and a number with a
fraction or an exponent is a double.  A byte order mark is not white space, so it is refused.

The first fault from the left is the fault of the text, be it of form, of length or of depth.
-/

set_option autoImplicit false

namespace SqlTables.Document.Json

/-- White space between the tokens of a JSON text. -/
def isSpace (c : Char) : Bool := c == ' ' || c == '\t' || c == '\n' || c == '\r'

/-- A text without the white space at its head. -/
def skipSpace (s : List Char) : List Char := s.dropWhile isSpace

/-- What follows a given text at the head of another. -/
def after? (expected s : List Char) : Option (List Char) :=
  if expected.isPrefixOf s then some (s.drop expected.length) else none

/-- Four hexadecimal digits and what follows them. -/
def fourHex? : List Char → Option (Nat × List Char)
  | a :: b :: c :: d :: rest =>
    if [a, b, c, d].all (Decimal.digitValue · < 16) then
      some (Decimal.ofDigits 16 [a, b, c, d], rest)
    else none
  | _ => none

section Strings

variable [Text.Repertoire]

/-- The character of a `\u` escape whose digits come next.  A high and a low surrogate together
are one character. -/
def unicodeEscape? (s : List Char) : Option (Char × List Char) :=
  match fourHex? s with
  | none => none
  | some (n, rest) =>
    if 0xD800 ≤ n ∧ n < 0xDC00 then
      match rest with
      | '\\' :: 'u' :: more =>
        match fourHex? more with
        | none => none
        | some (m, left) =>
          if 0xDC00 ≤ m ∧ m < 0xE000 then
            some (Char.ofNat (0x10000 + (n - 0xD800) * 0x400 + (m - 0xDC00)), left)
          else some (Text.Repertoire.charOf n, rest)
      | _ => some (Text.Repertoire.charOf n, rest)
    else some (Text.Repertoire.charOf n, rest)

/-- The character of an escape of one letter. -/
def shortEscape? : Char → Option Char
  | '"' => some '"'
  | '\\' => some '\\'
  | '/' => some '/'
  | 'b' => some '\x08'
  | 'f' => some '\x0c'
  | 'n' => some '\n'
  | 'r' => some '\r'
  | 't' => some '\t'
  | _ => none

/-- The characters of a string after its opening quote, and what follows its closing one. -/
def stringTail? : Nat → List Char → Option (List Char × List Char)
  | 0, _ => none
  | _, [] => none
  | _ + 1, '"' :: rest => some ([], rest)
  | fuel + 1, '\\' :: 'u' :: rest => do
    let (c, left) ← unicodeEscape? rest
    let (cs, after) ← stringTail? fuel left
    return (c :: cs, after)
  | fuel + 1, '\\' :: e :: rest => do
    let c ← shortEscape? e
    let (cs, after) ← stringTail? fuel rest
    return (c :: cs, after)
  | fuel + 1, c :: rest =>
    if c.toNat < 0x20 || c == '\\' then none
    else do
      let (cs, after) ← stringTail? fuel rest
      return (c :: cs, after)

/-- A string after its opening quote. -/
def string? (s : List Char) : Option (String × List Char) :=
  (stringTail? (s.length + 1) s).map fun (cs, rest) => (String.ofList cs, rest)

end Strings

/-- The fraction of a number, if a point and a digit come next: its digits, and what follows. -/
def fraction (s : List Char) : List Char × List Char :=
  match s with
  | '.' :: rest =>
    match rest.takeWhile Char.isDigit with
    | [] => ([], s)
    | ds => (ds, rest.dropWhile Char.isDigit)
  | _ => ([], s)

/-- The exponent of a number, if there is one, and what follows. -/
def exponent (s : List Char) : Option Int × List Char :=
  match s with
  | e :: rest =>
    if e == 'e' || e == 'E' then
      let (negative, digits) := match rest with
        | '-' :: more => (true, more)
        | '+' :: more => (false, more)
        | _ => (false, rest)
      match digits.takeWhile Char.isDigit with
      | [] => (none, s)
      | ds =>
        let n : Int := Decimal.ofDigits 10 ds
        (some (if negative then -n else n), digits.dropWhile Char.isDigit)
    else (none, s)
  | [] => (none, s)

/-- A whole number of these digits, unless there are too many. -/
def whole (negative : Bool) (digits : List Char) : Except ReadError Value :=
  if Decimal.mostDigits < digits.length then .error (.tooLong (.reading digits.length))
  else
    let n : Int := Decimal.ofDigits 10 digits
    .ok (.int (if negative then -n else n))

/-- A number whose sign has been read. -/
def unsigned (negative : Bool) (s : List Char) : Except ReadError (Value × List Char) :=
  let digits := match s with
    | '0' :: _ => ['0']
    | _ => s.takeWhile Char.isDigit
  if digits.isEmpty then .error .malformed
  else
    let rest := s.drop digits.length
    let (decimals, afterPoint) := fraction rest
    let (power, left) := exponent afterPoint
    if decimals.isEmpty && power.isNone then (whole negative digits).map (·, left)
    else
      let e := power.getD 0 - decimals.length
      .ok (.float (Decimal.toFloat negative (digits ++ decimals) e), left)

/-- A fixed word that stands for a value. -/
def word (expected : String) (v : Value) (s : List Char) : Except ReadError (Value × List Char) :=
  match after? expected.toList s with
  | some rest => .ok (v, rest)
  | none => .error .malformed

/-- A number or one of the fixed words. -/
def scalar (s : List Char) : Except ReadError (Value × List Char) :=
  match s with
  | '-' :: 'I' :: _ => word "-Infinity" (.float (-(1.0 / 0.0))) s
  | '-' :: rest => unsigned true rest
  | 'n' :: _ => word "null" .null s
  | 't' :: _ => word "true" (.bool true) s
  | 'f' :: _ => word "false" (.bool false) s
  | 'N' :: _ => word "NaN" (.float (0.0 / 0.0)) s
  | 'I' :: _ => word "Infinity" (.float (1.0 / 0.0)) s
  | _ => unsigned false s

/-- How many lists and objects may stand in one another. -/
def mostNested : Nat := 988

variable [Text.Repertoire]

mutual

/-- A value at the head of a text, inside `depth` lists and objects.  `fuel` bounds the steps of
the descent. -/
def value : Nat → Nat → List Char → Except ReadError (Value × List Char)
  | 0, _, _ => .error .malformed
  | fuel + 1, depth, s =>
    match s with
    | '"' :: rest =>
      match string? rest with
      | some (t, left) => .ok (.text t, left)
      | none => .error .malformed
    | '[' :: rest =>
      if mostNested ≤ depth then .error (.tooDeep .array)
      else match skipSpace rest with
        | ']' :: left => .ok (.list [], left)
        | more => (items fuel (depth + 1) more).map fun (vs, left) => (.list vs, left)
    | '\x7b' :: rest =>
      if mostNested ≤ depth then .error (.tooDeep .object)
      else match skipSpace rest with
        | '\x7d' :: left => .ok (.map [], left)
        | more => (members fuel (depth + 1) more).map fun (ms, left) => (.map (Value.collect ms), left)
    | _ => scalar s

/-- The items of a list up to its closing bracket. -/
def items : Nat → Nat → List Char → Except ReadError (List Value × List Char)
  | 0, _, _ => .error .malformed
  | fuel + 1, depth, s =>
    match value fuel depth s with
    | .error e => .error e
    | .ok (v, rest) =>
      match skipSpace rest with
      | ']' :: left => .ok ([v], left)
      | ',' :: more => (items fuel depth (skipSpace more)).map fun (vs, left) => (v :: vs, left)
      | _ => .error .malformed

/-- The members of an object up to its closing brace. -/
def members : Nat → Nat → List Char → Except ReadError (List (Value × Value) × List Char)
  | 0, _, _ => .error .malformed
  | fuel + 1, depth, s =>
    match s with
    | '"' :: rest =>
      match string? rest with
      | none => .error .malformed
      | some (key, afterKey) =>
        match skipSpace afterKey with
        | ':' :: beforeValue =>
          match value fuel depth (skipSpace beforeValue) with
          | .error e => .error e
          | .ok (v, afterValue) =>
            match skipSpace afterValue with
            | '\x7d' :: left => .ok ([(.text key, v)], left)
            | ',' :: more =>
              (members fuel depth (skipSpace more)).map fun (ms, left) => ((.text key, v) :: ms, left)
            | _ => .error .malformed
        | _ => .error .malformed
    | _ => .error .malformed

end

/-- The value of a JSON text.  A value descends at most twice for each of its characters. -/
def read (s : String) : Except ReadError Value :=
  let chars := skipSpace s.toList
  match value (2 * chars.length + 1) 0 chars with
  | .ok (v, rest) => if (skipSpace rest).isEmpty then .ok v else .error .malformed
  | .error e => .error e

end SqlTables.Document.Json
