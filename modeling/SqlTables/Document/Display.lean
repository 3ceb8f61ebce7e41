import SqlTables.Decimal.Fixed
import SqlTables.Decimal.Limit
import SqlTables.Decimal.Shortest
import SqlTables.Document.Value
import SqlTables.Text.Printable

/-!
# Displayed values

The text of a document value in names and messages.  `Value.display` shows a text as it is;
`Value.quoted`, which is also used inside compound values, puts texts in quotes and escapes what
has no printed form.  A value that holds a whole number beyond the limit of decimal digits has no
text at all, which `Value.isWritable` tells.
-/

set_option autoImplicit false

namespace SqlTables.Document

/-- A hexadecimal number of at least `width` digits. -/
def hexadecimal (width n : Nat) : List Char :=
  let ds := Nat.toDigits 16 n
  List.replicate (width - ds.length) '0' ++ ds

/-- The quote for a text: the single one, unless the text holds it and no double one. -/
def quoteFor (s : List Char) : Char := if s.contains '\'' && !s.contains '"' then '"' else '\''

/-- One character inside a quoted text. -/
def escapedChar (quote c : Char) : List Char :=
  if c == quote || c == '\\' then ['\\', c]
  else if c == '\t' then ['\\', 't']
  else if c == '\n' then ['\\', 'n']
  else if c == '\r' then ['\\', 'r']
  else if Text.isPrintable c then [c]
  else if c.toNat < 0x100 then '\\' :: 'x' :: hexadecimal 2 c.toNat
  else if c.toNat < 0x10000 then '\\' :: 'u' :: hexadecimal 4 c.toNat
  else '\\' :: 'U' :: hexadecimal 8 c.toNat

/-- A text in quotes. -/
def quotedText (s : String) : String :=
  let chars := s.toList
  let quote := quoteFor chars
  String.ofList (quote :: chars.flatMap (escapedChar quote) ++ [quote])

/-- Bytes in quotes, marked as bytes; only ASCII is shown as it is. -/
def quotedBytes (bytes : List UInt8) : String :=
  let chars := bytes.map fun b => Char.ofNat b.toNat
  let quote := quoteFor chars
  let escaped (c : Char) : List Char :=
    if c.toNat < 0x80 then escapedChar quote c else '\\' :: 'x' :: hexadecimal 2 c.toNat
  String.ofList ('b' :: quote :: chars.flatMap escaped ++ [quote])

/-- How decimals are written: positionally when the leading digit has an exponent from `-4` to
`15`, always with a point; otherwise with an exponent of a sign and at least two digits. -/
def decimalText (d : Decimal.Scaled) : String :=
  let ds := Decimal.digitsOf d.digits
  let count : Int := ds.length
  let lead := d.exponent + count - 1
  let body : List Char :=
    if -4 ≤ lead ∧ lead < 16 then
      if d.exponent ≥ 0 then ds ++ List.replicate d.exponent.toNat '0' ++ ['.', '0']
      else if lead ≥ 0 then ds.take (lead + 1).toNat ++ '.' :: ds.drop (lead + 1).toNat
      else '0' :: '.' :: List.replicate (-lead - 1).toNat '0' ++ ds
    else
      let mantissa := match ds with
        | c :: e :: es => c :: '.' :: e :: es
        | other => other
      mantissa ++ 'e' :: (if lead < 0 then '-' else '+') :: Decimal.padded 2 lead.natAbs
  String.ofList body

/-- The shortest text that reads back as the same double. -/
def floatText (x : Float) : String :=
  if x.isNaN then "nan"
  else if x.isInf then (if x < 0 then "-inf" else "inf")
  else
    let negative := x.toBits.toNat ≥ Nat.pow 2 63
    let magnitude := Decimal.Binary.ofBits x.toBits
    let text := if magnitude.mantissa = 0 then "0.0" else decimalText (Decimal.shortest magnitude)
    if negative then "-" ++ text else text

/-- A number with at least `width` digits. -/
def padded (width n : Nat) : String := String.ofList (Decimal.padded width n)

/-- A day as `year-month-day`. -/
def Date.text (d : Date) : String := s!"{padded 4 d.year}-{padded 2 d.month}-{padded 2 d.day}"

/-- The hours and minutes by which a clock is ahead, with their sign. -/
def offsetText (minutes : Int) : String :=
  let sign := if minutes < 0 then "-" else "+"
  s!"{sign}{padded 2 (minutes.natAbs / 60)}:{padded 2 (minutes.natAbs % 60)}"

/-- A day and time as `day hour:minute:second`, with the parts of a second and the offset that
are there. -/
def Moment.text (m : Moment) : String :=
  let fraction := if m.microsecond = 0 then "" else "." ++ padded 6 m.microsecond
  let offset := (m.offset.map offsetText).getD ""
  s!"{m.date.text} {padded 2 m.hour}:{padded 2 m.minute}:{padded 2 m.second}" ++ fraction ++ offset

/-- The constructor call that stands for a number of minutes. -/
def durationCall (minutes : Int) : String :=
  let seconds := minutes * 60
  let days := seconds.fdiv 86400
  let rest := seconds.fmod 86400
  let parts := (if days = 0 then [] else [s!"days={days}"])
    ++ (if rest = 0 then [] else [s!"seconds={rest}"])
  "datetime.timedelta(" ++ ", ".intercalate parts ++ ")"

/-- The constructor call that stands for a clock's offset. -/
def offsetCall (minutes : Int) : String :=
  if minutes = 0 then "datetime.timezone.utc"
  else "datetime.timezone(" ++ durationCall minutes ++ ")"

/-- The constructor call that stands for a day. -/
def Date.call (d : Date) : String := s!"datetime.date({d.year}, {d.month}, {d.day})"

/-- The constructor call that stands for a day and time.  Seconds are left out when they and the
microseconds are zero. -/
def Moment.call (m : Moment) : String :=
  let d := m.date
  let fields := [d.year, d.month, d.day, m.hour, m.minute]
    ++ (if m.second = 0 ∧ m.microsecond = 0 then [] else [m.second])
    ++ (if m.microsecond = 0 then [] else [m.microsecond])
  let zone := match m.offset with
    | none => []
    | some minutes => ["tzinfo=" ++ offsetCall minutes]
  "datetime.datetime(" ++ ", ".intercalate (fields.map toString ++ zone) ++ ")"

namespace Value

/-- A value as it stands inside another: texts in quotes, compound values with brackets. -/
def quoted : Value → String
  | null => "None"
  | bool b => if b then "True" else "False"
  | int n => toString n
  | float x => floatText x
  | text s => quotedText s
  | bytes b => quotedBytes b
  | date d => d.call
  | moment m => m.call
  | list items => "[" ++ ", ".intercalate (quotedItems items) ++ "]"
  | tuple [x] => "(" ++ quoted x ++ ",)"
  | tuple items => "(" ++ ", ".intercalate (quotedItems items) ++ ")"
  | set [] => "set()"
  | set items => "\x7b" ++ ", ".intercalate (quotedItems items) ++ "\x7d"
  | map entries => "\x7b" ++ ", ".intercalate (quotedEntries entries) ++ "\x7d"
  | again isMap => if isMap then "\x7b...\x7d" else "[...]"
where
  /-- The items of a list. -/
  quotedItems : List Value → List String
  | [] => []
  | x :: xs => quoted x :: quotedItems xs
  /-- The entries of a mapping. -/
  quotedEntries : List (Value × Value) → List String
  | [] => []
  | (k, v) :: rest => (quoted k ++ ": " ++ quoted v) :: quotedEntries rest

/-- A value as a name or part of a message: texts and times without quotes. -/
def display : Value → String
  | text s => s
  | date d => d.text
  | moment m => m.text
  | v => v.quoted

/-- The name of the kind of a value. -/
def kind : Value → String
  | null => "NoneType"
  | bool _ => "bool"
  | int _ => "int"
  | float _ => "float"
  | text _ => "str"
  | bytes _ => "bytes"
  | date _ => "date"
  | moment _ => "datetime"
  | list _ => "list"
  | tuple _ => "tuple"
  | set _ => "set"
  | map _ => "dict"
  | again isMap => if isMap then "dict" else "list"

/-- Whether a value has a text. -/
def isWritable : Value → Bool
  | int n => Decimal.isWritable n
  | list items | tuple items | set items => areWritable items
  | map entries => entriesAreWritable entries
  | _ => true
where
  /-- Whether values have texts. -/
  areWritable : List Value → Bool
  | [] => true
  | x :: xs => isWritable x && areWritable xs
  /-- Whether the keys and values of a mapping have texts. -/
  entriesAreWritable : List (Value × Value) → Bool
  | [] => true
  | (k, v) :: rest => isWritable k && isWritable v && entriesAreWritable rest

end Value

end SqlTables.Document
