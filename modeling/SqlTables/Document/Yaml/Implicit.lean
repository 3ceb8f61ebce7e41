import SqlTables.Decimal.Reading
import SqlTables.Document.Display

/-!
# Kinds of plain scalars

The text of a plain scalar says its kind: truth values, whole numbers in four bases and in groups
of sixty, decimals, days and times, and nothing.  What is none of these is text.
-/

set_option autoImplicit false

namespace SqlTables.Document.Yaml

/-- The kinds that a plain scalar may have. -/
inductive ScalarKind where
  | bool
  | float
  | int
  | merge
  | null
  | timestamp
  | value
  | text
deriving DecidableEq, Repr

namespace ScalarKind

/-- The tag of a kind, after the front that all have. -/
def name : ScalarKind → String
  | bool => "bool"
  | float => "float"
  | int => "int"
  | merge => "merge"
  | null => "null"
  | timestamp => "timestamp"
  | value => "value"
  | text => "str"

/-- The spellings of the truth values. -/
def truthSpellings : List String := [
  "yes", "Yes", "YES", "no", "No", "NO", "true", "True", "TRUE", "false", "False", "FALSE",
  "on", "On", "ON", "off", "Off", "OFF"]

/-- The spellings of nothing. -/
def nullSpellings : List String := ["~", "null", "Null", "NULL", ""]

/-- A digit or an underscore. -/
def isLoose (c : Char) : Bool := c.isDigit || c == '_'

/-- A text without the sign in front of it. -/
def unsigned : List Char → List Char
  | '+' :: rest => rest
  | '-' :: rest => rest
  | s => s

/-- The parts of a text between occurrences of a character. -/
def splitAt (c : Char) : List Char → List (List Char)
  | [] => [[]]
  | x :: rest =>
    if x = c then [] :: splitAt c rest
    else match splitAt c rest with
      | p :: ps => (x :: p) :: ps
      | [] => [[x]]

/-- Whether a text is a group of at most fifty-nine. -/
def isSixtieth : List Char → Bool
  | [d] => d.isDigit
  | [t, d] => '0' ≤ t && t ≤ '5' && d.isDigit
  | _ => false

/-- Whether a text is a first group and further ones of at most fifty-nine, at least one. -/
def isGrouped (isFirst : List Char → Bool) (s : List Char) : Bool :=
  match splitAt ':' s with
  | first :: more => isFirst first && !more.isEmpty && more.all isSixtieth
  | [] => false

/-- Whether a text begins with a digit and goes on with digits and underscores. -/
def isDigits : List Char → Bool
  | d :: rest => d.isDigit && rest.all isLoose
  | [] => false

/-- Whether a text is such and its first digit is not zero. -/
def isPositive (s : List Char) : Bool := isDigits s && s.head? != some '0'

/-- Whether a text without sign is a whole number. -/
def isUnsignedInt (s : List Char) : Bool :=
  match s with
  | ['0'] => true
  | '0' :: 'b' :: ds => !ds.isEmpty && ds.all fun c => c == '0' || c == '1' || c == '_'
  | '0' :: 'x' :: ds => !ds.isEmpty && ds.all fun c => Decimal.digitValue c < 16 || c == '_'
  | '0' :: ds => !ds.isEmpty && ds.all fun c => ('0' ≤ c && c ≤ '7') || c == '_'
  | _ => isPositive s || isGrouped isPositive s

/-- Whether a text is an exponent with its sign, or nothing. -/
def isExponent : List Char → Bool
  | [] => true
  | e :: sign :: ds =>
    (e == 'e' || e == 'E') && (sign == '+' || sign == '-') && !ds.isEmpty && ds.all Char.isDigit
  | _ => false

/-- Whether what follows the point of a decimal is digits and an exponent. -/
def isFraction (s : List Char) : Bool := isExponent (s.dropWhile isLoose)

/-- Whether a text without sign is a decimal with digits before its point. -/
def isUnsignedDecimal (s : List Char) : Bool :=
  let whole := s.takeWhile fun c => isLoose c || c == ':'
  match s.drop whole.length with
  | '.' :: rest => (isDigits whole && isFraction rest)
      || (isGrouped isDigits whole && rest.all isLoose)
  | _ => false

/-- Whether a text is a decimal. -/
def isFloat (s : List Char) : Bool :=
  isUnsignedDecimal (unsigned s)
    || (match s with
        | '.' :: d :: rest => d.isDigit && isFraction rest
        | _ => false)
    || [".inf", ".Inf", ".INF"].contains (String.ofList (unsigned s))
    || [".nan", ".NaN", ".NAN"].contains (String.ofList s)

end ScalarKind

/-- A text without the line feed at its end. -/
def withoutLastFeed (s : List Char) : List Char :=
  if s.getLast? == some '\n' then s.dropLast else s

/-- The parts of a day and a time as written. -/
structure Stamp where
  year : List Char
  month : List Char
  day : List Char
  /-- Hour, minute, second, digits after the point, and offset. -/
  time : Option (List Char × List Char × List Char × List Char × Option Int)
deriving DecidableEq, Repr

namespace Stamp

/-- Between `least` and `most` digits at the head of a text, as many as there are. -/
def digits? (least most : Nat) (s : List Char) : Option (List Char × List Char) :=
  let ds := (s.takeWhile Char.isDigit).take most
  if ds.length < least then none else some (ds, s.drop ds.length)

/-- What follows a character. -/
def after? (c : Char) : List Char → Option (List Char)
  | x :: rest => if x = c then some rest else none
  | [] => none

/-- A text without the spaces and tabs in front of it. -/
def skipSpaces (s : List Char) : List Char := s.dropWhile fun c => c == ' ' || c == '\t'

/-- The offset at the end of a time, in minutes. -/
def offset? (s : List Char) : Option (Option Int) :=
  match skipSpaces s with
  | [] => if s.isEmpty then some none else none
  | ['Z'] => some (some 0)
  | sign :: rest => do
    let negative ← if sign = '-' then some true else if sign = '+' then some false else none
    let (hour, afterHour) ← digits? 1 2 rest
    let minute ←
      match afterHour with
      | [] => some ['0']
      | _ => do
        let (m, left) ← digits? 2 2 (← after? ':' afterHour)
        if left.isEmpty then some m else none
    let minutes : Int := Decimal.ofDigits 10 hour * 60 + Decimal.ofDigits 10 minute
    return some (if negative then -minutes else minutes)

/-- The time after a day. -/
def time? (s : List Char) : Option (List Char × List Char × List Char × List Char × Option Int) := do
  let body ←
    match s with
    | 'T' :: rest => some rest
    | 't' :: rest => some rest
    | _ => if (skipSpaces s).length < s.length then some (skipSpaces s) else none
  let (hour, afterHour) ← digits? 1 2 body
  let (minute, afterMinute) ← digits? 2 2 (← after? ':' afterHour)
  let (second, afterSecond) ← digits? 2 2 (← after? ':' afterMinute)
  let (fraction, rest) :=
    match afterSecond with
    | '.' :: more => (more.takeWhile Char.isDigit, more.dropWhile Char.isDigit)
    | other => ([], other)
  let offset ← offset? rest
  return (hour, minute, second, fraction, offset)

/-- The parts of a text that is a day or a day and a time. -/
def parse? (s : List Char) : Option Stamp := do
  let (year, afterYear) ← digits? 4 4 s
  let (month, afterMonth) ← digits? 1 2 (← after? '-' afterYear)
  let (day, rest) ← digits? 1 2 (← after? '-' afterMonth)
  if rest.isEmpty then return ⟨year, month, day, none⟩
  else return ⟨year, month, day, some (← time? rest)⟩

/-- Whether the parts are written as a plain scalar has them: month and day in two digits each
where there is no time. -/
def isPlain (s : Stamp) : Bool := s.time.isSome || (s.month.length = 2 && s.day.length = 2)

/-- The day with a year, month and day, or what is out of range. -/
def checkedDate (y m d : Nat) : Except String Date :=
  if y = 0 then .error "year 0 is out of range"
  else if m = 0 ∨ 12 < m then .error "month must be in 1..12"
  else if d = 0 ∨ daysInMonth y m < d then .error "day is out of range for month"
  else .ok ⟨y, m, d⟩

/-- The offset of a time, which must be shorter than a day. -/
def checkedOffset : Option Int → Except String (Option Int)
  | some minutes =>
    if minutes.natAbs < 24 * 60 then .ok (some minutes)
    else .error ("offset must be a timedelta strictly between -timedelta(hours=24) and "
      ++ "timedelta(hours=24), not " ++ durationCall minutes ++ ".")
  | none => .ok none

/-- The value of a day or a day and time, or what is out of range. -/
def toValue (s : Stamp) : Except String Value := do
  let number (ds : List Char) : Nat := Decimal.ofDigits 10 ds
  let offset ← checkedOffset (s.time.bind fun (_, _, _, _, offset) => offset)
  let date ← checkedDate (number s.year) (number s.month) (number s.day)
  match s.time with
  | none => return .date date
  | some (hour, minute, second, fraction, _) =>
    if 23 < number hour then .error "hour must be in 0..23"
    else if 59 < number minute then .error "minute must be in 0..59"
    else if 59 < number second then .error "second must be in 0..59"
    else
      let micro := (fraction ++ List.replicate 6 '0').take 6
      return .moment ⟨date, number hour, number minute, number second, number micro, offset⟩

end Stamp

/-- The kind of a text that a plain scalar may have. -/
def ScalarKind.ofChars (chars : List Char) : ScalarKind :=
  let s := String.ofList chars
  if truthSpellings.contains s then bool
  else if isFloat chars then float
  else if isUnsignedInt (unsigned chars) then int
  else if s = "<<" then merge
  else if nullSpellings.contains s then null
  else if (Stamp.parse? chars).any Stamp.isPlain then timestamp
  else if s = "=" then value
  else text

/-- The kind of a scalar that is like a plain one.  A line feed at its end does not count, unless
it is all there is. -/
def ScalarKind.ofText (s : String) : ScalarKind :=
  if s = "\n" then text else ofChars (withoutLastFeed s.toList)

end SqlTables.Document.Yaml
