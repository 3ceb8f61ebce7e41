import SqlTables.Decimal.Reading
import SqlTables.Document.ReadError
import SqlTables.Document.Yaml.Implicit
import SqlTables.Text.Blank
import SqlTables.Text.Case
import SqlTables.Text.Digit

/-!
# Numbers of scalars

What a scalar that is a number stands for.  Its tag may make any text a number, so the readers here
accept more than the plain notations: blanks around the digits, signs within signs, and the decimal
digits of every script.
-/

set_option autoImplicit false

namespace SqlTables.Document.Yaml

/-- A character outside ASCII as a number reads it: a blank is a space, a digit the ASCII digit of
the same value; any other is no part of a number. -/
def plainChar (c : Char) : Char :=
  if c.toNat < 0x7F then c
  else if Text.isBlank c then ' '
  else match Text.decimalValue? c with
    | some d => Char.ofNat (0x30 + d)
    | none => '?'

/-- A literal in the characters that numbers are made of. -/
def plainLiteral (literal : List Char) : List Char :=
  if literal.all (·.toNat < 0x80) then literal else literal.map plainChar

/-- Whether a character may stand around a number. -/
def isPadding (c : Char) : Bool := c == ' ' || (0x09 ≤ c.toNat && c.toNat ≤ 0x0D)

/-- The letter that may stand behind a zero in front of the digits of a base. -/
def baseLetter? : Nat → Option Char
  | 2 => some 'b'
  | 8 => some 'o'
  | 16 => some 'x'
  | _ => none

/-- Digits of a base without the zero and letter that may stand in front of them. -/
def withoutBaseMark (base : Nat) (s : List Char) : List Char :=
  match s with
  | '0' :: c :: rest => if baseLetter? base = some c.toLower then rest else s
  | _ => s

/-! ## Whole numbers -/

/-- The number that digits of a base stand for, with blanks around them, a sign and the mark of the
base in front.  The length of digits in base ten is limited. -/
def number (base : Nat) (literal : List Char) : Except ReadError Int :=
  let signed := (plainLiteral literal).dropWhile isPadding
  let s := withoutBaseMark base (ScalarKind.unsigned signed)
  let ds := s.takeWhile (Decimal.digitValue · < base)
  if base = 10 ∧ Decimal.mostDigits < ds.length then .error (.tooLong (.reading ds.length))
  else if ds.isEmpty || !(s.drop ds.length).all isPadding then
    .error (.notWhole base (String.ofList literal))
  else
    let n : Int := Decimal.ofDigits base ds
    .ok (if signed.head? == some '-' then -n else n)

/-- The number that groups of sixty stand for. -/
def groupedWhole (groups : List (List Char)) : Except ReadError Int := do
  let ns ← groups.mapM (number 10)
  return ns.foldl (fun acc n => acc * 60 + n) 0

/-- A whole number in one of its notations; underscores do not count. -/
def intOf (text : String) : Except ReadError Int := do
  let chars := text.toList.filter (· != '_')
  let body := ScalarKind.unsigned chars
  let magnitude ←
    match body with
    | [] => .error .noDigits
    | ['0'] => .ok 0
    | '0' :: 'b' :: ds => number 2 ds
    | '0' :: 'x' :: ds => number 16 ds
    | '0' :: _ => number 8 body
    | _ => groupedWhole (ScalarKind.splitAt ':' body)
  return if chars.head? == some '-' then -magnitude else magnitude

/-! ## Decimals -/

/-- An exponent in small letters, or none at all. -/
def exponent? : List Char → Option Int
  | [] => some 0
  | 'e' :: s =>
    let ds := ScalarKind.unsigned s
    if ds.isEmpty || !ds.all Char.isDigit then none
    else some (if s.head? == some '-' then -(Decimal.ofDigits 10 ds : Int) else Decimal.ofDigits 10 ds)
  | _ => none

/-- A decimal without sign and groups, in small letters. -/
def unsignedDecimal? (s : List Char) : Option Float :=
  if s = "inf".toList ∨ s = "infinity".toList then some (1.0 / 0.0)
  else if s = "nan".toList then some (0.0 / 0.0)
  else
    let whole := s.takeWhile Char.isDigit
    let (places, rest) :=
      match s.drop whole.length with
      | '.' :: more => (more.takeWhile Char.isDigit, more.dropWhile Char.isDigit)
      | other => ([], other)
    if whole.isEmpty && places.isEmpty then none
    else (exponent? rest).map fun e => Decimal.toFloat false (whole ++ places) (e - places.length)

/-- A decimal without groups, with blanks around it and a sign in front. -/
def decimalOf (literal : List Char) : Except ReadError Float :=
  let started := (plainLiteral literal).dropWhile isPadding
  let s := (started.reverse.dropWhile isPadding).reverse
  match unsignedDecimal? (ScalarKind.unsigned s) with
  | some x => .ok (if s.head? == some '-' then -x else x)
  | none => .error (.notDecimal (String.ofList literal))

/-- The sum of groups, the last first, with the powers of sixty from a given one on. -/
def groupedSum : Float → Int → List Float → Except ReadError Float
  | sum, _, [] => .ok sum
  | sum, power, x :: rest =>
    match Decimal.ofInt? power with
    | some p => groupedSum (sum + x * p) (power * 60) rest
    | none => .error .beyondDoubles

/-- The characters of a decimal that count, in small letters. -/
def decimalChars (text : String) : List Char := Text.lower (text.toList.filter (· != '_'))

/-- Whether a scalar names the undefined number, which is one number wherever it is named. -/
def namesUndefined (text : String) : Bool :=
  ScalarKind.unsigned (decimalChars text) == ".nan".toList

/-- A decimal in one of its notations; underscores do not count. -/
def floatOf (text : String) : Except ReadError Float := do
  let chars := decimalChars text
  if chars.isEmpty then .error .noDigits
  let body := ScalarKind.unsigned chars
  let magnitude ←
    if body = ".inf".toList then .ok (1.0 / 0.0)
    else if body = ".nan".toList then .ok (0.0 / 0.0)
    else if body.contains ':' then do
      let groups ← (ScalarKind.splitAt ':' body).mapM decimalOf
      groupedSum 0.0 1 groups.reverse
    else decimalOf body
  return if chars.head? == some '-' then -magnitude else magnitude

end SqlTables.Document.Yaml
