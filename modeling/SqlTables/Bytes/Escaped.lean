import SqlTables.Bytes.Decoder
import SqlTables.Text.Repertoire

/-!
# Escaped text

The first 256 code points by their bytes, and all others by escapes that a backslash begins.  The
full form has the escapes of string literals; the raw form has only those of code points.
-/

set_option autoImplicit false

namespace SqlTables.Bytes.Escaped

open Text (Repertoire)

variable [Repertoire]

/-- The value of a hexadecimal digit. -/
def hexDigit? (b : UInt8) : Option Nat :=
  let n := b.toNat
  if 0x30 ≤ n ∧ n ≤ 0x39 then some (n - 0x30)
  else if 0x41 ≤ n ∧ n ≤ 0x46 then some (n - 0x41 + 10)
  else if 0x61 ≤ n ∧ n ≤ 0x66 then some (n - 0x61 + 10)
  else none

/-- The value of an octal digit. -/
def octalDigit? (b : UInt8) : Option Nat :=
  if 0x30 ≤ b.toNat ∧ b.toNat ≤ 0x37 then some (b.toNat - 0x30) else none

/-- Digits at the head of bytes, at most so many: their number and their value. -/
def leading (digit? : UInt8 → Option Nat) (base value : Nat) : Nat → List UInt8 → Nat × Nat
  | 0, _ => (0, value)
  | _ + 1, [] => (0, value)
  | most + 1, b :: rest =>
    match digit? b with
    | some d =>
      let (count, whole) := leading digit? base (value * base + d) most rest
      (count + 1, whole)
    | none => (0, value)

/-- The piece of an escape of a code point, from the bytes behind its letter. -/
def codePoint (length : Nat) (truncated beyond : String) (rest : List UInt8) : Piece :=
  let (count, value) := leading hexDigit? 16 0 length rest
  if count < length then .fault truncated (count + 1)
  else if 0x110000 ≤ value then .fault beyond (count + 1)
  else .char (Repertoire.charOf value) (count + 1)

/-- The wording of a short escape of two digits. -/
def shortByte : String := "truncated \\xXX escape"

/-- The wording of a short escape of four digits. -/
def shortUnit : String := "truncated \\uXXXX escape"

/-- The wording of a short escape of eight digits. -/
def shortPoint : String := "truncated \\UXXXXXXXX escape"

/-- The piece of an escape by name, from the bytes behind its letter. -/
def named (rest : List UInt8) : Piece :=
  match rest with
  | [] => .fault "malformed \\N character escape" 1
  | b :: more =>
    if b ≠ 0x7B then .fault "malformed \\N character escape" 1
    else
      let name := more.takeWhile (· ≠ 0x7D)
      if name.length = more.length then
        .fault "malformed \\N character escape" (2 + name.length)
      else if name.isEmpty then .fault "malformed \\N character escape" 2
      else match Repertoire.ofName? name with
        | some c => .char c (3 + name.length)
        | none => .fault "unknown Unicode character name" (3 + name.length)

/-- The characters that letters stand for in escapes. -/
def letters : List (Char × Char) :=
  [('\\', '\\'), ('\'', '\''), ('"', '"'), ('b', '\x08'), ('f', '\x0C'), ('t', '\t'), ('n', '\n'),
    ('r', '\x0D'), ('v', '\x0B'), ('a', '\x07')]

/-- The piece of an escape in the full form. -/
def escape : List UInt8 → Piece
  | [] => .fault "\\ at end of string" 0
  | b :: rest =>
    let c := Char.ofNat b.toNat
    match letters.lookup c with
    | some meant => .char meant 1
    | none =>
      if c = '\n' then .chars [] 1
      else if c = 'x' then codePoint 2 shortByte "illegal Unicode character" rest
      else if c = 'u' then codePoint 4 shortUnit "illegal Unicode character" rest
      else if c = 'U' then codePoint 8 shortPoint "illegal Unicode character" rest
      else if c = 'N' then named rest
      else if (octalDigit? b).isSome then
        let (count, value) := leading octalDigit? 8 0 3 (b :: rest)
        .char (Char.ofNat value) count
      else .chars ['\\', c] 1

/-- The piece of an escape in the raw form. -/
def rawEscape : List UInt8 → Piece
  | [] => .char '\\' 0
  | b :: rest =>
    let c := Char.ofNat b.toNat
    if c = 'u' then codePoint 4 shortUnit "\\Uxxxxxxxx out of range" rest
    else if c = 'U' then codePoint 8 shortPoint "\\Uxxxxxxxx out of range" rest
    else .chars ['\\', c] 1

/-- The piece at the head of bytes, for a way to read escapes. -/
def next (escape : List UInt8 → Piece) (b : UInt8) (rest : List UInt8) : Piece :=
  if b = 0x5C then escape rest else .char (Char.ofNat b.toNat) 0

/-- The decoder of the full form. -/
def decoder : Decoder := .plain "unicodeescape" (next escape)

/-- The decoder of the raw form. -/
def rawDecoder : Decoder := .plain "rawunicodeescape" (next rawEscape)

end SqlTables.Bytes.Escaped
