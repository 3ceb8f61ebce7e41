import SqlTables.Bytes.Decoder
import SqlTables.Text.Repertoire

/-!
# UTF-7

ASCII, in which a plus sign begins a section of base64: digits of six bits that hold units of
sixteen.  A section ends at the first byte that is no digit, and a minus sign there belongs to it.
What is left of the bits must be less than a digit, and zero.
-/

set_option autoImplicit false

namespace SqlTables.Bytes.Utf7

open Text (Repertoire)

variable [Repertoire]

/-- The value of a digit. -/
def digit? (b : UInt8) : Option Nat :=
  let n := b.toNat
  if 0x41 ≤ n ∧ n ≤ 0x5A then some (n - 0x41)
  else if 0x61 ≤ n ∧ n ≤ 0x7A then some (n - 0x61 + 26)
  else if 0x30 ≤ n ∧ n ≤ 0x39 then some (n - 0x30 + 52)
  else if n = 0x2B then some 62
  else if n = 0x2F then some 63
  else none

/-- Whether a byte stands for itself outside sections. -/
def isDirect (b : UInt8) : Bool := b.toNat < 0x80 && b != 0x2B

/-- A section as far as it is read. -/
structure Section where
  /-- The characters, the last one first. -/
  chars : List Char
  /-- The first unit of a pair, waiting for the second. -/
  high : Option Nat
  /-- The number of bits that make no unit yet, and the number they hold. -/
  width : Nat
  bits : Nat
deriving DecidableEq, Repr

namespace Section

/-- A section before its first digit. -/
def start : Section := ⟨[], none, 0, 0⟩

/-- The characters with that of a unit that was waiting in vain. -/
def flushed (s : Section) : List Char :=
  match s.high with
  | some high => Repertoire.charOf high :: s.chars
  | none => s.chars

/-- Adds a unit. -/
def addUnit (s : Section) (unit : Nat) : Section :=
  let isLow := 0xDC00 ≤ unit ∧ unit < 0xE000
  match s.high, decide isLow with
  | some high, true =>
    let n := 0x10000 + (high - 0xD800) * 0x400 + (unit - 0xDC00)
    { s with chars := Char.ofNat n :: s.chars, high := none }
  | _, _ =>
    if 0xD800 ≤ unit ∧ unit < 0xDC00 then { s with chars := s.flushed, high := some unit }
    else { s with chars := Repertoire.charOf unit :: s.flushed, high := none }

/-- Adds a digit. -/
def addDigit (s : Section) (value : Nat) : Section :=
  let width := s.width + 6
  let bits := s.bits * 64 + value
  if width < 16 then { s with width, bits }
  else
    let unit := Nat.pow 2 (width - 16)
    { s.addUnit (bits / unit) with width := width - 16, bits := bits % unit }

end Section

/-- Reads the digits of a section: the section, the number of digits and the bytes behind them. -/
def digits (s : Section) : List UInt8 → Section × Nat × List UInt8
  | [] => (s, 0, [])
  | b :: rest =>
    match digit? b with
    | some value =>
      let (whole, count, after) := digits (s.addDigit value) rest
      (whole, count + 1, after)
    | none => (s, 0, b :: rest)

/-- The piece of a section that other bytes follow. -/
def endedSection (s : Section) (count : Nat) (b : UInt8) : Piece :=
  if 6 ≤ s.width then .fault "partial character in shift sequence" (count + 1)
  else if s.bits ≠ 0 then .fault "non-zero padding bits in shift sequence" (count + 1)
  else
    let chars := if isDirect b then s.flushed else s.chars
    .chars chars.reverse (if b = 0x2D then count + 1 else count)

/-- The piece of a section at the end. -/
def lastSection (s : Section) (count : Nat) : Piece :=
  if s.high.isSome ∨ 6 ≤ s.width ∨ s.bits ≠ 0 then .fault "unterminated shift sequence" count
  else .chars s.chars.reverse count

/-- The piece behind a plus sign. -/
def sectionPiece (rest : List UInt8) : Piece :=
  match rest with
  | [] => lastSection .start 0
  | b :: _ =>
    if b = 0x2D then .char '+' 1
    else if (digit? b).isNone then .fault "ill-formed sequence" 1
    else match digits .start rest with
      | (s, count, []) => lastSection s count
      | (s, count, after :: _) => endedSection s count after

/-- The piece at the head of bytes. -/
def next (b : UInt8) (rest : List UInt8) : Piece :=
  if b = 0x2B then sectionPiece rest
  else if isDirect b then .char (Char.ofNat b.toNat) 0
  else .fault "unexpected special character" 0

/-- The decoder of UTF-7. -/
def decoder : Decoder := .plain "utf7" next

end SqlTables.Bytes.Utf7
