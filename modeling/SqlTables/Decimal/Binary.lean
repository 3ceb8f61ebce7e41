/-!
# Binary numbers

Numbers `mantissa · 2 ^ exponent`, among them the magnitudes of all finite doubles.  A ratio is
rounded to the nearest double by exact arithmetic on natural numbers, a tie going to the even
mantissa; what rounds past the greatest double is infinite.
-/

set_option autoImplicit false

namespace SqlTables.Decimal

/-- A quotient rounded to the nearest natural number, a tie to the even one. -/
def roundHalfEven (num den : Nat) : Nat :=
  let q := num / den
  let twice := 2 * (num % den)
  if twice < den ∨ (twice = den ∧ q % 2 = 0) then q else q + 1

/-- The number `mantissa · 2 ^ exponent`. -/
structure Binary where
  mantissa : Nat
  exponent : Int
deriving DecidableEq, Repr

namespace Binary

/-- A binary number as a quotient of natural numbers. -/
def quotient (b : Binary) : Nat × Nat :=
  match b.exponent with
  | .ofNat e => (b.mantissa * Nat.pow 2 e, 1)
  | .negSucc e => (b.mantissa, Nat.pow 2 (e + 1))

/-- The number of bits of a double's mantissa that are written out. -/
def writtenBits : Nat := 52

/-- The least mantissa of a double that is not subnormal. -/
def leastFull : Nat := Nat.pow 2 writtenBits

/-- The exponent of the subnormal doubles, which no double is below. -/
def leastExponent : Int := -1074

/-- The magnitude of a finite double, from its sixty-four bits. -/
def ofBits (bits : UInt64) : Binary :=
  let fraction : Nat := bits.toNat % leastFull
  let field : Nat := bits.toNat / leastFull % Nat.pow 2 11
  if field = 0 then ⟨fraction, leastExponent⟩
  else ⟨leastFull + fraction, (field : Int) - 1 + leastExponent⟩

/-- The binary number of at most fifty-three digits, and of an exponent that doubles have, next to
a ratio.  The mantissa is that of a full double unless the exponent is the least. -/
def nearest (num den : Nat) : Binary :=
  if num = 0 then ⟨0, leastExponent⟩
  else
    let guess : Int := (Nat.log2 num : Int) - (Nat.log2 den : Int) - (writtenBits + 1)
    let exponent := max guess leastExponent
    let (n, d) := match exponent with
      | .ofNat e => (num, den * Nat.pow 2 e)
      | .negSucc e => (num * Nat.pow 2 (e + 1), den)
    if n / d < 2 * leastFull then ⟨roundHalfEven n d, exponent⟩
    else ⟨roundHalfEven n (2 * d), exponent + 1⟩

/-- The bits of infinity. -/
def infiniteBits : Nat := 0x7FF * leastFull

/-- The bits of the double that a rounded binary number is.  The field of the exponent goes on from
the mantissa, so a mantissa of one bit too many counts as the next exponent. -/
def bits (b : Binary) : Nat :=
  min ((b.exponent - leastExponent).toNat * leastFull + b.mantissa) infiniteBits

/-- The double that a rounded binary number is, infinity if it is too large. -/
def toFloat (b : Binary) : Float := Float.ofBits (UInt64.ofNat b.bits)

end Binary

end SqlTables.Decimal
