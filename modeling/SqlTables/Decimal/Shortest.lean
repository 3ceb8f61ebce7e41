import SqlTables.Decimal.Binary

/-!
# Shortest decimals

A binary floating-point number stands for all reals that round to it.  Among the decimals in that
interval this module finds one with the fewest digits and, of those, the nearest to the number
itself.  All arithmetic is exact, on natural numbers.
-/

set_option autoImplicit false

namespace SqlTables.Decimal

namespace Binary

/-- The numbers halfway to the two neighbouring doubles.  Below a power of two the doubles lie
twice as close, unless they are subnormal. -/
def halfways (b : Binary) : Binary × Binary :=
  let upper : Binary := ⟨2 * b.mantissa + 1, b.exponent - 1⟩
  if b.mantissa = leastFull ∧ b.exponent > leastExponent then (⟨4 * b.mantissa - 1, b.exponent - 2⟩, upper)
  else (⟨2 * b.mantissa - 1, b.exponent - 1⟩, upper)

end Binary

/-- The number `digits · 10 ^ exponent`. -/
structure Scaled where
  digits : Nat
  exponent : Int
deriving DecidableEq, Repr

/-- A power of ten as a quotient of natural numbers. -/
def tenPower : Int → Nat × Nat
  | .ofNat e => (Nat.pow 10 e, 1)
  | .negSucc e => (1, Nat.pow 10 (e + 1))

/-- Whether a quotient is at most another. -/
def quotientLe (a b : Nat × Nat) : Bool := a.1 * b.2 ≤ b.1 * a.2

/-- The exponent of the leading decimal digit of a positive binary number. -/
def leadingExponent (b : Binary) : Int :=
  let value := b.quotient
  let guess : Int := ((Nat.log2 b.mantissa : Int) + b.exponent) * 30103 / 100000
  if quotientLe (tenPower (guess + 2)) value then guess + 2
  else if quotientLe (tenPower (guess + 1)) value then guess + 1
  else if quotientLe (tenPower guess) value then guess
  else guess - 1

/-- Whether `k` units of `10 ^ e` round to `b`: they lie between the halfway points, which
themselves round to the number with the even mantissa. -/
def roundsTo (b : Binary) (k : Nat) (e : Int) : Bool :=
  let unit := tenPower e
  let x := (k * unit.1, unit.2)
  let (low, high) := b.halfways
  if b.mantissa % 2 = 0 then quotientLe low.quotient x && quotientLe x high.quotient
  else !quotientLe x low.quotient && !quotientLe high.quotient x

/-- The decimal on the grid of `10 ^ e` that is next to `b` and rounds to it, if there is one. -/
def onGrid? (b : Binary) (e : Int) : Option Scaled :=
  let (n, d) := b.quotient
  let (un, ud) := tenPower e
  let below := n * ud / (d * un)
  let fitsBelow := below ≠ 0 && roundsTo b below e
  let fitsAbove := roundsTo b (below + 1) e
  let twiceRest := 2 * (n * ud % (d * un))
  if fitsBelow && fitsAbove then
    if twiceRest < d * un ∨ (twiceRest = d * un ∧ below % 2 = 0) then some ⟨below, e⟩
    else some ⟨below + 1, e⟩
  else if fitsBelow then some ⟨below, e⟩
  else if fitsAbove then some ⟨below + 1, e⟩
  else none

/-- The decimal without the zeros at the end of its digits; `fuel` bounds their number. -/
def Scaled.strip : Nat → Scaled → Scaled
  | 0, x => x
  | fuel + 1, x =>
    if x.digits ≠ 0 ∧ x.digits % 10 = 0 then strip fuel ⟨x.digits / 10, x.exponent + 1⟩ else x

/-- The shortest decimal that rounds to a positive binary number.  Seventeen digits always do. -/
def shortest (b : Binary) : Scaled :=
  let top := leadingExponent b
  let found := (List.range 17).findSome? fun (i : Nat) => onGrid? b (top - (i : Int))
  (found.getD ⟨0, 0⟩).strip 20

end SqlTables.Decimal
