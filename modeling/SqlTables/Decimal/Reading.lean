import SqlTables.Decimal.Binary

/-!
# Reading decimals

Digits of a base as natural numbers, and decimals with an exponent as the nearest double.
-/

set_option autoImplicit false

namespace SqlTables.Decimal

/-- The value of a digit of base thirty-six. -/
def digitValue (c : Char) : Nat :=
  let n := c.toNat
  if c.isDigit then n - 0x30
  else if 0x61 ≤ n && n ≤ 0x7A then n - 0x57
  else if 0x41 ≤ n && n ≤ 0x5A then n - 0x37
  else 36

/-- The number that digits of a base stand for. -/
def ofDigits (base : Nat) (ds : List Char) : Nat :=
  ds.foldl (fun acc c => acc * base + digitValue c) 0

/-- The double nearest to `± digits · 10 ^ exponent`.  Decimals far outside the range of doubles
are settled by their number of digits, before any power is computed. -/
def toFloat (negative : Bool) (digits : List Char) (exponent : Int) : Float :=
  let significant := digits.dropWhile (· == '0')
  let top := exponent + significant.length
  let magnitude : Float :=
    if significant.isEmpty || top < -400 then 0.0
    else if top > 400 then 1.0 / 0.0
    else
      let m := ofDigits 10 significant
      match exponent with
      | .ofNat e => (Binary.nearest (m * Nat.pow 10 e) 1).toFloat
      | .negSucc e => (Binary.nearest m (Nat.pow 10 (e + 1))).toFloat
  if negative then -magnitude else magnitude

/-- The double nearest to a whole number, unless it is larger than all. -/
def ofInt? (n : Int) : Option Float :=
  let x := (Binary.nearest n.natAbs 1).toFloat
  if x.isInf then none else some (if n < 0 then -x else x)

end SqlTables.Decimal
