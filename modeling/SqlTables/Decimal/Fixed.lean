import SqlTables.Decimal.Binary

/-!
# Decimals with fixed places

Binary numbers written with a fixed count of decimal places, a tie going to the even neighbour.
-/

set_option autoImplicit false

namespace SqlTables.Decimal

/-- The digits of a natural number in base ten. -/
def digitsOf (n : Nat) : List Char := Nat.toDigits 10 n

/-- Digits with zeros before them up to a width. -/
def padded (width n : Nat) : List Char :=
  let ds := digitsOf n
  List.replicate (width - ds.length) '0' ++ ds

/-- A binary number with `places` digits after the point. -/
def fixed (places : Nat) (b : Binary) : String :=
  let (n, d) := b.quotient
  let unit := Nat.pow 10 places
  let scaled := roundHalfEven (n * unit) d
  String.ofList (digitsOf (scaled / unit) ++ '.' :: padded places (scaled % unit))

end SqlTables.Decimal
