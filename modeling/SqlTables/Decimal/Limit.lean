/-!
# The longest decimals

Whole numbers of very many decimal digits are neither read nor written in base ten, since that
takes time out of proportion to their length.  Bases that are powers of two have no such limit.
-/

set_option autoImplicit false

namespace SqlTables.Decimal

/-- The most decimal digits that a whole number is read or written with. -/
def mostDigits : Nat := 4300

/-- Whether a whole number is short enough to be written. -/
def isWritable (n : Int) : Bool := n.natAbs < Nat.pow 10 mostDigits

/-- A whole number that is too long. -/
inductive LimitError where
  /-- It was to be read, and has so many digits. -/
  | reading (digits : Nat)
  | writing
deriving DecidableEq, Repr

/-- The wording of a limit error. -/
def LimitError.message (e : LimitError) : String :=
  let detail := match e with
    | reading digits => s!": value has {digits} digits"
    | writing => ""
  s!"Exceeds the limit ({mostDigits} digits) for integer string conversion" ++ detail
    ++ "; use sys.set_int_max_str_digits() to increase the limit"

end SqlTables.Decimal
