import SqlTables.Decimal.Binary
import SqlTables.Document.Calendar

/-!
# Document values

What a JSON or YAML document holds.  Mappings keep the order of their entries; a key stands in a
mapping once, and `insert` gives a repeated key its last value at its first place.
-/

set_option autoImplicit false

namespace SqlTables.Document

/-- A value of a document. -/
inductive Value where
  | null
  | bool (b : Bool)
  | int (n : Int)
  | float (x : Float)
  | text (s : String)
  | bytes (b : List UInt8)
  | date (d : Date)
  | moment (m : Moment)
  | list (items : List Value)
  | tuple (items : List Value)
  | set (items : List Value)
  | map (entries : List (Value × Value))
  /-- A list or mapping where it stands inside itself. -/
  | again (isMap : Bool)
deriving Repr, Inhabited

namespace Value

/-- The whole number that a double is, if it is one. -/
def wholeFloat? (x : Float) : Option Int :=
  if x.isNaN || x.isInf then none
  else
    let (n, d) := (Decimal.Binary.ofBits x.toBits).quotient
    if n % d = 0 then some (if x < 0.0 then -((n / d : Nat) : Int) else ((n / d : Nat) : Int))
    else none

/-- The whole number that a number or truth value is, if it is one. -/
def whole? : Value → Option Int
  | bool b => some (if b then 1 else 0)
  | int n => some n
  | float x => wholeFloat? x
  | _ => none

/-- Whether two values are the same key.  Numbers and truth values are compared as numbers, without
any rounding, so `1`, `1.0` and `true` are one key; the undefined number is a key like others; times
are compared as instants; compound values are compared part by part. -/
def sameKey : Value → Value → Bool
  | null, null => true
  | text a, text b => a == b
  | bytes a, bytes b => a == b
  | date a, date b => a == b
  | moment a, moment b => a.isSame b
  | int a, int b => a == b
  | float a, float b => a == b || (a.isNaN && b.isNaN)
  | tuple a, tuple b => sameItems a b
  | a, b =>
    match a.whole?, b.whole? with
    | some m, some n => m == n
    | _, _ => false
where
  /-- Whether two lists hold the same keys one by one. -/
  sameItems : List Value → List Value → Bool
  | [], [] => true
  | a :: as, b :: bs => sameKey a b && sameItems as bs
  | _, _ => false

/-- The value under a key of a list of entries. -/
def lookup (key : Value) (entries : List (Value × Value)) : Option Value :=
  (entries.find? (sameKey key ·.1)).map (·.2)

/-- Entries with a key set to a value: in its place if the key is there, else at the end. -/
def insert (key value : Value) : List (Value × Value) → List (Value × Value)
  | [] => [(key, value)]
  | (k, v) :: rest => if sameKey key k then (k, value) :: rest else (k, v) :: insert key value rest

/-- The entries of a mapping written as this list of pairs. -/
def collect (pairs : List (Value × Value)) : List (Value × Value) :=
  pairs.foldl (fun entries p => insert p.1 p.2 entries) []

/-- The value under a text key of a mapping. -/
def get? (v : Value) (key : String) : Option Value :=
  match v with
  | map entries => lookup (text key) entries
  | _ => none

/-- Whether a value counts as given: null, false, zero and empty values do not. -/
def isGiven : Value → Bool
  | null => false
  | bool b => b
  | int n => n != 0
  | float x => !(x == 0.0)
  | text s => s != ""
  | bytes b => !b.isEmpty
  | date _ | moment _ | again _ => true
  | list items | tuple items | set items => !items.isEmpty
  | map entries => !entries.isEmpty

end Value

end SqlTables.Document
