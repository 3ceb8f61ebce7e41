import SqlTables.Bytes.Decoder
import SqlTables.Text.Repertoire

/-!
# Punycode

Text in the letters, digits and hyphens of ASCII.  What stands before the last hyphen is taken as it
is; behind it are numbers of variable length that say, one after the other, how far to go through
all places of all code points to the next character to insert.
-/

set_option autoImplicit false

namespace SqlTables.Bytes.Punycode

open Text (Repertoire)

/-- The value of a digit: letters come before decimal digits. -/
def digit? (c : Char) : Option Nat :=
  if 'A' ≤ c ∧ c ≤ 'Z' then some (c.toNat - 0x41)
  else if '0' ≤ c ∧ c ≤ '9' then some (c.toNat - 0x30 + 26)
  else none

/-- The least digit at a place that another digit follows. -/
def threshold (place bias : Nat) : Nat := max 1 (min 26 (36 * (place + 1) - bias))

/-- Reads a number from a place on, of which the places so far make `sum` and the next one counts
`weight`: the number and the rest. -/
def number (bias place sum weight : Nat) : List Char → Except String (Nat × List Char)
  | [] => .error "incomplete punicode string"
  | c :: rest =>
    match digit? c with
    | none => .error ("Invalid extended code point '" ++ String.ofList [c] ++ "'")
    | some d =>
      let least := threshold place bias
      if d < least then .ok (sum + d * weight, rest)
      else number bias (place + 1) (sum + d * weight) (weight * (36 - least)) rest

/-- Reading a number uses up characters. -/
theorem length_of_number (bias : Nat) (cs rest : List Char) :
    ∀ (place sum weight n : Nat),
      number bias place sum weight cs = .ok (n, rest) → rest.length < cs.length := by
  induction cs with
  | nil => intro place sum weight n h; simp [number] at h
  | cons c cs ih =>
    intro place sum weight n h
    simp only [number] at h
    split at h
    · simp at h
    · split at h
      · simp only [Except.ok.injEq, Prod.mk.injEq] at h
        simp [← h.2]
      · have := ih _ _ _ _ h
        simp only [List.length_cons]
        omega

/-- Divides a distance by 35 until it is small, with 36 for each time. -/
def reduced (delta divisions : Nat) : Nat × Nat :=
  if 455 < delta then reduced (delta / 35) (divisions + 36) else (delta, divisions)
termination_by delta
decreasing_by omega

/-- The bias for the number behind one of a distance, which made the text `size` long. -/
def adapted (delta : Nat) (isFirst : Bool) (size : Nat) : Nat :=
  let damped := if isFirst then delta / 700 else delta / 2
  let (rest, divisions) := reduced (damped + damped / size) 0
  divisions + 36 * rest / (rest + 38)

variable [Repertoire]

/-- Inserts characters into a text: the last one was of `code`, and the search goes on at
`place`. -/
def inserted (isFirst : Bool) (bias code place : Nat) (text : List Char) (numbers : List Char) :
    Except String (List Char) :=
  match numbers with
  | [] => .ok text
  | c :: cs =>
    match _h : number bias 0 0 1 (c :: cs) with
    | .error reason => .error reason
    | .ok (delta, rest) =>
      let size := text.length + 1
      let next := code + (place + delta) / size
      let spot := (place + delta) % size
      if 0x10FFFF < next then
        .error ("Invalid character U+" ++ String.ofList (Nat.toDigits 16 next))
      else
        inserted false (adapted delta isFirst size) next (spot + 1)
          (text.take spot ++ Repertoire.charOf next :: text.drop spot) rest
termination_by numbers.length
decreasing_by exact length_of_number _ _ _ _ _ _ _ _h

/-- The text of bytes. -/
def decode (bytes : List UInt8) : Except TextFault (List Char) := do
  let behind := (bytes.reverse.takeWhile (· ≠ 0x2D)).reverse
  let before := bytes.take (bytes.length - behind.length - 1)
  let ascii (bs : List UInt8) := (Decoder.ascii.decode bs).mapError TextFault.bytes
  let text ← ascii before
  let numbers ← ascii behind
  (inserted true 72 0x80 0 text (numbers.map Char.toUpper)).mapError TextFault.whole

end SqlTables.Bytes.Punycode
