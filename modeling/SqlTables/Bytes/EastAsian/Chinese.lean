import SqlTables.Bytes.EastAsian.ChineseMoreTable
import SqlTables.Bytes.EastAsian.ChineseTable
import SqlTables.Bytes.EastAsian.TraditionalTable

/-!
# Chinese encodings

Simplified characters: the set itself in bytes of eight bits or of seven, the extended encoding
around it, and the national one, which reaches every character.  Traditional characters: one set
and what was added to it.
-/

set_option autoImplicit false

namespace SqlTables.Bytes.EastAsian

/-! ## The simplified set -/

/-- The decoder of the simplified set. -/
def gb2312 : Decoder := pairDecoder "gb2312" fun a b => (highPair? simplified a b).map ([·])

/-! ## The extended encoding -/

/-- The ideographs of the first block that the simplified set lacks, in order. -/
def otherIdeographs : Array Char :=
  let known := (simplified.flatMap fun r => r.chars.toList.map Char.toNat).filter fun n =>
    0x4E00 ≤ n ∧ n ≤ 0x9FA5
  ((leftOut 0x4E00 20902 (known.mergeSort (fun a b => decide (a ≤ b)))).map Char.ofNat).toArray

/-- The place of a trail among all but ASCII's last. -/
def trailPlace? (trail : Nat) : Option Nat :=
  if 0x40 ≤ trail ∧ trail ≤ 0x7E then some (trail - 0x40)
  else if 0x80 ≤ trail ∧ trail ≤ 0xFE then some (trail - 0x41)
  else none

/-- The number of a cell for an ideograph in order.  Rows above those of the set have 190 cells,
rows beside it have 96. -/
def ideographNumber? (lead trail : Nat) : Option Nat := do
  let place ← trailPlace? trail
  if 0x81 ≤ lead ∧ lead ≤ 0xA0 then some ((lead - 0x81) * 190 + place)
  else if 0xAA ≤ lead ∧ lead ≤ 0xFE ∧ place < 96 then
    some (32 * 190 + (lead - 0xAA) * 96 + place)
  else none

/-- The character of two bytes of the extended encoding. -/
def extended? (a b : Nat) : Option Char :=
  match Grid.char? [extendedSigns] a b with
  | some c => some c
  | none => (highPair? simplified a b).or ((ideographNumber? a b).bind (otherIdeographs[·]?))

/-- The decoder of the extended encoding. -/
def gbk : Decoder := pairDecoder "gbk" fun a b => (extended? a b).map ([·])

/-! ## The national encoding -/

/-- The character for private use of two bytes: three zones of cells, one after the other. -/
def privateUse? (a b : Nat) : Option Char :=
  if 0xA1 ≤ b ∧ b ≤ 0xFE ∧ 0xAA ≤ a ∧ a ≤ 0xAF then
    some (Char.ofNat (0xE000 + (a - 0xAA) * 94 + (b - 0xA1)))
  else if 0xA1 ≤ b ∧ b ≤ 0xFE ∧ 0xF8 ≤ a ∧ a ≤ 0xFE then
    some (Char.ofNat (0xE234 + (a - 0xF8) * 94 + (b - 0xA1)))
  else if 0xA1 ≤ a ∧ a ≤ 0xA7 then
    match trailPlace? b with
    | some place =>
      if place < 96 then some (Char.ofNat (0xE4C6 + (a - 0xA1) * 96 + place)) else none
    | none => none
  else none

/-- The character of two bytes of the national encoding. -/
def national? (a b : Nat) : Option Char :=
  ((extended? a b).or (Grid.char? [nationalSigns] a b)).or (privateUse? a b)

/-- The character of the number of a code of four bytes in the basic plane. -/
def ofFourByteNumber? (n : Nat) : Option Char :=
  (fourByteRanges.find? fun r => r.1 ≤ n ∧ n < r.1 + r.2.2).map fun r =>
    Char.ofNat (r.2.1 + (n - r.1))

/-- The character of four bytes.  The codes count up with digits from the last byte on, of which
the second and the fourth have ten and the others 126. -/
def fourBytes? (a b c d : Nat) : Option Char :=
  if a < 0x81 ∨ 0xFE < a ∨ c < 0x81 ∨ 0xFE < c ∨ d < 0x30 ∨ 0x39 < d then none
  else
    let number (lead : Nat) := (lead * 10 + (b - 0x30)) * 1260 + (c - 0x81) * 10 + (d - 0x30)
    if a < 0x85 then ofFourByteNumber? (number (a - 0x81))
    else if 0x90 ≤ a ∧ number (a - 0x90) < 0x100000 then
      some (Char.ofNat (0x10000 + number (a - 0x90)))
    else none

/-- The piece of a lead byte of the national encoding: a digit behind it begins four bytes. -/
def nationalPiece (a : UInt8) (rest : List UInt8) : Piece :=
  match rest with
  | [] => incomplete []
  | b :: more =>
    if 0x30 ≤ b.toNat ∧ b.toNat ≤ 0x39 then
      match more with
      | c :: d :: _ => pieceOf ((fourBytes? a.toNat b.toNat c.toNat d.toNat).map ([·])) 3
      | _ => incomplete rest
    else pieceOf ((national? a.toNat b.toNat).map ([·])) 1

/-- The decoder of the national encoding. -/
def gb18030 : Decoder :=
  .plain "gb18030" fun b rest => if b.toNat < 0x80 then asciiPiece b else nationalPiece b rest

/-! ## The simplified set in seven bits -/

/-- The piece at the head of bytes of seven bits, and whether the set is switched on behind it. -/
def sevenBitPiece (on : Bool) (b : UInt8) (rest : List UInt8) : Piece × Bool :=
  if b = 0x7E then
    match rest.head?, on with
    | some 0x7E, false => (.char '~' 1, on)
    | some 0x7B, false => (.chars [] 1, true)
    | some 0x0A, false => (.chars [] 1, on)
    | some 0x7D, true => (.chars [] 1, false)
    | some _, _ => (illegal 0, on)
    | none, _ => (incomplete [], on)
  else if 0x80 ≤ b.toNat then (illegal 0, on)
  else if on then
    (pairPiece (fun a c => (Grid.char? [simplified] a c).map ([·])) b rest, on)
  else (asciiPiece b, on)

/-- The decoder of the simplified set in seven bits, which tildes with braces switch on and off. -/
def hz : Decoder := ⟨"hz", Bool, false, sevenBitPiece⟩

/-! ## The traditional set -/

/-- The decoder of the traditional set. -/
def big5 : Decoder := pairDecoder "big5" fun a b => (Grid.char? [traditional] a b).map ([·])

/-- The decoder of the code page of traditional characters. -/
def cp950 : Decoder :=
  pairDecoder "cp950" fun a b => (Grid.char? [pageTraditional, traditional] a b).map ([·])

/-- The characters of two bytes with the Hong Kong additions. -/
def hongKong? (a b : Nat) : Option (List Char) :=
  match hongKongPairs.lookup (a, b) with
  | some s => some s.toList
  | none => (Grid.char? [hongKong, traditional] a b).map ([·])

/-- The decoder of the traditional set with the Hong Kong additions. -/
def big5Hkscs : Decoder := pairDecoder "big5hkscs" hongKong?

end SqlTables.Bytes.EastAsian
