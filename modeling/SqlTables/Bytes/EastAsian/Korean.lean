import SqlTables.Bytes.EastAsian.KoreanTable

/-!
# Korean encodings

Three ways to write the Korean set in bytes.  They differ in how they write the syllables that the
set lacks: not at all unless letter by letter, in cells around the set, or by the letters of the
syllable in a code of fifteen bits.
-/

set_option autoImplicit false

namespace SqlTables.Bytes.EastAsian

/-! ## Syllables -/

/-- The letters that may begin a syllable, in order. -/
def initials : List Char := "ㄱㄲㄴㄷㄸㄹㅁㅂㅃㅅㅆㅇㅈㅉㅊㅋㅌㅍㅎ".toList

/-- The letters that may end a syllable, in order. -/
def finals : List Char := "ㄱㄲㄳㄴㄵㄶㄷㄹㄺㄻㄼㄽㄾㄿㅀㅁㅂㅄㅅㅆㅇㅈㅊㅋㅌㅍㅎ".toList

/-- The vowel of a number. -/
def vowel (n : Nat) : Char := Char.ofNat (0x314F + n)

/-- The syllable of an initial, a vowel and a final, each by its number; a final of 0 is none. -/
def syllable (i v f : Nat) : Char := Char.ofNat (0xAC00 + i * 588 + v * 28 + f)

/-- The letter of the trail of a cell of the row of letters. -/
def letterOf (trail : Nat) : Char := Char.ofNat (0x3131 + (trail - 0xA1))

/-- The trail of the cell that stands for no letter. -/
def fillerTrail : Nat := 0xD4

/-- The syllable of the trails of three letters. -/
def spelled? (i v f : Nat) : Option Char := do
  let initial ← initials.idxOf? (letterOf i)
  guard (0xBF ≤ v ∧ v < fillerTrail)
  let final ← if f = fillerTrail then some 0 else (finals.idxOf? (letterOf f)).map (· + 1)
  some (syllable initial (v - 0xBF) final)

/-! ## The Korean set with spelled syllables -/

/-- The piece of a lead byte of the set.  A filler begins a syllable that is spelled: the codes of
three letters follow. -/
def koreanPiece (a : UInt8) (rest : List UInt8) : Piece :=
  if a = 0xA4 ∧ rest.head? = some 0xD4 then
    match rest with
    | _ :: a1 :: i :: a2 :: v :: a3 :: f :: _ =>
      if a1 = 0xA4 ∧ a2 = 0xA4 ∧ a3 = 0xA4 then
        pieceOf ((spelled? i.toNat v.toNat f.toNat).map ([·])) 7
      else illegal 0
    | short => incomplete short
  else pairPiece (fun a b => (highPair? korean a b).map ([·])) a rest

/-- The decoder of the Korean set with spelled syllables. -/
def eucKr : Decoder :=
  .plain "euc_kr" fun b rest => if b.toNat < 0x80 then asciiPiece b else koreanPiece b rest

/-! ## The Korean set with the other syllables around it -/

/-- The syllables that the Korean set lacks, in order. -/
def otherSyllables : Array Char :=
  let rows := korean.filter fun r => 0x30 ≤ r.lead ∧ r.lead ≤ 0x48
  let known := rows.flatMap fun r => r.chars.toList.map Char.toNat
  ((leftOut 0xAC00 11172 known).map Char.ofNat).toArray

/-- The place of a trail among the trails outside the set. -/
def outerPlace? (trail : Nat) : Option Nat :=
  if 0x41 ≤ trail ∧ trail ≤ 0x5A then some (trail - 0x41)
  else if 0x61 ≤ trail ∧ trail ≤ 0x7A then some (trail - 0x61 + 26)
  else if 0x81 ≤ trail ∧ trail ≤ 0xFE then some (trail - 0x81 + 52)
  else none

/-- The number of a cell around the set.  Rows above those of the set have 178 cells, rows beside
it have 84. -/
def outerNumber? (lead trail : Nat) : Option Nat := do
  let place ← outerPlace? trail
  if 0x81 ≤ lead ∧ lead ≤ 0xA0 then some ((lead - 0x81) * 178 + place)
  else if 0xA1 ≤ lead ∧ lead ≤ 0xC6 ∧ place < 84 then
    some (32 * 178 + (lead - 0xA1) * 84 + place)
  else none

/-- The character of two bytes with the syllables around the set. -/
def unified? (a b : Nat) : Option Char :=
  (highPair? korean a b).or ((outerNumber? a b).bind (otherSyllables[·]?))

/-- The decoder of the Korean set with the other syllables around it. -/
def cp949 : Decoder := pairDecoder "cp949" fun a b => (unified? a b).map ([·])

/-! ## Syllables by their letters -/

/-- A place of a syllable. -/
inductive Slot where
  | empty
  /-- The letter of a number. -/
  | letter (number : Nat)
deriving DecidableEq, Repr

/-- The initial of five bits. -/
def initialSlot? (k : Nat) : Option Slot :=
  if k = 1 then some .empty
  else if 2 ≤ k ∧ k ≤ 20 then some (.letter (k - 2))
  else none

/-- The vowel of five bits; of every eight codes two are not used. -/
def vowelSlot? (k : Nat) : Option Slot :=
  if k = 2 then some .empty
  else if 3 ≤ k ∧ k ≤ 29 ∧ 2 ≤ k % 8 then some (.letter (k / 8 * 6 + (k % 8 - 2) - 1))
  else none

/-- The final of five bits, numbered from 1; one code in the middle is not used. -/
def finalSlot? (k : Nat) : Option Slot :=
  if k = 1 then some .empty
  else if 2 ≤ k ∧ k ≤ 17 then some (.letter (k - 1))
  else if 19 ≤ k ∧ k ≤ 29 then some (.letter (k - 2))
  else none

/-- The character of the places of a syllable: a syllable, one letter, or a blank. -/
def composed? : Slot → Slot → Slot → Option Char
  | .empty, .empty, .empty => some '\u3000'
  | .empty, .empty, .letter f => finals[f - 1]?
  | .empty, .letter v, .empty => some (vowel v)
  | .letter i, .empty, .empty => initials[i]?
  | .letter i, .letter v, .empty => some (syllable i v 0)
  | .letter i, .letter v, .letter f => some (syllable i v f)
  | _, _, _ => none

/-- The character of two bytes that hold three times five bits. -/
def byLetters? (a b : Nat) : Option Char := do
  composed? (← initialSlot? (a / 4 % 32)) (← vowelSlot? (a % 4 * 8 + b / 32))
    (← finalSlot? (b % 32))

/-- The character of two bytes for the rest of the Korean set, of which two rows share a lead. -/
def byHalves? (a b : Nat) : Option Char :=
  if a = 0xDF ∨ 0xF9 < a ∨ b < 0x31 ∨ (0x80 ≤ b ∧ b < 0x91) ∨ b % 0x80 = 0x7F
      ∨ (a = 0xDA ∧ 0xA1 ≤ b ∧ b ≤ 0xD3) then none
  else
    let row := if a < 0xE0 then 2 * a + 0x21 - 0x1B2 else 2 * a + 0x21 - 0x197
    let cell := if b < 0x91 then b - 0x31 else b - 0x43
    if cell < 94 then Grid.char? [korean] row (cell + 0x21)
    else Grid.char? [korean] (row + 1) (cell - 94 + 0x21)

/-- The decoder of syllables by their letters. -/
def johab : Decoder :=
  pairDecoder "johab" fun a b => (if a < 0xD8 then byLetters? a b else byHalves? a b).map ([·])

end SqlTables.Bytes.EastAsian
