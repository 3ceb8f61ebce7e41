import SqlTables.Bytes.EastAsian.JapaneseMoreTable
import SqlTables.Bytes.EastAsian.JapaneseTable

/-!
# Japanese encodings

Two ways to write the cells of the Japanese sets in bytes: with high bits set, where a byte may
announce kana or another set, or shifted, so that kana of half width keep bytes of their own.
-/

set_option autoImplicit false

namespace SqlTables.Bytes.EastAsian

/-- An edition of the extended set. -/
inductive Edition where
  | first
  | second
deriving DecidableEq, Repr

/-- A kana of half width by its byte. -/
def halfKana (b : Nat) : Char := Char.ofNat (0xFF61 + (b - 0xA1))

/-- Whether a byte is that of a kana of half width. -/
def isHalfKana (b : Nat) : Bool := 0xA1 ≤ b && b ≤ 0xDF

/-- Whether a cell of the first plane is missing in an edition. -/
def isMissing (edition : Edition) (row cell : Nat) : Bool :=
  edition = .first && laterCells.contains (row, cell)

/-- What a cell of the first plane of the extended set stands for, in both editions. -/
def planeOne? (row cell : Nat) : Option (List Char) :=
  match planeOnePairs.lookup (row, cell) with
  | some s => some s.toList
  | none => ((Grid.char? [japanese] row cell).or (Grid.char? [planeOne] row cell)).map ([·])

/-- What a cell of the second plane stands for; the editions differ in one. -/
def planeTwo? (edition : Edition) (row cell : Nat) : Option Char :=
  if edition = .first ∧ row = 0x7D ∧ cell = 0x3B then some '\u9B1D'
  else Grid.char? [planeTwo] row cell

/-! ## High bits -/

/-- The piece behind the byte that announces a kana of half width. -/
def kanaPiece : List UInt8 → Piece
  | [] => incomplete []
  | b :: _ => if isHalfKana b.toNat then .char (halfKana b.toNat) 1 else illegal 0

/-- The piece behind the byte that announces a code of two more bytes. -/
def triplePiece (look : Nat → Nat → Option Char) : List UInt8 → Piece
  | b :: c :: _ =>
    pieceOf (if 0x80 ≤ b.toNat ∧ 0x80 ≤ c.toNat then
      (look (b.toNat - 0x80) (c.toNat - 0x80)).map ([·]) else none) 2
  | short => incomplete short

/-- The decoder of the common set, the supplementary set and kana. -/
def eucJp : Decoder :=
  .plain "euc_jp" fun b rest =>
    if b.toNat < 0x80 then asciiPiece b
    else if b = 0x8E then kanaPiece rest
    else if b = 0x8F then triplePiece (Grid.char? [japaneseSupplement]) rest
    else pairPiece (fun a c => (highPair? japanese a c).map ([·])) b rest

/-- The piece of a code of the first plane with high bits set. -/
def highPlanePiece (edition : Edition) (a : UInt8) : List UInt8 → Piece
  | [] => incomplete []
  | b :: _ =>
    if a.toNat < 0x80 ∨ b.toNat < 0x80 then illegal 0
    else
      let row := a.toNat - 0x80
      let cell := b.toNat - 0x80
      if isMissing edition row cell then illegal 1
      else if row = 0x22 ∧ cell = 0x32 then .char '\uFF5E' 1
      else pieceOf (planeOne? row cell) 1

/-- The decoder of the extended set with high bits set, and of the supplementary set where the
second plane has nothing. -/
def eucJis (edition : Edition) : Decoder :=
  .plain (match edition with | .first => "euc_jisx0213" | .second => "euc_jis_2004") fun b rest =>
    if b.toNat < 0x80 then asciiPiece b
    else if b = 0x8E then kanaPiece rest
    else if b = 0x8F then
      triplePiece (fun row cell =>
        (planeTwo? edition row cell).or (Grid.char? [japaneseSupplement] row cell)) rest
    else highPlanePiece edition b rest

/-! ## Shifted -/

/-- Whether a byte begins a shifted code of the common set. -/
def isCommonLead (a : Nat) : Bool := (0x81 ≤ a && a ≤ 0x9F) || (0xE0 ≤ a && a ≤ 0xEA)

/-- Whether a byte begins a shifted code. -/
def isShiftLead (a : Nat) : Bool := (0x81 ≤ a && a ≤ 0x9F) || (0xE0 ≤ a && a ≤ 0xFC)

/-- The row and the cell of a shifted code, both from 0; two rows share a lead. -/
def unshifted? (a b : Nat) : Option (Nat × Nat) :=
  if b < 0x40 ∨ b = 0x7F ∨ 0xFC < b then none
  else
    let pair := if a < 0xE0 then a - 0x81 else a - 0xC1
    let place := if b < 0x80 then b - 0x40 else b - 0x41
    if place < 94 then some (2 * pair, place) else some (2 * pair + 1, place - 94)

/-- The character of a shifted code in the common set. -/
def shifted? (a b : Nat) : Option Char := do
  let (row, cell) ← unshifted? a b
  Grid.char? [japanese] (row + 0x21) (cell + 0x21)

/-- The decoder of the common set, shifted. -/
def shiftJis : Decoder :=
  .plain "shift_jis" fun b rest =>
    if b.toNat < 0x80 then asciiPiece b
    else if isHalfKana b.toNat then .char (halfKana b.toNat) 0
    else if isCommonLead b.toNat then pairPiece (fun a c => (shifted? a c).map ([·])) b rest
    else illegal 0

/-- The characters of a byte that stands alone in the code page: ASCII, kana, and some that no text
uses. -/
def pageSingle? (b : Nat) : Option Char :=
  if b ≤ 0x80 then some (Char.ofNat b)
  else if b = 0xA0 then some '\uF8F0'
  else if isHalfKana b then some (halfKana b)
  else if 0xFD ≤ b then some (Char.ofNat (0xF8F1 + (b - 0xFD)))
  else none

/-- The character of two bytes of the code page; it has rows for private use. -/
def pageJapanese? (a b : Nat) : Option Char :=
  if (Grid.cell? pageJapanese a b).isSome then Grid.char? [pageJapanese] a b
  else if isCommonLead a then shifted? a b
  else if 0xF0 ≤ a ∧ a ≤ 0xF9 then
    (unshifted? a b).map fun (row, cell) => Char.ofNat (0xE000 + (row - 94) * 94 + cell)
  else none

/-- The decoder of the code page of Japanese. -/
def cp932 : Decoder :=
  .plain "cp932" fun b rest =>
    match pageSingle? b.toNat with
    | some c => .char c 0
    | none => pairPiece (fun a c => (pageJapanese? a c).map ([·])) b rest

/-- The row of the second plane that a row behind the first plane stands for. -/
def secondPlaneRow (row : Nat) : Nat :=
  if 0x67 ≤ row then row + 0x07
  else if 0x63 ≤ row ∨ row = 0x5F then row - 0x37
  else row - 0x3D

/-- The piece of a shifted code of the extended set. -/
def shiftedPlanePiece (edition : Edition) (a : UInt8) : List UInt8 → Piece
  | [] => incomplete []
  | b :: _ =>
    match unshifted? a.toNat b.toNat with
    | none => illegal 0
    | some (row, place) =>
      let cell := place + 0x21
      if row < 94 then
        if isMissing edition (row + 0x21) cell then illegal 1
        else if row = 0 ∧ cell = 0x40 then .char '\\' 1
        else pieceOf (planeOne? (row + 0x21) cell) 1
      else pieceOf ((planeTwo? edition (secondPlaneRow row) cell).map ([·])) 1

/-- The character of a byte in the Japanese variant of ASCII. -/
def japaneseAscii (b : Nat) : Char :=
  if b = 0x5C then '¥' else if b = 0x7E then '‾' else Char.ofNat b

/-- The decoder of the extended set, shifted. -/
def shiftJisExtended (edition : Edition) : Decoder :=
  .plain (match edition with | .first => "shift_jisx0213" | .second => "shift_jis_2004")
    fun b rest =>
      if b.toNat < 0x80 then .char (japaneseAscii b.toNat) 0
      else if isHalfKana b.toNat then .char (halfKana b.toNat) 0
      else if isShiftLead b.toNat then shiftedPlanePiece edition b rest
      else illegal 0

end SqlTables.Bytes.EastAsian
