import SqlTables.Bytes.Decoder

/-!
# Grids of characters

The character sets of East Asia are grids: two numbers, the lead and the trail, name a cell, and a
cell holds a character or is empty.  A grid may also be laid over another, of which it changes some
cells.
-/

set_option autoImplicit false

namespace SqlTables.Bytes.EastAsian

/-- Some cells that follow each other. -/
structure Row where
  /-- The lead of the cells. -/
  lead : Nat
  /-- The trail of the first cell. -/
  first : Nat
  /-- What the cells hold; U+FFFE stands for nothing. -/
  chars : String
deriving DecidableEq, Repr

/-- What a row says about a cell. -/
def Row.cell? (r : Row) (lead trail : Nat) : Option Char :=
  if r.lead = lead ∧ r.first ≤ trail then r.chars.toList[trail - r.first]? else none

/-- A set of characters by cells. -/
abbrev Grid := List Row

namespace Grid

/-- What a grid says about a cell; U+FFFE says that the cell is empty. -/
def cell? (g : Grid) (lead trail : Nat) : Option Char := g.findSome? (·.cell? lead trail)

/-- The character of a cell of grids that lie on each other, the topmost first. -/
def char? (layers : List Grid) (lead trail : Nat) : Option Char :=
  match layers.findSome? (·.cell? lead trail) with
  | some c => if c = '\uFFFE' then none else some c
  | none => none

end Grid

/-- The numbers from `first` on, `count` of them, that are not in an increasing list of some of
them. -/
def leftOut (first : Nat) : Nat → List Nat → List Nat
  | 0, _ => []
  | count + 1, [] => first :: leftOut (first + 1) count []
  | count + 1, used :: more =>
    if used = first then leftOut (first + 1) count more
    else first :: leftOut (first + 1) count (used :: more)

/-- A byte that is no code or begins none. -/
def illegal (extra : Nat) : Piece := .fault "illegal multibyte sequence" extra

/-- A code of which bytes are missing: all that is left is at fault. -/
def incomplete (rest : List UInt8) : Piece :=
  .fault "incomplete multibyte sequence" rest.length

/-- The piece of a byte in ASCII. -/
def asciiPiece (b : UInt8) : Piece := .char (Char.ofNat b.toNat) 0

/-- The piece of a code: its characters with the number of its bytes after the first, or a byte at
fault. -/
def pieceOf (chars : Option (List Char)) (extra : Nat) : Piece :=
  match chars with
  | some cs => .chars cs extra
  | none => illegal 0

/-- The piece of two bytes that together are one code. -/
def pairPiece (look : Nat → Nat → Option (List Char)) (a : UInt8) : List UInt8 → Piece
  | [] => incomplete []
  | b :: _ => pieceOf (look a.toNat b.toNat) 1

/-- The decoder of an encoding that takes the bytes of ASCII for themselves and makes codes of two
bytes of all others. -/
def pairDecoder (name : String) (look : Nat → Nat → Option (List Char)) : Decoder :=
  .plain name fun b rest =>
    if b.toNat < 0x80 then asciiPiece b else pairPiece look b rest

/-- The character of two bytes in a grid, the bytes having their high bits set and the grid not. -/
def highPair? (g : Grid) (a b : Nat) : Option Char :=
  if 0x80 ≤ a ∧ 0x80 ≤ b then Grid.char? [g] (a - 0x80) (b - 0x80) else none

end SqlTables.Bytes.EastAsian
