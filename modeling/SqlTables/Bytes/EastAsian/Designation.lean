import SqlTables.Bytes.CodePageTable
import SqlTables.Bytes.EastAsian.Chinese
import SqlTables.Bytes.EastAsian.Japanese
import SqlTables.Bytes.EastAsian.Korean

/-!
# Encodings with designations

Encodings of seven bits in which escape sequences designate character sets.  A set is designated to
one of three places: the first is in force, the second while text is shifted out, and the third for
one character at a time.
-/

set_option autoImplicit false

namespace SqlTables.Bytes.EastAsian

/-! ## Character sets -/

/-- A character set that may be designated. -/
inductive CharSet where
  | ascii
  /-- The upper half of the first 256 code points. -/
  | latin1
  /-- The upper half of the Greek code page. -/
  | greek
  /-- The Japanese variant of ASCII. -/
  | japaneseAscii
  /-- The kana of half width. -/
  | kana
  /-- The common Japanese set. -/
  | japanese
  /-- The supplementary Japanese set. -/
  | supplement
  /-- The first plane of the extended Japanese set. -/
  | planeOne (edition : Edition)
  /-- The second plane of the extended Japanese set. -/
  | planeTwo
  | korean
  /-- The simplified Chinese set. -/
  | simplified
deriving DecidableEq, Repr

namespace CharSet

/-- The characters of a cell of a set with cells. -/
def cell? (s : CharSet) (row cell : Nat) : Option (List Char) :=
  match s with
  | japanese => (Grid.char? [EastAsian.japanese] row cell).map ([·])
  | supplement => (Grid.char? [japaneseSupplement] row cell).map ([·])
  | planeOne edition => if isMissing edition row cell then none else planeOne? row cell
  | planeTwo => (planeTwo? .second row cell).map ([·])
  | korean => (Grid.char? [EastAsian.korean] row cell).map ([·])
  | simplified => (Grid.char? [EastAsian.simplified] row cell).map ([·])
  | _ => none

/-- The piece of a byte of a text of a set.  Sets of upper halves are not for texts. -/
def piece (s : CharSet) (b : UInt8) (rest : List UInt8) : Piece :=
  match s with
  | ascii => asciiPiece b
  | japaneseAscii => .char (EastAsian.japaneseAscii b.toNat) 0
  | kana =>
    if isHalfKana (b.toNat + 0x80) then .char (halfKana (b.toNat + 0x80)) 0 else illegal 0
  | latin1 | greek => illegal 0
  | set =>
    match rest with
    | [] => incomplete []
    | c :: _ =>
      match set.cell? b.toNat c.toNat with
      | some cs => .chars cs 1
      | none => illegal 1

/-- The Greek characters that came to the code page later. -/
def laterGreek : List Nat := [0xA4, 0xA5, 0xAA]

/-- The Greek character of a byte with its high bit set. -/
def greekChar? (n : Nat) : Option Char :=
  if laterGreek.contains n then none
  else match (((codePages.lookup "iso8859_7").getD []).flatMap String.toList)[n - 0x80]? with
    | some c => if c = '\uFFFE' then none else some c
    | none => none

/-- The character that a byte stands for once, from the set of the third place. -/
def single? (s : CharSet) (b : Nat) : Option Char :=
  match s with
  | ascii => if b < 0x80 then some (Char.ofNat b) else none
  | latin1 => if b < 0x80 then some (Char.ofNat (b + 0x80)) else none
  | greek => if b < 0x80 then greekChar? (b + 0x80) else some (Char.ofNat (b - 0x80))
  | _ => none

end CharSet

/-! ## Escape sequences -/

/-- A set as escape sequences name it: whether its codes have two bytes, and a letter. -/
structure Mark where
  isDouble : Bool
  letter : Char
deriving DecidableEq, Repr

/-- An encoding with designations. -/
inductive Designating where
  /-- Japanese with the common set. -/
  | japanese
  /-- With the supplementary set as well. -/
  | japanese1
  /-- With Korean, Chinese and European sets as well. -/
  | japanese2
  /-- With an edition of the extended set. -/
  | japaneseExtended (edition : Edition)
  /-- With the supplementary set and kana of half width. -/
  | japaneseKana
  | korean
deriving DecidableEq, Repr

namespace Designating

/-- The name of an encoding with designations. -/
def name : Designating → String
  | japanese => "iso2022_jp"
  | japanese1 => "iso2022_jp_1"
  | japanese2 => "iso2022_jp_2"
  | japaneseExtended .first => "iso2022_jp_3"
  | japaneseExtended .second => "iso2022_jp_2004"
  | japaneseKana => "iso2022_jp_ext"
  | korean => "iso2022_kr"

/-- The sets that an encoding has besides ASCII. -/
def sets : Designating → List (Mark × CharSet)
  | japanese => common
  | japanese1 => (⟨true, 'D'⟩, .supplement) :: common
  | japanese2 =>
    [(⟨true, 'D'⟩, .supplement), (⟨true, 'C'⟩, .korean), (⟨true, 'A'⟩, .simplified),
      (⟨false, 'A'⟩, .latin1), (⟨false, 'F'⟩, .greek)] ++ common
  | japaneseExtended .first =>
    [(⟨true, 'B'⟩, .japanese), (⟨true, 'O'⟩, .planeOne .first), (⟨true, 'P'⟩, .planeTwo)]
  | japaneseExtended .second =>
    [(⟨true, 'B'⟩, .japanese), (⟨true, 'Q'⟩, .planeOne .second), (⟨true, 'P'⟩, .planeTwo)]
  | japaneseKana => [(⟨true, 'D'⟩, .supplement), (⟨false, 'I'⟩, .kana)] ++ common
  | korean => [(⟨true, 'C'⟩, .korean)]
where
  /-- The sets of the oldest encoding; the common set has two marks. -/
  common : List (Mark × CharSet) :=
    [(⟨true, 'B'⟩, .japanese), (⟨false, 'J'⟩, .japaneseAscii), (⟨true, '@'⟩, .japanese)]

/-- The set of a mark. -/
def set? (d : Designating) (m : Mark) : Option CharSet :=
  if m = ⟨false, 'B'⟩ then some .ascii else d.sets.lookup m

/-- Whether text may be shifted out. -/
def hasShift (d : Designating) : Bool := d = korean

/-- Whether a character may be taken from the third place. -/
def hasThird (d : Designating) : Bool := d = japanese2

/-- Whether an escape sequence may announce a revision of the common set. -/
def hasRevision (d : Designating) : Bool := d ≠ korean

end Designating

/-- The escape character. -/
def escape : UInt8 := 0x1B

/-- Whether a byte ends an escape sequence. -/
def isEscapeEnd (b : UInt8) : Bool := (0x41 ≤ b.toNat && b.toNat ≤ 0x5A) || b = 0x40

/-- Whether a byte behind the escape character begins a designation. -/
def isDesignationHead (b : UInt8) : Bool :=
  [0x28, 0x29, 0x24, 0x2E, 0x26].contains b.toNat

/-- The length of an escape sequence, from a place in it on: `none` when bytes are missing, 0 when
it is too long.  The announcement of a revision does not end it. -/
def escapeLength? (hasRevision : Bool) (place : Nat) (bytes : List UInt8) : Option Nat :=
  if 16 ≤ place then some 0
  else match bytes with
    | [] => none
    | b :: rest =>
      if isEscapeEnd b then some (place + 1)
      else if hasRevision && b = 0x26 && rest.head? = some 0x40 then
        escapeLength? hasRevision (place + 3) (rest.drop 2)
      else escapeLength? hasRevision (place + 1) rest
termination_by bytes.length
decreasing_by all_goals simp only [List.length_drop, List.length_cons]; omega

/-- A place that a set can be designated to. -/
inductive Place where
  | first
  | second
  | third
deriving DecidableEq, Repr

/-- The place that a byte of an escape sequence names. -/
def Place.ofByte? (d : Designating) (b : UInt8) : Option Place :=
  if b = 0x28 then some .first
  else if b = 0x29 then some .second
  else if b = 0x2E ∧ d.hasThird then some .third
  else none

/-- The set and the place that an escape sequence designates, from its bytes behind the escape
character. -/
def designation? (d : Designating) : List UInt8 → Option (CharSet × Place)
  | [p, letter] =>
    if p = 0x24 then (d.set? ⟨true, Char.ofNat letter.toNat⟩).map (·, .first)
    else do
      let place ← Place.ofByte? d p
      some (← d.set? ⟨false, Char.ofNat letter.toNat⟩, place)
  | [dollar, p, letter] => do
    guard (dollar = 0x24)
    guard (p ≠ 0x2E)
    let place ← Place.ofByte? d p
    some (← d.set? ⟨true, Char.ofNat letter.toNat⟩, place)
  | [_, _, e, dollar, letter] =>
    if d.hasRevision ∧ e = escape ∧ dollar = 0x24 ∧ letter = 0x42 then some (.japanese, .first)
    else none
  | _ => none

/-! ## Texts -/

/-- What earlier bytes leave behind. -/
structure Designated where
  /-- The sets of the three places. -/
  first : CharSet
  second : CharSet
  third : CharSet
  /-- Whether text is shifted out. -/
  isOut : Bool
  /-- Whether the bytes belong to a foreign escape sequence, which is kept. -/
  isForeign : Bool
deriving DecidableEq, Repr

namespace Designated

/-- The state before the first byte. -/
def start : Designated := ⟨.ascii, .ascii, .ascii, false, false⟩

/-- Designates a set to a place. -/
def put (s : Designated) (set : CharSet) : Place → Designated
  | .first => { s with first := set }
  | .second => { s with second := set }
  | .third => { s with third := set }

/-- The piece of a designation and the state behind it. -/
def designate (s : Designated) (d : Designating) (rest : List UInt8) : Piece × Designated :=
  match escapeLength? d.hasRevision 1 rest with
  | none => (incomplete rest, s)
  | some n =>
    match designation? d (rest.take (n - 1)) with
    | some (set, place) => (.chars [] (n - 1), s.put set place)
    | none => (illegal (n - 1), s)

/-- The piece of a character from the third place. -/
def thirdPiece (s : Designated) : List UInt8 → Piece
  | _ :: b :: _ =>
    match s.third.single? b.toNat with
    | some c => .char c 2
    | none => illegal 2
  | short => incomplete short

/-- The piece behind an escape character and the state behind it. -/
def escaped (s : Designated) (d : Designating) (rest : List UInt8) : Piece × Designated :=
  match rest with
  | [] => (incomplete [], s)
  | b :: _ =>
    if isDesignationHead b then s.designate d rest
    else if d.hasThird && b = 0x4E then (s.thirdPiece rest, s)
    else (asciiPiece escape, { s with isForeign := true })

/-- The piece at the head of bytes and the state behind it. -/
def next (d : Designating) (s : Designated) (b : UInt8) (rest : List UInt8) :
    Piece × Designated :=
  if s.isForeign then (.char (Char.ofNat b.toNat) 0, { s with isForeign := !isEscapeEnd b })
  else if b = escape then s.escaped d rest
  else if d.hasShift ∧ (b = 0x0E ∨ b = 0x0F) then (.chars [] 0, { s with isOut := b = 0x0E })
  else if b = 0x0A then (asciiPiece b, { s with isOut := false })
  else if b.toNat < 0x20 then (asciiPiece b, s)
  else if 0x80 ≤ b.toNat then (illegal 0, s)
  else ((if s.isOut then s.second else s.first).piece b rest, s)

end Designated

/-- The decoder of an encoding with designations. -/
def Designating.decoder (d : Designating) : Decoder :=
  ⟨d.name, Designated, .start, Designated.next d⟩

end SqlTables.Bytes.EastAsian
