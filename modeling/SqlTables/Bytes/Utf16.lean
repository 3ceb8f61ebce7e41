import SqlTables.Bytes.Decoder

/-!
# UTF-16

Units of two bytes in either order.  A high and a low surrogate together are one character; a
surrogate alone is a fault of one unit, and what is left of an unfinished character at the end is
a fault of all that is left.
-/

set_option autoImplicit false

namespace SqlTables.Bytes

/-- Which byte of several comes first. -/
inductive ByteOrder where
  /-- The least significant. -/
  | little
  /-- The most significant. -/
  | big
deriving DecidableEq, Repr

/-- The ending of the name of an encoding with a byte order. -/
def ByteOrder.ending : ByteOrder → String
  | little => "le"
  | big => "be"

namespace Utf16

/-- The unit of two bytes. -/
def unit (order : ByteOrder) (a b : UInt8) : Nat :=
  match order with
  | .little => a.toNat + 256 * b.toNat
  | .big => 256 * a.toNat + b.toNat

/-- Whether a unit is the first half of a pair. -/
def isHigh (n : Nat) : Bool := 0xD800 ≤ n && n < 0xDC00

/-- Whether a unit is the second half of a pair. -/
def isLow (n : Nat) : Bool := 0xDC00 ≤ n && n < 0xE000

/-- The piece at the head of bytes. -/
def next (order : ByteOrder) (a : UInt8) : List UInt8 → Piece
  | [] => .fault "truncated data" 0
  | b :: rest =>
    let n := unit order a b
    if isHigh n then
      match rest with
      | c :: d :: _ =>
        let m := unit order c d
        if isLow m then .char (Char.ofNat (0x10000 + (n - 0xD800) * 0x400 + (m - 0xDC00))) 3
        else .fault "illegal UTF-16 surrogate" 1
      | short => .fault "unexpected end of data" (1 + short.length)
    else if isLow n then .fault "illegal encoding" 1
    else .char (Char.ofNat n) 1

/-- The decoder of UTF-16 in an order. -/
def decoder (order : ByteOrder) : Decoder := .plain ("utf-16-" ++ order.ending) (next order)

/-- The bytes of a unit. -/
def encodeUnit (order : ByteOrder) (n : Nat) : List UInt8 :=
  match order with
  | .little => [UInt8.ofNat (n % 256), UInt8.ofNat (n / 256)]
  | .big => [UInt8.ofNat (n / 256), UInt8.ofNat (n % 256)]

/-- The bytes of a character. -/
def encodeChar (order : ByteOrder) (c : Char) : List UInt8 :=
  let n := c.toNat
  if n < 0x10000 then encodeUnit order n
  else encodeUnit order (0xD800 + (n - 0x10000) / 0x400)
    ++ encodeUnit order (0xDC00 + (n - 0x10000) % 0x400)

/-- The bytes of a text. -/
def encode (order : ByteOrder) (s : List Char) : List UInt8 := s.flatMap (encodeChar order)

/-- The bytes of the byte order mark. -/
def signature (order : ByteOrder) : List UInt8 := encodeUnit order 0xFEFF

end Utf16

namespace Utf32

/-- The number of four bytes. -/
def unit (order : ByteOrder) (a b c d : UInt8) : Nat :=
  match order with
  | .little => Utf16.unit order a b + 65536 * Utf16.unit order c d
  | .big => 65536 * Utf16.unit order a b + Utf16.unit order c d

/-- The piece at the head of bytes. -/
def next (order : ByteOrder) (a : UInt8) : List UInt8 → Piece
  | b :: c :: d :: _ =>
    let n := unit order a b c d
    if 0xD800 ≤ n ∧ n < 0xE000 then
      .fault "code point in surrogate code point range(0xd800, 0xe000)" 3
    else if 0x110000 ≤ n then .fault "code point not in range(0x110000)" 3
    else .char (Char.ofNat n) 3
  | short => .fault "truncated data" short.length

/-- The decoder of UTF-32 in an order. -/
def decoder (order : ByteOrder) : Decoder := .plain ("utf-32-" ++ order.ending) (next order)

/-- The bytes of the byte order mark. -/
def signature (order : ByteOrder) : List UInt8 :=
  match order with
  | .little => [0xFF, 0xFE, 0, 0]
  | .big => [0, 0, 0xFE, 0xFF]

end Utf32

end SqlTables.Bytes
