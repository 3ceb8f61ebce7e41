import SqlTables.Bytes.Decoder
import SqlTables.Text.Repertoire

/-!
# UTF-8

The lead byte of a sequence says how many bytes continue it and in which range the first of those
lies; all others lie in `80`–`BF`.  A sequence that breaks off is one fault up to the byte that
does not continue it.
-/

set_option autoImplicit false

namespace SqlTables.Bytes.Utf8

/-- What a lead byte of several announces. -/
structure Lead where
  /-- How many bytes continue the sequence. -/
  tail : Nat
  /-- The range of the first of those. -/
  low : Nat
  high : Nat
  /-- The bits that the lead byte contributes. -/
  bits : Nat
deriving DecidableEq, Repr

/-- The announcement of a lead byte of a sequence of two bytes or more. -/
def lead? (b : Nat) : Option Lead :=
  if 0xC2 ≤ b ∧ b ≤ 0xDF then some ⟨1, 0x80, 0xBF, b - 0xC0⟩
  else if b = 0xE0 then some ⟨2, 0xA0, 0xBF, 0⟩
  else if b = 0xED then some ⟨2, 0x80, 0x9F, 0xD⟩
  else if 0xE1 ≤ b ∧ b ≤ 0xEF then some ⟨2, 0x80, 0xBF, b - 0xE0⟩
  else if b = 0xF0 then some ⟨3, 0x90, 0xBF, 0⟩
  else if 0xF1 ≤ b ∧ b ≤ 0xF3 then some ⟨3, 0x80, 0xBF, b - 0xF0⟩
  else if b = 0xF4 then some ⟨3, 0x80, 0x8F, 4⟩
  else none

/-- Reads the bytes that continue a sequence: `missing` more, the next one in a given range, with
`read` behind the lead byte already and the bits of all so far. -/
def continuation (low high bits read : Nat) : Nat → List UInt8 → Piece
  | 0, _ => .char (Char.ofNat bits) read
  | _ + 1, [] => .fault "unexpected end of data" read
  | missing + 1, b :: rest =>
    if low ≤ b.toNat ∧ b.toNat ≤ high then
      continuation 0x80 0xBF (bits * 64 + (b.toNat - 0x80)) (read + 1) missing rest
    else .fault "invalid continuation byte" read

/-- The piece at the head of bytes. -/
def next (b : UInt8) (rest : List UInt8) : Piece :=
  if b.toNat < 0x80 then .char (Char.ofNat b.toNat) 0
  else match lead? b.toNat with
    | some l => continuation l.low l.high l.bits 0 l.tail rest
    | none => .fault "invalid start byte" 0

/-- The decoder of UTF-8. -/
def decoder : Decoder := .plain "utf-8" next

/-- The bytes of a character; each after the first holds six bits of it. -/
def encodeChar (c : Char) : List UInt8 :=
  let n := c.toNat
  let tail (unit : Nat) : UInt8 := UInt8.ofNat (0x80 + n / unit % 64)
  if n < 0x80 then [UInt8.ofNat n]
  else if n < 0x800 then [UInt8.ofNat (0xC0 + n / 0x40), tail 1]
  else if n < 0x10000 then [UInt8.ofNat (0xE0 + n / 0x1000), tail 0x40, tail 1]
  else [UInt8.ofNat (0xF0 + n / 0x40000), tail 0x1000, tail 0x40, tail 1]

/-- The bytes of a text. -/
def encode (s : List Char) : List UInt8 := s.flatMap encodeChar

/-- Halves of surrogate pairs that no bytes stand for. -/
structure EncodeError where
  /-- The first half. -/
  half : Nat
  start : Nat
  /-- How many halves stand there in a row. -/
  count : Nat
deriving DecidableEq, Repr

section Faults

open Text (Repertoire)

variable [Repertoire]

/-- What keeps a text that begins at a position from being encoded: the halves of pairs from the
first that is refused on. -/
def encodeErrorFrom? (refused : Nat → Bool) (position : Nat) : List Char → Option EncodeError
  | [] => none
  | c :: rest =>
    match (Repertoire.half? c).filter refused with
    | some half => some ⟨half, position, (rest.takeWhile Repertoire.isHalf).length + 1⟩
    | none => encodeErrorFrom? refused (position + 1) rest

/-- What keeps a text from being encoded: any half of a pair. -/
def encodeError? (s : List Char) : Option EncodeError := encodeErrorFrom? (fun _ => true) 0 s

theorem encodeErrorFrom?_eq_none_iff {refused : Nat → Bool} {s : List Char} {position : Nat} :
    encodeErrorFrom? refused position s = none ↔
      ∀ c ∈ s, ∀ n, Repertoire.half? c = some n → refused n = false := by
  induction s generalizing position with
  | nil => simp [encodeErrorFrom?]
  | cons c s ih =>
    rw [encodeErrorFrom?, List.forall_mem_cons]
    cases hhalf : Repertoire.half? c with
    | none => simp [ih]
    | some n =>
      cases hrefused : refused n with
      | true => simp [Option.filter, hrefused]
      | false => simp [Option.filter, hrefused, ih]

/-- A text is encoded exactly if there is no half of a pair in it. -/
theorem encodeError?_eq_none_iff {s : List Char} :
    encodeError? s = none ↔ ∀ c ∈ s, Repertoire.isHalf c = false := by
  rw [encodeError?, encodeErrorFrom?_eq_none_iff]
  refine forall₂_congr fun c _ => ?_
  cases hhalf : Repertoire.half? c <;> simp [Repertoire.isHalf, hhalf]

end Faults

/-- The mark that may stand before a text. -/
def signature : List UInt8 := [0xEF, 0xBB, 0xBF]

end SqlTables.Bytes.Utf8
