/-!
# Decoders

A decoder cuts bytes into pieces from left to right: each piece stands for some characters or is a
stretch of bytes at fault.  Decoding strictly fails at the first fault; decoding leniently puts the
replacement character for each.
-/

set_option autoImplicit false

namespace SqlTables.Bytes

/-- A stretch of bytes at the head of others. -/
structure Piece where
  /-- How many bytes belong to the piece after its first. -/
  extra : Nat
  /-- The characters, or what is wrong. -/
  content : Except String (List Char)
deriving Repr

namespace Piece

/-- A piece that stands for some characters. -/
def chars (cs : List Char) (extra : Nat) : Piece := ⟨extra, .ok cs⟩

/-- A piece that is a character. -/
def char (c : Char) (extra : Nat) : Piece := chars [c] extra

/-- A piece that is at fault. -/
def fault (reason : String) (extra : Nat) : Piece := ⟨extra, .error reason⟩

/-- How many bytes belong to a piece. -/
def width (p : Piece) : Nat := p.extra + 1

end Piece

/-- Bytes that an encoding does not decode. -/
structure DecodeError where
  encoding : String
  /-- The bytes from the first that is at fault on. -/
  faulty : List UInt8
  start : Nat
  /-- How many bytes are at fault. -/
  count : Nat
  reason : String
deriving DecidableEq, Repr

/-- Why bytes are no text of an encoding. -/
inductive TextFault where
  /-- Some bytes are at fault. -/
  | bytes (error : DecodeError)
  /-- The bytes together make no text. -/
  | whole (reason : String)
deriving DecidableEq, Repr

/-- The wording of a fault of bytes together, for the name of an encoding. -/
def wholeMessage (encoding reason : String) : String :=
  "decoding with '" ++ encoding ++ "' codec failed (UnicodeError: " ++ reason ++ ")"

/-- A way to read characters from bytes. -/
structure Decoder where
  /-- The name that goes into errors. -/
  name : String
  /-- What earlier bytes leave behind for later ones. -/
  State : Type
  /-- The state before the first byte. -/
  start : State
  /-- The piece at the head of a first byte and the others, and the state behind it. -/
  next : State → UInt8 → List UInt8 → Piece × State

namespace Decoder

/-- The decoder of an encoding in which earlier bytes do not matter to later ones. -/
def plain (name : String) (next : UInt8 → List UInt8 → Piece) : Decoder :=
  ⟨name, Unit, (), fun _ b rest => (next b rest, ())⟩

/-- The pieces of a byte sequence from a state on. -/
def pieces (d : Decoder) (state : d.State) (bytes : List UInt8) : List Piece :=
  match bytes with
  | [] => []
  | b :: rest =>
    let (p, after) := d.next state b rest
    p :: pieces d after (rest.drop p.extra)
termination_by bytes.length
decreasing_by simp only [List.length_drop, List.length_cons]; omega

/-- Reads bytes that begin at a position in a state, failing at the first fault. -/
def decodeFrom (d : Decoder) (state : d.State) (position : Nat) (bytes : List UInt8) :
    Except DecodeError (List Char) :=
  match bytes with
  | [] => .ok []
  | b :: rest =>
    let (p, after) := d.next state b rest
    match p.content with
    | .ok cs => (decodeFrom d after (position + p.width) (rest.drop p.extra)).map (cs ++ ·)
    | .error reason => .error ⟨d.name, b :: rest, position, p.width, reason⟩
termination_by bytes.length
decreasing_by simp only [List.length_drop, List.length_cons]; omega

/-- Reads bytes, failing at the first fault. -/
def decode (d : Decoder) (bytes : List UInt8) : Except DecodeError (List Char) :=
  d.decodeFrom d.start 0 bytes

/-- The decoder of ASCII. -/
def ascii : Decoder :=
  plain "ascii" fun b _ =>
    if b.toNat < 0x80 then .char (Char.ofNat b.toNat) 0
    else .fault "ordinal not in range(128)" 0

/-- Reads bytes with the replacement character for each fault. -/
def decodeLossy (d : Decoder) (bytes : List UInt8) : List Char :=
  (d.pieces d.start bytes).flatMap fun p =>
    match p.content with
    | .ok cs => cs
    | .error _ => ['\uFFFD']

end Decoder

end SqlTables.Bytes
