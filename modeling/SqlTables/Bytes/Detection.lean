import SqlTables.Bytes.Encoding
import SqlTables.Text.Newline

/-!
# Telling encodings

The encoding of bytes is told from a byte order mark, else from the zeros that UTF-16 leaves in
every other byte of mostly ASCII text, else by trying encodings until one has no fault.
-/

set_option autoImplicit false

namespace SqlTables.Bytes

/-- The encodings that are told from the bytes, with the names under which they are reported. -/
inductive Detected where
  | utf8Signed
  | utf16 (order : ByteOrder)
deriving DecidableEq, Repr

namespace Detected

/-- The name of a detected encoding. -/
def name : Detected → String
  | utf8Signed => "utf-8-sig"
  | utf16 order => "utf-16" ++ order.ending

/-- The encoding that was detected. -/
def encoding : Detected → Encoding
  | utf8Signed => .utf8Signed
  | utf16 order => .utf16 (some order)

/-- The encoding that a byte order mark tells. -/
def ofMark? (bytes : List UInt8) : Option Detected :=
  if Utf8.signature.isPrefixOf bytes then some utf8Signed
  else if (Utf16.signature .little).isPrefixOf bytes then some (utf16 .little)
  else if (Utf16.signature .big).isPrefixOf bytes then some (utf16 .big)
  else none

/-- The number of zeros at even and at odd places. -/
def zerosByPlace : List UInt8 → Nat × Nat
  | [] => (0, 0)
  | [a] => (if a = 0 then 1 else 0, 0)
  | a :: b :: rest =>
    let (even, odd) := zerosByPlace rest
    ((if a = 0 then even + 1 else even), (if b = 0 then odd + 1 else odd))

/-- Whether more than three tenths are zeros. -/
def isFrequent (zeros units : Nat) : Bool := 3 * units < 10 * zeros

/-- Whether less than a twentieth are zeros. -/
def isRare (zeros units : Nat) : Bool := 20 * zeros < units

/-- The order of UTF-16 without a mark: zeros are frequent at the places of the significant bytes
and rare at the others. -/
def guessOrder? (bytes : List UInt8) : Option ByteOrder :=
  if bytes.length < 4 ∨ bytes.length % 2 = 1 then none
  else
    let units := bytes.length / 2
    let (even, odd) := zerosByPlace bytes
    if isFrequent odd units && isRare even units then some .little
    else if isFrequent even units && isRare odd units then some .big
    else none

/-- The encoding that the bytes tell. -/
def ofBytes? (bytes : List UInt8) : Option Detected :=
  (ofMark? bytes).or ((guessOrder? bytes).map utf16)

end Detected

/-- Whether bytes are UTF-8 with something besides ASCII. -/
def looksLikeUtf8 (bytes : List UInt8) : Bool :=
  bytes.any (0x80 ≤ ·.toNat) &&
    match Utf8.decoder.decode bytes with
    | .ok _ => true
    | .error _ => false

/-- The encodings that are tried in turn; the last has no faults. -/
def fallbacks : List (String × Encoding) :=
  [("utf-8", .utf8), ("cp1250", .cp1250), ("latin-1", .latin1)]

/-- How an encoding was found, and the text. -/
inductive AutoDecoded where
  | detected (name : String) (text : List Char)
  | tried (name : String) (text : List Char)
deriving Repr

/-- The text of an automatic decoding. -/
def AutoDecoded.text : AutoDecoded → List Char
  | detected _ s | tried _ s => s

variable [Text.Repertoire]

/-- The first of some encodings that has no fault, with its text. -/
def firstWithoutFault (bytes : List UInt8) : List (String × Encoding) → Option (String × List Char)
  | [] => none
  | (name, e) :: rest =>
    match e.decode bytes with
    | .ok s => some (name, s)
    | .error _ => firstWithoutFault bytes rest

/-- Reads bytes whose encoding is not said. -/
def decodeAuto (bytes : List UInt8) : AutoDecoded :=
  match Detected.ofBytes? bytes with
  | some d => .detected d.name (d.encoding.decodeLossy bytes)
  | none =>
    match firstWithoutFault bytes fallbacks with
    | some (name, s) => .tried name s
    | none => .tried "latin-1" (Encoding.latin1.decodeLossy bytes)

/-- A text as it is handed on: without a byte order mark, with line feeds for all newlines. -/
def normalizeText (s : List Char) : List Char := Text.unifyNewlines (Text.dropMark s)

end SqlTables.Bytes
