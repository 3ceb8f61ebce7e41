import SqlTables.Bytes.Punycode

/-!
# Names of domains

Labels between dots.  A label in Punycode begins with a marker; any other is in ASCII.
-/

set_option autoImplicit false

namespace SqlTables.Bytes.DomainName

/-- The bytes of the labels between dots; `current` is the one being read, reversed. -/
def labels (current : List UInt8) : List UInt8 → List (List UInt8)
  | [] => [current.reverse]
  | b :: rest =>
    if b = 0x2E then current.reverse :: labels [] rest else labels (b :: current) rest

/-- The bytes before a label in Punycode. -/
def marker : List UInt8 := [0x78, 0x6E, 0x2D, 0x2D]

/-- The wording of half of a surrogate pair in a label. -/
def invalidHalf (n : Nat) : String :=
  "Invalid character '\\u" ++ String.ofList (Nat.toDigits 16 n) ++ "'"

variable [Text.Repertoire]

/-- The text of a label.  One in Punycode must not hold half of a surrogate pair. -/
def label (bytes : List UInt8) : Except TextFault (List Char) :=
  if marker.isPrefixOf bytes then
    match Punycode.decode (bytes.drop marker.length) with
    | .error (.whole reason) => .error (.whole (wholeMessage "punycode" reason))
    | .error fault => .error fault
    | .ok s =>
      match s.findSome? Text.Repertoire.half? with
      | some n => .error (.whole (invalidHalf n))
      | none => .ok s
  else (Decoder.ascii.decode bytes).mapError TextFault.bytes

/-- The text of a name of a domain, label by label. -/
def decode (bytes : List UInt8) : Except TextFault (List Char) :=
  ((labels [] bytes).mapM label).map fun parts => ['.'].intercalate parts

end SqlTables.Bytes.DomainName
