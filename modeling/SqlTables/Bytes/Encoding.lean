import SqlTables.Bytes.CodePageTable
import SqlTables.Bytes.DomainName
import SqlTables.Bytes.EastAsian.Scheme
import SqlTables.Bytes.EncodingTable
import SqlTables.Bytes.Escaped
import SqlTables.Bytes.Utf16
import SqlTables.Bytes.Utf7
import SqlTables.Bytes.Utf8
import SqlTables.Bytes.WholePageTable

/-!
# Encodings

The encodings that a file may be said to have, found by name, and what they make of bytes.
-/

set_option autoImplicit false

namespace SqlTables.Bytes

/-- A way to read bytes as text. -/
inductive Encoding where
  | utf7
  | utf8
  /-- UTF-8 with the byte order mark dropped. -/
  | utf8Signed
  /-- UTF-16 in an order; without one, the byte order mark decides, else the order is little. -/
  | utf16 (order : Option ByteOrder)
  /-- UTF-32, likewise. -/
  | utf32 (order : Option ByteOrder)
  | ascii
  /-- The first 256 code points. -/
  | latin1
  /-- A code page with the characters of all bytes. -/
  | codePage (page : List Char)
  | eastAsian (scheme : EastAsian.Scheme)
  /-- Text with escapes, in the full or the raw form. -/
  | escaped (isRaw : Bool)
  | punycode
  /-- Labels between dots, in ASCII or Punycode. -/
  | domainName
  /-- An encoding of no text. -/
  | undefined
deriving DecidableEq, Repr

/-- What a name of an encoding stands for. -/
inductive NamedEncoding where
  | text (encoding : Encoding)
  /-- A conversion that has a name like an encoding but does not make text of bytes. -/
  | notText
deriving DecidableEq, Repr

namespace Encoding

/-- The decoder of the first 256 code points. -/
def latin1Decoder : Decoder :=
  .plain "latin-1" fun b _ => .char (Char.ofNat b.toNat) 0

/-- The character that a code page has for a byte; U+FFFE stands for none. -/
def pageChar? (page : List Char) (b : UInt8) : Option Char :=
  match page[b.toNat]? with
  | some c => if c = '\uFFFE' then none else some c
  | none => none

/-- The decoder of a code page. -/
def pageDecoder (page : List Char) : Decoder :=
  .plain "charmap" fun b _ =>
    match pageChar? page b with
    | some c => .char c 0
    | none => .fault "character maps to <undefined>" 0

/-- The order that a byte order mark of UTF-16 tells. -/
def utf16Order? (bytes : List UInt8) : Option ByteOrder :=
  [ByteOrder.little, .big].find? fun order => (Utf16.signature order).isPrefixOf bytes

/-- The order that a byte order mark of UTF-32 tells. -/
def utf32Order? (bytes : List UInt8) : Option ByteOrder :=
  [ByteOrder.little, .big].find? fun order => (Utf32.signature order).isPrefixOf bytes

section Decoding

variable [Text.Repertoire]

/-- The decoder of an encoding for given bytes, and the number of bytes of a byte order mark that
come before the text.  Encodings that read bytes as a whole have none. -/
def decoderFor? (bytes : List UInt8) : Encoding → Option (Decoder × Nat)
  | utf7 => some (Utf7.decoder, 0)
  | utf8 => some (Utf8.decoder, 0)
  | utf8Signed => some (Utf8.decoder, if Utf8.signature.isPrefixOf bytes then 3 else 0)
  | utf16 (some order) => some (Utf16.decoder order, 0)
  | utf16 none =>
    match utf16Order? bytes with
    | some order => some (Utf16.decoder order, 2)
    | none => some (Utf16.decoder .little, 0)
  | utf32 (some order) => some (Utf32.decoder order, 0)
  | utf32 none =>
    match utf32Order? bytes with
    | some order => some (Utf32.decoder order, 4)
    | none => some (Utf32.decoder .little, 0)
  | ascii => some (Decoder.ascii, 0)
  | latin1 => some (latin1Decoder, 0)
  | codePage page => some (pageDecoder page, 0)
  | eastAsian scheme => some (scheme.decoder, 0)
  | escaped false => some (Escaped.decoder, 0)
  | escaped true => some (Escaped.rawDecoder, 0)
  | punycode | domainName | undefined => none

/-- The text of bytes in an encoding that reads them as a whole. -/
def decodeWhole (bytes : List UInt8) : Encoding → Except TextFault (List Char)
  | punycode => Punycode.decode bytes
  | domainName => DomainName.decode bytes
  | _ => .error (.whole "undefined encoding")

/-- The text of bytes.  Faults are counted from the first byte, except after the mark of signed
UTF-8, which is cut off beforehand. -/
def decode (e : Encoding) (bytes : List UInt8) : Except TextFault (List Char) :=
  match e.decoderFor? bytes with
  | none => e.decodeWhole bytes
  | some (d, mark) =>
    (d.decodeFrom d.start (if e = utf8Signed then 0 else mark) (bytes.drop mark)).mapError .bytes

/-- The text of bytes with the replacement character for each fault. -/
def decodeLossy (e : Encoding) (bytes : List UInt8) : List Char :=
  match e.decoderFor? bytes with
  | none => (e.decodeWhole bytes).toOption.getD []
  | some (d, mark) => d.decodeLossy (bytes.drop mark)

end Decoding

/-- Whether a character counts in names of encodings. -/
def isNameChar (c : Char) : Bool := c.isAlphanum || c == '.'

/-- The stretches of a name that count, in lower case; `current` is the one being read, reversed. -/
def nameParts (current : List Char) : List Char → List (List Char)
  | [] => if current.isEmpty then [] else [current.reverse]
  | c :: rest =>
    if isNameChar c then nameParts (c.toLower :: current) rest
    else if current.isEmpty then nameParts [] rest
    else current.reverse :: nameParts [] rest

/-- The normal form of a name of an encoding. -/
def normalName (name : String) : String :=
  "_".intercalate ((nameParts [] name.toList).map String.ofList)

/-- The encoding that goes under another name. -/
def aliased? (name : String) : Option String :=
  (encodingNames.find? (·.2.contains name)).map (·.1)

/-- The first name of the encoding of a name in normal form.  Dots count like underscores in other
names, but not in first names. -/
def firstName? (name : String) : Option String :=
  let dotless := String.ofList (name.toList.map fun c => if c == '.' then '_' else c)
  ((aliased? name).or (aliased? dotless)).or
    ((encodingNames.find? (·.1 = name)).map (·.1))

/-- The characters of a code page: listed as a whole, or ASCII with an upper half. -/
def page? (name : String) : Option (List Char) :=
  match wholePages.lookup name with
  | some rows => some (rows.flatMap String.toList)
  | none => (codePages.lookup name).map fun rows =>
    (List.range 0x80).map Char.ofNat ++ rows.flatMap String.toList

/-- The encoding of a first name. -/
def ofFirstName (name : String) : NamedEncoding :=
  match name with
  | "utf_7" => .text utf7
  | "utf_8" => .text utf8
  | "utf_8_sig" => .text utf8Signed
  | "utf_16" => .text (utf16 none)
  | "utf_16_le" => .text (utf16 (some .little))
  | "utf_16_be" => .text (utf16 (some .big))
  | "utf_32" => .text (utf32 none)
  | "utf_32_le" => .text (utf32 (some .little))
  | "utf_32_be" => .text (utf32 (some .big))
  | "ascii" => .text ascii
  | "latin_1" | "charmap" => .text latin1
  | "unicode_escape" => .text (escaped false)
  | "raw_unicode_escape" => .text (escaped true)
  | "punycode" => .text punycode
  | "idna" => .text domainName
  | "undefined" => .text undefined
  | other =>
    match EastAsian.Scheme.ofName? other, page? other with
    | some scheme, _ => .text (eastAsian scheme)
    | none, some page => .text (codePage page)
    | none, none => .notText

/-- What a name stands for, in letters of any case and with any separators. -/
def named? (name : String) : Option NamedEncoding :=
  (firstName? (normalName name)).map ofFirstName

/-- The code page of Central European text. -/
def cp1250 : Encoding := codePage ((page? "cp1250").getD [])

/-- The code page of Western European text. -/
def cp1252 : Encoding := codePage ((page? "cp1252").getD [])

end Encoding

end SqlTables.Bytes
