import SqlTables.Bytes.Detection
import SqlTables.Document.Kind
import SqlTables.Files.Access
import SqlTables.Noted
import SqlTables.Sql.Statement
import SqlTables.Text.Quality

/-!
# Reading text files

A text file is read in an encoding that is named, or in one that is told from its bytes.  With a
named encoding, text that was surely written in another is refused: UTF-8 read as something else,
and text of which most characters cannot be printed.
-/

set_option autoImplicit false

namespace SqlTables.Files

open Bytes (Encoding NamedEncoding)
open Document (Value)

/-- The names of encodings that are suggested. -/
def suggestedEncodings : List String :=
  ["auto", "utf-8", "utf-8-sig", "utf-16", "utf-16le", "utf-16be", "cp1250", "cp1252", "latin-1"]

/-- Whether the name of an encoding says that it is one of Unicode. -/
def isUnicodeName (name : String) : Bool :=
  let dashed := (Text.lower name.toList).map fun c => if c == '_' then '-' else c
  "utf".toList.isPrefixOf dashed || "u8".toList.isPrefixOf dashed

/-- The failure to read a whole file in a named encoding. -/
def refusal (encoding : String) (bytes : List UInt8) (reason : String) : Failure :=
  .undecodable ⟨encoding, bytes, 0, bytes.length, reason⟩

variable [Text.Repertoire]

/-- The text of bytes that are not empty, in a named encoding. -/
def decodeNamed (name : String) (encoding : NamedEncoding) (bytes : List UInt8) :
    Except Failure (List Char) :=
  if !isUnicodeName name && Bytes.looksLikeUtf8 bytes then
    .error (refusal name bytes
      ("file appears to be UTF-8 but was read as " ++ name ++ ". Try --encoding auto"))
  else match encoding with
    | .notText => .error (.notTextEncoding name)
    | .text e =>
      match e.decode bytes with
      | .error (.bytes fault) => .error (.undecodable fault)
      | .error (.whole reason) => .error (.illFormed name reason)
      | .ok s =>
        let share := Text.quality s
        if share.isPoor then
          .error (refusal name bytes
            ("decoded text looks malformed (quality=" ++ share.text 2 ++ "). Try --encoding auto"))
        else .ok (Bytes.normalizeText s)

/-- The notices of an automatic decoding of a file. -/
def autoNotices (path : String) (d : Bytes.AutoDecoded) : List Notice :=
  let found := match d with
    | .detected name _ => Notice.encodingDetected name
    | .tried name _ => Notice.encodingTried name
  found :: (if Sql.looksLikeSql (Bytes.normalizeText d.text) then [] else [.notSql path])

/-- The text of bytes whose encoding is not said, with notices. -/
def decodeAuto (path : String) (bytes : List UInt8) : List Char × List Notice :=
  let d := Bytes.decodeAuto bytes
  (Bytes.normalizeText d.text, autoNotices path d)

/-- The bytes of a file. -/
def readBytes (t : Tree) (p : Path) : Except Failure (List UInt8) :=
  match p.fault? with
  | some failure => .error failure
  | none => (t.read p).mapError .file

/-- A failure on reading a text file, with the path. -/
def readFailure (p : Path) : Failure → Failure
  | .file e => .unreadable p.text e
  | other => other

/-- Why a text cannot be the name of an encoding. -/
def nameFault? (name : String) : Option RangeFault :=
  match Bytes.Utf8.encodeError? name.toList with
  | some e => some (.unencodable e)
  | none => if name.toList.contains '\x00' then some (.worded "embedded null character") else none

/-- The encoding that a name says.  A name that is not given, or that is `auto`, leaves it to be
told from the bytes. -/
def encodingOf (name : String) : Except Failure (Option NamedEncoding) :=
  if name = "" ∨ Text.lowered name = "auto" then .ok none
  else match nameFault? name with
    | some fault => .error (.badValue fault)
    | none =>
      match Encoding.named? name with
      | some encoding => .ok (some encoding)
      | none => .error (.unknownEncoding name suggestedEncodings)

/-- The text of a file in an encoding. -/
def readText (t : Tree) (p : Path) (encoding : Value) : Noted String := do
  let name ← Noted.ofKind encoding.phrase
  match encodingOf name, readBytes t p with
  | .error failure, _ => Noted.fail failure
  | .ok _, .error failure => Noted.fail (readFailure p failure)
  | .ok _, .ok [] => return ""
  | .ok none, .ok bytes => return String.ofList (← Noted.ofPair (decodeAuto p.text bytes))
  | .ok (some e), .ok bytes =>
    match decodeNamed name e bytes with
    | .ok s => return String.ofList s
    | .error failure => Noted.fail failure

/-- The text of bytes of a document, which must be UTF-8. -/
def documentText (bytes : List UInt8) : Except Failure String :=
  match Bytes.Utf8.decoder.decode bytes with
  | .ok s => .ok (String.ofList (Text.unifyNewlines s))
  | .error fault => .error (.undecodable fault)

end SqlTables.Files
