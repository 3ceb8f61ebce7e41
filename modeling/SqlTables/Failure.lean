import SqlTables.Bytes.Utf8
import SqlTables.Catalog.Table
import SqlTables.Document.Kind
import SqlTables.Document.ReadError
import SqlTables.Files.Path
import SqlTables.Sql.Dialect

/-!
# Failures

Everything that can end a computation without a result, each kind with its cause.
-/

set_option autoImplicit false

namespace SqlTables

open Document (ReadError Value WrongKind)
open Files (FileError)
open Bytes (DecodeError)

/-- Why a catalog cannot be built. -/
inductive CatalogError where
  /-- A table is described wrongly and none may be skipped. -/
  | invalidTable (key : Value) (fault : TableFault)
  /-- The file cannot be read. -/
  | unreadable (path : String) (error : FileError)
  /-- The file is not a document of its format. -/
  | unparsable (path : String)
  /-- The document is neither a list nor a mapping. -/
  | notListing (path : String)
deriving Repr

/-- The wording of a catalog error. -/
def CatalogError.message : CatalogError → String
  | invalidTable key fault =>
    "invalid table metadata for key '" ++ key.display ++ "': " ++ fault.message
  | unreadable path error =>
    "cannot read known tables file " ++ path ++ ": " ++ error.message
  | unparsable path => "cannot parse known tables file " ++ path ++ ": "
  | notListing path => "known tables file " ++ path ++ " must contain an object or a list"

/-- The wording of a decode error: one bad byte is named, several are counted. -/
def Bytes.DecodeError.message (e : DecodeError) : String :=
  match e.faulty, e.count with
  | b :: _, 1 =>
    let hex := String.ofList (Document.hexadecimal 2 b.toNat)
    s!"'{e.encoding}' codec can't decode byte 0x{hex} in position {e.start}: {e.reason}"
  | _, _ =>
    let last : Int := (e.start : Int) + (e.count : Int) - 1
    s!"'{e.encoding}' codec can't decode bytes in position {e.start}-{last}: {e.reason}"

/-- The wording of halves of surrogate pairs that no bytes stand for. -/
def Bytes.Utf8.EncodeError.message (e : Bytes.Utf8.EncodeError) : String :=
  if e.count = 1 then
    let hex := String.ofList (Document.hexadecimal 4 e.half)
    "'utf-8' codec can't encode character '\\u" ++ hex
      ++ s!"' in position {e.start}: surrogates not allowed"
  else
    let last := e.start + e.count - 1
    s!"'utf-8' codec can't encode characters in position {e.start}-{last}: surrogates not allowed"

/-- Why a value is out of the range of its kind. -/
inductive RangeFault where
  | worded (message : String)
  /-- A text cannot be encoded. -/
  | unencodable (error : Bytes.Utf8.EncodeError)
deriving DecidableEq, Repr

instance : Coe String RangeFault := ⟨.worded⟩

/-- The wording of a value that is out of the range of its kind. -/
def RangeFault.message : RangeFault → String
  | worded text => text
  | unencodable e => e.message

/-- Why a computation has no result. -/
inductive Failure where
  | catalog (error : CatalogError)
  /-- A name that no dialect goes under. -/
  | unknownDialect (name : String)
  /-- A value stands where one of another kind is needed. -/
  | wrongKind (kind : WrongKind)
  | file (error : FileError)
  /-- A text file cannot be read. -/
  | unreadable (path : String) (error : FileError)
  | undecodable (error : DecodeError)
  /-- The bytes of a text file together make no text in an encoding. -/
  | illFormed (encoding reason : String)
  /-- A name that no encoding goes under. -/
  | unknownEncoding (name : String) (supported : List String)
  /-- An encoding that does not turn bytes into text. -/
  | notTextEncoding (name : String)
  /-- A text that is no document. -/
  | document (error : ReadError)
  /-- A value that is out of the range of its kind. -/
  | badValue (fault : RangeFault)
  /-- A value that has no text, since it holds a whole number that is too long. -/
  | unwritable
deriving Repr

namespace Failure

/-- The wording of a failure; the kinds of values are not worded. -/
def message : Failure → String
  | catalog e => e.message
  | unknownDialect name =>
    let presets := ", ".intercalate (Sql.Dialect.withPresets.map Sql.Dialect.name)
    s!"Unknown dialect '{name}'. Presets: {presets}"
  | wrongKind _ => ""
  | file e => e.message
  | unreadable path e => "Cannot read file " ++ path ++ ": " ++ e.message
  | undecodable e => e.message
  | illFormed encoding reason => Bytes.wholeMessage encoding reason
  | unknownEncoding name supported =>
    let names := ", ".intercalate supported
    s!"Unknown encoding '{name}'. Supported: {names}"
  | notTextEncoding _ => ""
  | document e => e.message
  | badValue fault => fault.message
  | unwritable => Decimal.LimitError.writing.message

end Failure

end SqlTables
