import SqlTables.Catalog.Building
import SqlTables.Document.Json.Reader
import SqlTables.Document.Yaml.Reader
import SqlTables.Files.Reading

/-!
# Catalog files

A catalog is kept in a file as a JSON or a YAML document; the suffix of the file says which.
-/

set_option autoImplicit false

namespace SqlTables

open Document (Value)

namespace Catalog

/-- Whether a path names a JSON document, by its suffix in letters of any case. -/
def isJsonPath (p : Files.Path) : Bool := Text.lowered p.suffix = ".json"

/-- A fault of the document in the file of a catalog. -/
def documentFailure (p : Files.Path) : Document.ReadError → Failure
  | .malformed => .catalog (.unparsable p.text)
  | e => .document e

variable [Text.Repertoire]

/-- The document in a text, in the format that a path says. -/
def parseDocument (p : Files.Path) (text : String) : Except Failure Value :=
  let document := if isJsonPath p then Document.Json.read text else Document.Yaml.read text
  document.mapError (documentFailure p)

/-- A failure to read the file of a catalog. -/
def readFailure (p : Files.Path) : Failure → Failure
  | .file e => .catalog (.unreadable p.text e)
  | other => other

/-- The document in the file of a catalog. -/
def readDocument (t : Files.Tree) (p : Files.Path) : Except Failure Value := do
  let bytes ← (Files.readBytes t p).mapError (readFailure p)
  parseDocument p (← Files.documentText bytes)

/-- Loads the catalog in a file, with the level of the log. -/
def load (t : Files.Tree) (p : Files.Path) (level : optParam LogLevel .info) : Noted Catalog :=
  match readDocument t p with
  | .ok document => ofDocument p.text document level
  | .error failure => Noted.fail failure

end Catalog

end SqlTables
