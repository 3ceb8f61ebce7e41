import SqlTables.Document.Display
import SqlTables.Sql.Identifier

/-!
# Known tables

A table that is known has a name, a qualified name to which references resolve, and perhaps a
schema and a database, which may be any value.  Tables are described in documents by their
qualified name alone or by an object, with members in either of two spellings.
-/

set_option autoImplicit false

namespace SqlTables

open Document (Value)

/-- A known table. -/
structure Table where
  name : String
  qualifiedName : String
  schema : Value := .null
  database : Value := .null
deriving Repr, Inhabited

/-- Why a value describes no table. -/
inductive TableFault where
  /-- An object without texts for the two names. -/
  | namesMissing
  /-- The empty text. -/
  | emptyName
  /-- A value of a kind that describes nothing. -/
  | wrongKind (kind : String)
deriving DecidableEq, Repr

/-- The wording of a fault. -/
def TableFault.message : TableFault → String
  | namesMissing => "table metadata requires string 'tableName' and 'fullyQualifiedName'"
  | emptyName => "empty table name"
  | wrongKind kind => s!"expected an object or a string, got {kind}"

namespace Table

/-- The member of an object under one of two spellings, the first winning even when it is null. -/
def member (entries : List (Value × Value)) (spelling other : String) : Value :=
  ((Value.lookup (.text spelling) entries).or (Value.lookup (.text other) entries)).getD .null

/-- The member of an object under a key, null when it is missing. -/
def optional (entries : List (Value × Value)) (key : String) : Value :=
  (Value.lookup (.text key) entries).getD .null

/-- The table that an object describes. -/
def ofEntries (entries : List (Value × Value)) : Except TableFault Table :=
  match member entries "tableName" "table_name",
    member entries "fullyQualifiedName" "fully_qualified_name" with
  | .text name, .text qualifiedName =>
    .ok ⟨name, qualifiedName, optional entries "schema", optional entries "database"⟩
  | _, _ => .error .namesMissing

/-- The table that a value describes.  A mapping inside itself describes none. -/
def ofValue : Value → Except TableFault Table
  | .text s => if s = "" then .error .emptyName else .ok ⟨Sql.bareName s, s, .null, .null⟩
  | .map entries => ofEntries entries
  | .again true => .error .namesMissing
  | v => .error (.wrongKind v.kind)

/-- The optional part of a description: nothing for null. -/
def optionalEntry (key : String) : Value → List (Value × Value)
  | .null => []
  | v => [(.text key, v)]

/-- The members of the object that describes a table. -/
def entries (t : Table) : List (Value × Value) :=
  [(.text "tableName", .text t.name), (.text "fullyQualifiedName", .text t.qualifiedName)]
    ++ optionalEntry "schema" t.schema ++ optionalEntry "database" t.database

end Table

end SqlTables
