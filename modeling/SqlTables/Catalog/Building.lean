import SqlTables.Catalog.Basic
import SqlTables.Noted

/-!
# Building catalogs

Catalogs are built from mappings of keys to descriptions of tables.  A description that is not
valid is left out with a notice, or refused when building is strict; either way it neither adds
nor changes nor moves an entry.

A warning names what is left out, by its key or as a whole.  The handler of the log words it when it
is told and, as the one of the commands does, lets a failure of that through; so where the level of
the log has warnings told, one about something without a text ends the building.
-/

set_option autoImplicit false

namespace SqlTables

open Document (Value)

/-- A table as it may be given: as such, or as a value of a document. -/
inductive Description where
  | table (t : Table)
  | value (v : Value)
deriving Repr

/-- The table that a description gives. -/
def Description.toTable : Description → Except TableFault Table
  | table t => .ok t
  | value v => Table.ofValue v

namespace Catalog

/-- The valid descriptions of a mapping, under the display of their keys. -/
def validEntries (mapping : List (Value × Description)) : List (String × Table) :=
  mapping.filterMap fun (k, d) =>
    match d.toTable with
    | .ok t => some (k.display, t)
    | .error _ => none

/-- The invalid descriptions of a mapping, with what is wrong with them. -/
def faults (mapping : List (Value × Description)) : List (Value × TableFault) :=
  mapping.filterMap fun (k, d) =>
    match d.toTable with
    | .ok _ => none
    | .error fault => some (k, fault)

/-- The catalog of the valid descriptions of a mapping. -/
def ofValid (mapping : List (Value × Description)) : Catalog where
  entries := (validEntries mapping).foldl (fun entries (k, t) => insert k t entries) []
  qualifies := true

/-- The catalog of a mapping, and a notice for each description that is left out. -/
def ofMapping (mapping : List (Value × Description)) : Catalog × List Notice :=
  (ofValid mapping, (faults mapping).map fun (k, fault) => .invalidTable k fault)

/-- The descriptions before the first whose key has no text, if there is such a key. -/
def unwritable? (mapping : List (Value × Description)) : Option (List (Value × Description)) :=
  let before := mapping.takeWhile (·.1.isWritable)
  if before.length < mapping.length then some before else none

/-- The descriptions of a mapping whose keys have texts. -/
def writable (mapping : List (Value × Description)) : List (Value × Description) :=
  mapping.filter (·.1.isWritable)

/-- The catalog of a mapping, with the notices for what is left out.  A description whose key has
no text is left out too, unless the warning is told: then it ends the building. -/
def build (mapping : List (Value × Description)) (level : optParam LogLevel .info) :
    Noted Catalog :=
  match unwritable? mapping with
  | none => Noted.ofPair (ofMapping mapping)
  | some before =>
    if level.tells .warning then do
      Noted.tell (ofMapping before).2
      Noted.fail .unwritable
    else Noted.ofPair (ofMapping (writable mapping))

/-- Why strict building ends at an entry of a mapping, if it does: its key has no text, or its
description is not valid. -/
def refusal? (entry : Value × Description) : Option Failure :=
  if entry.1.isWritable then
    match entry.2.toTable with
    | .ok _ => none
    | .error fault => some (.catalog (.invalidTable entry.1 fault))
  else some .unwritable

/-- The catalog of a mapping whose descriptions are all valid and whose keys all have texts. -/
def ofMappingStrict (mapping : List (Value × Description)) : Except Failure Catalog :=
  match mapping.findSome? refusal? with
  | none => .ok (ofValid mapping)
  | some failure => .error failure

/-- The descriptions of a document that is a mapping. -/
def described (entries : List (Value × Value)) : List (Value × Description) :=
  entries.map fun (k, v) => (k, .value v)

/-- The flat catalog of the items of a value, which must be texts or not given. -/
def ofItems (v : Value) : Except Document.WrongKind Catalog := do
  return ofNames (← Value.phrases (← v.items))

/-- The catalog of names separated by commas; a value that is not given has none. -/
def ofCommaSeparatedValue (v : Value) : Except Document.WrongKind Catalog := do
  return ofCommaSeparated (← v.phrase)

/-- The catalog that a value stands for: none for null, a mapping of descriptions, names separated
by commas, or a list of names. -/
def ofValue (v : Value) (level : optParam LogLevel .info) : Noted (Option Catalog) :=
  match v with
  | .null => return none
  | .map entries => some <$> build (described entries) level
  | .text s => return some (ofCommaSeparated s)
  | v => some <$> Noted.ofKind (ofItems v)

/-- The texts among the parts of a qualified name, joined by dots. -/
def joinedParts (parts : List Value) : Except Document.WrongKind String := do
  let texts ← parts.mapM fun
    | .text s => .ok s
    | _ => .error .notJoinable
  return ".".intercalate texts

/-- The description that stands for an item of a list of tables: its name, and its qualified name,
which is given or made of the database, the schema and the name. -/
def listedTable (name : String) (item : List (Value × Value)) :
    Except Document.WrongKind (List (Value × Value)) := do
  let schema := Table.optional item "schema"
  let database := Table.optional item "database"
  let given := Table.optional item "fullyQualifiedName"
  let qualified ←
    if given.isGiven then pure given
    else Value.text <$> joinedParts ([database, schema].filter Value.isGiven ++ [.text name])
  return [(.text "tableName", .text (Sql.bareName name)), (.text "fullyQualifiedName", qualified),
    (.text "schema", schema), (.text "database", database)]

/-- Leaves out an item of a list of tables with a notice.  One without a text is left out without,
unless the warning is told: then it ends the building. -/
def leaveOut (item : Value) (level : LogLevel) : Noted Unit :=
  if item.isWritable then Noted.tell [.invalidListedTable item]
  else if level.tells .warning then Noted.fail .unwritable
  else pure ()

/-- The mapping of names to descriptions that a list of tables stands for. -/
def tablesSection (items : List Value) (level : LogLevel) : Noted (List (Value × Value)) :=
  items.foldlM (fun mapping item =>
    match item with
    | .map entries =>
      match Table.optional entries "name" with
      | .text name => do
        let description ← Noted.ofKind (listedTable name entries)
        return Value.insert (.text name) (.map description) mapping
      | _ => do
        leaveOut item level
        return mapping
    | _ => do
      leaveOut item level
      return mapping) []

/-- The catalog of a document: of no tables when it is null, of names when it is a list, of a
list of tables when it has one, else of the descriptions in it.  `path` names it in errors. -/
def ofDocument (path : String) (document : Value) (level : LogLevel) : Noted Catalog :=
  match document with
  | .null => return ⟨[], true⟩
  | .list items =>
    if items.all Value.isWritable then
      return ofNames ((items.filter fun v => !(v matches .null)).map Value.display)
    else Noted.fail .unwritable
  | .map entries =>
    match Table.optional entries "tables" with
    | .list items => do
      let mapping ← tablesSection items level
      build (described mapping) level
    | _ => build (described entries) level
  | _ => Noted.fail (.catalog (.notListing path))

end Catalog

end SqlTables
