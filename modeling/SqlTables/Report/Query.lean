import SqlTables.Report.Basic

/-!
# Report on a query

The tables that one query names, with the keywords that were looked for.
-/

set_option autoImplicit false

namespace SqlTables.Report

open Document (Value)

/-- A query and how it is to be read. -/
structure QueryRequest where
  sql : Value
  /-- The file of a catalog. -/
  knownTables : Value := .null
  /-- The names of known tables, instead of a catalog. -/
  tableNames : Value := .null
  filtersCtes : Value := .bool false
  keywords : KeywordRequest := {}
deriving Repr

/-- What a query names. -/
structure QueryReport where
  extraction : Extraction
  keywords : List String
  /-- The number of known tables. -/
  knownTables : Nat
  filtersCtes : Bool
deriving Repr

/-- Reports on a query. -/
def query [Text.Repertoire] (t : Files.Tree) (c : Config) (r : QueryRequest) :
    Noted QueryReport := do
  let catalog ← catalogFor t c r.knownTables r.tableNames
  let x ← extractorFor c catalog r.filtersCtes r.keywords
  let found ← x.extractNoted (← Noted.ofKind r.sql.phrase)
  let extraction ← Noted.ofKind (applyIgnore c found)
  return ⟨extraction, x.keywords, (catalog.map Catalog.size).getD 0, x.filtersCtes⟩

/-- The document of a report on a query. -/
def QueryReport.toDocument (r : QueryReport) : Value :=
  .map (extractionEntries r.extraction ++ [(.text "keywords", Value.ofTexts r.keywords),
    (.text "knownTables", .int r.knownTables), (.text "filterCTEs", .bool r.filtersCtes)])

end SqlTables.Report
