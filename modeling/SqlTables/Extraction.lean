import SqlTables.Catalog.Building
import SqlTables.Sql.Capture
import SqlTables.Sql.Preset
import SqlTables.Sql.Scrub

/-!
# Extraction

The tables that a query names: its captures without function calls, resolved against a catalog,
each once in order of first occurrence.  With a catalog the names that it does not know may be set
apart as common table expressions.
-/

set_option autoImplicit false

namespace SqlTables

open Document (Value)

/-- The names found in a query. -/
structure Extraction where
  allTables : List String
  /-- Those that are tables. -/
  realTables : List String
  /-- Those that a catalog does not know. -/
  ctes : List String
deriving DecidableEq, Repr

/-- What is looked for, and how names are resolved and told apart. -/
structure Extractor where
  catalog : Option Catalog
  /-- Whether unknown names are set apart; without a catalog they never are. -/
  filtersCtes : Bool
  /-- The phrases after which a table is looked for, in normal form. -/
  keywords : List String
deriving Repr

namespace Extractor

/-- The captures in a query, function calls among them. -/
def capturesIn (x : Extractor) (sql : String) : List Sql.Capture :=
  Sql.captures x.keywords (Sql.scrub sql.toList)

/-- The names captured in a query, as they are written there and with repeats. -/
def namesIn (x : Extractor) (sql : String) : List String :=
  ((x.capturesIn sql).filter (!·.isCall)).map Sql.Capture.name

/-- The name under which a captured one is reported. -/
def resolve (x : Extractor) (name : String) : String :=
  match x.catalog with
  | some c => c.resolve name
  | none => name

/-- The tables that a query names. -/
def extract (x : Extractor) (sql : String) : Extraction :=
  let all := ((x.namesIn sql).map x.resolve).eraseDups
  match x.filtersCtes, x.catalog with
  | true, some c => ⟨all, all.filter c.isKnown, all.filter (!c.isKnown ·)⟩
  | _, _ => ⟨all, all, []⟩

/-- Whether or not names are set apart, all of them are reported, resolved and each once. -/
theorem allTables_extract (x : Extractor) (sql : String) :
    (x.extract sql).allTables = ((x.namesIn sql).map x.resolve).eraseDups := by
  unfold extract
  split <;> rfl

/-- A notice for each function call that is skipped in a query. -/
def skippedCalls (x : Extractor) (sql : String) : List Notice :=
  ((x.capturesIn sql).filter (·.isCall)).map fun c =>
    .callSkipped (String.ofList c.keyword) (String.ofList c.identifier.text)

/-- The tables of a query when only one list is wanted: the real ones if there is a catalog. -/
def tables (x : Extractor) (sql : String) : List String :=
  let e := x.extract sql
  if x.catalog.isSome then e.realTables else e.allTables

/-- `extract` with its notices. -/
def extractNoted (x : Extractor) (sql : String) : Noted Extraction :=
  Noted.ofPair (x.extract sql, x.skippedCalls sql)

/-- `tables` with its notices. -/
def tablesNoted (x : Extractor) (sql : String) : Noted (List String) :=
  Noted.ofPair (x.tables sql, x.skippedCalls sql)

end Extractor

/-- How an extractor is asked for. -/
structure ExtractionOptions where
  catalog : Option Catalog := none
  filtersCtes : Bool := false
  /-- The keywords instead of those of the dialect; null if they are to be those. -/
  keywords : Value := .null
  /-- Keywords besides. -/
  customKeywords : Value := .null
  dialect : Value := .null
deriving Repr

namespace ExtractionOptions

/-- The items that stand for the keywords before the custom ones.  A dialect that is not known
leaves the standard keywords, with a notice. -/
def baseItems (o : ExtractionOptions) : Noted (List Value) := do
  if !(o.keywords matches .null) then Noted.ofKind o.keywords.items
  else if o.dialect.isGiven then
    match Sql.Dialect.ofValue o.dialect with
    | .ok d => return (← Sql.keywordsOf d .null).map .text
    | .error (.unknownDialect name) =>
      Noted.tell [.dialectIgnored (Failure.unknownDialect name).message]
      return Sql.Keyword.standard.map .text
    | .error failure => Noted.fail failure
  else return Sql.Keyword.standard.map .text

/-- The extractor that is asked for. -/
def build (o : ExtractionOptions) : Noted Extractor := do
  let base ← o.baseItems
  let custom ← Noted.ofKind o.customKeywords.givenItems
  let phrases ← Noted.ofKind (Value.phrases (base ++ custom))
  let keywords := Sql.Keyword.normalize phrases
  Noted.tell [.keywordsInEffect keywords]
  return ⟨o.catalog, o.filtersCtes, keywords⟩

end ExtractionOptions

/-- The options of an extraction for which only one list is wanted: with a catalog, unknown names
are set apart. -/
def simpleOptions (catalog : Option Catalog) : ExtractionOptions :=
  { catalog, filtersCtes := catalog.isSome }

end SqlTables
