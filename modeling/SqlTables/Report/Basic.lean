import SqlTables.Catalog.File
import SqlTables.Config
import SqlTables.Extraction
import SqlTables.Files.Pattern

/-!
# Requests and configuration

What all reports share: a request is completed from the configuration.  A request's own values come
first; names to leave out are always those of the configuration.
-/

set_option autoImplicit false

namespace SqlTables.Report

open Document (Value WrongKind)

/-- A value of a request, or that of a setting where the request gives none. -/
def orSetting (v : Value) (c : Config) (s : Setting) : Value := if v.isGiven then v else c.get s

/-- The path that a value stands for. -/
def pathOf : Value → Except WrongKind Files.Path
  | .text s => .ok (.parse s)
  | _ => .error .notPath

/-- The catalog for a request: of names that it lists, else in a file that it or the configuration
names, else none.  The log has the level that the configuration says. -/
def catalogFor [Text.Repertoire] (t : Files.Tree) (c : Config) (file names : Value) :
    Noted (Option Catalog) := do
  if names.isGiven then return some (← Noted.ofKind (Catalog.ofItems names))
  else
    let source := orSetting file c .knownTables
    if source.isGiven then
      let path ← Noted.ofKind (pathOf source)
      let catalog ← Catalog.load t path (c.logLevel.toOption.getD .info)
      Noted.tell [.catalogLoaded catalog.size source.display]
      return some catalog
    else return none

/-- What a request says about keywords. -/
structure KeywordRequest where
  keywords : Value := .null
  customKeywords : Value := .null
  dialect : Value := .null
deriving Repr

/-- The keywords for a request instead of the standard ones: its own or those of the configuration
if there are any, even none; else those of its dialect or the configured one; else null. -/
def baseKeywords (c : Config) (r : KeywordRequest) : Noted Value := do
  let keywords := orSetting r.keywords c .keywords
  let dialect := orSetting r.dialect c .dialect
  if keywords matches .null then
    if dialect.isGiven then
      return Value.ofTexts (← Sql.keywordsForDialect dialect (c.get .keywordPresets))
    else return .null
  else return keywords

/-- The extractor for a request. -/
def extractorFor (c : Config) (catalog : Option Catalog) (filtersCtes : Value)
    (r : KeywordRequest) : Noted Extractor := do
  let keywords ← baseKeywords c r
  let configured ← Noted.ofKind (c.get .customKeywords).givenItems
  let requested ← Noted.ofKind r.customKeywords.givenItems
  let filters := (orSetting filtersCtes c .filterCtes).isGiven && catalog.isSome
  ExtractionOptions.build
    { catalog, filtersCtes := filters, keywords,
      customKeywords := .list (configured ++ requested) }

/-- Whether a name matches one of some patterns; these are looked at only until one matches. -/
def matchesAny (name : String) : List Value → Except WrongKind Bool
  | [] => .ok false
  | .text pattern :: rest =>
    if Files.nameMatches pattern name then .ok true else matchesAny name rest
  | _ :: _ => .error .notPattern

/-- The names that match none of some patterns. -/
def withoutIgnored (patterns : List Value) (names : List String) : Except WrongKind (List String) :=
  names.filterM fun name => return !(← matchesAny name patterns)

/-- An extraction without the names that are configured to be left out. -/
def applyIgnore (c : Config) (e : Extraction) : Except WrongKind Extraction := do
  let patterns ← (c.get .ignore).givenItems
  let all ← withoutIgnored patterns e.allTables
  let real ← withoutIgnored patterns e.realTables
  let ctes ← withoutIgnored patterns e.ctes
  return ⟨all, real, ctes⟩

/-- The members of the document of an extraction. -/
def extractionEntries (e : Extraction) : List (Value × Value) :=
  [(.text "allTables", Value.ofTexts e.allTables), (.text "realTables", Value.ofTexts e.realTables),
    (.text "filteredCTEs", Value.ofTexts e.ctes)]

end SqlTables.Report
