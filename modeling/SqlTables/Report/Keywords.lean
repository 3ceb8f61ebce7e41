import SqlTables.Report.Basic

/-!
# Report on keywords

The standard keywords, those of each dialect that has some of its own, by the dialect or by a
preset of the configuration, and all that are known.
-/

set_option autoImplicit false

namespace SqlTables.Report

open Document (Value)

/-- Keywords, as a whole and by dialect. -/
structure KeywordReport where
  standard : List String
  /-- The keywords of dialects, each dialect once. -/
  dialects : List (String × List String)
  all : List String
deriving DecidableEq, Repr

/-- The keywords of the dialects with presets of their own. -/
def presetDialects (presets : Value) : Noted (List (String × List String)) :=
  Sql.Dialect.withPresets.mapM fun d => return (d.name, ← Sql.keywordsOf d presets)

/-- The lists by dialect with that of another dialect at the end, unless it is there already. -/
def addDialect (presets : Value) (dialects : List (String × List String)) (key : Value) :
    Noted (List (String × List String)) := do
  match Sql.Dialect.ofValue key with
  | .error failure => Noted.fail failure
  | .ok d =>
    let keywords ← Sql.keywordsOf d presets
    return if dialects.any (·.1 = d.name) then dialects else dialects ++ [(d.name, keywords)]

/-- Reports on keywords. -/
def keywords (c : Config) : Noted KeywordReport := do
  let presets := c.get .keywordPresets
  let builtin ← presetDialects presets
  let keys ← Noted.ofKind presets.givenItems
  let dialects ← keys.foldlM (addDialect presets) builtin
  return ⟨Sql.Keyword.standard, dialects, Sql.KeywordSets.builtin.all⟩

/-- The document of a report on keywords. -/
def KeywordReport.toDocument (r : KeywordReport) : Value :=
  .map [(.text "default", Value.ofTexts r.standard),
    (.text "dialects", .map (r.dialects.map fun (name, ks) => (.text name, Value.ofTexts ks))),
    (.text "all", Value.ofTexts r.all)]

end SqlTables.Report
