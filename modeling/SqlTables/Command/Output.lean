import SqlTables.Document.Json.Writer
import SqlTables.Report.Demo
import SqlTables.Report.Keywords
import SqlTables.Report.Query
import SqlTables.Report.Scan
import SqlTables.Terminal.Grid

/-!
# Output

Reports as they are printed: for people, with markup and grids, or as JSON documents.
-/

set_option autoImplicit false

namespace SqlTables.Command

open Terminal (escaped printed)

/-- A document as it is printed. -/
def documentText (d : Document.Value) : String := Document.Json.pretty d ++ "\n"

/-- Text in a style, as markup. -/
def styled (style text : String) : String := "[" ++ style ++ "]" ++ text ++ "[/" ++ style ++ "]"

/-- A title with the number of things listed below it. -/
def countTitle (style title : String) (count : Nat) : String :=
  styled style (title ++ " (" ++ toString count ++ "):")

/-- A list of names, each on a line with a dash. -/
def nameList (style : String) (names : List String) : String :=
  String.join (names.map fun n => printed (styled style ("- " ++ escaped n)))

/-- A title and a list of names, after a blank line, if there are any. -/
def titledList (titleStyle title nameStyle : String) (names : List String) : String :=
  if names.isEmpty then ""
  else printed ("\n" ++ countTitle titleStyle title names.length) ++ nameList nameStyle names

/-- What else is to be known about a report on a query. -/
def detailText (r : Report.QueryReport) (sql : String) : String :=
  printed ("\n" ++ styled "dim" "Query analyzed:")
    ++ printed (styled "dim" (escaped (Text.collapsed sql)))
    ++ (if r.knownTables = 0 then ""
        else printed (styled "dim" ("Known tables loaded: " ++ toString r.knownTables)))
    ++ printed (styled "dim" ("Keywords used: " ++ escaped (", ".intercalate r.keywords)))

/-- A report on a query. -/
def queryText (r : Report.QueryReport) (sql : String) (verbose : Bool) : String :=
  let e := r.extraction
  let found :=
    if e.allTables.isEmpty then printed (styled "yellow" "No tables found in the query")
    else
      printed (countTitle "green" "Tables found" e.allTables.length)
        ++ nameList "yellow" e.allTables
        ++ (if r.filtersCtes then
              titledList "green" "Real tables" "cyan" e.realTables
                ++ titledList "magenta" "Filtered CTEs" "dim" e.ctes
            else "")
  found ++ (if verbose then detailText r sql else "")

/-- A report on a directory. -/
def scanText (r : Report.ScanReport) : String :=
  let row (x : Report.ScanRow) : List String :=
    let cells := [x.file, x.tables, x.ctes] ++ (if r.hasOutput then [x.output.getD ""] else [])
    cells.map escaped
  Terminal.Grid.printed ⟨r.columns, r.rows.map row⟩
    ++ (if r.warnings = 0 then ""
        else printed (styled "yellow" ("Warnings: " ++ toString r.warnings)))

/-- The demonstration. -/
def demoText (rows : List Report.DemoRow) : String :=
  Terminal.Grid.printed ⟨Report.demoColumns,
    rows.map fun x => [x.name, x.all, x.real, x.ctes].map escaped⟩

/-- The keywords that a dialect adds. -/
def dialectText (standard : List String) (dialect : String × List String) : String :=
  let added := escaped (", ".intercalate (dialect.2.filter fun k => !standard.contains k))
  printed ("\n" ++ styled "cyan" (escaped dialect.1) ++ " adds: "
    ++ (if added.isEmpty then "-" else added))

/-- A report on keywords. -/
def keywordText (r : Report.KeywordReport) : String :=
  printed (styled "bold blue" "SQL keywords" ++ "\n")
    ++ printed (styled "yellow" "Default keywords:")
    ++ String.join (r.standard.map fun k => printed ("  - " ++ escaped k))
    ++ String.join (r.dialects.map (dialectText r.standard))
    ++ printed ("\n" ++ styled "dim"
        ("Total available: " ++ toString r.all.length ++ " keywords"))
    ++ printed (styled "dim"
        "Use --keywords to replace the defaults, --custom-keywords to add to them")

end SqlTables.Command
