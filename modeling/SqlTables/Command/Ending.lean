import SqlTables.Command.Usage
import SqlTables.Notice
import SqlTables.Failure
import SqlTables.Terminal.Line

/-!
# Endings

How a run of the program ends: what it prints and its exit code.
-/

set_option autoImplicit false

namespace SqlTables.Command

open Terminal (escaped printed)

/-- What a run prints, and its exit code. -/
structure Ending where
  exitCode : Nat := 0
  out : String := ""
  err : String := ""
deriving DecidableEq, Repr

namespace Ending

/-- The exit code for a command line that cannot be followed. -/
def usageCode : Nat := 2

/-- The ending for a command line that cannot be followed. -/
def ofUsage (e : UsageError) : Ending where
  exitCode := usageCode
  err := "Error: " ++ e.message ++ "\n"

/-- The ending after a failure that the program tells about. -/
def ofFailure (what : String) (f : Failure) : Ending where
  exitCode := 1
  err := printed ("[red]" ++ escaped what ++ "[/red]")
    ++ printed ("[red]Error:[/red] " ++ escaped f.message)

/-- The name and version of the program. -/
def version : String := "tabletracker 0.3.0"

/-- The ending that shows the version. -/
def ofVersion : Ending where out := version ++ "\n"

/-- The lines of the help. -/
def helpLines : List String := [
  "tabletracker: extract table names from SQL queries",
  "",
  "tabletracker [--config FILE] [--log-level LEVEL] [--format text|json] COMMAND",
  "tabletracker --version",
  "",
  "  parse QUERY  the tables in a query, or with --file in a file",
  "    [-f|--file] [-v|--verbose] [-t|--known-tables FILE] [--tables NAMES] [--filter-ctes]",
  "    [--keywords NAMES] [--custom-keywords NAMES] [--dialect NAME] [--encoding NAME]",
  "  scan         the tables in each SQL file of a directory",
  "    [--sql-dir DIR] [--out-dir DIR] [-t|--known-tables FILE] [--filter-ctes]",
  "    [--include GLOB] [--exclude GLOB] [--encoding NAME] [--fail-on-warn]",
  "  keywords     the keywords that are known",
  "  demo         the tables in some example queries"]

/-- The ending that shows the help. -/
def ofHelp : Ending where out := String.join (helpLines.map (· ++ "\n"))

end Ending

end SqlTables.Command
