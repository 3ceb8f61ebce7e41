import SqlTables.Command.Arguments

/-!
# Choices

What a command line can choose: for all commands, and for each of them.
-/

set_option autoImplicit false

namespace SqlTables.Command

/-- A thing to show instead of doing any work. -/
inductive Shown where
  | version
  | help
deriving DecidableEq, Repr

/-- The choices for all commands, which stand in front of the command. -/
structure CommonChoices where
  shown : Option Shown := none
  /-- The settings file. -/
  config : Option String := none
  logLevel : String := ""
  /-- The format of the output. -/
  format : String := ""
deriving DecidableEq, Repr

/-- The option that asks for help. -/
def helpOption {σ : Type} (apply : σ → σ) : OptionForm σ where
  name := "--help"
  effect := .flag apply

/-- The options of all commands. -/
def CommonChoices.forms : List (OptionForm CommonChoices) := [
  { name := "--config", effect := .value fun v c => { c with config := some v } },
  { name := "--log-level", effect := .value fun v c => { c with logLevel := v } },
  { name := "--format", effect := .value fun v c => { c with format := v } },
  { name := "--version", effect := .flag fun c => { c with shown := c.shown <|> some .version } },
  helpOption fun c => { c with shown := c.shown <|> some .help }]

/-- The choices for the command on a query. -/
structure QueryChoices where
  help : Bool := false
  /-- Whether the argument is the path of a file with the query. -/
  file : Bool := false
  verbose : Bool := false
  knownTables : Option String := none
  /-- The names of known tables, separated by commas. -/
  tables : String := ""
  filtersCtes : Bool := false
  keywords : String := ""
  customKeywords : String := ""
  dialect : String := ""
  encoding : String := ""
deriving DecidableEq, Repr

/-- The options of the command on a query. -/
def QueryChoices.forms : List (OptionForm QueryChoices) := [
  { name := "--file", letter := some 'f', effect := .flag fun c => { c with file := true } },
  { name := "--verbose", letter := some 'v', effect := .flag fun c => { c with verbose := true } },
  { name := "--known-tables", letter := some 't',
    effect := .value fun v c => { c with knownTables := some v } },
  { name := "--tables", effect := .value fun v c => { c with tables := v } },
  { name := "--filter-ctes", effect := .flag fun c => { c with filtersCtes := true } },
  { name := "--keywords", effect := .value fun v c => { c with keywords := v } },
  { name := "--custom-keywords", effect := .value fun v c => { c with customKeywords := v } },
  { name := "--dialect", effect := .value fun v c => { c with dialect := v } },
  { name := "--encoding", effect := .value fun v c => { c with encoding := v } },
  helpOption fun c => { c with help := true }]

/-- The choices for the command on a directory. -/
structure ScanChoices where
  help : Bool := false
  sqlDir : Option String := none
  outDir : Option String := none
  knownTables : Option String := none
  filtersCtes : Bool := false
  includePattern : String := ""
  excludePattern : String := ""
  encoding : String := ""
  failOnWarn : Bool := false
deriving DecidableEq, Repr

/-- The options of the command on a directory. -/
def ScanChoices.forms : List (OptionForm ScanChoices) := [
  { name := "--sql-dir", effect := .value fun v c => { c with sqlDir := some v } },
  { name := "--out-dir", effect := .value fun v c => { c with outDir := some v } },
  { name := "--known-tables", letter := some 't',
    effect := .value fun v c => { c with knownTables := some v } },
  { name := "--filter-ctes", effect := .flag fun c => { c with filtersCtes := true } },
  { name := "--include", effect := .value fun v c => { c with includePattern := v } },
  { name := "--exclude", effect := .value fun v c => { c with excludePattern := v } },
  { name := "--encoding", effect := .value fun v c => { c with encoding := v } },
  { name := "--fail-on-warn", effect := .flag fun c => { c with failOnWarn := true } },
  { name := "--no-fail-on-warn", effect := .flag fun c => { c with failOnWarn := false } },
  helpOption fun c => { c with help := true }]

/-- The choices for a command that leaves none but to show its help. -/
structure PlainChoices where
  help : Bool := false
deriving DecidableEq, Repr

/-- The options of such a command. -/
def PlainChoices.forms : List (OptionForm PlainChoices) := [
  helpOption fun c => { c with help := true }]

end SqlTables.Command
