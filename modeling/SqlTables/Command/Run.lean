import SqlTables.Command.Choices
import SqlTables.Command.Ending
import SqlTables.Command.Output

/-!
# Runs

A run of the program: from the words of a command line and the files in the working directory to
its ending and the files afterwards.  First the choices in front of the command count, then the
configuration is loaded, and only then are the words after the command looked at.
-/

set_option autoImplicit false

namespace SqlTables.Command

open Document (Value)
open Report (orSetting isOfOneFile)

variable [Text.Repertoire]

/-- A part of a run, which may end it. -/
abbrev Step (α : Type) := ExceptT Ending Action α

namespace Step

/-- Ends the run. -/
def done {α : Type} (e : Ending) : Step α := throw e

/-- Does an action that may fail so that the run ends as is said. -/
def attempt {α : Type} (x : Action α) (ending? : Failure → Option Ending) : Step α :=
  ExceptT.mk <| Action.handling (.ok <$> x) (fun f => (ending? f).isSome)
    fun f => match ending? f with
      | some e => return .error e
      | none => Action.fail f

/-- Goes on with what the command line says, unless something is wrong with it. -/
def ofUsage {α : Type} (x : Except UsageError α) : Step α :=
  match x with
  | .ok a => pure a
  | .error e => done (.ofUsage e)

end Step

/-! ## Paths -/

/-- What the path that is given for an option must lead to. -/
inductive PathNeed where
  /-- A file. -/
  | file
  /-- A directory. -/
  | directory
  /-- A directory, or nothing yet. -/
  | newDirectory
deriving DecidableEq, Repr

/-- What is wrong with a path that leads to a node, or to none. -/
def PathNeed.fault? (need : PathNeed) (option path : String) (node : Option Files.Node) :
    Option UsageError :=
  match need, node with
  | file, some (.file _) | directory, some .directory | newDirectory, some .directory
  | newDirectory, none => none
  | file, none | directory, none => some (.pathNotFound option path)
  | file, some .directory => some (.pathIsDirectory option path)
  | directory, some (.file _) | newDirectory, some (.file _) => some (.pathIsFile option path)

/-- The path that is given for an option. -/
def checkedPath (need : PathNeed) (option : String) : Option String → Step (Option Files.Path)
  | none => return none
  | some s => do
    if s.toList.contains '\x00' then Action.fail (.badValue "embedded null byte")
    let node ← (Action.reading fun t => return t.nodeAsGiven? s : Action (Option Files.Node))
    match need.fault? option s node with
    | some e => Step.done (.ofUsage e)
    | none => return some (.parse s)

/-- A path as a value of a request. -/
def pathValue : Option Files.Path → Value
  | none => .null
  | some p => .text p.text

/-! ## Configuration -/

/-- Whether a failure says that a settings file has a wrong form or content. -/
def isConfigFault : Failure → Bool
  | .badValue _ | .undecodable _ => true
  | .document e => e.isOfContent
  | _ => false

/-- The ending after a failure to load the configuration. -/
def configEnding (f : Failure) : Option Ending :=
  if isConfigFault f then some (.ofUsage (.badValue "--config" f.message)) else none

/-- The configuration of a file with the choices of the command line, which come first. -/
def loadConfig (c : CommonChoices) (file : Option Files.Path) : Step Config := do
  let loaded ← Step.attempt (Action.reading fun t => Config.load t file) configEnding
  let withLevel := if c.logLevel = "" then loaded else loaded.set .logLevel (.text c.logLevel)
  return if c.format = "" then withLevel else withLevel.set .outputFormat (.text c.format)

/-- Whether output is a JSON document. -/
def printsJson (c : Config) : Bool :=
  match c.get .outputFormat with
  | .text s => s = "json"
  | _ => false

/-! ## Commands -/

/-- The items of a list separated by commas, trimmed, without blank ones; none gives no value. -/
def itemsOf (s : String) : Value :=
  let items := ((s.splitOn ",").map Text.trimmed).filter (· ≠ "")
  if items.isEmpty then .null else .ofTexts items

/-- A list with one pattern; a blank one gives no value. -/
def patternsOf (s : String) : Value := if s = "" then .null else .list [.text s]

/-- The ending after a failure of the work itself: of a catalog, or of a word that names nothing
known, such as a dialect. -/
def workEnding (c : Config) (known : Value) (option : String) : Failure → Option Ending
  | .catalog e =>
    let file := (orSetting known c .knownTables).display
    some (.ofFailure ("Failed to read known tables file: " ++ file) (.catalog e))
  | .unknownDialect name =>
    some (.ofUsage (.badValue option (Failure.unknownDialect name).message))
  | .document (.notTruth word) => some (.ofUsage (.badValue option word))
  | _ => none

/-- The argument of the command on a query. -/
def oneArgument (name : String) : List String → Except UsageError String
  | [] => .error (.missingArgument name)
  | [a] => .ok a
  | _ :: further => .error (.extraArguments further)

/-- Refuses arguments. -/
def noArguments : List String → Except UsageError Unit
  | [] => .ok ()
  | arguments => .error (.extraArguments arguments)

/-- The text of the query that is given, or of the file with it. -/
def readQuery (c : Config) (o : QueryChoices) (argument : String) : Step String :=
  if o.file then
    Step.attempt
      (Action.reading fun t =>
        Files.readText t (.parse argument) (orSetting (.text o.encoding) c .encoding))
      fun f =>
        if isOfOneFile f then some (.ofFailure ("Failed to read file: " ++ argument) f) else none
  else return argument

/-- Reports on a query. -/
def runQuery (c : Config) (words : List String) : Step Ending := do
  let (o, arguments) ← Step.ofUsage (readArguments QueryChoices.forms true {} words)
  if o.help then return .ofHelp
  let known := pathValue (← checkedPath .file "--known-tables" o.knownTables)
  let argument ← Step.ofUsage (oneArgument "QUERY" arguments)
  let sql ← readQuery c o argument
  let request : Report.QueryRequest :=
    { sql := .text sql, knownTables := known, tableNames := itemsOf o.tables,
      filtersCtes := .bool o.filtersCtes
      keywords :=
        { keywords := itemsOf o.keywords, customKeywords := itemsOf o.customKeywords
          dialect := .text o.dialect } }
  let report ← Step.attempt (Action.reading fun t => Report.query t c request)
    (workEnding c known "--dialect")
  return { out := if printsJson c then documentText report.toDocument
                  else queryText report sql o.verbose }

/-- The path of a setting; only texts are paths. -/
def settingPath (v : Value) : Step Value :=
  match Report.pathOf v with
  | .ok p => return .text p.text
  | .error kind => Action.fail (.wrongKind kind)

/-- Reports on a directory. -/
def runScan (c : Config) (words : List String) : Step Ending := do
  let (o, arguments) ← Step.ofUsage (readArguments ScanChoices.forms true {} words)
  if o.help then return .ofHelp
  let sqlDir ← checkedPath .directory "--sql-dir" o.sqlDir
  let outDir ← checkedPath .newDirectory "--out-dir" o.outDir
  let known := pathValue (← checkedPath .file "--known-tables" o.knownTables)
  Step.ofUsage (noArguments arguments)
  let sqlDir ← match sqlDir with
    | some p => pure (.text p.text)
    | none => settingPath (c.get .sqlDir)
  let outDir ← match outDir with
    | some p => pure (.text p.text)
    | none =>
      if (c.get .outDir).isGiven then settingPath (c.get .outDir) else pure .null
  let request : Report.ScanRequest :=
    { sqlDir, outDir, knownTables := known, filtersCtes := .bool o.filtersCtes
      includes := patternsOf o.includePattern, excludes := patternsOf o.excludePattern
      encoding := orSetting (.text o.encoding) c .encoding, failOnWarn := .bool o.failOnWarn }
  let report ← Step.attempt (Report.scan c request) (workEnding c known "dialect")
  return { exitCode := report.exitCode
           out := if printsJson c then documentText report.toDocument else scanText report }

/-- Reports on keywords. -/
def runKeywords (c : Config) (words : List String) : Step Ending := do
  let (o, arguments) ← Step.ofUsage (readArguments PlainChoices.forms true {} words)
  if o.help then return .ofHelp
  Step.ofUsage (noArguments arguments)
  let report ← Step.attempt (Action.noting (Report.keywords c))
    (workEnding c .null "keyword_presets")
  return { out := if printsJson c then documentText report.toDocument else keywordText report }

/-- Shows the demonstration. -/
def runDemo (c : Config) (words : List String) : Step Ending := do
  let (o, arguments) ← Step.ofUsage (readArguments PlainChoices.forms true {} words)
  if o.help then return .ofHelp
  Step.ofUsage (noArguments arguments)
  let rows ← Step.attempt (Action.noting Report.demo) fun _ => none
  return { out := if printsJson c then documentText (Report.demoDocument rows) else demoText rows }

/-- The command of a name. -/
def command? : String → Option (Config → List String → Step Ending)
  | "parse" => some runQuery
  | "scan" => some runScan
  | "keywords" => some runKeywords
  | "demo" => some runDemo
  | _ => none

/-! ## The whole run -/

/-- What is shown instead of any work. -/
def shownEnding : Shown → Ending
  | .version => .ofVersion
  | .help => .ofHelp

/-- Reads the choices for all commands, and the words from the command on. -/
def readCommon (words : List String) : Step (CommonChoices × Option Files.Path × List String) := do
  let (choices, rest) ← Step.ofUsage (readArguments CommonChoices.forms false {} words)
  match choices.shown with
  | some s => Step.done (shownEnding s)
  | none =>
    let config ← checkedPath .file "--config" choices.config
    return (choices, config, rest)

/-- Ends a run whose command is not known.  A name that looks like an option, behind two dashes, is
still read as one. -/
def refuseCommand (name : String) (rest : List String) : Step Ending := do
  if name.startsWith "-" then
    let _ ← readCommon (name :: rest)
  Step.done (.ofUsage (.unknownCommand name))

/-- A run without regard to notices. -/
def runWords (words : List String) : Step (LogLevel × Ending) := do
  if words.isEmpty then Step.done (.ofUsage .missingCommand)
  let (choices, file, rest) ← readCommon words
  match rest with
  | [] => Step.done (.ofUsage .missingCommand)
  | name :: further =>
    match command? name with
    | none => return (.info, ← refuseCommand name further)
    | some command =>
      let c ← loadConfig choices file
      match c.logLevel with
      | .error kind => Action.fail (.wrongKind kind)
      | .ok level =>
        let ending : Except Ending Ending ← ExceptT.lift (command c further).run
        return (level, match ending with
          | .ok e | .error e => e)

/-- A run of the program, with the level at which its notices are told. -/
def run (words : List String) : Action (LogLevel × Ending) := do
  match ← (runWords words).run with
  | .ok r => return r
  | .error e => return (.info, e)

end SqlTables.Command
