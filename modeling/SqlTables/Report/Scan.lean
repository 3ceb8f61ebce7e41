import SqlTables.Action
import SqlTables.Document.Json.Writer
import SqlTables.Report.Basic

/-!
# Report on a directory

The tables that each SQL file below a directory names.  A file that cannot be read is a warning and
the others are still read; so is a file that names no tables.  Results may also be written as JSON
documents below another directory, which is made only after all that can fail for other reasons has
succeeded.
-/

set_option autoImplicit false

namespace SqlTables.Report

open Document (Value WrongKind)
open Files (Path)

variable [Text.Repertoire]

/-- A directory and how its files are to be read. -/
structure ScanRequest where
  sqlDir : Value
  /-- The directory for results. -/
  outDir : Value := .null
  knownTables : Value := .null
  filtersCtes : Value := .bool false
  /-- Patterns of which a file must match one. -/
  includes : Value := .null
  /-- Patterns of which a file must match none. -/
  excludes : Value := .null
  encoding : Value := .text "auto"
  failOnWarn : Value := .bool false
deriving Repr

/-- What a file names. -/
structure ScanRow where
  file : String
  tables : String
  ctes : String
  /-- The file of its result. -/
  output : Option String
deriving DecidableEq, Repr

/-- What the files of a directory name. -/
structure ScanReport where
  hasOutput : Bool
  rows : List ScanRow
  warnings : Nat
  exitCode : Nat
deriving DecidableEq, Repr

/-- Whether a path matches one of some patterns; these are looked at only until one matches. -/
def pathMatchesAny (p : Path) : List Value → Except Failure Bool
  | [] => .ok false
  | v :: rest =>
    match v with
    | .text pattern =>
      match p.matches? pattern with
      | some true => .ok true
      | some false => pathMatchesAny p rest
      | none => .error (.badValue "empty pattern")
    | other =>
      if other.isGiven then .error (.wrongKind .notPattern)
      else .error (.badValue "empty pattern")

/-- Whether a path is selected: it matches an including pattern, if there are any, and no
excluding one. -/
def isSelected (includes excludes : List Value) (p : Path) : Except Failure Bool := do
  let included ← if includes.isEmpty then .ok true else pathMatchesAny p includes
  if included then return !(← pathMatchesAny p excludes) else return false

/-- Whether a path is one of a file of SQL, by its name. -/
def isSqlPath (p : Path) : Bool := Files.nameMatches "*.sql" p.name

/-- The selected paths of SQL files among those that were found, in order. -/
def selectedAmong (found : List Path) (includes excludes : List Value) :
    Except Failure (List Path) :=
  (found.filter isSqlPath).filterM (isSelected includes excludes)

/-- The selected paths of SQL files below a directory, in order. -/
def selectedPaths (t : Files.Tree) (root : Path) (includes excludes : List Value) :
    Except Failure (List Path) := do
  selectedAmong (← (t.search root).mapError .file) includes excludes

/-- What a file names. -/
def extractFile (t : Files.Tree) (c : Config) (x : Extractor) (encoding : Value) (p : Path) :
    Noted Extraction := do
  let sql ← Files.readText t p encoding
  let found ← x.extractNoted sql
  Noted.ofKind (applyIgnore c found)

/-- Whether a failure concerns one file and leaves the others to be read. -/
def isOfOneFile : Failure → Bool
  | .catalog _ | .file _ | .unreadable .. | .undecodable _ | .illFormed ..
  | .unknownEncoding .. | .badValue _ | .unwritable => true
  | .document e => e.isOfContent
  | .unknownDialect _ | .wrongKind _ | .notTextEncoding _ => false

/-- The path of a file relative to the directory it was found below. -/
def relativeTo (root p : Path) : Path := ⟨"", p.names.drop root.names.length⟩

/-- The file for the result of a file. -/
def outputPath (outDir relative : Path) : Path := outDir.join (relative.withSuffix ".json")

/-- The text of the document of a result. -/
def resultText (e : Extraction) : String := Document.Json.pretty (.map (extractionEntries e))

/-- Writes the result of a file, if results are to be written, and gives the file for it. -/
def writeResult (outDir : Option Path) (relative : Path) (e : Extraction) :
    Action (Option String) := do
  match outDir with
  | none => return none
  | some dir =>
    let target := outputPath dir relative
    Action.changing (Files.makeDirectories · target.parent) (Files.leftByMaking · target.parent)
    Action.changing (Files.writeText · target (resultText e)) (Files.leftByWriting · target)
    return some target.text

/-- What is known after some files: their rows and the number of warnings. -/
structure ScanProgress where
  rows : List ScanRow := []
  warnings : Nat := 0
deriving DecidableEq, Repr

/-- Reads a file, or counts a warning when it cannot be read. -/
def readFile (c : Config) (x : Extractor) (encoding : Value) (p : Path) :
    Action (Option Extraction) :=
  Action.handling (some <$> Action.reading fun t => extractFile t c x encoding p) isOfOneFile
    fun failure => do
      Action.noting (Noted.tell [.fileFailed p.text failure.message])
      return none

/-- Adds a file to what is known. -/
def scanFile (c : Config) (x : Extractor) (encoding : Value) (root : Path) (outDir : Option Path)
    (progress : ScanProgress) (p : Path) : Action ScanProgress := do
  match ← readFile c x encoding p with
  | none => return { progress with warnings := progress.warnings + 1 }
  | some e =>
    let found := !e.allTables.isEmpty
    if !found then Action.noting (Noted.tell [.noTables p.text])
    let relative := relativeTo root p
    let output ← writeResult outDir relative e
    let row : ScanRow :=
      ⟨relative.text, ", ".intercalate e.realTables, ", ".intercalate e.ctes, output⟩
    return ⟨progress.rows ++ [row], if found then progress.warnings else progress.warnings + 1⟩

/-- What a scan needs before it reads the first file. -/
structure ScanPlan where
  extractor : Extractor
  root : Path
  paths : List Path
  outDir : Option Path
deriving Repr

/-- Prepares a scan, without changing files. -/
def plan (t : Files.Tree) (c : Config) (r : ScanRequest) : Noted ScanPlan := do
  let catalog ← catalogFor t c r.knownTables .null
  let extractor ← extractorFor c catalog r.filtersCtes {}
  let includes ← Noted.ofKind (orSetting r.includes c .include).givenItems
  let excludes ← Noted.ofKind (orSetting r.excludes c .exclude).givenItems
  let root ← Noted.ofKind (pathOf r.sqlDir)
  let paths ←
    match selectedPaths t root includes excludes with
    | .ok paths => pure paths
    | .error failure => Noted.fail failure
  let outDir ← if r.outDir.isGiven then some <$> Noted.ofKind (pathOf r.outDir) else pure none
  return ⟨extractor, root, paths, outDir⟩

/-- Reports on a directory. -/
def scan (c : Config) (r : ScanRequest) : Action ScanReport := do
  let plan ← Action.reading fun t => plan t c r
  match plan.outDir with
  | some dir => Action.changing (Files.makeDirectories · dir) (Files.leftByMaking · dir)
  | none => pure ()
  let final ← plan.paths.foldlM (scanFile c plan.extractor r.encoding plan.root plan.outDir) {}
  let fails := r.failOnWarn.isGiven && final.warnings != 0
  return ⟨plan.outDir.isSome, final.rows, final.warnings, if fails then 1 else 0⟩

/-- The columns of a report on a directory. -/
def ScanReport.columns (r : ScanReport) : List String :=
  ["file", "tables", "ctes"] ++ (if r.hasOutput then ["output"] else [])

/-- The document of a row. -/
def ScanRow.toDocument (r : ScanRow) : Value :=
  .map ([(.text "file", .text r.file), (.text "tables", .text r.tables),
      (.text "ctes", .text r.ctes)]
    ++ (match r.output with
        | some path => [(.text "output", .text path)]
        | none => []))

/-- The document of a report on a directory. -/
def ScanReport.toDocument (r : ScanReport) : Value :=
  .map [(.text "columns", Value.ofTexts r.columns),
    (.text "rows", .list (r.rows.map (·.toDocument))),
    (.text "warnings", .int r.warnings), (.text "exit_code", .int r.exitCode)]

end SqlTables.Report
