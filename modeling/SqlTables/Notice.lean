import SqlTables.Catalog.Table
import SqlTables.Files.Path
import SqlTables.Sql.Dialect

/-!
# Notices

What is worth telling besides a result: each notice is a cause, with a level and a wording.
-/

set_option autoImplicit false

namespace SqlTables

open Document (Value)

/-- How much a notice matters, from least to most. -/
inductive Level where
  | debug
  | info
  | warning
deriving DecidableEq, Repr

/-- How much is told on the way. -/
inductive LogLevel where
  | debug
  | info
  | warning
  | error
deriving DecidableEq, Repr

/-- The level of a name, in letters of either case; other names stand for `info`. -/
def LogLevel.ofName (s : String) : LogLevel :=
  match Text.lowered s with
  | "debug" => .debug
  | "warn" | "warning" => .warning
  | "error" => .error
  | _ => .info

/-- Whether a notice is told at a level. -/
def LogLevel.tells : LogLevel → Level → Bool
  | debug, _ => true
  | info, l => l != .debug
  | warning, l => l == .warning
  | error, _ => false

/-- Something that happened on the way to a result. -/
inductive Notice where
  /-- A described table was skipped. -/
  | invalidTable (key : Value) (fault : TableFault)
  /-- An item of the list of tables in a catalog was skipped. -/
  | invalidListedTable (item : Value)
  /-- A dialect is not known, so the standard keywords are used. -/
  | dialectIgnored (message : String)
  /-- A dialect adds no keywords. -/
  | noPreset (dialect : Sql.Dialect)
  /-- The keywords that are looked for. -/
  | keywordsInEffect (keywords : List String)
  /-- A function call stands where a table could. -/
  | callSkipped (keyword identifier : String)
  /-- A setting has no meaning. -/
  | settingIgnored (name : String)
  /-- The file of ignore patterns cannot be read. -/
  | ignoreFileFailed (file : String) (error : Files.FileError)
  /-- The encoding of a file was told from its bytes. -/
  | encodingDetected (name : String)
  /-- The encoding of a file was found by trying. -/
  | encodingTried (name : String)
  /-- A file holds no statement of SQL. -/
  | notSql (file : String)
  /-- A catalog was loaded. -/
  | catalogLoaded (size : Nat) (file : String)
  /-- A file could not be processed. -/
  | fileFailed (file : String) (message : String)
  /-- A file names no tables. -/
  | noTables (file : String)
deriving Repr

namespace Notice

/-- How much a notice matters. -/
def level : Notice → Level
  | invalidTable .. | invalidListedTable .. | dialectIgnored .. | ignoreFileFailed ..
  | fileFailed .. | noTables .. => .warning
  | catalogLoaded .. => .info
  | noPreset .. | keywordsInEffect .. | callSkipped .. | settingIgnored .. | encodingDetected ..
  | encodingTried .. | notSql .. => .debug

/-- The wording of a notice. -/
def message : Notice → String
  | invalidTable key fault =>
    "invalid table metadata for key " ++ key.quoted ++ " - skipping (" ++ fault.message ++ ")"
  | invalidListedTable item => "invalid entry in 'tables' section - skipping: " ++ item.quoted
  | dialectIgnored text => text ++ "; using default keywords"
  | noPreset dialect => "no keyword preset for dialect " ++ dialect.name ++ ", using defaults"
  | keywordsInEffect keywords =>
    "effective keywords: " ++ (if keywords = [] then "<none>" else ", ".intercalate keywords)
  | callSkipped keyword identifier =>
    "skipping function call after " ++ keyword ++ ": " ++ identifier
  | settingIgnored name => "ignoring unknown config key " ++ Document.quotedText name
  | ignoreFileFailed file error => "failed to load " ++ file ++ ": " ++ error.message
  | encodingDetected name => "detected encoding " ++ name
  | encodingTried name => "decoded with " ++ name
  | notSql file => file ++ " does not look like SQL"
  | catalogLoaded size file => "loaded " ++ toString size ++ " known tables from " ++ file
  | fileFailed file text => "failed to process " ++ file ++ ": " ++ text
  | noTables file => "no tables found in " ++ file

end Notice

end SqlTables
