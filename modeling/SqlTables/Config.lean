import SqlTables.Document.Yaml.Reader
import SqlTables.Files.Reading

/-!
# Configuration

The settings that apply unless a request says otherwise.  A settings file may give any of them a
value of any kind; what the value serves for is only checked where it is used.  Patterns of names
to leave out may also stand in a file of their own, a line each.
-/

set_option autoImplicit false

namespace SqlTables

open Document (Value WrongKind)

/-- A setting. -/
inductive Setting where
  | dialect
  | keywords
  | customKeywords
  | keywordPresets
  | knownTables
  | filterCtes
  | encoding
  | sqlDir
  | outDir
  | include
  | exclude
  | ignore
  | logLevel
  | outputFormat
deriving DecidableEq, Repr

namespace Setting

/-- The name of a setting in a settings file. -/
def name : Setting → String
  | dialect => "dialect"
  | keywords => "keywords"
  | customKeywords => "custom_keywords"
  | keywordPresets => "keyword_presets"
  | knownTables => "known_tables"
  | filterCtes => "filter_ctes"
  | encoding => "encoding"
  | sqlDir => "sql_dir"
  | outDir => "out_dir"
  | .include => "include"
  | exclude => "exclude"
  | ignore => "ignore"
  | logLevel => "log_level"
  | outputFormat => "output_format"

/-- Every setting. -/
def all : List Setting := [
  dialect, keywords, customKeywords, keywordPresets, knownTables, filterCtes, encoding, sqlDir,
  outDir, .include, exclude, ignore, logLevel, outputFormat]

/-- The setting of a name. -/
def ofName? (s : String) : Option Setting := all.find? (·.name = s)

/-- The value of a setting when nothing is said. -/
def initial : Setting → Value
  | dialect | keywords | knownTables | outDir => .null
  | customKeywords | exclude | ignore => .list []
  | keywordPresets => .map []
  | filterCtes => .bool false
  | encoding => .text "auto"
  | sqlDir => .text "sql"
  | .include => .list [.text "*.sql"]
  | logLevel => .text "info"
  | outputFormat => .text "text"

/-- Whether the value of a setting when nothing is said belongs to each configuration by itself,
so that it is lost when the configuration is replaced as a whole. -/
def isOwn : Setting → Bool
  | customKeywords | keywordPresets | .include | exclude | ignore => true
  | _ => false

theorem mem_all (s : Setting) : s ∈ all := by cases s <;> decide

theorem ofName?_name (s : Setting) : ofName? s.name = some s := by cases s <;> decide

end Setting

/-- A value for each setting. -/
structure Config where
  get : Setting → Value

namespace Config

/-- The configuration when nothing is said. -/
def initial : Config := ⟨Setting.initial⟩

/-- The configuration with another value for a setting. -/
def set (c : Config) (s : Setting) (v : Value) : Config :=
  ⟨fun t => if t = s then v else c.get t⟩

@[simp] theorem get_set_self (c : Config) (s : Setting) (v : Value) : (c.set s v).get s = v := by
  simp [set]

theorem get_set_of_ne {s t : Setting} (h : t ≠ s) (c : Config) (v : Value) :
    (c.set s v).get t = c.get t := by
  simp [set, h]

/-- The level at which notices are told. -/
def logLevel (c : Config) : Except WrongKind LogLevel :=
  match c.get .logLevel with
  | .text s => .ok (.ofName s)
  | .bytes _ => .ok .info
  | v => if v.isGiven then .error .notText else .ok .info

/-- Names that are no settings but that every configuration answers to: a value given to one of
them has no effect and is not worth a notice. -/
def inertNames : List String := [
  "__annotations__", "__dataclass_fields__", "__dataclass_params__", "__delattr__", "__dir__",
  "__doc__", "__eq__", "__format__", "__ge__", "__getattribute__", "__getstate__", "__gt__",
  "__hash__", "__init__", "__init_subclass__", "__le__", "__lt__", "__match_args__", "__module__",
  "__ne__", "__new__", "__reduce__", "__reduce_ex__", "__repr__", "__setattr__", "__sizeof__",
  "__str__", "__subclasshook__"]

/-- A configuration that is being read from a document, with the settings it has lost. -/
structure Draft where
  config : Config
  lost : List Setting

/-- The draft after the whole configuration was replaced by the entries of a mapping. -/
def Draft.replaced (entries : List (Value × Value)) : Draft where
  config := ⟨fun s => (Value.lookup (.text s.name) entries).getD s.initial⟩
  lost := Setting.all.filter fun s =>
    s.isOwn && (Value.lookup (.text s.name) entries).isNone

/-- The draft after an entry of a document. -/
def Draft.apply (d : Draft) (key value : Value) : Noted Draft :=
  match key with
  | .text name =>
    match Setting.ofName? name with
    | some s =>
      if d.lost.contains s then do
        Noted.tell [.settingIgnored name]
        return d
      else return { d with config := d.config.set s value }
    | none =>
      if name = "__class__" then Noted.fail (.wrongKind .notReplaceable)
      else if name = "__weakref__" then Noted.fail (.wrongKind .notWritable)
      else if name = "__dict__" then
        match value with
        | .map entries => return .replaced entries
        | _ => Noted.fail (.wrongKind .notReplaceable)
      else do
        if !inertNames.contains name then Noted.tell [.settingIgnored name]
        return d
  | _ => Noted.fail (.wrongKind .notName)

/-- The draft of a document. -/
def Draft.ofEntries (entries : List (Value × Value)) : Noted Draft :=
  entries.foldlM (fun d (k, v) => d.apply k v) ⟨Config.initial, []⟩

/-- The settings file that is looked for when none is named. -/
def usualFile : String := "tabletracker.yml"

/-- The file of patterns of names to leave out. -/
def ignoreFile : String := ".tabletrackerignore"

variable [Text.Repertoire]

/-- The mapping in a settings file; one without a value stands for no settings. -/
def readEntries (t : Files.Tree) (p : Files.Path) : Except Failure (List (Value × Value)) := do
  let text ← Files.documentText (← Files.readBytes t p)
  match ← (Document.Yaml.read text).mapError .document with
  | .map entries => .ok entries
  | v =>
    if v.isGiven then
      .error (.badValue ("config file " ++ p.text ++ " must contain a mapping"))
    else .ok []

/-- The entries of the settings file that applies: the named one, or the usual one; a file that is
not there says nothing. -/
def documentEntries (t : Files.Tree) (path : Option Files.Path) :
    Except Failure (List (Value × Value)) := do
  let p := path.getD (.parse usualFile)
  if ← (t.lookFor p).mapError .file then readEntries t p else .ok []

/-- The patterns in the text of an ignore file: its lines, trimmed, without blank ones and those
that begin with a number sign. -/
def ignorePatterns (text : String) : List String :=
  (((Text.lines text.toList).map Text.trim).filter fun line =>
    !line.isEmpty && line.head? != some '#').map String.ofList

/-- The patterns in the ignore file, if there is one.  One that cannot be read is a notice. -/
def readIgnoreFile (t : Files.Tree) : Noted (List String) :=
  let p : Files.Path := .parse ignoreFile
  if t.exists? p then
    match t.read p with
    | .error e => do
      Noted.tell [.ignoreFileFailed ignoreFile e]
      return []
    | .ok bytes =>
      match Files.documentText bytes with
      | .ok text => return ignorePatterns text
      | .error failure => Noted.fail failure
  else return []

/-- The configuration of a settings file, named or usual, with the patterns of the ignore file
after its own. -/
def load (t : Files.Tree) (path : Option Files.Path) : Noted Config := do
  let entries ←
    match documentEntries t path with
    | .ok entries => pure entries
    | .error failure => Noted.fail failure
  let draft ← Draft.ofEntries entries
  if draft.lost.contains .ignore then Noted.fail (.wrongKind .notPresent)
  let own ← Noted.ofKind (draft.config.get .ignore).givenItems
  let further ← readIgnoreFile t
  if !draft.lost.isEmpty then Noted.fail (.wrongKind .notPresent)
  return draft.config.set .ignore (.list (own ++ further.map .text))

end Config

end SqlTables
