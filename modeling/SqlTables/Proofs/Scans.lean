import SqlTables.Proofs.Directories
import SqlTables.Proofs.Selection

/-!
# Runs of a scan

A scan that returns read its files one after the other and saved the results that it got.  What a
file names depends on the files only through its own bytes (`extractFile_congr`), and saving a
result changes no file of SQL (`saveResult_ok`, `settled_of_mem`).  So the results of a scan are
those that each file gives in the tree as it was in the beginning: `scanFiles_eq_ok_iff` takes a run
apart into the results and the saving of them, from what one file does (`scanFile_eq_ok_iff`).
-/

set_option autoImplicit false

namespace SqlTables.Report

open Document (Value WrongKind)
open Files (Path Tree)

variable {t t' : Tree} {c : Config} {x : Extractor} {encoding : Value} {p : Path}

/-! ## Files of results and files of SQL -/

/-- The last name of a result's file. -/
def outputName (name : String) : String := (Path.splitSuffix name).1 ++ ".json"

/-- Names of a node of which the last ends as those of results do. -/
def IsResult (names : List String) : Prop :=
  ∃ above n, names = above ++ [n] ∧ ".json".toList <:+ n.toList

theorem json_suffix_outputName (name : String) : ".json".toList <:+ (outputName name).toList := by
  simp [outputName]

theorem outputPath_name (dir relative : Path) :
    (outputPath dir relative).name = outputName relative.name := by
  unfold outputPath Path.join
  split <;> simp [Path.withSuffix, Path.name, outputName]

/-- A path that leads to the same bytes however results are saved. -/
def Settled (t : Tree) (p : Path) : Prop :=
  ∀ t', Tree.Evolves IsResult t t' → t'.read p = t.read p

/-- A file below a directory is found where its names say, unless one of them is too long. -/
theorem locate_below (ht : t.WellFormed) {root : Path} (hp : p ∈ t.below root) :
    ∃ base names, t.locate root = .ok base ∧ names ≠ [] ∧ (t.node? (base ++ names)).isSome ∧
      p = Tree.pathBelow root names ∧
      (t.locate p = .ok (base ++ names) ∨ t.locate p = .error .longName) := by
  obtain ⟨base, names, hroot, hnames, hsome, rfl⟩ := (Tree.mem_below ht).1 hp
  refine ⟨base, names, hroot, hnames, hsome, rfl, ?_⟩
  have hlocate : t.locate (Tree.pathBelow root names) = t.walk base names := by
    rw [Tree.pathBelow, Tree.locate_append, hroot]
    rfl
  rw [hlocate]
  exact ht.grounded.walk_down hsome

/-- Files of SQL are no results, so they are read as before whatever is saved. -/
theorem settled_of_mem (ht : t.WellFormed) {root : Path} (hp : p ∈ t.below root)
    (hsql : isSqlPath p = true) : Settled t p := by
  intro t' hevolves
  obtain ⟨base, names, -, hnames, -, rfl, hlocate⟩ := locate_below ht hp
  refine hevolves.read_eq ?_ ?_
  · rcases hlocate with h | h <;> simp [h]
  · rintro k hk ⟨above, n, rfl, hjson⟩
    have hlast : above ++ [n] = base ++ names := by
      rcases hlocate with h | h <;> simp_all
    have hname : (Tree.pathBelow root names).name = n := by
      have := congrArg List.getLast? hlast
      rw [List.getLast?_concat, List.getLast?_append_of_ne_nil _ hnames] at this
      simp [Tree.pathBelow, Path.name, List.getLast?_append_of_ne_nil _ hnames, ← this]
    rw [isSqlPath_iff, hname] at hsql
    rcases List.suffix_or_suffix_of_suffix hjson hsql with h | h <;> revert h <;> decide

variable [Text.Repertoire]

/-! ## Reading one file -/

theorem readText_congr (h : t'.read p = t.read p) :
    Files.readText t' p encoding = Files.readText t p encoding := by
  simp only [Files.readText, Files.readBytes, h]

theorem extractFile_congr (h : t'.read p = t.read p) :
    extractFile t' c x encoding p = extractFile t c x encoding p := by
  simp only [extractFile, readText_congr h]

/-- What is told of a file, besides what is told while it is read. -/
def resultNotices (p : Path) : Except Failure Extraction → List Notice
  | .ok e => if e.allTables.isEmpty then [.noTables p.text] else []
  | .error failure => [.fileFailed p.text failure.message]

theorem readFile_apply (w : World) :
    readFile c x encoding p w =
      match (extractFile w.files c x encoding p).outcome with
      | (.ok e, told) => (.ok (some e), ⟨w.files, w.notices ++ told⟩)
      | (.error failure, told) =>
        if isOfOneFile failure then
          (.ok none, ⟨w.files, w.notices ++ told ++ [.fileFailed p.text failure.message]⟩)
        else (.error failure, ⟨w.files, w.notices ++ told⟩) := by
  unfold readFile Action.handling
  rw [map_apply, Action.reading_apply]
  rcases (extractFile w.files c x encoding p).outcome with ⟨_ | e, told⟩ <;> rfl

/-! ## Saving one result -/

/-- The document of a result, as bytes. -/
def resultBytes (e : Extraction) : List UInt8 := Bytes.Utf8.encode (resultText e).toList

/-- The tree with the result of a file, if results are to be written. -/
def saveResult (outDir : Option Path) (relative : Path) (e : Extraction) (t : Tree) :
    Except Failure Tree :=
  match outDir with
  | none => .ok t
  | some dir => do
    let made ← Files.makeDirectories t (outputPath dir relative).parent
    Files.writeText made (outputPath dir relative) (resultText e)

/-- The file for the result of a file, as text. -/
def outputText (outDir : Option Path) (relative : Path) : Option String :=
  outDir.map fun dir => (outputPath dir relative).text

theorem writeResult_eq_ok_iff {outDir : Option Path} {relative : Path} {e : Extraction}
    {w w' : World} {output : Option String} :
    writeResult outDir relative e w = (.ok output, w') ↔
      saveResult outDir relative e w.files = .ok w'.files ∧ w'.notices = w.notices ∧
        output = outputText outDir relative := by
  unfold writeResult saveResult outputText
  cases outDir with
  | none =>
    constructor
    · intro h
      cases h
      exact ⟨rfl, rfl, rfl⟩
    · rintro ⟨hfiles, hnotices, rfl⟩
      obtain ⟨files', notices'⟩ := w'
      cases hfiles
      cases hnotices
      rfl
  | some dir =>
    simp only [bind_eq_ok_iff, Action.changing_eq_ok_iff, Outcome.bind_eq_ok_iff]
    constructor
    · rintro ⟨-, made, ⟨hmade, hn⟩, -, written, ⟨hwritten, hn'⟩, h⟩
      cases h
      exact ⟨⟨made.files, hmade, hwritten⟩, hn'.trans hn, rfl⟩
    · rintro ⟨⟨made, hmade, hwritten⟩, hnotices, rfl⟩
      exact ⟨(), ⟨made, w.notices⟩, ⟨hmade, rfl⟩, (), w', ⟨hwritten, hnotices⟩, rfl⟩

/-- Saving a result changes no file but such of results. -/
theorem saveResult_ok (ht : t.Grounded) {outDir : Option Path} {relative : Path} {e : Extraction}
    (h : saveResult outDir relative e t = .ok t') : t'.Grounded ∧ Tree.Evolves IsResult t t' := by
  cases outDir with
  | none =>
    cases h
    exact ⟨ht, .refl _ _⟩
  | some dir =>
    obtain ⟨made, hmade, hwritten⟩ := Outcome.bind_eq_ok_iff.1 h
    obtain ⟨-, hmade⟩ := Files.makeDirectories_eq_ok_iff.1 hmade
    obtain ⟨-, -, hwritten⟩ := Files.writeText_eq_ok_iff.1 hwritten
    obtain ⟨hgrounded, hgrows, -⟩ := ht.makeDirectories_ok hmade
    have hsuffix := json_suffix_outputName relative.name
    rw [← outputPath_name dir relative] at hsuffix
    have hdots : (outputPath dir relative).name ≠ ".." := fun hname => by
      rw [hname] at hsuffix
      revert hsuffix
      decide
    obtain ⟨hgrounded', k, -, -, -, hevolves⟩ := hgrounded.write_ok hdots hwritten
    refine ⟨hgrounded', (hgrows.mono fun _ => False.elim).trans (hevolves.mono ?_)⟩
    rintro _ rfl
    exact ⟨k, _, rfl, hsuffix⟩

/-! ## One file -/

/-- The row of a file. -/
def rowOf (root : Path) (outDir : Option Path) (p : Path) (e : Extraction) : ScanRow :=
  ⟨(relativeTo root p).text, ", ".intercalate e.realTables, ", ".intercalate e.ctes,
    outputText outDir (relativeTo root p)⟩

/-- What is known after one more file. -/
def ScanProgress.after (progress : ScanProgress) (root : Path) (outDir : Option Path) (p : Path) :
    Except Failure Extraction → ScanProgress
  | .ok e => ⟨progress.rows ++ [rowOf root outDir p e],
      if e.allTables.isEmpty then progress.warnings + 1 else progress.warnings⟩
  | .error _ => { progress with warnings := progress.warnings + 1 }

/-- The tree after one more file. -/
def saveFile (root : Path) (outDir : Option Path) (p : Path) (result : Except Failure Extraction)
    (t : Tree) : Except Failure Tree :=
  match result with
  | .ok e => saveResult outDir (relativeTo root p) e t
  | .error _ => .ok t

theorem writeResult_map_eq_ok_iff {outDir : Option Path} {relative : Path} {e : Extraction}
    {known : Option String → ScanProgress} {progress' : ScanProgress} {w w' : World} :
    (writeResult outDir relative e >>= fun output => pure (known output)) w = (.ok progress', w') ↔
      saveResult outDir relative e w.files = .ok w'.files ∧ w'.notices = w.notices ∧
        progress' = known (outputText outDir relative) := by
  simp only [bind_eq_ok_iff, writeResult_eq_ok_iff]
  constructor
  · rintro ⟨output, mid, ⟨hsave, hnotices, rfl⟩, h⟩
    cases h
    exact ⟨hsave, hnotices, rfl⟩
  · rintro ⟨hsave, hnotices, rfl⟩
    exact ⟨_, w', ⟨hsave, hnotices, rfl⟩, rfl⟩

/-- A file is passed if it cannot be read for reasons of its own, or its result can be saved. -/
theorem scanFile_eq_ok_iff {root : Path} {outDir : Option Path} {progress progress' : ScanProgress}
    {w w' : World} {result : Except Failure Extraction} {told : List Notice}
    (h : (extractFile w.files c x encoding p).outcome = (result, told)) :
    scanFile c x encoding root outDir progress p w = (.ok progress', w') ↔
      (∀ failure, result = .error failure → isOfOneFile failure) ∧
      saveFile root outDir p result w.files = .ok w'.files ∧
      w'.notices = w.notices ++ (told ++ resultNotices p result) ∧
      progress' = progress.after root outDir p result := by
  unfold scanFile
  rw [bind_apply, readFile_apply, h, ← List.append_assoc]
  cases result with
  | error failure =>
    by_cases hone : isOfOneFile failure
    · simp only [hone, if_true, saveFile, resultNotices, ScanProgress.after]
      constructor
      · intro h
        cases h
        exact ⟨fun _ h => by cases h; exact hone, rfl, rfl, rfl⟩
      · rintro ⟨-, hfiles, hnotices, rfl⟩
        obtain ⟨files', notices'⟩ := w'
        cases hfiles
        cases hnotices
        rfl
    · simp only [hone]
      constructor
      · intro h
        cases h
      · rintro ⟨hone', -⟩
        exact absurd (hone' failure rfl) hone
  | ok e =>
    by_cases hempty : e.allTables.isEmpty
    · simp only [hempty, Bool.not_true, Bool.not_false, Bool.false_eq_true, if_true, if_false,
        saveFile, resultNotices, ScanProgress.after]
      rw [bind_of_ok (Action.noting_tell _ _), writeResult_map_eq_ok_iff]
      simp [rowOf]
    · simp only [hempty, Bool.not_true, Bool.not_false, Bool.false_eq_true, if_true, if_false,
        saveFile, resultNotices, ScanProgress.after]
      rw [writeResult_map_eq_ok_iff]
      simp [rowOf]

/-! ## All files -/

theorem saveFile_ok (ht : t.Grounded) {root : Path} {outDir : Option Path}
    {result : Except Failure Extraction} (h : saveFile root outDir p result t = .ok t') :
    t'.Grounded ∧ Tree.Evolves IsResult t t' := by
  cases result with
  | error failure =>
    cases h
    exact ⟨ht, .refl _ _⟩
  | ok e => exact saveResult_ok ht h

/-- A run over files passes each of them, with what it gives in the tree at the beginning, and saves
the results one after the other. -/
theorem scanFiles_eq_ok_iff {root : Path} {outDir : Option Path} {paths : List Path}
    (hsettled : ∀ p ∈ paths, Settled t p) (result : Path → Except Failure Extraction)
    (told : Path → List Notice)
    (hresult : ∀ p ∈ paths, (extractFile t c x encoding p).outcome = (result p, told p))
    {progress progress' : ScanProgress} {w w' : World} (hgrounded : w.files.Grounded)
    (hevolves : Tree.Evolves IsResult t w.files) :
    paths.foldlM (scanFile c x encoding root outDir) progress w = (.ok progress', w') ↔
      (∀ p ∈ paths, ∀ failure, result p = .error failure → isOfOneFile failure) ∧
      paths.foldlM (fun t p => saveFile root outDir p (result p) t) w.files = .ok w'.files ∧
      w'.notices = w.notices ++ paths.flatMap (fun p => told p ++ resultNotices p (result p)) ∧
      progress' = paths.foldl (fun progress p => progress.after root outDir p (result p))
        progress := by
  induction paths generalizing progress w with
  | nil =>
    constructor
    · intro h
      cases h
      exact ⟨by simp, rfl, by simp, rfl⟩
    · rintro ⟨-, hfiles, hnotices, rfl⟩
      obtain ⟨files', notices'⟩ := w'
      cases hfiles
      cases (List.append_nil w.notices ▸ hnotices : notices' = w.notices)
      rfl
  | cons p paths ih =>
    obtain ⟨hp, hsettled⟩ := List.forall_mem_cons.1 hsettled
    obtain ⟨hpresult, hresult⟩ := List.forall_mem_cons.1 hresult
    have hnow : (extractFile w.files c x encoding p).outcome = (result p, told p) := by
      rw [extractFile_congr (hp _ hevolves), hpresult]
    rw [List.foldlM_cons, List.foldlM_cons, bind_eq_ok_iff, Outcome.bind_eq_ok_iff,
      List.forall_mem_cons, List.flatMap_cons, ← List.append_assoc]
    constructor
    · rintro ⟨_, mid, hstep, hrest⟩
      obtain ⟨hone, hsave, hnotices, rfl⟩ := (scanFile_eq_ok_iff hnow).1 hstep
      obtain ⟨hgrounded', hsaved⟩ := saveFile_ok hgrounded hsave
      obtain ⟨hones, hsaves, hnotices', hprogress⟩ :=
        (ih hsettled hresult hgrounded' (hevolves.trans hsaved)).1 hrest
      exact ⟨⟨hone, hones⟩, ⟨mid.files, hsave, hsaves⟩, hnotices ▸ hnotices', hprogress⟩
    · rintro ⟨⟨hone, hones⟩, ⟨files, hsave, hsaves⟩, hnotices, hprogress⟩
      obtain ⟨hgrounded', hsaved⟩ := saveFile_ok hgrounded hsave
      let mid : World := ⟨files, w.notices ++ (told p ++ resultNotices p (result p))⟩
      exact ⟨_, mid, (scanFile_eq_ok_iff hnow).2 ⟨hone, hsave, rfl, rfl⟩,
        (ih (w := mid) hsettled hresult hgrounded' (hevolves.trans hsaved)).2
          ⟨hones, hsaves, hnotices, hprogress⟩⟩

omit [Text.Repertoire] in
/-- What is known after files: a row for each that could be read, and a warning for each that could
not and for each that names no tables. -/
theorem foldl_after (root : Path) (outDir : Option Path) (result : Path → Except Failure Extraction)
    (paths : List Path) (progress : ScanProgress) :
    paths.foldl (fun progress p => progress.after root outDir p (result p)) progress =
      ⟨progress.rows ++ paths.filterMap fun p => (result p).toOption.map (rowOf root outDir p),
        progress.warnings + (paths.countP (fun p => !(result p).isOk) +
          paths.countP fun p => (result p).toOption.any (·.allTables.isEmpty))⟩ := by
  induction paths generalizing progress with
  | nil => simp
  | cons p paths ih =>
    rw [List.foldl_cons, ih]
    cases hp : result p with
    | error failure =>
      simp [ScanProgress.after, hp, Except.toOption, Except.isOk, Except.toBool]
      omega
    | ok e =>
      by_cases hempty : e.allTables.isEmpty
      · simp [ScanProgress.after, hp, hempty, Except.toOption, Except.isOk, Except.toBool]
        omega
      · simp [ScanProgress.after, hp, hempty, Except.toOption, Except.isOk, Except.toBool]

/-! ## Plans -/

/-- The directory for results that a value stands for, if it is given. -/
def outDirOf (v : Value) : Except WrongKind (Option Path) :=
  if v.isGiven then some <$> pathOf v else .ok none

/-- What a plan is made of. -/
structure Planned (t : Tree) (c : Config) (r : ScanRequest) (pl : ScanPlan) (told : List Notice) :
    Prop where
  extractor : ∃ catalog before, catalogFor t c r.knownTables .null [] = (.ok catalog, before) ∧
    extractorFor c catalog r.filtersCtes {} before = (.ok pl.extractor, told)
  root : pathOf r.sqlDir = .ok pl.root
  paths : ∃ includes excludes, (orSetting r.includes c .include).givenItems = .ok includes ∧
    (orSetting r.excludes c .exclude).givenItems = .ok excludes ∧
    selectedPaths t pl.root includes excludes = .ok pl.paths
  outDir : outDirOf r.outDir = .ok pl.outDir

theorem plan_eq (t : Tree) (c : Config) (r : ScanRequest) :
    plan t c r = do
      let catalog ← catalogFor t c r.knownTables .null
      let extractor ← extractorFor c catalog r.filtersCtes {}
      let includes ← Noted.ofKind (orSetting r.includes c .include).givenItems
      let excludes ← Noted.ofKind (orSetting r.excludes c .exclude).givenItems
      let root ← Noted.ofKind (pathOf r.sqlDir)
      let paths ← Noted.ofResult (selectedPaths t root includes excludes)
      let outDir ← Noted.ofKind (outDirOf r.outDir)
      return ⟨extractor, root, paths, outDir⟩ := by
  unfold plan outDirOf
  refine bind_congr fun catalog => bind_congr fun extractor => bind_congr fun includes =>
    bind_congr fun excludes => bind_congr fun root => ?_
  cases selectedPaths t root includes excludes with
  | error failure => rfl
  | ok paths =>
    cases r.outDir.isGiven with
    | false => rfl
    | true => cases pathOf r.outDir <;> rfl

theorem plan_eq_ok_iff {r : ScanRequest} {pl : ScanPlan} {told : List Notice} :
    (plan t c r).outcome = (.ok pl, told) ↔ Planned t c r pl told := by
  rw [Noted.outcome_apply, plan_eq]
  refine bind_eq_ok_iff.trans ?_
  simp only [bind_eq_ok_iff, Noted.ofKind_eq_ok_iff, Noted.ofResult_eq_ok_iff]
  constructor
  · rintro ⟨catalog, before, hcatalog, extractor, _, hextractor, includes, _, ⟨hincludes, rfl⟩,
      excludes, _, ⟨hexcludes, rfl⟩, root, _, ⟨hroot, rfl⟩, paths, _, ⟨hpaths, rfl⟩, outDir, _,
      ⟨houtDir, rfl⟩, h⟩
    cases h
    exact ⟨⟨catalog, before, hcatalog, hextractor⟩, hroot,
      ⟨includes, excludes, hincludes, hexcludes, hpaths⟩, houtDir⟩
  · rintro ⟨⟨catalog, before, hcatalog, hextractor⟩, hroot,
      ⟨includes, excludes, hincludes, hexcludes, hpaths⟩, houtDir⟩
    exact ⟨catalog, before, hcatalog, _, told, hextractor, includes, told, ⟨hincludes, rfl⟩,
      excludes, told, ⟨hexcludes, rfl⟩, _, told, ⟨hroot, rfl⟩, _, told, ⟨hpaths, rfl⟩, _, told,
      ⟨houtDir, rfl⟩, rfl⟩

/-! ## Whole scans -/

/-- The tree in which results are saved. -/
def openOutDir (outDir : Option Path) (t : Tree) : Except Failure Tree :=
  match outDir with
  | none => .ok t
  | some dir => Files.makeDirectories t dir

/-- What is left when the directory for results cannot be made. -/
def leftByOpening (outDir : Option Path) (t : Tree) : Tree :=
  match outDir with
  | none => t
  | some dir => Files.leftByMaking t dir

/-- What a file names in a tree, by itself. -/
abbrev resultIn (t : Tree) (c : Config) (r : ScanRequest) (x : Extractor) (p : Path) :
    Except Failure Extraction :=
  (extractFile t c x r.encoding p).outcome.1

/-- What is told of a file of a plan. -/
def toldOf (t : Tree) (c : Config) (r : ScanRequest) (pl : ScanPlan) (p : Path) : List Notice :=
  (extractFile t c pl.extractor r.encoding p).outcome.2 ++
    resultNotices p (resultIn t c r pl.extractor p)

/-- The tree after the results of the files of a plan are saved. -/
def saveAll (t : Tree) (c : Config) (r : ScanRequest) (pl : ScanPlan) (opened : Tree) :
    Except Failure Tree :=
  pl.paths.foldlM (fun t' p => saveFile pl.root pl.outDir p (resultIn t c r pl.extractor p) t')
    opened

/-- What is known after the files of a plan. -/
def finalProgress (t : Tree) (c : Config) (r : ScanRequest) (pl : ScanPlan) : ScanProgress where
  rows := pl.paths.filterMap fun p =>
    (resultIn t c r pl.extractor p).toOption.map (rowOf pl.root pl.outDir p)
  warnings := pl.paths.countP (fun p => !(resultIn t c r pl.extractor p).isOk) +
    pl.paths.countP fun p => (resultIn t c r pl.extractor p).toOption.any (·.allTables.isEmpty)

/-- The report on the files of a plan. -/
def reportOf (t : Tree) (c : Config) (r : ScanRequest) (pl : ScanPlan) : ScanReport :=
  let final := finalProgress t c r pl
  ⟨pl.outDir.isSome, final.rows, final.warnings,
    if r.failOnWarn.isGiven && final.warnings != 0 then 1 else 0⟩

/-- A scan that returns has a plan, passes each file of it and saves the results one by one. -/
structure Scanned (t : Tree) (c : Config) (r : ScanRequest) (pl : ScanPlan) (report : ScanReport)
    (t' : Tree) (notices : List Notice) : Prop where
  plan : ∃ told, Planned t c r pl told ∧ notices = told ++ pl.paths.flatMap (toldOf t c r pl)
  passed : ∀ p ∈ pl.paths, ∀ failure, resultIn t c r pl.extractor p = .error failure →
    isOfOneFile failure
  saved : ∃ opened, openOutDir pl.outDir t = .ok opened ∧ saveAll t c r pl opened = .ok t'
  report : report = reportOf t c r pl

theorem Planned.settled (ht : t.WellFormed) {r : ScanRequest} {pl : ScanPlan} {told : List Notice}
    (h : Planned t c r pl told) : ∀ p ∈ pl.paths, Settled t p := by
  obtain ⟨includes, excludes, -, -, hpaths⟩ := h.paths
  intro p hp
  obtain ⟨hbelow, hsql, -⟩ := (mem_selectedAmong (selectedPaths_eq_ok_iff.1 hpaths).2).1 hp
  exact settled_of_mem ht hbelow hsql

theorem openOutDir_ok (ht : t.Grounded) {outDir : Option Path}
    (h : openOutDir outDir t = .ok t') : t'.Grounded ∧ Tree.Grows t t' := by
  cases outDir with
  | none =>
    cases h
    exact ⟨ht, .refl _ _⟩
  | some dir =>
    obtain ⟨hgrounded, hgrows, -⟩ :=
      ht.makeDirectories_ok (Files.makeDirectories_eq_ok_iff.1 h).2
    exact ⟨hgrounded, hgrows⟩

/-- Carries out a plan. -/
def carryOut (c : Config) (r : ScanRequest) (pl : ScanPlan) : Action ScanReport := do
  Action.changing (openOutDir pl.outDir) (leftByOpening pl.outDir)
  let final ← pl.paths.foldlM (scanFile c pl.extractor r.encoding pl.root pl.outDir) {}
  let fails := r.failOnWarn.isGiven && final.warnings != 0
  return ⟨pl.outDir.isSome, final.rows, final.warnings, if fails then 1 else 0⟩

theorem scan_eq (c : Config) (r : ScanRequest) :
    scan c r = Action.reading (fun t => plan t c r) >>= carryOut c r := by
  unfold scan
  refine bind_congr fun pl => ?_
  unfold carryOut
  cases pl.outDir <;> rfl

theorem reading_plan {r : ScanRequest} {pl : ScanPlan} {told : List Notice}
    (h : Planned t c r pl told) :
    Action.reading (fun t => plan t c r) ⟨t, []⟩ = (.ok pl, ⟨t, told⟩) := by
  have hplan := plan_eq_ok_iff.2 h
  exact Action.reading_eq_ok_iff.2 ⟨by rw [hplan], by simp [hplan]⟩

/-- A scan with a plan carries it out. -/
theorem outcome_scan_of_plan {r : ScanRequest} {pl : ScanPlan} {told : List Notice}
    (h : Planned t c r pl told) :
    ((scan c r).outcome t).1 = (carryOut c r pl ⟨t, told⟩).1 := by
  rw [scan_eq]
  exact congrArg Prod.fst (bind_of_ok (f := carryOut c r) (reading_plan h))

theorem Planned.run_eq_ok_iff (ht : t.WellFormed) {r : ScanRequest} {pl : ScanPlan}
    {told : List Notice} (h : Planned t c r pl told) {opened : Tree}
    (hopen : openOutDir pl.outDir t = .ok opened) {final : ScanProgress} {w' : World} :
    pl.paths.foldlM (scanFile c pl.extractor r.encoding pl.root pl.outDir) {} ⟨opened, told⟩ =
        (.ok final, w') ↔
      (∀ p ∈ pl.paths, ∀ failure, resultIn t c r pl.extractor p = .error failure →
        isOfOneFile failure) ∧
      saveAll t c r pl opened = .ok w'.files ∧
      w'.notices = told ++ pl.paths.flatMap (toldOf t c r pl) ∧
      final = finalProgress t c r pl := by
  obtain ⟨hgrounded, hgrows⟩ := openOutDir_ok ht.grounded hopen
  rw [scanFiles_eq_ok_iff (h.settled ht) (resultIn t c r pl.extractor)
    (fun p => (extractFile t c pl.extractor r.encoding p).outcome.2) (fun _ _ => rfl) hgrounded
    (hgrows.mono fun _ => False.elim), foldl_after]
  simp only [List.nil_append, Nat.zero_add]
  rfl

theorem scan_eq_ok_iff (ht : t.WellFormed) {r : ScanRequest} {report : ScanReport}
    {notices : List Notice} :
    (scan c r).outcome t = (.ok report, t', notices) ↔
      ∃ pl, Scanned t c r pl report t' notices := by
  rw [Action.outcome_eq_iff, scan_eq]
  constructor
  · intro h
    obtain ⟨pl, _, hreading, h⟩ := bind_eq_ok_iff.1 h
    unfold carryOut at h
    obtain ⟨hplan, rfl⟩ := Action.reading_eq_ok_iff.1 hreading
    obtain ⟨_, ⟨opened, told⟩, hopen, h⟩ := bind_eq_ok_iff.1 h
    obtain ⟨hopen, rfl⟩ := Action.changing_eq_ok_iff.1 hopen
    obtain ⟨final, w', hrun, h⟩ := bind_eq_ok_iff.1 h
    cases h
    have hplanned : Planned t c r pl _ := plan_eq_ok_iff.1 (Prod.ext hplan rfl)
    obtain ⟨hpassed, hsaved, rfl, rfl⟩ := (hplanned.run_eq_ok_iff ht hopen).1 hrun
    exact ⟨pl, ⟨_, hplanned, rfl⟩, hpassed, ⟨opened, hopen, hsaved⟩, rfl⟩
  · rintro ⟨pl, ⟨told, hplanned, rfl⟩, hpassed, ⟨opened, hopen, hsaved⟩, rfl⟩
    rw [bind_of_ok (reading_plan hplanned)]
    refine bind_eq_ok_iff.2 ⟨(), ⟨opened, told⟩, Action.changing_of_ok hopen, ?_⟩
    exact bind_eq_ok_iff.2 ⟨_, ⟨t', _⟩,
      (hplanned.run_eq_ok_iff ht hopen).2 ⟨hpassed, hsaved, rfl, rfl⟩, rfl⟩

end SqlTables.Report
