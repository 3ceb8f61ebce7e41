import SqlTables.Proofs.Scans
import SqlTables.Report.Query

/-!
# What a scan reports

A scan reports on its files as queries do on their texts: the row of a file is what the report on
the query in it says (`fileReport`), with the same catalog and the same configuration, and no other
file has a part in it (`fileReport_congr`).  Every selected file is accounted for, by a row, by a
warning or by both (`Accounts`).
-/

set_option autoImplicit false

namespace SqlTables.Report

open Document (Value WrongKind)
open Files (Path Tree)

section Scans

variable [Text.Repertoire] {t t' : Tree} {c : Config} {r : ScanRequest} {p : Path}

/-! ## The report on one file -/

/-- The request for a report on a text, with the catalog and the filter of a scan. -/
def ScanRequest.queryOf (r : ScanRequest) (sql : String) : QueryRequest where
  sql := .text sql
  knownTables := r.knownTables
  filtersCtes := r.filtersCtes

/-- The report on the query in a file. -/
def fileReport (t : Tree) (c : Config) (r : ScanRequest) (p : Path) :
    Except Failure QueryReport := do
  let sql ← (Files.readText t p r.encoding).outcome.1
  (query t c (r.queryOf sql)).outcome.1

/-- What a text names, without the names to be left out. -/
def textResult (c : Config) (x : Extractor) (sql : String) : Except Failure Extraction :=
  (applyIgnore c (x.extract sql)).mapError .wrongKind

theorem resultIn_eq (t : Tree) (c : Config) (r : ScanRequest) (x : Extractor) (p : Path) :
    resultIn t c r x p = (Files.readText t p r.encoding).outcome.1 >>= textResult c x := by
  rw [resultIn, Noted.outcome_apply, Noted.outcome_apply, extractFile, bind_apply]
  rcases Files.readText t p r.encoding [] with ⟨_ | sql, told⟩ <;> rfl

/-- A scan and a report on a query look for tables in the same way. -/
theorem query_extraction {pl : ScanPlan} {told : List Notice} (h : Planned t c r pl told)
    (sql : String) :
    (query t c (r.queryOf sql)).outcome.1.map (·.extraction) = textResult c pl.extractor sql := by
  obtain ⟨catalog, before, hcatalog, hextractor⟩ := h.extractor
  have hcatalog' : catalogFor t c (r.queryOf sql).knownTables (r.queryOf sql).tableNames [] =
    (.ok catalog, before) := hcatalog
  have hextractor' : extractorFor c catalog (r.queryOf sql).filtersCtes (r.queryOf sql).keywords
    before = (.ok pl.extractor, told) := hextractor
  rw [Noted.outcome_apply, query, bind_of_ok hcatalog', bind_of_ok hextractor', textResult]
  show Except.map _ ((Noted.ofKind (applyIgnore c (pl.extractor.extract sql)) >>= _) _).1 = _
  rw [bind_apply]
  cases hignore : applyIgnore c (pl.extractor.extract sql) <;> rfl

/-- The row of a file is made of the report on the query in it. -/
theorem fileReport_extraction {pl : ScanPlan} {told : List Notice} (h : Planned t c r pl told)
    (p : Path) :
    (fileReport t c r p).map (·.extraction) = resultIn t c r pl.extractor p := by
  rw [resultIn_eq, fileReport]
  cases (Files.readText t p r.encoding).outcome.1 with
  | error failure => rfl
  | ok sql => exact query_extraction h sql

theorem load_congr (h : t'.read p = t.read p) (level : LogLevel) :
    Catalog.load t' p level = Catalog.load t p level := by
  simp only [Catalog.load, Catalog.readDocument, Files.readBytes, h]

theorem catalogFor_congr {file : Value} (h : ∀ k, pathOf (orSetting file c .knownTables) = .ok k →
    t'.read k = t.read k) (names : Value) :
    catalogFor t' c file names = catalogFor t c file names := by
  unfold catalogFor
  split
  · rfl
  · dsimp only
    split
    · exact Noted.ofKind_bind_congr fun k hk => by rw [load_congr (h k hk)]
    · rfl

/-- The report on a file depends on its own bytes and those of the catalog. -/
theorem fileReport_congr (hfile : t'.read p = t.read p)
    (hcatalog : ∀ k, pathOf (orSetting r.knownTables c .knownTables) = .ok k →
      t'.read k = t.read k) : fileReport t' c r p = fileReport t c r p := by
  unfold fileReport query
  simp only [readText_congr hfile, ScanRequest.queryOf, catalogFor_congr hcatalog]

/-! ## Accounts -/

/-- The values of a request that say which files are read, when each is of its kind. -/
structure Choice (c : Config) (r : ScanRequest) (includes excludes : List Value) (root : Path) :
    Prop where
  includes : (orSetting r.includes c .include).givenItems = .ok includes
  excludes : (orSetting r.excludes c .exclude).givenItems = .ok excludes
  root : pathOf r.sqlDir = .ok root

/-- The files that a request selects: those of SQL below the directory that match an including
pattern, if there are any, and no excluding one.  They come in order, each once. -/
structure Selects (t : Tree) (c : Config) (r : ScanRequest) (root : Path) (paths : List Path) :
    Prop where
  sqlDir : pathOf r.sqlDir = .ok root
  mem_iff : ∃ includes excludes, (orSetting r.includes c .include).givenItems = .ok includes ∧
    (orSetting r.excludes c .exclude).givenItems = .ok excludes ∧
    ∀ p, p ∈ paths ↔ t.LiesBelow root p ∧ ".sql".toList <:+ p.name.toList ∧
      Selected includes excludes p
  sorted : paths.Pairwise (Path.le · ·)
  nodup : paths.Nodup

/-- A report that accounts for files: those that can be read and extracted have rows, those that
cannot are warnings, and so are those that name no tables. -/
structure Accounts (t : Tree) (c : Config) (r : ScanRequest) (root : Path) (outDir : Option Path)
    (paths : List Path) (report : ScanReport) : Prop where
  rows : report.rows = paths.filterMap fun p =>
    (fileReport t c r p).toOption.map fun q => rowOf root outDir p q.extraction
  warnings : report.warnings = paths.countP (fun p => !(fileReport t c r p).isOk) +
    paths.countP fun p => (fileReport t c r p).toOption.any (·.extraction.allTables.isEmpty)
  exitCode : report.exitCode = if r.failOnWarn.isGiven ∧ 0 < report.warnings then 1 else 0

/-- A report without the column of the files for results. -/
def ScanReport.withoutOutput (report : ScanReport) : ScanReport :=
  { report with hasOutput := false, rows := report.rows.map fun row => { row with output := none } }

omit [Text.Repertoire] in
theorem Choice.selects (ht : t.WellFormed) {includes excludes : List Value} {root : Path}
    {paths : List Path} (h : Choice c r includes excludes root)
    (hpaths : selectedAmong (t.below root) includes excludes = .ok paths) :
    Selects t c r root paths := by
  have hsub := selectedAmong_sublist hpaths
  refine ⟨h.root, ⟨includes, excludes, h.includes, h.excludes, fun p => ?_⟩,
    (Tree.pairwise_below t root).sublist hsub, (Tree.nodup_below ht root).sublist hsub⟩
  rw [mem_selectedAmong hpaths, Tree.mem_below ht, isSqlPath_iff]

theorem Planned.selects (ht : t.WellFormed) {pl : ScanPlan} {told : List Notice}
    (h : Planned t c r pl told) : Selects t c r pl.root pl.paths := by
  obtain ⟨includes, excludes, hincludes, hexcludes, hpaths⟩ := h.paths
  have hchoice : Choice c r includes excludes pl.root := ⟨hincludes, hexcludes, h.root⟩
  exact hchoice.selects ht (selectedPaths_eq_ok_iff.1 hpaths).2

theorem Planned.accounts {pl : ScanPlan} {told : List Notice} (h : Planned t c r pl told) :
    Accounts t c r pl.root pl.outDir pl.paths (reportOf t c r pl) := by
  have hresult := fun p => (fileReport_extraction h p).symm
  refine ⟨?_, ?_, ?_⟩
  · show List.filterMap _ _ = _
    simp only [hresult]
    refine List.filterMap_congr fun p _ => ?_
    cases fileReport t c r p <;> rfl
  · show List.countP _ _ + List.countP _ _ = _
    simp only [hresult]
    congr 1
    · refine List.countP_congr fun p _ => ?_
      cases fileReport t c r p <;> rfl
    · refine List.countP_congr fun p _ => ?_
      cases fileReport t c r p <;> rfl
  · show (if _ then 1 else 0) = _
    simp [Nat.pos_iff_ne_zero, reportOf]

/-- Without a directory for results, nothing else changes in what a scan plans. -/
theorem Planned.withoutOutput {pl : ScanPlan} {told : List Notice} (h : Planned t c r pl told) :
    Planned t c { r with outDir := .null } { pl with outDir := none } told :=
  ⟨h.extractor, h.root, h.paths, rfl⟩

theorem saveFile_none (root p : Path) (result : Except Failure Extraction) (opened : Tree) :
    saveFile root none p result opened = .ok opened := by
  cases result <;> rfl

theorem saveAll_of_none {pl : ScanPlan} (h : pl.outDir = none) (opened : Tree) :
    saveAll t c r pl opened = .ok opened := by
  unfold saveAll
  rw [h]
  induction pl.paths with
  | nil => rfl
  | cons p paths ih =>
    rw [List.foldlM_cons, saveFile_none]
    exact ih

/-- Every file that a scan selects is accounted for, by what the report on the query in it alone
says; the directory for results adds the column of their files and changes nothing else. -/
theorem scan_accounts (ht : t.WellFormed) {report : ScanReport}
    (h : ((scan c r).outcome t).1 = .ok report) :
    (∃ root outDir paths, outDirOf r.outDir = .ok outDir ∧ Selects t c r root paths ∧
      Accounts t c r root outDir paths report) ∧
    (∀ other p, other.read p = t.read p →
      (∀ k, pathOf (orSetting r.knownTables c .knownTables) = .ok k → other.read k = t.read k) →
      fileReport other c r p = fileReport t c r p) ∧
    (scan c { r with outDir := .null }).outcome t =
      (.ok report.withoutOutput, t, ((scan c r).outcome t).2.2) := by
  obtain ⟨pl, hscanned⟩ := (scan_eq_ok_iff ht).1 (Prod.ext h rfl)
  obtain ⟨told, hplanned, hnotices⟩ := hscanned.plan
  obtain rfl := hscanned.report
  refine ⟨⟨pl.root, pl.outDir, pl.paths, hplanned.outDir, hplanned.selects ht, hplanned.accounts⟩,
    fun other p hfile hcatalog => fileReport_congr hfile hcatalog, ?_⟩
  refine (scan_eq_ok_iff ht).2 ⟨{ pl with outDir := none },
    ⟨told, hplanned.withoutOutput, hnotices⟩, hscanned.passed, ⟨t, rfl, ?_⟩, ?_⟩
  · exact saveAll_of_none rfl t
  · simp only [ScanReport.withoutOutput, reportOf, finalProgress, Option.isSome_none]
    congr 1
    rw [List.map_filterMap]
    refine List.filterMap_congr fun p _ => ?_
    cases resultIn t c r pl.extractor p <;> rfl

end Scans

/-- Files of three kinds, one of them in a directory of its own: one that names a table, one that
names none and one that is not UTF-8. -/
def mixedTree : Tree := ⟨[
  (["sql"], .directory),
  (["sql", "a.sql"], .file (Bytes.Utf8.encode "SELECT * FROM t".toList)),
  (["sql", "b"], .directory),
  (["sql", "b", "a.sql"], .file []),
  (["sql", "c.sql"], .file [0xff])]⟩

/-- A configuration with one keyword. -/
def mixedConfig : Config := Config.initial.set .keywords (.list [.text "FROM"])

def mixedRequest : ScanRequest where
  sqlDir := .text "sql"
  outDir := .text "out"
  encoding := .text "utf-8"
  failOnWarn := .bool true

theorem mixed_planned : Planned mixedTree mixedConfig mixedRequest
    ⟨⟨none, false, ["FROM"]⟩, ⟨"", ["sql"]⟩,
      [⟨"", ["sql", "a.sql"]⟩, ⟨"", ["sql", "b", "a.sql"]⟩, ⟨"", ["sql", "c.sql"]⟩],
      some ⟨"", ["out"]⟩⟩
    [.keywordsInEffect ["FROM"]] := by
  refine ⟨⟨none, [], rfl, rfl⟩, ?_, ⟨[.text "*.sql"], [], rfl, rfl, ?_⟩, ?_⟩
  · show Except.ok (Path.parse "sql") = _
    rw [Path.parse_eq]
    rfl
  · have hbelow : mixedTree.below ⟨"", ["sql"]⟩ = [⟨"", ["sql", "a.sql"]⟩, ⟨"", ["sql", "b"]⟩,
        ⟨"", ["sql", "b", "a.sql"]⟩, ⟨"", ["sql", "c.sql"]⟩] :=
      List.mergeSort_of_pairwise (by decide)
    have hdirectory : ¬ ".sql".toList <:+ (Files.Path.mk "" ["sql", "b"]).name.toList := by decide
    have hopened : mixedTree.searchFault? ⟨"", ["sql"]⟩ = none := by
      rw [Tree.searchFault?_eq_none_iff, hbelow]
      exact ⟨by decide +kernel, by decide +kernel⟩
    refine selectedPaths_eq_ok_iff.2 ⟨hopened, ?_⟩
    rw [selectedAmong_sql, hbelow]
    simp only [List.filter, isSqlPath_eq, hdirectory]
    rfl
  · show Except.ok (some (Path.parse "out")) = _
    rw [Path.parse_eq]
    rfl

theorem mixed_wellFormed : mixedTree.WellFormed := by decide +kernel

theorem mixed_report : ((scan mixedConfig mixedRequest).outcome mixedTree).1 =
    .ok ⟨true, [⟨"a.sql", "t", "", some "out/a.json"⟩, ⟨"b/a.sql", "", "", some "out/b/a.json"⟩],
      2, 1⟩ := by
  rw [outcome_scan_of_plan mixed_planned]
  refine Outcome.toOption_eq_some_iff.1 ?_
  decide +kernel

theorem scan_accounts_mixedTree :
    mixedTree.WellFormed ∧
    (∃ report, ((scan mixedConfig mixedRequest).outcome mixedTree).1 = .ok report ∧
      report.rows.map (·.tables) = ["t", ""] ∧ report.warnings = 2 ∧ report.exitCode = 1 ∧
      (scan mixedConfig { mixedRequest with outDir := .null }).outcome mixedTree =
        (.ok report.withoutOutput, mixedTree,
          ((scan mixedConfig mixedRequest).outcome mixedTree).2.2)) :=
  ⟨mixed_wellFormed, _, mixed_report, by decide, by decide, by decide,
    (scan_accounts mixed_wellFormed mixed_report).2.2⟩

end SqlTables.Report
