import SqlTables.Proofs.ResultTexts
import SqlTables.Proofs.ScanAccounts
import SqlTables.Proofs.Writing

/-!
# Results of a scan in files

The result of a file goes to a file of the same names below the directory for results, with `.json`
in place of `.sql` at the end.  A name that is nothing but `.sql` has no ending that could be
replaced, so it gets `.json` after it, and so does `.sql.sql` lose its second `.sql`: these two are
the only names of SQL files that become the same (`outputName_eq_iff`).
-/

set_option autoImplicit false

namespace SqlTables.Report

open Files (Path Tree)

/-! ## Names of results -/

/-- The names of a result's file below the directory for results. -/
def outputNames (names : List String) : List String :=
  names.dropLast ++ [outputName (names.getLast?.getD "")]

theorem toList_outputName_sql (stem : List Char) :
    (outputName (String.ofList (stem ++ ".sql".toList))).toList =
      (if stem = [] then ".sql".toList else stem) ++ ".json".toList := by
  have hsql : ".sql".toList = ['.', 's', 'q', 'l'] := by decide
  have htake : (stem ++ ['.', 's', 'q', 'l']).take (stem.length + 4 - 3 - 1) = stem := by
    simp
  by_cases hstem : stem = []
  · subst hstem
    decide
  · simp [outputName, Path.splitSuffix, hsql, hstem]

theorem outputName_eq_iff {n n' : String} (h : ".sql".toList <:+ n.toList)
    (h' : ".sql".toList <:+ n'.toList) :
    outputName n = outputName n' ↔
      n = n' ∨ n = ".sql" ∧ n' = ".sql.sql" ∨ n = ".sql.sql" ∧ n' = ".sql" := by
  obtain ⟨stem, hstem⟩ := h
  obtain ⟨stem', hstem'⟩ := h'
  obtain rfl : String.ofList (stem ++ ".sql".toList) = n := by rw [hstem, String.ofList_toList]
  obtain rfl : String.ofList (stem' ++ ".sql".toList) = n' := by rw [hstem', String.ofList_toList]
  have htwice : ".sql.sql".toList = ".sql".toList ++ ".sql".toList := by decide
  rw [← String.toList_inj, toList_outputName_sql, toList_outputName_sql,
    List.append_cancel_right_eq]
  simp only [← String.toList_inj, String.toList_ofList, htwice, List.append_cancel_right_eq]
  by_cases hnil : stem = []
  · by_cases hnil' : stem' = []
    · simp [hnil, hnil']
    · simp [hnil, hnil', @eq_comm _ stem', @eq_comm _ ([] : List Char)]
  · by_cases hnil' : stem' = []
    · simp [hnil, hnil']
    · simp [hnil, hnil']

example : outputName ".sql" = outputName ".sql.sql" := by decide

/-! ## Texts of paths -/

/-- Texts without slashes between slashes are told apart. -/
theorem intercalate_slash_inj {o o' : List String} (ho : o ≠ []) (ho' : o' ≠ [])
    (hslash : ∀ n ∈ o, '/' ∉ n.toList) (hslash' : ∀ n ∈ o', '/' ∉ n.toList)
    (h : "/".intercalate o = "/".intercalate o') : o = o' := by
  have hchars := congrArg (fun s => List.splitOn '/' s.toList) h
  simp only [String.toList_intercalate] at hchars
  have hsep : "/".toList = ['/'] := by decide
  rw [hsep, List.splitOn_intercalate '/' (by simpa using hslash) (by simpa using ho),
    List.splitOn_intercalate '/' (by simpa using hslash') (by simpa using ho')] at hchars
  exact List.map_injective_iff.2 (fun _ _ => String.toList_inj.1) hchars

theorem text_pathBelow_inj {dir : Path} {o o' : List String} (ho : o ≠ []) (ho' : o' ≠ [])
    (hslash : ∀ n ∈ o, '/' ∉ n.toList) (hslash' : ∀ n ∈ o', '/' ∉ n.toList) :
    (Tree.pathBelow dir o).text = (Tree.pathBelow dir o').text ↔ o = o' := by
  refine ⟨fun h => intercalate_slash_inj ho ho' hslash hslash' ?_, fun h => by rw [h]⟩
  simp only [Path.text, Tree.pathBelow, List.append_eq_nil_iff, ho, ho', and_false, if_false,
    String.append_right_inj] at h
  by_cases hdir : dir.names = []
  · simpa [hdir] using h
  · simpa [String.intercalate_append_of_ne_nil hdir ho,
      String.intercalate_append_of_ne_nil hdir ho'] using h

/-! ## Files of results -/

/-- The names of a SQL file below a directory. -/
structure SqlNames (names : List String) : Prop where
  named : ∀ n ∈ names, Files.IsName n
  sql : ".sql".toList <:+ (names.getLast?.getD "").toList

namespace SqlNames

variable {names names' : List String}

theorem ne_nil (h : SqlNames names) : names ≠ [] := by
  rintro rfl
  have := h.sql
  revert this
  decide

theorem name_mem (h : SqlNames names) : names.getLast?.getD "" ∈ names := by
  rw [List.getLast?_eq_some_getLast h.ne_nil]
  exact List.getLast_mem h.ne_nil

theorem proper_outputNames (h : SqlNames names) : Tree.Proper (outputNames names) := by
  refine ⟨by simp [outputNames], ?_⟩
  simp only [outputNames, List.mem_append, List.mem_singleton, not_or]
  refine ⟨fun hdots => (h.named _ (List.dropLast_subset _ hdots)).ne_dots rfl, fun hdots => ?_⟩
  have := json_suffix_outputName (names.getLast?.getD "")
  rw [← hdots] at this
  revert this
  decide

theorem no_slash_outputNames (h : SqlNames names) : ∀ n ∈ outputNames names, '/' ∉ n.toList := by
  intro n hn
  simp only [outputNames, List.mem_append, List.mem_singleton] at hn
  rcases hn with hn | rfl
  · exact (h.named _ (List.dropLast_subset _ hn)).no_slash
  · have hslash := (h.named _ h.name_mem).no_slash
    obtain ⟨stem, hstem⟩ := h.sql
    obtain hname : names.getLast?.getD "" = String.ofList (stem ++ ".sql".toList) := by
      rw [hstem, String.ofList_toList]
    rw [hname] at hslash ⊢
    rw [toList_outputName_sql]
    split <;> simp_all

/-- Files of SQL whose results go to one file are the same or are named `.sql` and `.sql.sql`. -/
theorem outputNames_eq_iff (h : SqlNames names) (h' : SqlNames names') :
    outputNames names = outputNames names' ↔ names.dropLast = names'.dropLast ∧
      (names.getLast?.getD "" = names'.getLast?.getD "" ∨
        names.getLast?.getD "" = ".sql" ∧ names'.getLast?.getD "" = ".sql.sql" ∨
        names.getLast?.getD "" = ".sql.sql" ∧ names'.getLast?.getD "" = ".sql") := by
  rw [outputNames, outputNames, List.append_singleton_inj, outputName_eq_iff h.sql h'.sql]

end SqlNames

/-! ## Files below a directory -/

theorem relativeTo_pathBelow (root : Path) (names : List String) :
    relativeTo root (Tree.pathBelow root names) = ⟨"", names⟩ := by
  simp [relativeTo, Tree.pathBelow]

theorem outputPath_eq (dir : Path) (names : List String) :
    outputPath dir ⟨"", names⟩ = Tree.pathBelow dir (outputNames names) := rfl

theorem pathBelow_inj {root : Path} {names names' : List String} :
    Tree.pathBelow root names = Tree.pathBelow root names' ↔ names = names' := by
  simp [Tree.pathBelow]

theorem parent_name_pathBelow (root : Path) {names : List String} (h : names ≠ []) :
    (Tree.pathBelow root names).parent = Tree.pathBelow root names.dropLast ∧
      (Tree.pathBelow root names).name = names.getLast?.getD "" := by
  obtain ⟨m, n, rfl⟩ : ∃ m n, names = m ++ [n] := ⟨_, _, (List.dropLast_concat_getLast h).symm⟩
  simp [Tree.parent_pathBelow, Tree.name_pathBelow]

theorem SqlNames.eq_iff {names names' : List String} (h : SqlNames names) (h' : SqlNames names') :
    names = names' ↔ names.dropLast = names'.dropLast ∧
      names.getLast?.getD "" = names'.getLast?.getD "" := by
  refine ⟨fun heq => by simp [heq], fun ⟨hdrop, hlast⟩ => ?_⟩
  rw [List.getLast?_eq_some_getLast h.ne_nil, List.getLast?_eq_some_getLast h'.ne_nil] at hlast
  rw [← List.dropLast_concat_getLast h.ne_nil, ← List.dropLast_concat_getLast h'.ne_nil, hdrop]
  simpa using hlast

variable {p p' : Path}

/-- Two files of one directory of which the results go to the same file. -/
def Collide (p p' : Path) : Prop :=
  p.parent = p'.parent ∧ p.name = ".sql" ∧ p'.name = ".sql.sql"

theorem namesLe_append_singleton (a : List String) {m n : String} (h : m ≠ n) :
    Path.namesLe (a ++ [m]) (a ++ [n]) = Path.codesLe m.toList n.toList := by
  induction a with
  | nil => simp [Path.namesLe, h]
  | cons k a ih => simpa [Path.namesLe] using ih

/-- Of two files that collide, the one named `.sql` comes first. -/
theorem Collide.not_le (h : Collide p p') : ¬ Path.le p' p := by
  obtain ⟨hparent, hname, hname'⟩ := h
  have hnil : p.names ≠ [] := fun hnil => by
    rw [Path.name, hnil] at hname
    revert hname
    decide
  have hnil' : p'.names ≠ [] := fun hnil => by
    rw [Path.name, hnil] at hname'
    revert hname'
    decide
  have hnames : p.names.dropLast = p'.names.dropLast := congrArg Path.names hparent
  rw [Path.le, Tree.Path.names_eq_concat hnil, Tree.Path.names_eq_concat hnil', hname, hname',
    hnames, namesLe_append_singleton _ (by decide)]
  decide

section Plan

variable [Text.Repertoire] {t t' : Tree} {c : Config} {r : ScanRequest} {pl : ScanPlan}
  {told : List Notice} {p p' : Path}

omit [Text.Repertoire] in
/-- A selected file lies below its directory under names of a SQL file. -/
theorem Selects.sqlNames (ht : t.WellFormed) {root : Path} {paths : List Path}
    (h : Selects t c r root paths) (hp : p ∈ paths) :
    ∃ base names, t.locate root = .ok base ∧ (t.node? (base ++ names)).isSome ∧
      p = Tree.pathBelow root names ∧ SqlNames names := by
  obtain ⟨includes, excludes, -, -, hmem⟩ := h.mem_iff
  obtain ⟨⟨base, names, hbase, hnames, hsome, rfl⟩, hsql, -⟩ := (hmem p).1 hp
  refine ⟨base, names, hbase, hsome, rfl, ?_, ?_⟩
  · obtain ⟨node, hnode⟩ := Option.isSome_iff_exists.1 hsome
    have hnamed := (ht.named _ (Tree.mem_of_node? (by simp [hnames]) hnode)).2
    exact fun n hn => hnamed n (List.mem_append_right _ hn)
  · simpa [Tree.pathBelow, Path.name, List.getLast?_append_of_ne_nil _ hnames] using hsql

/-- The result of a file can be written to its file: the path of that is taken, and the names in
the result can be encoded. -/
structure Writable (dir relative : Path) (e : Extraction) : Prop where
  taken : (outputPath dir relative).fault? = none
  whole : HasWholeNames e

/-- A result is saved if it can be written to its file, and this can be made in the tree. -/
theorem saveResult_eq_ok_iff {dir root : Path} {e : Extraction} :
    saveResult (some dir) (relativeTo root p) e t = .ok t' ↔
      Writable dir (relativeTo root p) e ∧
        Tree.writeBelow dir t (outputNames (relativeTo root p).names) (resultBytes e) = .ok t' := by
  have hparent : (outputPath dir (relativeTo root p)).parent =
      Tree.pathBelow dir (outputNames (relativeTo root p).names).dropLast := by
    rw [relativeTo, outputPath_eq, outputNames, Tree.parent_pathBelow, List.dropLast_concat]
  simp only [saveResult, Tree.writeBelow, Outcome.bind_eq_ok_iff, Files.makeDirectories_eq_ok_iff,
    Files.writeText_eq_ok_iff, encodeError?_resultText_iff, ← hparent]
  constructor
  · rintro ⟨made, ⟨-, hmade⟩, htaken, hwhole, hwritten⟩
    exact ⟨⟨htaken, hwhole⟩, made, hmade, hwritten⟩
  · rintro ⟨⟨htaken, hwhole⟩, made, hmade, hwritten⟩
    exact ⟨made, ⟨Path.fault?_parent htaken, hmade⟩, htaken, hwhole, hwritten⟩

/-- The files that hold the results of a plan. -/
def resultFiles (t : Tree) (c : Config) (r : ScanRequest) (pl : ScanPlan) :
    List (List String × List UInt8) :=
  pl.paths.filterMap fun p => (resultIn t c r pl.extractor p).toOption.map fun e =>
    (outputNames (relativeTo pl.root p).names, resultBytes e)

/-- All results are saved if each of them can be written, and their files can be made one after the
other. -/
theorem saveAll_eq_ok_iff {dir : Path} (hdir : pl.outDir = some dir) {opened : Tree} :
    saveAll t c r pl opened = .ok t' ↔
      (∀ p ∈ pl.paths, ∀ e, resultIn t c r pl.extractor p = .ok e →
        Writable dir (relativeTo pl.root p) e) ∧
      Tree.writeAll dir (resultFiles t c r pl) opened = .ok t' := by
  unfold saveAll resultFiles Tree.writeAll
  rw [hdir]
  induction pl.paths generalizing opened with
  | nil => simp [pure, Except.pure]
  | cons p paths ih =>
    rw [List.foldlM_cons, List.filterMap_cons, List.forall_mem_cons]
    cases hresult : resultIn t c r pl.extractor p with
    | error failure =>
      have hnone : ∀ e, Except.error failure = .ok e →
          Writable dir (relativeTo pl.root p) e := nofun
      rw [and_iff_right hnone]
      exact ih
    | ok e =>
      have hsave (t : Tree) : saveFile pl.root (some dir) p (.ok e) t =
        saveResult (some dir) (relativeTo pl.root p) e t := rfl
      simp only [hsave, Except.toOption, Option.map_some, List.foldlM_cons,
        Outcome.bind_eq_ok_iff, saveResult_eq_ok_iff, ih, Except.ok.injEq, forall_eq']
      constructor
      · rintro ⟨mid, ⟨hwritable, hmid⟩, hwritables, hrest⟩
        exact ⟨⟨hwritable, hwritables⟩, mid, hmid, hrest⟩
      · rintro ⟨⟨hwritable, hwritables⟩, mid, hmid, hrest⟩
        exact ⟨mid, ⟨hwritable, hmid⟩, hwritables, hrest⟩

theorem Planned.proper_resultFiles (ht : t.WellFormed) (h : Planned t c r pl told) :
    ∀ f ∈ resultFiles t c r pl, Tree.Proper f.1 := by
  intro f hf
  obtain ⟨p, hp, hfile⟩ := List.mem_filterMap.1 hf
  obtain ⟨base, names, -, -, rfl, hnames⟩ := (h.selects ht).sqlNames ht hp
  obtain ⟨e, -, rfl⟩ := Option.map_eq_some_iff.1 hfile
  rw [relativeTo_pathBelow]
  exact hnames.proper_outputNames

/-- Results go to files of one name only if these are of one file or of two that collide. -/
theorem Planned.outputText_eq_iff (ht : t.WellFormed) (h : Planned t c r pl told)
    (hp : p ∈ pl.paths) (hp' : p' ∈ pl.paths) (dir : Path) :
    outputText (some dir) (relativeTo pl.root p) = outputText (some dir) (relativeTo pl.root p') ↔
      p = p' ∨ Collide p p' ∨ Collide p' p := by
  obtain ⟨-, names, -, -, rfl, hnames⟩ := (h.selects ht).sqlNames ht hp
  obtain ⟨-, names', -, -, rfl, hnames'⟩ := (h.selects ht).sqlNames ht hp'
  obtain ⟨hparent, hname⟩ := parent_name_pathBelow pl.root hnames.ne_nil
  obtain ⟨hparent', hname'⟩ := parent_name_pathBelow pl.root hnames'.ne_nil
  simp only [outputText, Option.map_some, Option.some.injEq, relativeTo_pathBelow, outputPath_eq]
  rw [text_pathBelow_inj hnames.proper_outputNames.1 hnames'.proper_outputNames.1
    hnames.no_slash_outputNames hnames'.no_slash_outputNames, hnames.outputNames_eq_iff hnames',
    pathBelow_inj, hnames.eq_iff hnames', Collide, Collide, hparent, hparent', hname, hname',
    pathBelow_inj, pathBelow_inj]
  tauto

/-! ## What the files of results hold -/

theorem exists_base_of_openOutDir (ht : t.Grounded) {dir : Path} {opened : Tree}
    (h : openOutDir (some dir) t = .ok opened) :
    opened.Grounded ∧ ∃ base, opened.locate dir = .ok base ∧
      opened.node? base = some .directory := by
  obtain ⟨hgrounded, -, hdirectory⟩ :=
    ht.makeDirectories_ok (Files.makeDirectories_eq_ok_iff.1 h).2
  exact ⟨hgrounded, Tree.isDirectory_iff.1 hdirectory⟩

/-- The file for the result of a file holds it, unless another one has its result there too and
comes later. -/
theorem Planned.read_result (ht : t.WellFormed) (h : Planned t c r pl told) {dir : Path}
    (hdir : pl.outDir = some dir) {opened : Tree} (hopen : openOutDir (some dir) t = .ok opened)
    (hsaved : saveAll t c r pl opened = .ok t') (hp : p ∈ pl.paths) {e : Extraction}
    (he : resultIn t c r pl.extractor p = .ok e)
    (halone : ∀ p' ∈ pl.paths, ∀ e', resultIn t c r pl.extractor p' = .ok e' → ¬ Collide p p') :
    t'.read (outputPath dir (relativeTo pl.root p)) = .ok (resultBytes e) := by
  obtain ⟨hgrounded, base, hbase, -⟩ := exists_base_of_openOutDir ht.grounded hopen
  have hproper := h.proper_resultFiles ht
  have hselects := h.selects ht
  obtain ⟨-, hsaved⟩ := (saveAll_eq_ok_iff hdir).1 hsaved
  obtain ⟨before, after, hpaths⟩ := List.append_of_mem hp
  let file p := (resultIn t c r pl.extractor p).toOption.map fun e =>
    (outputNames (relativeTo pl.root p).names, resultBytes e)
  have hfiles : resultFiles t c r pl = before.filterMap file ++
      (outputNames (relativeTo pl.root p).names, resultBytes e) :: after.filterMap file := by
    rw [resultFiles, hpaths, List.filterMap_append, List.filterMap_cons, he]
    rfl
  rw [hfiles] at hproper hsaved
  refine (hgrounded.holds_of_writeAll hbase hproper hsaved fun f hf heq => ?_).read_eq
  -- A later file with its result in the same place would be the same file, or collide with this
  -- one; but it is not the same, and of two that collide the one that loses its result is first.
  obtain ⟨p', hp', hfile⟩ := List.mem_filterMap.1 hf
  obtain ⟨e', he', rfl⟩ := Option.map_eq_some_iff.1 hfile
  rw [Outcome.toOption_eq_some_iff] at he'
  have hmem' : p' ∈ pl.paths := hpaths ▸ List.mem_append_right _ (List.mem_cons_of_mem _ hp')
  have hsame : outputText (some dir) (relativeTo pl.root p') =
      outputText (some dir) (relativeTo pl.root p) := by
    simp only [outputText, Option.map_some, relativeTo, outputPath_eq]
    exact congrArg (fun o => some (Tree.pathBelow dir o).text) heq
  have hsorted := hselects.sorted
  have hnodup := hselects.nodup
  rw [hpaths] at hsorted hnodup
  rcases (h.outputText_eq_iff ht hmem' hp dir).1 hsame with rfl | hcollide | hcollide
  · exact (List.nodup_cons.1 (List.nodup_append.1 hnodup).2.1).1 hp'
  · exact hcollide.not_le ((List.pairwise_cons.1 (List.pairwise_append.1 hsorted).2.1).1 p' hp')
  · exact halone p' hmem' e' he' hcollide

end Plan

/-- Every result of a scan is in the file of its row, but for files named `.sql` beside a file
`.sql.sql`: these two go to the same file, which holds the result of the second. -/
theorem scan_keeps_results [Text.Repertoire] {t : Tree} {c : Config} {r : ScanRequest}
    (ht : t.WellFormed) {report : ScanReport} (h : ((scan c r).outcome t).1 = .ok report) {dir : Path}
    (hdir : outDirOf r.outDir = .ok (some dir)) :
    ∃ root paths, Selects t c r root paths ∧ Accounts t c r root (some dir) paths report ∧
      ∀ p ∈ paths, ∀ q, fileReport t c r p = .ok q →
        (∀ p' ∈ paths, ∀ q', fileReport t c r p' = .ok q' →
          (outputText (some dir) (relativeTo root p) = outputText (some dir) (relativeTo root p') ↔
            p = p' ∨ Collide p p' ∨ Collide p' p)) ∧
        ((∀ p' ∈ paths, ∀ q', fileReport t c r p' = .ok q' → ¬ Collide p p') →
          ((scan c r).outcome t).2.1.read (outputPath dir (relativeTo root p)) =
            .ok (resultBytes q.extraction)) := by
  obtain ⟨pl, hscanned⟩ := (scan_eq_ok_iff ht).1 (Prod.ext h rfl)
  obtain ⟨told, hplanned, -⟩ := hscanned.plan
  obtain rfl := hscanned.report
  obtain ⟨opened, hopen, hsaved⟩ := hscanned.saved
  have hout : pl.outDir = some dir := Except.ok.inj (hplanned.outDir.symm.trans hdir)
  have hresult : ∀ {p q}, fileReport t c r p = .ok q →
      resultIn t c r pl.extractor p = .ok q.extraction := fun {p q} hq => by
    rw [← fileReport_extraction hplanned p, hq]
    rfl
  refine ⟨pl.root, pl.paths, hplanned.selects ht, hout ▸ hplanned.accounts, fun p hp q hq =>
    ⟨fun p' hp' q' _ => hplanned.outputText_eq_iff ht hp hp' dir, fun halone => ?_⟩⟩
  refine hplanned.read_result ht hout (hout ▸ hopen) hsaved hp (hresult hq) fun p' hp' e' he' => ?_
  rw [← fileReport_extraction hplanned p'] at he'
  obtain ⟨q', hq', -⟩ := Outcome.map_eq_ok_iff.1 he'
  exact halone p' hp' q' hq'

theorem scan_keeps_results_mixedTree :
    mixedTree.WellFormed ∧
    (∃ report, ((scan mixedConfig mixedRequest).outcome mixedTree).1 = .ok report) ∧
    outDirOf mixedRequest.outDir = .ok (some ⟨"", ["out"]⟩) ∧
    ∃ root paths, Selects mixedTree mixedConfig mixedRequest root paths ∧
      ∀ p ∈ paths, ∀ q, fileReport mixedTree mixedConfig mixedRequest p = .ok q →
        (∀ p' ∈ paths, ∀ q', fileReport mixedTree mixedConfig mixedRequest p' = .ok q' →
          ¬ Collide p p') →
        ((scan mixedConfig mixedRequest).outcome mixedTree).2.1.read
          (outputPath ⟨"", ["out"]⟩ (relativeTo root p)) = .ok (resultBytes q.extraction) := by
  refine ⟨mixed_wellFormed, ⟨_, mixed_report⟩, mixed_planned.outDir, ?_⟩
  obtain ⟨root, paths, hselects, -, hresults⟩ :=
    scan_keeps_results mixed_wellFormed mixed_report mixed_planned.outDir
  exact ⟨root, paths, hselects, fun p hp q hq halone => (hresults p hp q hq).2 halone⟩

end SqlTables.Report
