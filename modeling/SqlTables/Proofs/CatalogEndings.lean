import SqlTables.Command.Run
import SqlTables.Proofs.CatalogFailures
import SqlTables.Proofs.Splitting

/-!
# How commands end on a catalog that cannot be loaded

On a catalog error the commands on a query and on a directory end with a message and exit code 1,
before any file is written (`AsksQuery.endsOnCatalog`, `AsksScan.endsOnCatalog`).
-/

set_option autoImplicit false

namespace SqlTables

open Document (Value)
open Files (Path Tree)

/-! ## Requests with a catalog -/

namespace Report

/-- The catalog of a request is to be loaded from a file, since no names are given. -/
structure LoadsFrom (c : Config) (known names : Value) (p : Path) : Prop where
  names : names.isGiven = false
  given : (orSetting known c .knownTables).isGiven = true
  path : pathOf (orSetting known c .knownTables) = .ok p

variable [Text.Repertoire] {t : Tree} {c : Config} {p : Path} {known names : Value}
  {failure : Failure}

theorem LoadsFrom.catalogFor_error (h : LoadsFrom c known names p)
    (hload : ∀ level, (Catalog.load t p level).outcome.1 = .error failure) :
    (catalogFor t c known names).outcome.1 = .error failure := by
  obtain ⟨hnames, hgiven, hpath⟩ := h
  have hcatalog : catalogFor t c known names =
      Catalog.load t p (c.logLevel.toOption.getD .info) >>= fun catalog => do
        Noted.tell [.catalogLoaded catalog.size (orSetting known c .knownTables).display]
        return some catalog := by
    simp only [catalogFor, hnames, hgiven, hpath, if_true, Bool.false_eq_true, if_false,
      Noted.ofKind_ok_bind]
  rw [hcatalog]
  exact Noted.outcome_bind_of_error (hload _) _

theorem query_error {r : QueryRequest} (h : LoadsFrom c r.knownTables r.tableNames p)
    (hload : ∀ level, (Catalog.load t p level).outcome.1 = .error failure) :
    (query t c r).outcome.1 = .error failure :=
  Noted.outcome_bind_of_error (h.catalogFor_error hload) _

theorem scan_error {r : ScanRequest} {w : World} (h : LoadsFrom c r.knownTables .null p)
    (hload : ∀ level, (Catalog.load w.files p level).outcome.1 = .error failure) :
    ∃ notices, scan c r w = (.error failure, ⟨w.files, notices⟩) := by
  have hplan : (plan w.files c r).outcome.1 = .error failure :=
    Noted.outcome_bind_of_error (h.catalogFor_error hload) _
  have hreading : Action.reading (fun t => plan t c r) w =
      (.error failure, ⟨w.files, w.notices ++ (plan w.files c r).outcome.2⟩) := by
    rw [Action.reading_apply, hplan]
  exact ⟨_, bind_of_error hreading⟩

end Report

/-! ## Commands -/

namespace Command

open Report (LoadsFrom orSetting)

section Steps

variable {α β : Type} {w w' : World}

theorem Step.bind_of_ok {x : Step α} {f : α → Step β} {a : α}
    (h : x.run w = (.ok (.ok a), w')) : (x >>= f).run w = (f a).run w' := by
  rw [ExceptT.run_bind]
  exact SqlTables.bind_of_ok h

theorem Step.bind_of_ending {x : Step α} {f : α → Step β} {ending : Ending}
    (h : x.run w = (.ok (.error ending), w')) : (x >>= f).run w = (.ok (.error ending), w') := by
  rw [ExceptT.run_bind]
  exact SqlTables.bind_of_ok h

theorem Step.run_ofUsage_ok (a : α) (w : World) :
    (Step.ofUsage (.ok a)).run w = (.ok (.ok a), w) := rfl

theorem Step.attempt_of_error {x : Action α} {ending? : Failure → Option Ending}
    {failure : Failure} {ending : Ending} (hx : x w = (.error failure, w'))
    (hending : ending? failure = some ending) :
    (Step.attempt x ending?).run w = (.ok (.error ending), w') := by
  have hmap : ((.ok <$> x : Action (Except Ending α)) w) = (.error failure, w') := by
    rw [map_apply, hx]
    rfl
  show Action.handling _ _ _ w = _
  rw [Action.handling, hmap]
  simp only [hending, Option.isSome_some, if_true]
  rfl

/-- What is attempted succeeds only by itself: a failure ends the run, in one way or another. -/
theorem Step.apply_of_attempt_ok {x : Action α} {ending? : Failure → Option Ending} {a : α}
    (h : (Step.attempt x ending?).run w = (.ok (.ok a), w')) : x w = (.ok a, w') := by
  cases hx : x w with
  | mk result later =>
    cases result with
    | ok a' =>
      have hattempt : (Step.attempt x ending?).run w = (.ok (.ok a'), later) := by
        show Action.handling _ _ _ w = _
        rw [Action.handling, map_apply, hx]
        rfl
      cases hattempt.symm.trans h
      rfl
    | error failure =>
      cases hending : ending? failure with
      | some ending => cases (Step.attempt_of_error hx hending).symm.trans h
      | none =>
        have hattempt : (Step.attempt x ending?).run w = (.error failure, later) := by
          show Action.handling _ _ _ w = _
          rw [Action.handling, map_apply, hx]
          simp only [Except.map, hending, Option.isSome_none, Bool.false_eq_true, if_false]
        cases hattempt.symm.trans h

end Steps

/-- A run that ends with the message of a catalog error and exit code 1, and changes no files. -/
def EndsOnCatalog (c : Config) (known : Value) (e : CatalogError) (run : Step Ending) (w : World) :
    Prop :=
  ∃ ending notices, run.run w = (.ok (.error ending), ⟨w.files, notices⟩) ∧ ending.exitCode = 1 ∧
    ending = .ofFailure ("Failed to read known tables file: " ++
      (orSetting known c .knownTables).display) (.catalog e)

section Endings

variable {c : Config} {known : Value} {e : CatalogError} {w : World} {p : Path}

theorem EndsOnCatalog.of_ok {α : Type} {x : Step α} {f : α → Step Ending} {a : α} {w' : World}
    (h : x.run w = (.ok (.ok a), w')) (hfiles : w'.files = w.files)
    (hrest : EndsOnCatalog c known e (f a) w') : EndsOnCatalog c known e (x >>= f) w := by
  rwa [EndsOnCatalog, Step.bind_of_ok h, ← hfiles]

theorem EndsOnCatalog.of_attempt {α : Type} {x : Action α} {f : α → Step Ending} {option : String}
    (h : ∃ notices, x w = (.error (.catalog e), ⟨w.files, notices⟩)) :
    EndsOnCatalog c known e (Step.attempt x (workEnding c known option) >>= f) w := by
  obtain ⟨notices, hx⟩ := h
  exact ⟨_, notices, Step.bind_of_ending (Step.attempt_of_error hx rfl), rfl, rfl⟩

theorem EndsOnCatalog.of_directory {given : Option Path} {orElse : Step Value}
    {f : Value → Step Ending} (hrest : ∀ directory, EndsOnCatalog c known e (f directory) w) :
    (given = none → ∃ v, orElse.run w = (.ok (.ok v), w)) →
      EndsOnCatalog c known e (match given with
        | some p => pure (.text p.text) >>= f
        | none => orElse >>= f) w := by
  intro horElse
  cases given with
  | some p => exact .of_ok (x := pure (.text p.text)) rfl rfl (hrest _)
  | none =>
    obtain ⟨v, hv⟩ := horElse rfl
    exact .of_ok hv rfl (hrest v)

theorem run_settingPath {v : Value} (h : ∃ s, v = .text s) (w : World) :
    ∃ directory, (settingPath v).run w = (.ok (.ok directory), w) := by
  obtain ⟨s, rfl⟩ := h
  exact ⟨_, rfl⟩

variable [Text.Repertoire]

/-- A command line of the command on a query of which nothing is refused before the catalog is
loaded. -/
structure AsksQuery (c : Config) (words : List String) (w : World) (o : QueryChoices)
    (known : Option Path) : Prop where
  query : ∃ argument, readArguments QueryChoices.forms true {} words = .ok (o, [argument]) ∧
    ∃ sql w', (readQuery c o argument).run w = (.ok (.ok sql), w')
  help : o.help = false
  known : (checkedPath .file "--known-tables" o.knownTables).run w = (.ok (.ok known), w)

/-- A command line of the command on a directory of which nothing is refused before the catalog is
loaded. -/
structure AsksScan (c : Config) (words : List String) (w : World) (o : ScanChoices)
    (known : Option Path) : Prop where
  words : readArguments ScanChoices.forms true {} words = .ok (o, [])
  help : o.help = false
  sqlDir : ∃ given, (checkedPath .directory "--sql-dir" o.sqlDir).run w = (.ok (.ok given), w) ∧
    (given = none → ∃ s, c.get .sqlDir = .text s)
  outDir : ∃ given, (checkedPath .newDirectory "--out-dir" o.outDir).run w = (.ok (.ok given), w) ∧
    (given = none → (c.get .outDir).isGiven = true → ∃ s, c.get .outDir = .text s)
  known : (checkedPath .file "--known-tables" o.knownTables).run w = (.ok (.ok known), w)

/-- Reading a query changes no files. -/
theorem files_of_readQuery {o : QueryChoices} {argument sql : String} {w' : World}
    (h : (readQuery c o argument).run w = (.ok (.ok sql), w')) : w'.files = w.files := by
  unfold readQuery at h
  split at h
  · obtain ⟨-, rfl⟩ := Action.reading_eq_ok_iff.1 (Step.apply_of_attempt_ok h)
    rfl
  · cases h
    rfl

theorem AsksQuery.endsOnCatalog {words : List String} {o : QueryChoices} {known : Option Path}
    (h : AsksQuery c words w o known) (hfrom : LoadsFrom c (pathValue known) (itemsOf o.tables) p)
    (hload : ∀ level, (Catalog.load w.files p level).outcome.1 = .error (.catalog e)) :
    EndsOnCatalog c (pathValue known) e (runQuery c words) w := by
  obtain ⟨⟨argument, hwords, sql, w', hsql⟩, hhelp, hknown⟩ := h
  have hfiles := files_of_readQuery hsql
  unfold runQuery
  rw [hwords]
  refine .of_ok (Step.run_ofUsage_ok _ w) rfl ?_
  simp only [hhelp, Bool.false_eq_true, if_false]
  refine .of_ok hknown rfl (.of_ok (Step.run_ofUsage_ok argument w) rfl
    (.of_ok hsql hfiles (.of_attempt ?_)))
  rw [Action.reading_apply, hfiles, Report.query_error hfrom hload]
  exact ⟨_, rfl⟩

theorem AsksScan.endsOnCatalog {words : List String} {o : ScanChoices} {known : Option Path}
    (h : AsksScan c words w o known) (hfrom : LoadsFrom c (pathValue known) .null p)
    (hload : ∀ level, (Catalog.load w.files p level).outcome.1 = .error (.catalog e)) :
    EndsOnCatalog c (pathValue known) e (runScan c words) w := by
  obtain ⟨hwords, hhelp, ⟨sqlDir, hsqlDir, hsqlSetting⟩, ⟨outDir, houtDir, houtSetting⟩,
    hknown⟩ := h
  unfold runScan
  rw [hwords]
  refine .of_ok (Step.run_ofUsage_ok _ w) rfl ?_
  simp only [hhelp, Bool.false_eq_true, if_false]
  refine .of_ok hsqlDir rfl (.of_ok houtDir rfl (.of_ok hknown rfl
    (.of_ok (Step.run_ofUsage_ok () w) rfl ?_)))
  refine .of_directory (fun sqlDir => ?_) fun hnone => run_settingPath (hsqlSetting hnone) w
  by_cases hset : (c.get .outDir).isGiven = true
  · rw [if_pos hset]
    exact .of_directory (fun outDir => .of_attempt (Report.scan_error hfrom hload))
      fun hnone => run_settingPath (houtSetting hnone hset) w
  · rw [if_neg hset]
    exact .of_directory (fun outDir => .of_attempt (Report.scan_error hfrom hload))
      fun _ => ⟨.null, rfl⟩

end Endings

/-- The loading of a catalog succeeds, fails with a catalog error or escapes, each in the cases that
are its own; a catalog error ends the commands on a query and on a directory with a message and exit
code 1. -/
theorem catalog_errors_end_commands [Text.Repertoire] (t : Tree) (p : Path) :
    (∀ level,
      ((∃ catalog, (Catalog.load t p level).outcome.1 = .ok catalog) ↔
        (∀ e, ¬ Catalog.Rejects t p e) ∧ ¬ Catalog.Escapes level t p) ∧
      (∀ e, (Catalog.load t p level).outcome.1 = .error (.catalog e) ↔ Catalog.Rejects t p e) ∧
      (Catalog.Escaped (Catalog.load t p level).outcome.1 ↔ Catalog.Escapes level t p)) ∧
    ∀ e, Catalog.Rejects t p e → ∀ c words notices,
      (∀ o known, AsksQuery c words ⟨t, notices⟩ o known →
        LoadsFrom c (pathValue known) (itemsOf o.tables) p →
        EndsOnCatalog c (pathValue known) e (runQuery c words) ⟨t, notices⟩) ∧
      ∀ o known, AsksScan c words ⟨t, notices⟩ o known → LoadsFrom c (pathValue known) .null p →
        EndsOnCatalog c (pathValue known) e (runScan c words) ⟨t, notices⟩ := by
  refine ⟨fun level => ⟨Catalog.exists_load_iff, fun e => Catalog.load_eq_catalog_error_iff,
    Catalog.escaped_load_iff⟩, fun e hrejects c words notices => ?_⟩
  have hload : ∀ level, (Catalog.load t p level).outcome.1 = .error (.catalog e) :=
    fun _ => Catalog.load_of_rejects hrejects
  exact ⟨fun o known hasks hfrom => hasks.endsOnCatalog hfrom hload,
    fun o known hasks hfrom => hasks.endsOnCatalog hfrom hload⟩

/-- An empty file, which is no JSON document, as the catalog that a configuration names. -/
def blankCatalogTree : Tree := ⟨[(["k.json"], .file []), (["sql"], .directory)]⟩

def blankCatalogConfig : Config := Config.initial.set .knownTables (.text "k.json")

/-- A file that is not UTF-8 as a catalog. -/
def undecodableCatalogTree : Tree := ⟨[(["k.json"], .file [0xff])]⟩

theorem catalog_errors_end_commands_blank :
    Catalog.Rejects blankCatalogTree ⟨"", ["k.json"]⟩ (.unparsable "k.json") ∧
    EndsOnCatalog blankCatalogConfig .null (.unparsable "k.json")
      (runQuery blankCatalogConfig ["SELECT 1"]) ⟨blankCatalogTree, []⟩ ∧
    EndsOnCatalog blankCatalogConfig .null (.unparsable "k.json")
      (runScan blankCatalogConfig []) ⟨blankCatalogTree, []⟩ ∧
    Catalog.Escaped (Catalog.load undecodableCatalogTree ⟨"", ["k.json"]⟩).outcome.1 := by
  have htext : Files.documentText [] = .ok "" :=
    Outcome.toOption_eq_some_iff.1 (by decide +kernel)
  have hrejects : Catalog.Rejects blankCatalogTree ⟨"", ["k.json"]⟩ (.unparsable "k.json") :=
    .unparsable rfl htext rfl
  have hfrom : LoadsFrom blankCatalogConfig .null .null ⟨"", ["k.json"]⟩ := by
    refine ⟨rfl, rfl, ?_⟩
    show Except.ok (Path.parse "k.json") = _
    rw [Path.parse_eq]
    rfl
  have hnames : itemsOf "" = .null := by
    have hcomma : "," = String.singleton ',' := rfl
    rw [itemsOf, hcomma, splitOn_singleton]
    rfl
  have hquery : AsksQuery blankCatalogConfig ["SELECT 1"] ⟨blankCatalogTree, []⟩ {} none :=
    ⟨⟨"SELECT 1", by decide +kernel, "SELECT 1", _, rfl⟩, rfl, rfl⟩
  have hscan : AsksScan blankCatalogConfig [] ⟨blankCatalogTree, []⟩ {} none :=
    ⟨rfl, rfl, ⟨none, rfl, fun _ => ⟨"sql", rfl⟩⟩,
      ⟨none, rfl, fun _ hgiven => absurd hgiven (by decide)⟩, rfl⟩
  have hends := (catalog_errors_end_commands blankCatalogTree ⟨"", ["k.json"]⟩).2 _ hrejects
    blankCatalogConfig
  have hfrom' : LoadsFrom blankCatalogConfig .null (itemsOf "") ⟨"", ["k.json"]⟩ := by
    rwa [hnames]
  have hquery' := (hends ["SELECT 1"] []).1 {} none hquery hfrom'
  have hscan' := (hends [] []).2 {} none hscan hfrom
  obtain ⟨fault, hfault⟩ : ∃ fault, Bytes.Utf8.decoder.decode [0xff] = .error fault := by
    have hnone : (Bytes.Utf8.decoder.decode [0xff]).toOption = none := by decide +kernel
    cases hdecode : Bytes.Utf8.decoder.decode [0xff] with
    | error fault => exact ⟨fault, rfl⟩
    | ok s =>
      rw [hdecode] at hnone
      cases hnone
  have hescaped := ((catalog_errors_end_commands undecodableCatalogTree
    ⟨"", ["k.json"]⟩).1 .info).2.2.2 (.bytes rfl hfault)
  exact ⟨hrejects, hquery', hscan', hescaped⟩

end Command

end SqlTables
