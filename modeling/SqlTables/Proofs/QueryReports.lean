import SqlTables.Proofs.DialectKeywords
import SqlTables.Proofs.KeywordSets
import SqlTables.Proofs.Resolution
import SqlTables.Report.Query

/-!
# Reports on queries

A report on a query is an extraction with options that come from two places.  The keywords are those
of the request, else the configured ones, even if there are none, else those of the dialect, else
the standard ones (`QueryTerms.baseKeywords`); custom ones of both places are added.  Only a dialect
that is needed and not known keeps a query from its report.  What is found is reported but for the
names that are configured to be left out, and this keeps the names apart that were told apart.
-/

set_option autoImplicit false

namespace SqlTables

open Document (Value)

/-! ## Names to leave out -/

namespace Extraction

/-- An extraction without the names that match one of some patterns. -/
def without (e : Extraction) (patterns : List String) : Extraction :=
  let keeps (name : String) : Bool := patterns.all fun pattern => !Files.nameMatches pattern name
  ⟨e.allTables.filter keeps, e.realTables.filter keeps, e.ctes.filter keeps⟩

/-- Names that are told apart stay so when some are left out. -/
theorem IsPartition.without {e : Extraction} (h : e.IsPartition) (patterns : List String) :
    (e.without patterns).IsPartition where
  disjoint _ hreal hctes := h.disjoint (List.mem_of_mem_filter hreal) (List.mem_of_mem_filter hctes)
  nodup_real := h.nodup_real.filter _
  nodup_ctes := h.nodup_ctes.filter _
  sublist_real := h.sublist_real.filter _
  sublist_ctes := h.sublist_ctes.filter _
  perm := by
    have hfilter := h.perm.filter fun name => patterns.all fun p => !Files.nameMatches p name
    rwa [List.filter_append] at hfilter

end Extraction

namespace Report

theorem matchesAny_texts (name : String) (patterns : List String) :
    matchesAny name (patterns.map .text) = .ok (patterns.any (Files.nameMatches · name)) := by
  induction patterns with
  | nil => rfl
  | cons pattern patterns ih =>
    rw [List.map_cons, matchesAny, List.any_cons]
    by_cases h : Files.nameMatches pattern name = true
    · rw [if_pos h, h, Bool.true_or]
    · rw [if_neg h, ih, Bool.eq_false_iff.2 h, Bool.false_or]

theorem withoutIgnored_texts (patterns names : List String) :
    withoutIgnored (patterns.map .text) names =
      .ok (names.filter fun name => patterns.all fun p => !Files.nameMatches p name) := by
  unfold withoutIgnored
  simp only [matchesAny_texts]
  refine Outcome.filterM_eq_ok_iff.2 ⟨fun name _ => ⟨_, rfl⟩, List.filter_congr fun name _ => ?_⟩
  rw [List.all_eq_not_any_not]
  simp only [Bool.not_not]
  rfl

/-- Of what is found, the names that match no configured pattern are kept. -/
theorem applyIgnore_eq {c : Config} {patterns : List String}
    (h : (c.get .ignore).givenItems = .ok (patterns.map .text)) (e : Extraction) :
    applyIgnore c e = .ok (e.without patterns) := by
  rw [applyIgnore, h]
  simp only [Outcome.ok_bind, withoutIgnored_texts]
  rfl

end Report

/-! ## Keywords that are asked for -/

theorem Document.Value.Lists.isGiven_iff {v : Value} {texts : List String} (h : v.Lists texts) :
    v.isGiven = true ↔ texts ≠ [] := by
  cases h with
  | nothing => simp [Value.isGiven]
  | @list items texts h =>
    cases items with
    | nil =>
      rw [Value.phrases_nil] at h
      cases h
      simp [Value.isGiven]
    | cons item items =>
      obtain ⟨text, -, rest, -, rfl⟩ : ∃ text, item.phrase = .ok text ∧
          ∃ rest, Value.phrases items = .ok rest ∧ texts = text :: rest := by
        unfold Value.phrases at h
        simp only [List.mapM_cons, Outcome.bind_eq_ok_iff] at h
        obtain ⟨text, htext, rest, hrest, heq⟩ := h
        cases heq
        exact ⟨text, htext, rest, hrest, rfl⟩
      simp [Value.isGiven]

/-- A value asks for keywords: null for none in particular, a list of texts for these. -/
inductive Document.Value.Asks : Value → Option (List String) → Prop where
  | nothing : Asks .null none
  | list {items : List Value} {texts : List String} (h : Value.phrases items = .ok texts) :
      Asks (.list items) (some texts)

theorem Document.Value.asks_ofTexts (texts : List String) : (ofTexts texts).Asks (some texts) :=
  .list (phrases_texts texts)

/-- A value that lists texts, if it lists any, asks for them. -/
theorem Document.Value.Lists.asks {v : Value} {texts : List String} (h : v.Lists texts)
    (hne : texts ≠ []) : v.Asks (some texts) := by
  cases h with
  | nothing => exact absurd rfl hne
  | list h => exact .list h

theorem Document.Value.phrase_eq_ok_iff {v : Value} {s : String} :
    v.phrase = .ok s ↔ v = .text s ∨ ¬ v.isGiven = true ∧ s = "" := by
  cases v with
  | text t =>
    rw [phrase_text, Except.ok.injEq, text.injEq]
    refine ⟨.inl, ?_⟩
    rintro (h | ⟨hgiven, rfl⟩)
    · exact h
    · simpa [isGiven] using hgiven
  | _ =>
    simp only [phrase, reduceCtorEq, false_or]
    split
    · exact iff_of_false (by simp) fun h => h.1 ‹_›
    · exact ⟨fun h => ⟨‹_›, by cases h; rfl⟩, fun h => by rw [h.2]⟩

theorem Document.Value.isGiven_iff_of_phrase {v : Value} {s : String} (h : v.phrase = .ok s) :
    v.isGiven = true ↔ s ≠ "" := by
  rcases phrase_eq_ok_iff.1 h with rfl | ⟨hgiven, rfl⟩
  · simp [isGiven]
  · exact iff_of_false hgiven (absurd rfl)

theorem Document.Value.eq_text_of_phrase {v : Value} {s : String} (h : v.phrase = .ok s)
    (hs : s ≠ "") : v = .text s :=
  (phrase_eq_ok_iff.1 h).resolve_right fun hblank => hs hblank.2

namespace ExtractionOptions

variable {o : ExtractionOptions} {asked : Option (List String)} {custom : List String}

theorem baseItems_apply (h : o.keywords.Asks asked) (hdialect : o.dialect = .null)
    (earlier : List Notice) : ∃ items, o.baseItems earlier = (.ok items, earlier) ∧
      Value.phrases items = .ok (asked.getD Sql.Keyword.standard) := by
  unfold baseItems
  cases hkeywords : o.keywords with
  | null =>
    rw [hkeywords] at h
    cases h
    rw [hdialect]
    exact ⟨_, rfl, Value.phrases_texts _⟩
  | list items =>
    rw [hkeywords] at h
    cases h
    exact ⟨items, rfl, ‹_›⟩
  | _ =>
    rw [hkeywords] at h
    cases h

/-- The keywords of an extractor are those asked for, or the standard ones if none are in
particular, and then the custom ones. -/
theorem build_apply (h : o.keywords.Asks asked) (hdialect : o.dialect = .null)
    (hcustom : o.customKeywords.Lists custom) (earlier : List Notice) :
    ∃ told, o.build earlier = (.ok ⟨o.catalog, o.filtersCtes,
      Sql.Keyword.normalize (asked.getD Sql.Keyword.standard ++ custom)⟩, told) := by
  obtain ⟨items, hitems, hasked⟩ := baseItems_apply h hdialect earlier
  obtain ⟨items', hitems', hcustom⟩ := hcustom.givenItems
  unfold build
  rw [bind_of_ok hitems, hitems', Noted.ofKind_ok_bind, Value.phrases_append hasked hcustom,
    Noted.ofKind_ok_bind]
  exact ⟨_, rfl⟩

end ExtractionOptions

/-! ## Requests and settings -/

namespace Report

/-- What a request for a report on a query says besides the catalog and the flag. -/
structure QueryTerms where
  sql : String
  keywords : List String
  customKeywords : List String
  /-- The dialect, blank if there is none. -/
  dialect : String

/-- What a configuration says on queries besides the catalog, the flag and the presets. -/
structure QuerySettings where
  /-- The keywords, if they are said, even to be none. -/
  keywords : Option (List String)
  customKeywords : List String
  /-- The dialect, blank if there is none. -/
  dialect : String
  /-- The patterns of names to leave out. -/
  ignore : List String

/-- The values of a request are of the kinds they should be, and say these terms. -/
structure QueryRequest.Says (r : QueryRequest) (q : QueryTerms) : Prop where
  sql : r.sql.phrase = .ok q.sql
  keywords : r.keywords.keywords.Lists q.keywords
  customKeywords : r.keywords.customKeywords.Lists q.customKeywords
  dialect : r.keywords.dialect.phrase = .ok q.dialect

end Report

open Report

/-- The values of a configuration are of the kinds they should be, and say these settings. -/
structure Config.Says (c : Config) (s : QuerySettings) : Prop where
  keywords : (c.get .keywords).Asks s.keywords
  customKeywords : (c.get .customKeywords).Lists s.customKeywords
  presets : ∃ presets, (c.get .keywordPresets).ListsPresets presets
  dialect : (c.get .dialect).phrase = .ok s.dialect
  ignore : (c.get .ignore).givenItems = .ok (s.ignore.map .text)

namespace Report

namespace QueryTerms

/-- The keywords of a request if there are any, else the configured ones if they are said. -/
def keywordsIn (q : QueryTerms) (s : QuerySettings) : Option (List String) :=
  if q.keywords ≠ [] then some q.keywords else s.keywords

/-- The dialect of a request, or the configured one if it has none. -/
def dialectIn (q : QueryTerms) (s : QuerySettings) : String :=
  if q.dialect ≠ "" then q.dialect else s.dialect

/-- The keywords before the custom ones: those that are said, else those of the dialect if there is
one, else the standard ones. -/
def baseKeywords (q : QueryTerms) (s : QuerySettings) (presets : Value) :
    Except Failure (List String) :=
  match q.keywordsIn s with
  | some keywords => .ok keywords
  | none =>
    if q.dialectIn s ≠ "" then (Sql.keywordsForDialect (.text (q.dialectIn s)) presets).outcome.1
    else .ok Sql.Keyword.standard

/-- The keywords are to be those of a dialect, and that is not known. -/
structure NeedsUnknown (q : QueryTerms) (s : QuerySettings) : Prop where
  no_keywords : q.keywordsIn s = none
  dialect : q.dialectIn s ≠ ""
  unknown : Sql.Dialect.parse? (q.dialectIn s) = none

end QueryTerms

/-! ## Precedence -/

section Precedence

variable {c : Config} {r : QueryRequest} {q : QueryTerms} {s : QuerySettings}

theorem asks_keywords (hc : c.Says s) (hr : r.Says q) :
    (orSetting r.keywords.keywords c .keywords).Asks (q.keywordsIn s) := by
  have hgiven := hr.keywords.isGiven_iff
  unfold orSetting QueryTerms.keywordsIn
  by_cases h : q.keywords = []
  · rw [if_neg (by simpa [h] using hgiven), if_neg (by simpa using h)]
    exact hc.keywords
  · rw [if_pos (hgiven.2 h), if_pos h]
    exact hr.keywords.asks h

theorem phrase_dialect (hc : c.Says s) (hr : r.Says q) :
    (orSetting r.keywords.dialect c .dialect).phrase = .ok (q.dialectIn s) := by
  have hgiven := Value.isGiven_iff_of_phrase hr.dialect
  unfold orSetting QueryTerms.dialectIn
  by_cases h : q.dialect = ""
  · rw [if_neg (by simpa [h] using hgiven), if_neg (by simpa using h)]
    exact hc.dialect
  · rw [if_pos (hgiven.2 h), if_pos h]
    exact hr.dialect

/-- Unless the base keywords are to be those of an unknown dialect, there are some, and a value that
asks for them. -/
theorem baseKeywords_apply (hc : c.Says s) (hr : r.Says q) (h : ¬ q.NeedsUnknown s)
    (earlier : List Notice) : ∃ asked v told,
      q.baseKeywords s (c.get .keywordPresets) = .ok (asked.getD Sql.Keyword.standard) ∧
        v.Asks asked ∧ baseKeywords c r.keywords earlier = (.ok v, told) := by
  have hasks := asks_keywords hc hr
  have hdialect := phrase_dialect hc hr
  unfold baseKeywords QueryTerms.baseKeywords
  generalize orSetting r.keywords.keywords c .keywords = v at hasks
  generalize orSetting r.keywords.dialect c .dialect = d at hdialect
  cases hkeywords : q.keywordsIn s with
  | some keywords =>
    -- The dialect is not looked at, known or not.
    rw [hkeywords] at hasks
    cases hasks with
    | list hitems => exact ⟨some keywords, _, earlier, rfl, .list hitems, rfl⟩
  | none =>
    rw [hkeywords] at hasks
    cases hasks
    by_cases hne : q.dialectIn s = ""
    · have hgiven : ¬ d.isGiven = true := fun hg => (Value.isGiven_iff_of_phrase hdialect).1 hg hne
      refine ⟨none, .null, earlier, ?_, .nothing, ?_⟩
      · rw [if_neg (by simpa using hne)]
        rfl
      · simp only [hgiven]
        rfl
    · obtain rfl := Value.eq_text_of_phrase hdialect hne
      obtain ⟨known, hknown⟩ := Option.ne_none_iff_exists'.1 fun hn => h ⟨hkeywords, hne, hn⟩
      obtain ⟨presets, hpresets⟩ := hc.presets
      obtain ⟨told, htold⟩ := Sql.keywordsForDialect_apply hpresets hknown earlier
      obtain ⟨told', htold'⟩ := Sql.keywordsForDialect_apply hpresets hknown []
      refine ⟨some (known.allKeywords presets), _, told, ?_, Value.asks_ofTexts _, ?_⟩
      · rw [if_pos hne, Noted.outcome_apply, htold']
        rfl
      · have hgiven := (Value.isGiven_iff_of_phrase hdialect).2 hne
        simp only [hgiven]
        exact bind_of_ok htold

/-- A dialect that is needed and not known ends the request. -/
theorem baseKeywords_of_needsUnknown (hc : c.Says s) (hr : r.Says q) (h : q.NeedsUnknown s)
    (earlier : List Notice) :
    baseKeywords c r.keywords earlier = (.error (.unknownDialect (q.dialectIn s)), earlier) := by
  have hasks := asks_keywords hc hr
  have hdialect := phrase_dialect hc hr
  unfold baseKeywords
  rw [h.no_keywords] at hasks
  generalize orSetting r.keywords.keywords c .keywords = v at hasks
  generalize orSetting r.keywords.dialect c .dialect = d at hdialect
  cases hasks
  obtain rfl := Value.eq_text_of_phrase hdialect h.dialect
  have hgiven := (Value.isGiven_iff_of_phrase hdialect).2 h.dialect
  simp only [hgiven]
  exact bind_of_error (Sql.keywordsForDialect_unknown h.dialect h.unknown _ earlier)

/-- Whether names are set apart: with a catalog, if the request or the configuration says so. -/
def setsApart (c : Config) (r : QueryRequest) (catalog : Option Catalog) : Bool :=
  catalog.isSome && (r.filtersCtes.isGiven || (c.get .filterCtes).isGiven)

theorem isGiven_orSetting (v : Value) (c : Config) (setting : Setting) :
    (orSetting v c setting).isGiven = (v.isGiven || (c.get setting).isGiven) := by
  unfold orSetting
  by_cases h : v.isGiven = true
  · rw [if_pos h, h, Bool.true_or]
  · rw [if_neg h, Bool.eq_false_iff.2 h, Bool.false_or]

/-- The extractor for a query looks for the base keywords and the custom ones, the configured first.
-/
theorem extractorFor_apply (hc : c.Says s) (hr : r.Says q) (h : ¬ q.NeedsUnknown s)
    (catalog : Option Catalog) (earlier : List Notice) : ∃ base told,
      q.baseKeywords s (c.get .keywordPresets) = .ok base ∧
        extractorFor c catalog r.filtersCtes r.keywords earlier =
          (.ok ⟨catalog, setsApart c r catalog,
            Sql.Keyword.normalize (base ++ (s.customKeywords ++ q.customKeywords))⟩, told) := by
  obtain ⟨asked, v, told, hbase, hasks, hv⟩ := baseKeywords_apply hc hr h earlier
  obtain ⟨configured, hconfigured, hphrases⟩ := hc.customKeywords.givenItems
  obtain ⟨requested, hrequested, hphrases'⟩ := hr.customKeywords.givenItems
  have hcustom : (Value.list (configured ++ requested)).Lists
      (s.customKeywords ++ q.customKeywords) := .list (Value.phrases_append hphrases hphrases')
  obtain ⟨told', hbuild⟩ := ExtractionOptions.build_apply (o :=
    { catalog, filtersCtes := setsApart c r catalog, keywords := v,
      customKeywords := .list (configured ++ requested) }) hasks rfl hcustom told
  refine ⟨_, told', hbase, ?_⟩
  unfold extractorFor
  rw [bind_of_ok hv, hconfigured, hrequested, Noted.ofKind_ok_bind, Noted.ofKind_ok_bind,
    isGiven_orSetting, Bool.and_comm]
  exact hbuild

/-! ## The report -/

/-- A report on a query is what is found with some base keywords and the custom ones, but for the
names to leave out. -/
structure QueryReport.IsExtraction (report : QueryReport) (q : QueryTerms) (s : QuerySettings)
    (catalog : Option Catalog) (base : List String) : Prop where
  keywords : report.keywords =
    Sql.Keyword.normalize (base ++ (s.customKeywords ++ q.customKeywords))
  extraction : ∃ found,
    ({ catalog, filtersCtes := report.filtersCtes, keywords := .ofTexts base,
       customKeywords := .ofTexts (s.customKeywords ++ q.customKeywords) } :
      ExtractionOptions).extraction q.sql = .ok found ∧ report.extraction = found.without s.ignore
  nodup : report.extraction.allTables.Nodup
  apart : report.filtersCtes = true → report.extraction.IsPartition
  joint : report.filtersCtes = false →
    report.extraction.realTables = report.extraction.allTables ∧ report.extraction.ctes = []

/-- The report from what an extractor finds, but for some names. -/
def reportFrom (x : Extractor) (sql : String) (ignore : List String) : QueryReport :=
  ⟨(x.extract sql).without ignore, x.keywords, (x.catalog.map Catalog.size).getD 0, x.filtersCtes⟩

theorem isExtraction_reportFrom {catalog : Option Catalog} {filters : Bool}
    (hfilters : filters = true → catalog.isSome = true) (base : List String) :
    (reportFrom ⟨catalog, filters,
      Sql.Keyword.normalize (base ++ (s.customKeywords ++ q.customKeywords))⟩ q.sql
      s.ignore).IsExtraction q s catalog base where
  keywords := rfl
  extraction := ⟨_, ExtractionOptions.extraction_of_phrases
    (ExtractionOptions.phrases_of_texts rfl rfl) q.sql, rfl⟩
  nodup := by
    refine List.Nodup.filter _ ?_
    rw [Extractor.allTables_extract]
    exact nodup_eraseDups _
  apart := by
    rintro rfl
    obtain ⟨known, rfl⟩ := Option.isSome_iff_exists.1 (hfilters rfl)
    exact (Extractor.isPartition_extract known _ _).without _
  joint := by
    rintro rfl
    exact ⟨rfl, rfl⟩

theorem extractNoted_apply (x : Extractor) (sql : String) (earlier : List Notice) :
    x.extractNoted sql earlier = (.ok (x.extract sql), earlier ++ x.skippedCalls sql) := rfl

variable [Text.Repertoire] {t : Files.Tree} {catalog : Option Catalog}

theorem catalogFor_apply
    (hcatalog : (catalogFor t c r.knownTables r.tableNames).outcome.1 = .ok catalog) :
    catalogFor t c r.knownTables r.tableNames [] =
      (.ok catalog, (catalogFor t c r.knownTables r.tableNames).outcome.2) := Prod.ext hcatalog rfl

theorem query_of_known (hc : c.Says s) (hr : r.Says q)
    (hcatalog : (catalogFor t c r.knownTables r.tableNames).outcome.1 = .ok catalog)
    (h : ¬ q.NeedsUnknown s) : ∃ base, q.baseKeywords s (c.get .keywordPresets) = .ok base ∧
      (query t c r).outcome.1 = .ok (reportFrom ⟨catalog, setsApart c r catalog,
        Sql.Keyword.normalize (base ++ (s.customKeywords ++ q.customKeywords))⟩ q.sql
        s.ignore) := by
  obtain ⟨base, told, hbase, hextractor⟩ := extractorFor_apply hc hr h catalog
    (catalogFor t c r.knownTables r.tableNames).outcome.2
  refine ⟨base, hbase, ?_⟩
  rw [Noted.outcome_apply, query, bind_of_ok (catalogFor_apply hcatalog), bind_of_ok hextractor,
    hr.sql, Noted.ofKind_ok_bind, bind_of_ok (extractNoted_apply _ _ _), applyIgnore_eq hc.ignore]
  rfl

theorem query_of_needsUnknown (hc : c.Says s) (hr : r.Says q)
    (hcatalog : (catalogFor t c r.knownTables r.tableNames).outcome.1 = .ok catalog)
    (h : q.NeedsUnknown s) :
    (query t c r).outcome.1 = .error (.unknownDialect (q.dialectIn s)) := by
  rw [Noted.outcome_apply, query, bind_of_ok (catalogFor_apply hcatalog), extractorFor]
  simp only [bind_assoc]
  rw [bind_of_error (baseKeywords_of_needsUnknown hc hr h _)]

/-- A report on a query is an extraction with fixed precedence.  Once the catalog is there, only a
dialect that is needed and not known keeps the query from it.  Otherwise the keywords are the base
keywords, the configured custom ones and those of the request, names are set apart if there is a
catalog and the request or the configuration asks for it, and what is found so is reported but for
the names that are configured to be left out. -/
theorem query_is_extraction (hc : c.Says s) (hr : r.Says q)
    (hcatalog : (catalogFor t c r.knownTables r.tableNames).outcome.1 = .ok catalog) :
    ((∃ name, (query t c r).outcome.1 = .error (.unknownDialect name)) ↔ q.NeedsUnknown s) ∧
    (¬ q.NeedsUnknown s → ∃ base report,
      q.baseKeywords s (c.get .keywordPresets) = .ok base ∧
      (query t c r).outcome.1 = .ok report ∧ report.IsExtraction q s catalog base ∧
      (report.filtersCtes = true ↔ catalog.isSome = true ∧
        (r.filtersCtes.isGiven = true ∨ (c.get .filterCtes).isGiven = true))) := by
  have hapart : setsApart c r catalog = true ↔ catalog.isSome = true ∧
      (r.filtersCtes.isGiven = true ∨ (c.get .filterCtes).isGiven = true) := by
    rw [setsApart, Bool.and_eq_true, Bool.or_eq_true]
  refine ⟨⟨fun ⟨name, hname⟩ => ?_, fun h => ?_⟩, fun h => ?_⟩
  · by_contra h
    obtain ⟨_, -, hreport⟩ := query_of_known hc hr hcatalog h
    rw [hreport] at hname
    cases hname
  · exact ⟨_, query_of_needsUnknown hc hr hcatalog h⟩
  · obtain ⟨base, hbase, hreport⟩ := query_of_known hc hr hcatalog h
    exact ⟨base, _, hbase, hreport, isExtraction_reportFrom (fun h => (hapart.1 h).1) base, hapart⟩

end Precedence

/-- The configuration that says some settings, and otherwise nothing. -/
def QuerySettings.config (s : QuerySettings) : Config where
  get
    | .keywords => s.keywords.elim .null Value.ofTexts
    | .customKeywords => Value.ofTexts s.customKeywords
    | .dialect => .text s.dialect
    | .ignore => Value.ofTexts s.ignore
    | other => other.initial

theorem QuerySettings.says_config (s : QuerySettings) : s.config.Says s where
  keywords := by
    show (s.keywords.elim .null Value.ofTexts).Asks s.keywords
    cases s.keywords with
    | none => exact .nothing
    | some keywords => exact Value.asks_ofTexts keywords
  customKeywords := Value.lists_ofTexts s.customKeywords
  presets := ⟨[], .map .nil⟩
  dialect := rfl
  ignore := Value.givenItems_ofTexts s.ignore

/-- A request with some terms over a catalog of names, with a flag to set unknown names apart. -/
def QueryTerms.request (q : QueryTerms) (tableNames : List String) (filtersCtes : Bool) :
    QueryRequest where
  sql := .text q.sql
  tableNames := Value.ofTexts tableNames
  filtersCtes := .bool filtersCtes
  keywords :=
    { keywords := Value.ofTexts q.keywords
      customKeywords := Value.ofTexts q.customKeywords
      dialect := .text q.dialect }

theorem QueryTerms.says_request (q : QueryTerms) (tableNames : List String) (filtersCtes : Bool) :
    (q.request tableNames filtersCtes).Says q where
  sql := rfl
  keywords := Value.lists_ofTexts q.keywords
  customKeywords := Value.lists_ofTexts q.customKeywords
  dialect := rfl

/-- Keywords of the request go before configured ones and before a dialect that nobody knows; custom
ones are added once, and a name that is to be left out is missing among the others.  Without
keywords the dialect is needed. -/
theorem query_is_extraction_ignored :
    let s : QuerySettings := ⟨some ["INTO"], [" FROM "], "nosuch", ["tmp_*"]⟩
    let q : QueryTerms := ⟨"SELECT (FROM orders) FROM tmp_a UNION FROM recent", ["FROM"], [""], ""⟩
    let s' : QuerySettings := { s with keywords := none }
    let q' : QueryTerms := { q with keywords := [] }
    (∃ report, (query ⟨[]⟩ s.config (q.request ["orders"] true)).outcome.1 = .ok report ∧
      report.keywords = ["FROM"] ∧ report.filtersCtes = true ∧
      report.extraction = ⟨["orders", "recent"], ["orders"], ["recent"]⟩) ∧
    ∃ name, (query ⟨[]⟩ s'.config (q'.request ["orders"] true)).outcome.1 =
      .error (.unknownDialect name) := by
  intro s q s' q'
  have hcatalog : (catalogFor ⟨[]⟩ s.config .null (Value.ofTexts ["orders"])).outcome.1 =
      .ok (some (Catalog.ofNames ["orders"])) := rfl
  have hcatalog' : (catalogFor ⟨[]⟩ s'.config .null (Value.ofTexts ["orders"])).outcome.1 =
      .ok (some (Catalog.ofNames ["orders"])) := rfl
  obtain ⟨-, hreport⟩ := query_is_extraction s.says_config (q.says_request ["orders"] true) hcatalog
  obtain ⟨herror, -⟩ :=
    query_is_extraction s'.says_config (q'.says_request ["orders"] true) hcatalog'
  refine ⟨?_, herror.2 ⟨rfl, by decide, by decide +kernel⟩⟩
  obtain ⟨base, report, hbase, hok, his, hfilters⟩ := hreport fun h => nomatch h.no_keywords
  cases hbase
  have hnormal : Sql.Keyword.normalize (["FROM"] ++ ([" FROM "] ++ [""])) = ["FROM"] := by
    decide +kernel
  have hfinds : Extractor.extract ⟨some (Catalog.ofNames ["orders"]), true, ["FROM"]⟩ q.sql =
      ⟨["orders", "tmp_a", "recent"], ["orders"], ["tmp_a", "recent"]⟩ := by decide +kernel
  have hapart : report.filtersCtes = true := hfilters.2 ⟨rfl, .inl rfl⟩
  obtain ⟨found, hfound, hkept⟩ := his.extraction
  rw [hapart, ExtractionOptions.extraction_of_phrases
    (ExtractionOptions.phrases_of_texts rfl rfl), hnormal, hfinds] at hfound
  cases hfound
  refine ⟨report, hok, his.keywords.trans hnormal, hapart, hkept.trans ?_⟩
  cbv

end Report

end SqlTables
