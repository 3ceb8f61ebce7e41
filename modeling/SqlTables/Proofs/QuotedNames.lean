import SqlTables.Proofs.JoinQueries
import SqlTables.Proofs.KeywordSets
import SqlTables.Proofs.Squeezing

/-!
# Quoted names in a query

Whoever reads a name takes a quoted one as a whole, but scrubbing and the search for keywords do
not.  Blanks are collapsed inside quotes as everywhere, so a name is found with single spaces
(`QuotedQuery.scrub_text`); and keywords are looked for inside quotes as everywhere, so a quoted
column is passed over only if no keyword with a name after it begins in it
(`QuotedQuery.captures_scrub_text`).
-/

set_option autoImplicit false

namespace SqlTables.Sql

open SqlTables.Text Lexeme

/-- A name in quotes: anything that the quotes hold together. -/
structure QuotedName where
  quoting : Quoting
  body : List Char
  body_ne_nil : body ≠ []
  closing_notMem : quoting.closing ∉ body

namespace QuotedName

/-- The name as a segment of an identifier. -/
def segment (q : QuotedName) : Segment := .quoted q.quoting q.body

/-- The name as written. -/
def text (q : QuotedName) : List Char := q.segment.text

/-- The name is in double quotes, or no comment, literal or double-quoted span begins in it. -/
def IsShielded (q : QuotedName) : Prop := q.segment.IsShielded

instance (q : QuotedName) : Decidable q.IsShielded :=
  inferInstanceAs (Decidable q.segment.IsShielded)

theorem wellFormed (q : QuotedName) : q.segment.WellFormed := ⟨q.body_ne_nil, q.closing_notMem⟩

theorem stays_text {q : QuotedName} (hq : q.IsShielded) {before : Option Char}
    (hbefore : before.any isComparison = false) : Stays before q.text :=
  Segment.stays_text q.wellFormed hq hbefore

/-- The name with one space in place of every run of blanks. -/
def squeezed (q : QuotedName) : QuotedName where
  quoting := q.quoting
  body := squeeze q.body
  body_ne_nil := squeeze_ne_nil q.body_ne_nil
  closing_notMem hmem := by
    have hsolid := q.quoting.closing_solid
    rcases mem_of_mem_squeeze hmem with hspace | hbody
    · rw [hspace] at hsolid
      exact absurd hsolid (by simp)
    · exact q.closing_notMem hbody

theorem squeeze_append_text (q : QuotedName) (s t : List Char) :
    squeeze (s ++ (q.text ++ t)) = squeeze s ++ (q.squeezed.text ++ squeeze t) := by
  have htext : s ++ (q.text ++ t) =
      s ++ q.quoting.opening :: (q.body ++ q.quoting.closing :: t) := by
    simp [text, segment, Segment.text]
  rw [htext, squeeze_append_cons_solid q.quoting.opening_solid,
    squeeze_append_cons_solid q.quoting.closing_solid]
  simp [text, segment, Segment.text, squeezed]

end QuotedName

/-- A query for one quoted name in a table under another, joined to a table `t`. -/
structure QuotedQuery where
  column : QuotedName
  table : QuotedName

namespace QuotedQuery

/-- The query as written. -/
def text (q : QuotedQuery) : List Char :=
  "SELECT ".toList ++ (q.column.text ++ (" FROM ".toList ++
    (q.table.text ++ " JOIN t ON 1 = 1".toList)))

theorem text_eq (q : QuotedQuery) : q.text =
    "SELECT ".toList ++ (q.column.text ++ (" FROM ".toList ++
      (q.table.text ++ " JOIN t ON 1 = 1".toList))) := rfl

/-- The query with the blanks in its names squeezed. -/
def squeezed (q : QuotedQuery) : QuotedQuery := ⟨q.column.squeezed, q.table.squeezed⟩

/-! ## Scrubbing -/

theorem stays_text {q : QuotedQuery} (hcolumn : q.column.IsShielded)
    (htable : q.table.IsShielded) : Stays none q.text := by
  have hselect : Stays none "SELECT ".toList :=
    stays_of_unmarked (by decide +kernel) (by decide +kernel) none
  have hfrom (before : Option Char) : Stays before " FROM ".toList :=
    stays_of_unmarked (by decide +kernel) (by decide +kernel) before
  have hjoin (before : Option Char) : Stays before " JOIN t ON 1 = 1".toList :=
    stays_of_unmarked (by decide +kernel) (by decide +kernel) before
  -- both names stand after a letter, so neither is taken for a compared literal
  have hname (before : Option Char) :
      Stays before (" FROM ".toList ++ (q.table.text ++ " JOIN t ON 1 = 1".toList)) :=
    (hfrom before).append ((QuotedName.stays_text htable rfl).append (hjoin _))
  exact hselect.append ((QuotedName.stays_text hcolumn rfl).append (hname _))

theorem squeeze_text (q : QuotedQuery) : squeeze q.text = q.squeezed.text := by
  have hselect : squeeze "SELECT ".toList = "SELECT ".toList := by decide +kernel
  have hfrom : squeeze " FROM ".toList = " FROM ".toList := by decide +kernel
  have hjoin : squeeze " JOIN t ON 1 = 1".toList = " JOIN t ON 1 = 1".toList := by
    decide +kernel
  have hcolumn : q.squeezed.column = q.column.squeezed := rfl
  have htable : q.squeezed.table = q.table.squeezed := rfl
  rw [q.squeezed.text_eq, hcolumn, htable, q.text_eq,
    q.column.squeeze_append_text "SELECT ".toList, q.table.squeeze_append_text " FROM ".toList,
    hselect, hfrom, hjoin]

theorem head?_text (q : QuotedQuery) : q.text.head? = some 'S' := by
  have h : "SELECT ".toList.head? = some 'S' := by decide +kernel
  rw [q.text_eq, List.head?_append, h, Option.some_or]

theorem getLast?_text (q : QuotedQuery) : q.text.getLast? = some '1' := by
  have h : " JOIN t ON 1 = 1".toList.getLast? = some '1' := by decide +kernel
  simp only [q.text_eq, List.getLast?_append, h, Option.some_or]

theorem isCollapsed_squeezed (q : QuotedQuery) : IsCollapsed q.squeezed.text where
  toSingleSpaced := q.squeeze_text ▸ singleSpaced_squeeze q.text
  head_solid c hc := by
    rw [head?_text] at hc
    cases hc
    decide
  last_solid c hc := by
    rw [getLast?_text] at hc
    cases hc
    decide

/-- Scrubbing squeezes the blanks in the names and leaves the query as it is otherwise, unless it
finds a comment or literal in a name. -/
theorem scrub_text {q : QuotedQuery} (hcolumn : q.column.IsShielded)
    (htable : q.table.IsShielded) : scrub q.text = q.squeezed.text := by
  rw [scrub, (stays_text hcolumn htable).keep_eq, ← squeeze_text]
  exact collapse_eq_squeeze (q.squeeze_text ▸ q.isCollapsed_squeezed)

end QuotedQuery

/-! ## Reading -/

/-- The join at the end of the query. -/
def joinedT : Join := ⟨.plain, ⟨⟨.plain ['t'], []⟩, by decide +kernel, by decide +kernel⟩⟩

theorem text_joinedT : [joinedT].flatMap Join.text = " JOIN t ON 1 = 1".toList := by
  decide +kernel

/-- A quoted name as an identifier of one segment. -/
def QuotedName.identifier (q : QuotedName) : Identifier := ⟨q.segment, []⟩

theorem QuotedName.text_identifier (q : QuotedName) : q.identifier.text = q.text := by
  rw [Identifier.text_eq]
  exact List.append_nil _

theorem QuotedName.wellFormed_identifier (q : QuotedName) : q.identifier.WellFormed := by
  intro g hg
  obtain rfl := List.mem_singleton.1 hg
  exact q.wellFormed

/-- The captures that the table of a query and the join after it give. -/
def capturesFromJoin (table : QuotedName) : List Capture :=
  [⟨"FROM".toList, table.identifier, false⟩, joinedT.table.captureAfter "JOIN"]

/-- From its table on, a query is read as it is written, whatever the table is called. -/
theorem captures_from_join (table : QuotedName) (before : Option Char)
    (hs : SingleSpaced (" FROM ".toList ++ (table.text ++ " JOIN t ON 1 = 1".toList))) :
    capturesAfter standardPhrases before
        (" FROM ".toList ++ (table.text ++ " JOIN t ON 1 = 1".toList)) =
      capturesFromJoin table := by
  have hfrom : " FROM ".toList = [' '] ++ ("FROM".toList ++ [' ']) := by decide +kernel
  let keyword := "FROM".toList ++ ' ' :: (table.identifier.text ++ [joinedT].flatMap Join.text)
  have htext : " FROM ".toList ++ (table.text ++ " JOIN t ON 1 = 1".toList) =
      [' '] ++ keyword := by
    simp only [keyword, table.text_identifier, text_joinedT, hfrom, List.cons_append,
      List.append_assoc, List.nil_append]
  rw [htext] at hs ⊢
  have hkeyword : SingleSpaced keyword := hs.of_append_right
  have hjoin : SingleSpaced ([joinedT].flatMap Join.text) :=
    hkeyword.of_suffix ⟨"FROM".toList ++ ' ' :: table.identifier.text, by simp [keyword]⟩
  obtain ⟨hblank, hopen⟩ := joins_follow [joinedT]
  calc capturesAfter standardPhrases before ([' '] ++ keyword)
      = capturesAfter standardPhrases (some ' ') keyword :=
        capturesAfter_quiet_append isPhrase_standard hs (by decide +kernel) before
    _ = ⟨"FROM".toList, table.identifier, false⟩ ::
          capturesAfter standardPhrases table.identifier.text.getLast?
            ([joinedT].flatMap Join.text) :=
        captures_identifier (by decide) table.wellFormed_identifier hblank hopen hkeyword
    _ = capturesFromJoin table := by
        rw [captures_joins [joinedT] _ hjoin]
        rfl

instance (sql : List Char) (p : Nat) : Decidable (MayBegin Keyword.standard (scrub sql) p) :=
  decidable_of_iff' _ (mayBegin_iff isPhrase_standard (isCollapsed_collapse _).toSingleSpaced)

namespace QuotedQuery

/-- No keyword that a name follows begins in the column of the scrubbed query. -/
def ColumnIsQuiet (q : QuotedQuery) : Prop :=
  ∀ p, "SELECT ".length ≤ p → p < ("SELECT ".toList ++ q.squeezed.column.text).length →
    ¬ MayBegin Keyword.standard (scrub q.text) p

instance (q : QuotedQuery) : Decidable q.ColumnIsQuiet :=
  decidable_of_iff (∀ p < ("SELECT ".toList ++ q.squeezed.column.text).length,
    "SELECT ".length ≤ p → ¬ MayBegin Keyword.standard (scrub q.text) p)
    (forall_congr' fun _ => forall_comm)

/-- A quiet column is passed over. -/
theorem captures_scrub_text {q : QuotedQuery} (hcolumn : q.column.IsShielded)
    (htable : q.table.IsShielded) (hquiet : q.ColumnIsQuiet) :
    captures Keyword.standard (scrub q.text) = capturesFromJoin q.table.squeezed := by
  rw [ColumnIsQuiet, scrub_text hcolumn htable] at hquiet
  rw [scrub_text hcolumn htable]
  have hs := q.isCollapsed_squeezed.toSingleSpaced
  change _ = capturesFromJoin q.squeezed.table
  generalize q.squeezed = q at hs hquiet ⊢
  rw [q.text_eq] at hs hquiet ⊢
  let rest := " FROM ".toList ++ (q.table.text ++ " JOIN t ON 1 = 1".toList)
  have hafter : SingleSpaced (q.column.text ++ rest) := hs.of_append_right
  have hrest : SingleSpaced rest := hafter.of_append_right
  calc captures Keyword.standard ("SELECT ".toList ++ (q.column.text ++ rest))
      = capturesAfter standardPhrases "SELECT ".toList.getLast? (q.column.text ++ rest) :=
        capturesAfter_quiet_append isPhrase_standard hs (by decide +kernel) none
    _ = capturesAfter standardPhrases ("SELECT ".toList ++ q.column.text).getLast? rest :=
        capturesAfter_append_of_not_mayBegin isPhrase_standard hafter hquiet
    _ = capturesFromJoin q.table := captures_from_join q.table _ hrest

end QuotedQuery

end SqlTables.Sql

namespace SqlTables

open SqlTables.Sql

/-! ## The tables of the query -/

/-- The names of captures that are no function calls, each at its first occurrence. -/
def Sql.tableNames (cs : List Capture) : List String :=
  ((cs.filter (!·.isCall)).map Capture.name).eraseDups

theorem tableNames_capturesFromJoin (table : QuotedName) :
    tableNames (capturesFromJoin table) = [String.ofList table.body, "t"].eraseDups := by
  have hjoined : (joinedT.table.captureAfter "JOIN").name = "t" := by decide +kernel
  have htable : Sql.Capture.name ⟨"FROM".toList, table.identifier, false⟩ =
      String.ofList table.body := by
    simp [Capture.name, Identifier.name, Identifier.segments, QuotedName.identifier,
      QuotedName.segment, Segment.body]
  have hcalls : (capturesFromJoin table).filter (!·.isCall) = capturesFromJoin table := rfl
  rw [tableNames, hcalls, capturesFromJoin, List.map_cons, List.map_cons, List.map_nil, htable,
    hjoined]

/-- The tables that are found in a query with the standard options. -/
def standardTables (filters : Bool) (sql : List Char) : Except Failure (List String) :=
  (({ filtersCtes := filters } : ExtractionOptions).extraction (String.ofList sql)).map
    Extraction.allTables

theorem standardTables_eq (filters : Bool) (sql : List Char) :
    standardTables filters sql = .ok (tableNames (captures Keyword.standard (scrub sql))) := by
  have hphrases : ({ filtersCtes := filters } : ExtractionOptions).phrases.outcome.1 =
    .ok Keyword.standard := rfl
  rw [standardTables, ExtractionOptions.extraction_of_phrases hphrases, Keyword.normalize_standard]
  change Except.ok (Extractor.extract _ _).allTables = _
  rw [Extractor.allTables_extract, Extractor.namesIn, Extractor.capturesIn, String.toList_ofList,
    tableNames]
  congr 2
  exact List.map_id _

/-- In a query whose column is quiet, the table under a quoted name is found with the runs of blanks
in its name squeezed, whatever else the name holds. -/
theorem standardTables_quotedQuery (filters : Bool) (q : QuotedQuery)
    (hcolumn : q.column.IsShielded) (htable : q.table.IsShielded) (hquiet : q.ColumnIsQuiet) :
    standardTables filters q.text =
      .ok [String.ofList (Text.squeeze q.table.body), "t"].eraseDups := by
  rw [standardTables_eq, QuotedQuery.captures_scrub_text hcolumn htable hquiet,
    tableNames_capturesFromJoin]
  rfl

/-- A column in double quotes, with marks and a keyword at its end, and a table in brackets. -/
def Sql.QuotedQuery.markedColumn : QuotedQuery where
  column := ⟨.doubleQuotes, "it's -- a FROM".toList, by decide +kernel, by decide +kernel⟩
  table := ⟨.brackets, "left \t join".toList, by decide +kernel, by decide +kernel⟩

theorem standardTables_markedColumn :
    String.ofList QuotedQuery.markedColumn.text =
      "SELECT \"it's -- a FROM\" FROM [left \t join] JOIN t ON 1 = 1" ∧
    QuotedQuery.markedColumn.column.IsShielded ∧ QuotedQuery.markedColumn.table.IsShielded ∧
      QuotedQuery.markedColumn.ColumnIsQuiet ∧
      standardTables true QuotedQuery.markedColumn.text = .ok ["left join", "t"] := by
  have hcolumn : QuotedQuery.markedColumn.column.IsShielded := by decide +kernel
  have htable : QuotedQuery.markedColumn.table.IsShielded := by decide +kernel
  have hquiet : QuotedQuery.markedColumn.ColumnIsQuiet := by decide +kernel
  refine ⟨by decide +kernel, hcolumn, htable, hquiet, ?_⟩
  refine (standardTables_quotedQuery true _ hcolumn htable hquiet).trans ?_
  exact congrArg Except.ok (by decide +kernel)

/-- A query with a keyword and a name after it in its column. -/
def Sql.QuotedQuery.keywordInColumn : QuotedQuery where
  column := ⟨.brackets, "a FROM b c".toList, by decide +kernel, by decide +kernel⟩
  table := ⟨.brackets, "d".toList, by decide +kernel, by decide +kernel⟩

/-- A query with two spaces in the name of its table. -/
def Sql.QuotedQuery.spacesInTable : QuotedQuery where
  column := ⟨.brackets, "a".toList, by decide +kernel, by decide +kernel⟩
  table := ⟨.brackets, "b  c".toList, by decide +kernel, by decide +kernel⟩

/-- A query with an apostrophe in its column, and no double quotes around it. -/
def Sql.QuotedQuery.apostropheInColumn : QuotedQuery where
  column := ⟨.brackets, "it's".toList, by decide +kernel, by decide +kernel⟩
  table := ⟨.brackets, "d".toList, by decide +kernel, by decide +kernel⟩

/-- The keyword is taken for one, and so is the word behind it for a table. -/
theorem Sql.QuotedQuery.captures_keywordInColumn :
    captures Keyword.standard (scrub keywordInColumn.text) =
      ⟨"FROM".toList, ⟨.plain ['b'], []⟩, false⟩ :: capturesFromJoin keywordInColumn.table := by
  let name : Identifier := ⟨.plain ['b'], []⟩
  let join := " FROM ".toList ++ (keywordInColumn.table.text ++ " JOIN t ON 1 = 1".toList)
  let rest := " c]".toList ++ join
  have htext : scrub keywordInColumn.text =
      "SELECT [a ".toList ++ ("FROM".toList ++ ' ' :: (name.text ++ rest)) := by
    decide +kernel
  have hs : Text.SingleSpaced (scrub keywordInColumn.text) :=
    (Text.isCollapsed_collapse _).toSingleSpaced
  rw [htext] at hs ⊢
  have hkeyword := hs.of_append_right
  have hrest : Text.SingleSpaced rest :=
    hkeyword.of_suffix ⟨"FROM".toList ++ ' ' :: name.text, by simp⟩
  have hjoin : Text.SingleSpaced join := hrest.of_append_right
  calc captures Keyword.standard
        ("SELECT [a ".toList ++ ("FROM".toList ++ ' ' :: (name.text ++ rest)))
      = capturesAfter standardPhrases (some ' ') ("FROM".toList ++ ' ' :: (name.text ++ rest)) :=
        capturesAfter_quiet_append isPhrase_standard hs (by decide +kernel) none
    _ = ⟨"FROM".toList, name, false⟩ ::
          capturesAfter standardPhrases name.text.getLast? (" c]".toList ++ join) :=
        captures_identifier (by decide) (by decide +kernel) (by simp [rest]) (by decide +kernel)
          hkeyword
    _ = _ := by
        rw [capturesAfter_quiet_append isPhrase_standard hrest (by decide +kernel),
          captures_from_join _ _ hjoin]

/-- A quoted name is not passed on untouched in three cases.  A keyword in it is taken for one, runs
of blanks in it are squeezed, and between brackets an apostrophe begins a literal. -/
theorem standardTables_not_verbatim :
    standardTables true QuotedQuery.keywordInColumn.text = .ok ["b", "d", "t"] ∧
      standardTables true QuotedQuery.spacesInTable.text = .ok ["b c", "t"] ∧
      standardTables true QuotedQuery.apostropheInColumn.text = .ok [] ∧
      ¬ ∀ filters (q : QuotedQuery),
        standardTables filters q.text = .ok [String.ofList q.table.body, "t"].eraseDups := by
  have hkeyword : standardTables true QuotedQuery.keywordInColumn.text = .ok ["b", "d", "t"] := by
    rw [standardTables_eq, QuotedQuery.captures_keywordInColumn]
    exact congrArg Except.ok (by decide +kernel)
  have hspaces : standardTables true QuotedQuery.spacesInTable.text = .ok ["b c", "t"] := by
    rw [standardTables_eq, QuotedQuery.captures_scrub_text (by decide +kernel) (by decide +kernel)
      (by decide +kernel), tableNames_capturesFromJoin]
    exact congrArg Except.ok (by decide +kernel)
  have happostrophe : standardTables true QuotedQuery.apostropheInColumn.text = .ok [] := by
    have hscrub : scrub QuotedQuery.apostropheInColumn.text = "SELECT [it".toList ++ [] := by
      decide +kernel
    have hs : Text.SingleSpaced (scrub QuotedQuery.apostropheInColumn.text) :=
      (Text.isCollapsed_collapse _).toSingleSpaced
    rw [hscrub] at hs
    rw [standardTables_eq, hscrub, captures,
      capturesAfter_quiet_append isPhrase_standard hs (by decide +kernel), capturesAfter]
    rfl
  refine ⟨hkeyword, hspaces, happostrophe, fun h => ?_⟩
  have hverbatim := hkeyword.symm.trans (h true QuotedQuery.keywordInColumn)
  exact absurd (Except.ok.inj hverbatim) (by decide +kernel)

end SqlTables
