import SqlTables.Extraction
import SqlTables.Proofs.Reading
import SqlTables.Proofs.Scrubbing

/-!
# The tables of a join query

A join query reads one table and joins others to it, each in any quoting and under any name.  The
way from its text to its tables has three parts: scrubbing leaves the text as it is
(`JoinQuery.scrub_text`), reading finds one capture for each table (`JoinQuery.captures_text`), and
the name of a capture is that of the table.
-/

set_option autoImplicit false

namespace SqlTables.Sql

open SqlTables.Text

/-! ## Join queries -/

/-- The keywords that join a table. -/
inductive JoinKind where
  | plain
  | inner
  | left
  | right
  | full
  | cross
  | outer
deriving DecidableEq, Repr

/-- The keyword of a join as it is written. -/
def JoinKind.keyword : JoinKind → String
  | plain => "JOIN"
  | inner => "INNER JOIN"
  | left => "LEFT JOIN"
  | right => "RIGHT JOIN"
  | full => "FULL JOIN"
  | cross => "CROSS JOIN"
  | outer => "OUTER JOIN"

/-- A table as a query refers to it: a tidy identifier. -/
structure Reference extends Identifier where
  wellFormed : toIdentifier.WellFormed
  tidy : toIdentifier.IsTidy

/-- The name of the table referred to: the bodies of the segments joined by dots. -/
def Reference.tableName (r : Reference) : String := String.ofList r.name

/-- One more table in a join query. -/
structure Join where
  kind : JoinKind
  table : Reference

/-- A join as written, with a space before it and a condition that always holds. -/
def Join.text (j : Join) : List Char :=
  ' ' :: (j.kind.keyword.toList ++ ' ' :: (j.table.text ++ " ON 1 = 1".toList))

/-- A query over one table and those joined to it. -/
structure JoinQuery where
  first : Reference
  joins : List Join

namespace JoinQuery

/-- The query as written. -/
def text (q : JoinQuery) : List Char :=
  "SELECT * ".toList ++ ("FROM".toList ++ ' ' :: (q.first.text ++ q.joins.flatMap Join.text))

theorem text_eq (q : JoinQuery) : q.text =
    "SELECT * ".toList ++ ("FROM".toList ++ ' ' :: (q.first.text ++ q.joins.flatMap Join.text)) :=
  rfl

/-- All tables of a query in the order in which they are written, with repeats. -/
def references (q : JoinQuery) : List Reference := q.first :: q.joins.map Join.table

end JoinQuery

/-! ## Scrubbing -/

theorem Join.stays_text (j : Join) (before : Option Char) : Stays before j.text := by
  have hkeyword : Stays before (' ' :: (j.kind.keyword.toList ++ [' '])) := by
    cases j.kind <;> exact stays_of_unmarked (by decide +kernel) (by decide) before
  -- all join keywords end in the same letter, which is no comparison
  have hlast : lastSolid before (' ' :: (j.kind.keyword.toList ++ [' '])) = some 'N' := by
    cases j.kind <;> rfl
  have htable : Stays (some 'N') j.table.text :=
    Identifier.stays_text j.table.wellFormed j.table.tidy rfl
  have hcondition (c : Option Char) : Stays c " ON 1 = 1".toList :=
    stays_of_unmarked (by decide +kernel) (by decide) c
  have hall := hkeyword.append (hlast.symm ▸ htable.append (hcondition _))
  simpa [text] using hall

theorem stays_joins (joins : List Join) (before : Option Char) :
    Stays before (joins.flatMap Join.text) := by
  induction joins generalizing before with
  | nil => exact stays_nil before
  | cons j joins ih => exact (j.stays_text before).append (ih _)

/-- A collapsed text stays so when joins are written behind it. -/
theorem isCollapsed_append_joins {s : List Char} (hs : IsCollapsed s) (hne : s ≠ [])
    (joins : List Join) : IsCollapsed (s ++ joins.flatMap Join.text) := by
  induction joins generalizing s with
  | nil => simpa using hs
  | cons j joins ih =>
    have hkeyword : IsCollapsed j.kind.keyword.toList := by
      cases j.kind <;> exact collapse_eq_self_iff.1 (by decide)
    have hkeywordne : j.kind.keyword.toList ≠ [] := by cases j.kind <;> simp [JoinKind.keyword]
    have hcondition : IsCollapsed "ON 1 = 1".toList := collapse_eq_self_iff.1 (by decide)
    have htable : IsCollapsed j.table.text :=
      Identifier.isCollapsed_text j.table.wellFormed j.table.tidy
    have hafter := htable.append_space hcondition (Identifier.text_ne_nil j.table.wellFormed)
      (by simp)
    have hjoin := hkeyword.append_space hafter hkeywordne (by simp)
    have hclause : IsCollapsed (s ++ j.text) := hs.append_space hjoin hne (by simp)
    have hrest := ih hclause (by simp [hne])
    rwa [List.append_assoc] at hrest

namespace JoinQuery

theorem stays_text (q : JoinQuery) : Stays none q.text := by
  have hlead : Stays none ("SELECT * ".toList ++ ("FROM".toList ++ [' '])) :=
    stays_of_unmarked (by decide +kernel) (by decide +kernel) none
  have hlast : lastSolid none ("SELECT * ".toList ++ ("FROM".toList ++ [' '])) = some 'M' := by
    decide +kernel
  have hfirst : Stays (some 'M') q.first.text :=
    Identifier.stays_text q.first.wellFormed q.first.tidy rfl
  have hall := hlead.append (hlast.symm ▸ hfirst.append (stays_joins q.joins _))
  rw [text_eq]
  simpa only [List.append_assoc, List.singleton_append] using hall

theorem isCollapsed_text (q : JoinQuery) : IsCollapsed q.text := by
  have hlead : IsCollapsed "SELECT * FROM".toList := collapse_eq_self_iff.1 (by decide +kernel)
  have hfirst : IsCollapsed q.first.text :=
    Identifier.isCollapsed_text q.first.wellFormed q.first.tidy
  have hsingle := hlead.append_space hfirst (by simp)
    (Identifier.text_ne_nil q.first.wellFormed)
  have hall := isCollapsed_append_joins hsingle (by simp) q.joins
  have hwords : "SELECT * FROM".toList = "SELECT * ".toList ++ "FROM".toList := by decide +kernel
  rw [hwords] at hall
  rw [text_eq]
  simpa only [List.append_assoc, List.cons_append] using hall

/-- Scrubbing does not change a join query. -/
theorem scrub_text (q : JoinQuery) : scrub q.text = q.text :=
  scrub_eq_self q.stays_text q.isCollapsed_text

end JoinQuery

/-! ## Reading -/

/-- The capture that a reference gives after a keyword. -/
def Reference.captureAfter (keyword : String) (r : Reference) : Capture :=
  ⟨keyword.toList, r.toIdentifier, false⟩

theorem isPhrase_standard : ∀ k ∈ Keyword.standard, IsPhrase k := fun k hk =>
  isPhrase_of_mem_normalize (by rwa [Keyword.normalize_standard])

/-- The standard keywords in the order in which they are tried. -/
abbrev standardPhrases : List (List (List Char)) :=
  (Keyword.byLength Keyword.standard).map Keyword.wordsOf

/-- No standard keyword is the first words of another. -/
theorem clashes_of_longer : ∀ k ∈ Keyword.standard, ∀ j ∈ Keyword.standard, k.length < j.length →
    clashes j.toList (k.toList ++ [' ']) = true := by
  decide +kernel

/-- After a space, a standard keyword gives one capture for the identifier behind it, if what
follows begins with a space and opens no parenthesis. -/
theorem captures_identifier {k : String} (hk : k ∈ Keyword.standard) {i : Identifier}
    (hi : i.WellFormed) {rest : List Char} (hrest : ∀ c ∈ rest.head?, isBlank c = true)
    (hopen : Capture.opensParenthesis rest = false)
    (hs : SingleSpaced (k.toList ++ ' ' :: (i.text ++ rest))) :
    capturesAfter standardPhrases (some ' ') (k.toList ++ ' ' :: (i.text ++ rest)) =
      ⟨k.toList, i, false⟩ :: capturesAfter standardPhrases i.text.getLast? rest := by
  have hchosen := Mention.chosen_of_clashes hk (clashes_of_longer k hk) hi
    (Identifier.endsBefore_of_blank i hrest)
  have htext : k.toList ++ ' ' :: (i.text ++ rest) =
      Mention.text ⟨k.toList, [' '], i⟩ ++ rest := by simp [Mention.text]
  rw [htext] at hs hchosen ⊢
  rw [capturesAfter_mention_append isPhrase_standard hs hchosen (by decide), Mention.capture, hopen]

/-- Behind a reference the joins begin with a space and a letter. -/
theorem joins_follow (joins : List Join) :
    (∀ c ∈ (joins.flatMap Join.text).head?, isBlank c = true) ∧
      Capture.opensParenthesis (joins.flatMap Join.text) = false := by
  cases joins with
  | nil => exact ⟨by simp, rfl⟩
  | cons j joins =>
    obtain ⟨c, s, hkeyword, hc, hne⟩ : ∃ c s, j.kind.keyword.toList = c :: s ∧
        isBlank c = false ∧ (c == '(') = false := by
      cases j.kind <;> exact ⟨_, _, rfl, by decide, by decide⟩
    rw [List.flatMap_cons, Join.text, hkeyword, List.cons_append, List.cons_append,
      List.cons_append, Capture.opensParenthesis_space_cons hc]
    exact ⟨by simp, hne⟩

/-- Each join gives one capture. -/
theorem captures_joins (joins : List Join) (before : Option Char)
    (hs : SingleSpaced (joins.flatMap Join.text)) :
    capturesAfter standardPhrases before (joins.flatMap Join.text) =
      joins.map fun j => j.table.captureAfter j.kind.keyword := by
  induction joins generalizing before with
  | nil =>
    rw [List.flatMap_nil, capturesAfter]
    rfl
  | cons j joins ih =>
    have hk : j.kind.keyword ∈ Keyword.standard := by cases j.kind <;> decide
    -- the space is quiet, then comes the keyword, and the condition behind the table is quiet
    let tail := " ON 1 = 1".toList ++ joins.flatMap Join.text
    have htext : (j :: joins).flatMap Join.text =
        [' '] ++ (j.kind.keyword.toList ++ ' ' :: (j.table.text ++ tail)) := by
      simp [Join.text, tail]
    rw [htext] at hs ⊢
    have hjoin : SingleSpaced (j.kind.keyword.toList ++ ' ' :: (j.table.text ++ tail)) :=
      hs.of_append_right
    have htail : SingleSpaced tail :=
      hjoin.of_suffix ⟨j.kind.keyword.toList ++ ' ' :: j.table.text, by simp⟩
    have hrest : SingleSpaced (joins.flatMap Join.text) :=
      htail.of_append_right
    calc capturesAfter standardPhrases before
          ([' '] ++ (j.kind.keyword.toList ++ ' ' :: (j.table.text ++ tail)))
        = capturesAfter standardPhrases (some ' ')
            (j.kind.keyword.toList ++ ' ' :: (j.table.text ++ tail)) :=
          capturesAfter_quiet_append isPhrase_standard hs (by decide +kernel) before
      _ = j.table.captureAfter j.kind.keyword ::
            capturesAfter standardPhrases j.table.text.getLast? tail :=
          captures_identifier hk j.table.wellFormed (by simp [tail]) rfl hjoin
      _ = j.table.captureAfter j.kind.keyword ::
            capturesAfter standardPhrases (some '1') (joins.flatMap Join.text) := by
          rw [capturesAfter_quiet_append isPhrase_standard htail (by decide +kernel)]
          rfl
      _ = _ := by rw [ih _ hrest, List.map_cons]

/-- Reading a join query finds one capture for each of its tables. -/
theorem JoinQuery.captures_text (q : JoinQuery) :
    captures Keyword.standard q.text =
      q.first.captureAfter "FROM" :: q.joins.map fun j => j.table.captureAfter j.kind.keyword := by
  have hs := q.isCollapsed_text.toSingleSpaced
  have hfrom : SingleSpaced
      ("FROM".toList ++ ' ' :: (q.first.text ++ q.joins.flatMap Join.text)) :=
    hs.of_append_right
  have hjoins : SingleSpaced (q.joins.flatMap Join.text) :=
    hfrom.of_suffix ⟨"FROM".toList ++ ' ' :: q.first.text, by simp⟩
  obtain ⟨hblank, hopen⟩ := joins_follow q.joins
  calc captures Keyword.standard q.text
      = capturesAfter standardPhrases (some ' ')
          ("FROM".toList ++ ' ' :: (q.first.text ++ q.joins.flatMap Join.text)) :=
        capturesAfter_quiet_append isPhrase_standard hs (by decide +kernel) none
    _ = q.first.captureAfter "FROM" ::
          capturesAfter standardPhrases q.first.text.getLast? (q.joins.flatMap Join.text) :=
        captures_identifier (by decide) q.first.wellFormed hblank hopen hfrom
    _ = _ := by rw [captures_joins q.joins _ hjoins]

end SqlTables.Sql

namespace SqlTables

open SqlTables.Sql

/-- The names in a join query are those of its tables, in order. -/
theorem namesIn_joinQuery (filters : Bool) (q : JoinQuery) :
    (⟨none, filters, Keyword.standard⟩ : Extractor).namesIn (String.ofList q.text) =
      q.references.map Reference.tableName := by
  rw [Extractor.namesIn, Extractor.capturesIn, String.toList_ofList, q.scrub_text, q.captures_text]
  have hcalls : ∀ (k : String) (r : Reference), (r.captureAfter k).isCall = false := fun _ _ => rfl
  rw [List.filter_eq_self.2 (by simp [hcalls])]
  simp [JoinQuery.references, Reference.captureAfter, Capture.name, Reference.tableName]

/-- Asked for with the standard options, the tables of a join query are those it refers to, each at
its first occurrence, whatever they are called. -/
theorem allTables_joinQuery (filters : Bool) (q : JoinQuery) :
    (({ filtersCtes := filters } : ExtractionOptions).build >>=
      (·.extractNoted (String.ofList q.text))).outcome.1.map Extraction.allTables =
      .ok (q.references.map Reference.tableName).eraseDups := by
  have hbuild : (({ filtersCtes := filters } : ExtractionOptions).build >>=
      (·.extractNoted (String.ofList q.text))).outcome.1.map Extraction.allTables =
      .ok ((⟨none, filters, Keyword.normalize Keyword.standard⟩ : Extractor).extract
        (String.ofList q.text)).allTables := rfl
  rw [hbuild, Keyword.normalize_standard, Extractor.allTables_extract, namesIn_joinQuery]
  congr 2
  exact List.map_id _

/-- A query over a table named like a keyword, twice, and one whose name looks like a comment. -/
def Sql.JoinQuery.namedLikeKeywords : JoinQuery where
  first := ⟨⟨.plain "FROM".toList, []⟩, by decide +kernel, by decide +kernel⟩
  joins := [
    ⟨.left, ⟨⟨.quoted .doubleQuotes "it's -- LEFT JOIN".toList,
      [.quoted .brackets "my table".toList]⟩, by decide +kernel, by decide +kernel⟩⟩,
    ⟨.cross, ⟨⟨.quoted .backticks "FROM".toList, []⟩, by decide +kernel, by decide +kernel⟩⟩]

theorem allTables_namedLikeKeywords :
    String.ofList JoinQuery.namedLikeKeywords.text =
      "SELECT * FROM FROM LEFT JOIN \"it's -- LEFT JOIN\".[my table] ON 1 = 1 " ++
        "CROSS JOIN `FROM` ON 1 = 1" ∧
    (({ filtersCtes := true } : ExtractionOptions).build >>=
      (·.extractNoted (String.ofList JoinQuery.namedLikeKeywords.text))).outcome.1.map
        Extraction.allTables = .ok ["FROM", "it's -- LEFT JOIN.my table"] := by
  refine ⟨by decide +kernel, (allTables_joinQuery true JoinQuery.namedLikeKeywords).trans ?_⟩
  exact congrArg Except.ok (by decide +kernel)

end SqlTables
