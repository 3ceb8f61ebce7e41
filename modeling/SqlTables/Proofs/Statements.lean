import SqlTables.Extraction
import SqlTables.Proofs.FirstOccurrences
import SqlTables.Proofs.Formatting
import SqlTables.Proofs.Scrubbing
import SqlTables.Proofs.Walls

/-!
# Statements one after the other

Two texts with a semicolon between them, on a line of its own, are scrubbed and read apart if the
first one leaves nothing open: neither a lexeme, which would swallow the semicolon, nor a quoted
name.  So the tables of the whole are those of the first text and those of the second, each once.
-/

set_option autoImplicit false

namespace SqlTables.Sql

open SqlTables.Text Lexeme

/-- What is written between two statements. -/
def statementEnd : List Char := "\n;\n".toList

/-! ## Scrubbing -/

/-- No block comment, literal or double-quoted span goes on at the end of a text; a line comment
may. -/
def EndsClosed (a : List Char) : Prop :=
  ∀ l ∈ (cut a).getLast?, l.IsComplete ∨ ∃ s, l = lineComment s

/-- A text that is closed at its end is cut apart from the end of the statement. -/
theorem cut_append_statementEnd {a : List Char} (ha : EndsClosed a) (b : List Char) :
    cut (a ++ (statementEnd ++ b)) = cut a ++ (statementEnd.map other ++ cut b) := by
  have hend : cut (statementEnd ++ b) = statementEnd.map other ++ cut b :=
    cut_unmarked_append (by decide) (by decide) b
  rw [← hend]
  refine cut_append_of_isLexeme fun l hl => ?_
  rcases ha l hl with hcomplete | ⟨s, rfl⟩
  · refine hcomplete.isLexeme fun d hd => not_goesOn ?_ l
    obtain rfl : '\n' = d := by simpa [statementEnd] using hd
    decide
  · cases isLexeme_of_getLast? hl with
    | lineComment hbody _ => exact .lineComment hbody (by simp [statementEnd])

theorem lastSolid_eq_or (before : Option Char) (s : List Char) :
    lastSolid before s = (lastSolid none s).or before := by
  induction s using List.reverseRecOn with
  | nil => rfl
  | append_singleton s c ih =>
    rw [lastSolid_append, lastSolid_append, ih]
    by_cases hc : isBlank c = true <;> simp [lastSolid, hc]

/-- Of what was kept before, only whether it ended in a comparison matters. -/
theorem keep_congr {before before' : Option Char}
    (h : before.any isComparison = before'.any isComparison) (ls : List Lexeme) :
    keep before ls = keep before' ls := by
  induction ls generalizing before before' with
  | nil => rfl
  | cons l ls ih =>
    have hkept : l.kept before = l.kept before' := by
      cases l with
      | quoted s => simp only [Lexeme.kept, h]
      | _ => rfl
    have hlast : (lastSolid before (l.kept before')).any isComparison =
        (lastSolid before' (l.kept before')).any isComparison := by
      rw [lastSolid_eq_or before, lastSolid_eq_or before']
      cases lastSolid none (l.kept before') with
      | none => exact h
      | some c => rfl
    rw [keep, keep, hkept, ih hlast]

/-- The words of two statements are those of the first, the semicolon, and those of the second. -/
theorem words_keep_statements {a : List Char} (ha : EndsClosed a) (b : List Char) :
    words (keep none (cut (a ++ (statementEnd ++ b)))) =
      words (keep none (cut a)) ++ [';'] :: words (keep none (cut b)) := by
  have hlast (before : Option Char) : lastSolid before statementEnd = some ';' := rfl
  have hsecond : keep (some ';') (cut b) = keep none (cut b) := keep_congr (by decide) (cut b)
  have hkeep : keep none (cut (a ++ (statementEnd ++ b))) =
      keep none (cut a) ++ '\n' :: ([';'] ++ '\n' :: keep none (cut b)) := by
    rw [cut_append_statementEnd ha, keep_append, keep_append, keep_map_other, hlast, hsecond]
    rfl
  have hnewline : isBlank '\n' = true := by decide
  rw [hkeep, words_append_blank hnewline, words_append_blank hnewline]
  rfl

theorem unwords_append_cons {us : List (List Char)} (hus : us ≠ []) (v : List Char)
    (vs : List (List Char)) : unwords (us ++ v :: vs) = unwords us ++ ' ' :: unwords (v :: vs) := by
  fun_induction unwords us with
  | case1 => exact absurd rfl hus
  | case2 w => rfl
  | case3 w u us ih =>
    have ih := ih (by simp)
    simp only [List.cons_append] at ih ⊢
    rw [unwords, ih, List.append_assoc, List.cons_append]

theorem collapse_eq_nil_iff {s : List Char} : collapse s = [] ↔ words s = [] := by
  constructor
  · intro h
    cases hw : words s with
    | nil => rfl
    | cons w ws =>
      have hne : w ≠ [] := (solid_of_mem_words (s := s) (by simp [hw])).1
      rw [collapse, hw] at h
      exact absurd h (unwords_ne_nil hne ws)
  · intro h
    rw [collapse, h]
    rfl

/-- The scrubbed forms of two statements, with the semicolon between them and a space on each side
of it where there is something. -/
theorem scrub_statements {a : List Char} (ha : EndsClosed a) (b : List Char) :
    scrub (a ++ (statementEnd ++ b)) =
      scrub a ++ ((if scrub a = [] then [] else [' ']) ++
        ';' :: (if scrub b = [] then [] else ' ' :: scrub b)) := by
  have hwords := words_keep_statements ha b
  have htail : unwords ([';'] :: words (keep none (cut b))) =
      ';' :: (if scrub b = [] then [] else ' ' :: scrub b) := by
    have hempty : scrub b = [] ↔ words (keep none (cut b)) = [] := collapse_eq_nil_iff
    simp only [hempty]
    rw [scrub, collapse]
    cases words (keep none (cut b)) <;> rfl
  rw [scrub, collapse, hwords, ← htail]
  by_cases hnil : words (keep none (cut a)) = []
  · have hempty : scrub a = [] := collapse_eq_nil_iff.2 hnil
    rw [hnil, hempty]
    rfl
  · have hne : scrub a ≠ [] := collapse_eq_nil_iff.not.2 hnil
    rw [unwords_append_cons hnil, if_neg hne]
    rfl

/-! ## Captures -/

/-- Keywords without semicolons are made of plain words. -/
theorem isPlainWord_of_mem_phrases {keywords : List String} (hks : ∀ k ∈ keywords, IsPhrase k)
    (hsemicolon : ∀ k ∈ keywords, ';' ∉ k.toList) :
    ∀ p ∈ (Keyword.byLength keywords).map Keyword.wordsOf, ∀ w ∈ p, IsPlainWord w := by
  intro p hp w hw
  obtain ⟨k, hk, rfl⟩ := List.mem_map.1 hp
  have hk := List.mem_mergeSort.1 hk
  obtain ⟨hne, hsolid⟩ := solid_of_mem_words hw
  refine ⟨hne, hsolid, fun hmem => hsemicolon k hk ?_⟩
  rw [← (hks k hk).unwords_wordsOf]
  exact mem_unwords hw hmem

/-- Of the character before a text, only whether a keyword may begin after it matters. -/
theorem capturesAfter_congr {before before' : Option Char}
    (h : Capture.isBoundary before = Capture.isBoundary before')
    (phrases : List (List (List Char))) (s : List Char) :
    capturesAfter phrases before s = capturesAfter phrases before' s := by
  cases s with
  | nil => rw [capturesAfter, capturesAfter]
  | cons c s => rw [capturesAfter, capturesAfter, h]

/-- A space at the head of a text is passed over. -/
theorem capturesAfter_space_cons {keywords : List String} (hks : ∀ k ∈ keywords, IsPhrase k)
    {s : List Char} (hs : IsCollapsed s) {before : Option Char} :
    capturesAfter ((Keyword.byLength keywords).map Keyword.wordsOf) before (' ' :: s) =
      captures keywords s := by
  have hspace : SingleSpaced [' '] := ⟨by simp, by simp⟩
  have hquiet : isQuiet keywords [' '] = true := by
    simp only [isQuiet, Bool.and_true, List.all_eq_true]
    intro k hk
    obtain ⟨a, t, ht⟩ := List.exists_cons_of_ne_nil (hks k hk).toList_ne_nil
    have ha : isBlank a = false := (hks k hk).1.head_solid a (by simp [ht])
    have hclash : sameLetter a ' ' = false := by
      by_contra h
      have hsame : sameLetter a ' ' = true := by simpa using h
      rw [eq_of_sameLetter_blank hsame isBlank_space] at ha
      exact absurd ha (by simp)
    simp [ht, clashes, hclash]
  have hboundary : Capture.isBoundary (some ' ') = Capture.isBoundary none := by decide
  have hpass := capturesAfter_quiet_append hks
    (hspace.append hs.toSingleSpaced (.inr hs.head_solid)) hquiet before
  exact hpass.trans (capturesAfter_congr hboundary _ s)

/-- The captures of two statements are those of the first and those of the second. -/
theorem captures_statements {keywords : List String} (hks : ∀ k ∈ keywords, IsPhrase k)
    (hsemicolon : ∀ k ∈ keywords, ';' ∉ k.toList) {a : List Char} (ha : EndsClosed a)
    (hplain : Unquoted (scrub a)) (b : List Char) :
    captures keywords (scrub (a ++ (statementEnd ++ b))) =
      captures keywords (scrub a) ++ captures keywords (scrub b) := by
  have hgap : IsGap (if scrub a = [] then [] else [' ']) := by
    split <;> simp [IsGap]
  rw [scrub_statements ha, captures, capturesAfter_append_wall
    (isPlainWord_of_mem_phrases hks hsemicolon) hplain hgap]
  congr 1
  split
  · rename_i hb
    rw [hb, captures, capturesAfter, capturesAfter]
  · exact capturesAfter_space_cons hks (isCollapsed_collapse _)

end SqlTables.Sql

namespace SqlTables

open SqlTables.Sql

/-- What is found in one text and then in another, each name once. -/
def Extraction.followedBy (e f : Extraction) : Extraction where
  allTables := (e.allTables ++ f.allTables).eraseDups
  realTables := (e.realTables ++ f.realTables).eraseDups
  ctes := (e.ctes ++ f.ctes).eraseDups

namespace Extractor

/-- If the names of a text are those of one and then of another, so are all its lists. -/
theorem extract_of_namesIn_append (x : Extractor) {sql s t : String}
    (h : x.namesIn sql = x.namesIn s ++ x.namesIn t) :
    x.extract sql = (x.extract s).followedBy (x.extract t) := by
  have hall : ((x.namesIn sql).map x.resolve).eraseDups =
      (((x.namesIn s).map x.resolve).eraseDups ++
        ((x.namesIn t).map x.resolve).eraseDups).eraseDups := by
    rw [h, List.map_append, eraseDups_append_eraseDups]
  unfold extract Extraction.followedBy
  rw [hall]
  split
  · simp only [filter_eraseDups, List.filter_append]
  · simp

/-- Behind a text that leaves nothing open, a semicolon on a line of its own separates what follows.
The scrubbed forms of the two texts are joined by the semicolon with single spaces, empty ones left
out; and for an extractor whose keywords hold no semicolon, each list of the whole is that of the
first text followed by that of the second, each name at its first occurrence. -/
theorem extract_statements (catalog : Option Catalog) (filters : Bool) (phrases : List String)
    (hsemicolon : ∀ k ∈ Keyword.normalize phrases, ';' ∉ k.toList) {a : List Char}
    (ha : EndsClosed a) (hplain : ∀ c ∈ scrub a, c ∉ ['[', '"', '`']) (b : List Char) :
    let x : Extractor := ⟨catalog, filters, Keyword.normalize phrases⟩
    let whole := a ++ statementEnd ++ b
    scrub whole = [' '].intercalate ([scrub a, [';'], scrub b].filter (!·.isEmpty)) ∧
      x.extract (String.ofList whole) =
        (x.extract (String.ofList a)).followedBy (x.extract (String.ofList b)) := by
  intro x whole
  have hwhole : whole = a ++ (statementEnd ++ b) := List.append_assoc _ _ _
  rw [hwhole]
  constructor
  · rw [scrub_statements ha]
    by_cases hempty : scrub a = [] <;> by_cases hbempty : scrub b = [] <;>
      simp [hempty, hbempty]
  · have hks : ∀ k ∈ Keyword.normalize phrases, IsPhrase k := fun _ => isPhrase_of_mem_normalize
    have hunquoted : Unquoted (scrub a) := fun c hc => by
      have := hplain c hc
      simp only [List.mem_cons, List.not_mem_nil, or_false, not_or] at this
      simp [Quoting.ofOpening?, this]
    refine x.extract_of_namesIn_append ?_
    simp only [namesIn, capturesIn, String.toList_ofList,
      captures_statements hks hsemicolon ha hunquoted b, List.filter_append, List.map_append, x]

/-- A semicolon in a literal or a quoted name does not matter, nor does a keyword in a comment that
goes on to the end of the first text. -/
theorem extract_statements_literal_comment :
    let x : Extractor := ⟨none, false, Keyword.normalize ["from"]⟩
    let a := "SELECT ';' FROM t -- FROM u".toList
    let b := "SELECT * FROM \"v;w\"".toList
    (∀ k ∈ Keyword.normalize ["from"], ';' ∉ k.toList) ∧ EndsClosed a ∧
      (∀ c ∈ scrub a, c ∉ ['[', '"', '`']) ∧
      scrub (a ++ statementEnd ++ b) = "SELECT FROM t ; SELECT * FROM \"v;w\"".toList ∧
      (x.extract (String.ofList (a ++ statementEnd ++ b))).allTables = ["t", "v;w"] := by
  intro x a b
  have hsemicolon : ∀ k ∈ Keyword.normalize ["from"], ';' ∉ k.toList := by decide +kernel
  have hlast : (Lexeme.cut a).getLast? = some (.lineComment "-- FROM u".toList) := by
    decide +kernel
  have ha : EndsClosed a := fun l hl => by
    rw [hlast] at hl
    cases hl
    exact .inr ⟨_, rfl⟩
  have hplain : ∀ c ∈ scrub a, c ∉ ['[', '"', '`'] := fun c hc => by
    have hall : (scrub a).all (fun c => !(['[', '"', '`'].contains c)) = true := by decide +kernel
    simpa using List.all_eq_true.1 hall c hc
  obtain ⟨hscrub, hextract⟩ := extract_statements none false ["from"] hsemicolon ha hplain b
  refine ⟨hsemicolon, ha, hplain, hscrub.trans (by decide +kernel), ?_⟩
  rw [hextract]
  decide +kernel

end Extractor

end SqlTables
