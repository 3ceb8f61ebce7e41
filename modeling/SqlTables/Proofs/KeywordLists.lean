import SqlTables.Proofs.FirstOccurrences
import SqlTables.Proofs.Phrases
import SqlTables.Sql.Preset

/-!
# Keyword lists in normal form

A list of phrases is brought into normal form wherever it passes on its way to the search: as a
preset, in a configuration and in the extractor.  The normal form holds each phrase that is not
blank, collapsed, at its first place (`Keyword.IsNormalForm`), and bringing a part of a list into
normal form beforehand makes no difference (`Keyword.normalize_normalize_append`).  So lists of
keywords may be extended in steps or at once.
-/

set_option autoImplicit false

namespace SqlTables

open Document (Value)

/-- A text or null, as a value. -/
def Document.Value.ofOption : Option String → Value
  | some s => .text s
  | none => .null

namespace Sql

namespace Keyword

/-- The phrases of a list in which some may be null, which stands for a blank one. -/
def given (phrases : List (Option String)) : List String := phrases.map (·.getD "")

/-- The keywords that a list of phrases gives, of which some may be null. -/
def normalForm (phrases : List (Option String)) : List String := normalize (given phrases)

/-- Null is read as a blank phrase. -/
theorem phrases_ofOption (phrases : List (Option String)) :
    Value.phrases (phrases.map Value.ofOption) = .ok (given phrases) := by
  induction phrases with
  | nil => rfl
  | cons phrase phrases ih =>
    have hphrase : (Value.ofOption phrase).phrase = .ok (phrase.getD "") := by
      cases phrase <;> rfl
    unfold Value.phrases at ih ⊢
    rw [List.map_cons, List.mapM_cons, hphrase, ih]
    rfl

theorem given_append (phrases more : List (Option String)) :
    given (phrases ++ more) = given phrases ++ given more := List.map_append

theorem given_map_some (phrases : List String) : given (phrases.map some) = phrases := by
  rw [given, List.map_map]
  exact List.map_id phrases

/-! ## What a normal form is -/

/-- The phrases of a list, collapsed. -/
def collapsedPhrases (phrases : List (Option String)) : List String :=
  (given phrases).map Text.collapsed

/-- The keywords that a list of phrases should give: the phrases that are not blank, collapsed and
each once, in the order in which they first occur. -/
structure IsNormalForm (phrases : List (Option String)) (keywords : List String) : Prop where
  mem_iff : ∀ k, k ∈ keywords ↔ k ∈ collapsedPhrases phrases ∧ k ≠ ""
  isPhrase : ∀ k ∈ keywords, IsPhrase k
  nodup : keywords.Nodup
  ordered : keywords.Pairwise fun j k =>
    (collapsedPhrases phrases).idxOf j < (collapsedPhrases phrases).idxOf k

theorem isNormalForm_normalForm (phrases : List (Option String)) :
    IsNormalForm phrases (normalForm phrases) where
  mem_iff k := by
    rw [normalForm, normalize, List.mem_eraseDups, List.mem_filter, decide_eq_true_iff]
    rfl
  isPhrase _ hk := isPhrase_of_mem_normalize hk
  nodup := nodup_eraseDups _
  ordered := by
    rw [normalForm, normalize, ← filter_eraseDups]
    exact (pairwise_idxOf_eraseDups _).filter _

/-- No other list is the normal form: its members and their order are given. -/
theorem isNormalForm_iff {phrases : List (Option String)} {keywords : List String} :
    IsNormalForm phrases keywords ↔ keywords = normalForm phrases := by
  constructor
  · intro h
    have hform := isNormalForm_normalForm phrases
    have hperm : keywords.Perm (normalForm phrases) :=
      (List.perm_ext_iff_of_nodup h.nodup hform.nodup).2 fun k =>
        (h.mem_iff k).trans (hform.mem_iff k).symm
    refine List.Perm.eq_of_pairwise (fun j k _ _ hjk hkj => ?_) h.ordered hform.ordered hperm
    omega
  · rintro rfl
    exact isNormalForm_normalForm phrases

/-! ## Normal forms of parts -/

/-- The phrases of a list that are not blank, collapsed, with their repeats. -/
def solidPhrases (phrases : List String) : List String :=
  (phrases.map Text.collapsed).filter (· ≠ "")

theorem solidPhrases_append (phrases more : List String) :
    solidPhrases (phrases ++ more) = solidPhrases phrases ++ solidPhrases more := by
  rw [solidPhrases, List.map_append, List.filter_append]
  rfl

/-- Phrases in normal form are left as they are. -/
theorem solidPhrases_eq_self {phrases : List String} (h : ∀ k ∈ phrases, IsPhrase k) :
    solidPhrases phrases = phrases := by
  have hcollapsed : phrases.map Text.collapsed = phrases := by
    refine (List.map_congr_left fun k hk => ?_).trans (List.map_id phrases)
    rw [Text.collapsed, Text.collapse_of_isCollapsed (h k hk).1, String.ofList_toList]
    rfl
  rw [solidPhrases, hcollapsed]
  exact List.filter_eq_self.2 fun k hk => decide_eq_true (h k hk).2

theorem normalize_append (phrases more : List String) :
    normalize (phrases ++ more) = (solidPhrases phrases ++ solidPhrases more).eraseDups := by
  rw [← solidPhrases_append]
  rfl

theorem solidPhrases_normalize (phrases : List String) :
    solidPhrases (normalize phrases) = normalize phrases :=
  solidPhrases_eq_self fun _ hk => isPhrase_of_mem_normalize hk

/-- The first part of a list may be brought into normal form before the whole is. -/
theorem normalize_normalize_append (phrases more : List String) :
    normalize (normalize phrases ++ more) = normalize (phrases ++ more) := by
  rw [normalize_append, solidPhrases_normalize, normalize_append,
    ← eraseDups_append_eraseDups (normalize phrases),
    ← eraseDups_append_eraseDups (solidPhrases phrases)]
  congr 2
  exact eraseDups_of_nodup (nodup_eraseDups _)

/-- So may the second. -/
theorem normalize_append_normalize (phrases more : List String) :
    normalize (phrases ++ normalize more) = normalize (phrases ++ more) := by
  rw [normalize_append, solidPhrases_normalize, normalize_append,
    ← eraseDups_append_eraseDups (solidPhrases phrases),
    ← eraseDups_append_eraseDups (solidPhrases phrases) (solidPhrases more)]
  congr 2
  exact eraseDups_of_nodup (nodup_eraseDups _)

/-- Phrases that are appended twice count once. -/
theorem normalize_append_append_self (phrases more : List String) :
    normalize (phrases ++ (more ++ more)) = normalize (phrases ++ more) := by
  rw [normalize_append, solidPhrases_append, ← List.append_assoc, normalize_append]
  exact eraseDups_append_of_subset (List.subset_append_right _ _)

end Keyword

/-! ## Extending sets of keywords -/

namespace KeywordSets

theorem extend_extend (sets : KeywordSets) (phrases more : List String) :
    (sets.extend phrases).extend more = sets.extend (phrases ++ more) := by
  simp only [extend, Keyword.normalize_normalize_append, List.append_assoc]

theorem extend_append_self (sets : KeywordSets) (phrases : List String) :
    sets.extend (phrases ++ phrases) = sets.extend phrases := by
  simp only [extend, Keyword.normalize_append_append_self]

end KeywordSets

/-- A list of phrases, in which some may be null, has one normal form: the phrases that are not
blank, collapsed and each once, in the order of their first occurrences.  A part of a list may be
brought into normal form before the whole is, so keyword sets may be extended by two lists one after
the other or at once, and by the same list twice as by the list once. -/
theorem keyword_lists_absorb :
    (∀ xs : List (Option String), Value.phrases (xs.map Value.ofOption) = .ok (Keyword.given xs) ∧
      ∀ keywords, Keyword.IsNormalForm xs keywords ↔
        keywords = Keyword.normalize (Keyword.given xs)) ∧
    (∀ xs ys : List (Option String),
      Keyword.normalForm ((Keyword.normalForm xs).map some ++ ys) = Keyword.normalForm (xs ++ ys) ∧
      Keyword.normalForm (xs ++ (Keyword.normalForm ys).map some) =
        Keyword.normalForm (xs ++ ys)) ∧
    ∀ (base : KeywordSets) (xs ys : List (Option String)),
      (base.extend (Keyword.given xs)).extend (Keyword.given ys) =
        base.extend (Keyword.given (xs ++ ys)) ∧
      (base.extend (Keyword.given xs)).extend (Keyword.given xs) =
        base.extend (Keyword.given xs) := by
  refine ⟨fun xs => ⟨Keyword.phrases_ofOption xs, fun keywords => Keyword.isNormalForm_iff⟩,
    fun xs ys => ⟨?_, ?_⟩, fun base xs ys => ⟨?_, ?_⟩⟩
  · simp only [Keyword.normalForm, Keyword.given_append, Keyword.given_map_some,
      Keyword.normalize_normalize_append]
  · simp only [Keyword.normalForm, Keyword.given_append, Keyword.given_map_some,
      Keyword.normalize_append_normalize]
  · rw [KeywordSets.extend_extend, Keyword.given_append]
  · rw [KeywordSets.extend_extend, KeywordSets.extend_append_self]

end Sql

end SqlTables
