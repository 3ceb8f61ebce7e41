import SqlTables.Extraction
import SqlTables.Proofs.Phrases

/-!
# The greedy selection of captures

A mention is a keyword, a gap and an identifier.  Where mentions may begin and which one is chosen
there is said of positions in the text, without the reader: `IsSelection` lists the conditions under
which a list of sites is the greedy selection from a position on.  There is exactly one such list
(`IsSelection.unique`), and reading the captures of a text finds it (`exists_selection`).
-/

set_option autoImplicit false

namespace SqlTables.Sql

open SqlTables.Text

/-- A keyword with a table name after it, as written. -/
structure Mention where
  keyword : List Char
  gap : List Char
  identifier : Identifier

namespace Mention

/-- The characters of a mention. -/
def text (x : Mention) : List Char := x.keyword ++ x.gap ++ x.identifier.text

/-- The mention is of the keyword `k`, whatever the case of its letters, and is well formed. -/
structure Spells (k : String) (x : Mention) : Prop where
  same : SameText k.toList x.keyword
  gap_ne_nil : x.gap ≠ []
  gap_blank : IsGap x.gap
  wellFormed : x.identifier.WellFormed

/-- Among the mentions of `keywords` at the head of `s`, this one has the longest keyword, and its
identifier does not go on. -/
structure Chosen (keywords : List String) (s : List Char) (x : Mention) : Prop where
  spells : ∃ k ∈ keywords, x.Spells k
  stands : x.text <+: s
  longest : ∀ k ∈ keywords, ∀ y : Mention, y.Spells k → y.text <+: s →
    y.keyword.length ≤ x.keyword.length
  ends : x.identifier.EndsBefore (s.drop x.text.length)

/-- A mention as a capture, when `rest` follows it. -/
def capture (rest : List Char) (x : Mention) : Capture :=
  ⟨x.keyword, x.identifier, Capture.opensParenthesis rest⟩

theorem Spells.text_ne_nil {k : String} {x : Mention} (h : x.Spells k) : x.text ≠ [] := by
  simp [text, h.gap_ne_nil]

theorem keyword_isPrefix {x : Mention} {s : List Char} (h : x.text <+: s) : x.keyword <+: s := by
  refine List.IsPrefix.trans ⟨x.gap ++ x.identifier.text, ?_⟩ h
  rw [text, List.append_assoc]

/-- After the identifier of a mention at the head of a text, the blanks before it are the gap. -/
theorem Spells.head_solid {k : String} {x : Mention} (h : x.Spells k) (rest : List Char) :
    ∀ c ∈ (x.identifier.text ++ rest).head?, isBlank c = false := by
  have hhead := Identifier.head_text_solid h.wellFormed
  obtain ⟨c, t, ht⟩ := List.exists_cons_of_ne_nil (Identifier.text_ne_nil h.wellFormed)
  rw [ht] at hhead ⊢
  simpa using hhead

theorem Chosen.exists_rest {keywords : List String} {s : List Char} {x : Mention}
    (h : x.Chosen keywords s) : ∃ rest, x.text ++ rest = s ∧ x.identifier.EndsBefore rest :=
  ⟨s.drop x.text.length, List.prefix_iff_eq_append.1 h.stands, h.ends⟩

/-- At most one mention is chosen at one place. -/
theorem Chosen.unique {keywords : List String} {s : List Char} {x y : Mention}
    (hx : x.Chosen keywords s) (hy : y.Chosen keywords s) : x = y := by
  obtain ⟨k, hk, hxk⟩ := hx.spells
  obtain ⟨j, hj, hyj⟩ := hy.spells
  obtain ⟨xrest, hxs, hxend⟩ := hx.exists_rest
  obtain ⟨yrest, hys, hyend⟩ := hy.exists_rest
  have hkeyword : x.keyword = y.keyword := by
    have hle := hx.longest j hj y hyj hy.stands
    have hge := hy.longest k hk x hxk hx.stands
    have hpre := List.prefix_of_prefix_length_le (keyword_isPrefix hx.stands)
      (keyword_isPrefix hy.stands) hge
    exact hpre.eq_of_length (by omega)
  have hafter : x.gap ++ (x.identifier.text ++ xrest) = y.gap ++ (y.identifier.text ++ yrest) := by
    have := hxs.trans hys.symm
    simpa only [text, List.append_assoc, hkeyword, List.append_cancel_left_eq] using this
  have hgap : x.gap = y.gap := by
    rw [← takeWhile_run_append hxk.gap_blank (hxk.head_solid xrest), hafter,
      takeWhile_run_append hyj.gap_blank (hyj.head_solid yrest)]
  have hidentifier : x.identifier = y.identifier := by
    rw [hgap, List.append_cancel_left_eq] at hafter
    have htake := Identifier.take?_text_append hxk.wellFormed hxend
    rw [hafter, Identifier.take?_text_append hyj.wellFormed hyend] at htake
    exact (Prod.mk.inj (Option.some.inj htake)).1.symm
  cases x
  cases y
  simp_all

end Mention

/-! ## Reading a mention -/

namespace Capture

variable {k : String} {s rest : List Char} {c : Capture}

/-- What reading a capture for one keyword finds at the head of a text. -/
theorem withPhrase?_eq_some_iff (hk : IsPhrase k) (hs : SingleSpaced s) :
    withPhrase? (Keyword.wordsOf k) s = some (c, rest) ↔
      ∃ x : Mention, x.Spells k ∧ x.identifier.EndsBefore rest ∧ x.text ++ rest = s ∧
        c = x.capture rest := by
  simp only [withPhrase?, bind, Option.bind_eq_some_iff, Prod.exists, pure, Option.some.injEq,
    Prod.mk.injEq]
  constructor
  · rintro ⟨m, s₁, h₁, gap, s₂, h₂, i, s₃, h₃, rfl, rfl⟩
    obtain ⟨hm, rfl⟩ := (takePhrase_wordsOf_iff hk hs).1 h₁
    obtain ⟨hne, hgap, rfl, _⟩ := takeGap_eq_some_iff.1 h₂
    obtain ⟨hi, rfl, hend⟩ := Identifier.take?_eq_some_iff.1 h₃
    exact ⟨⟨m, gap, i⟩, ⟨hm, hne, hgap, hi⟩, hend, by simp [Mention.text], rfl⟩
  · rintro ⟨x, hx, hend, rfl, rfl⟩
    have hword : takePhrase (Keyword.wordsOf k) (x.text ++ rest) =
        some (x.keyword, x.gap ++ (x.identifier.text ++ rest)) :=
      (takePhrase_wordsOf_iff hk hs).2 ⟨hx.same, by simp [Mention.text]⟩
    have hgap : takeGap (x.gap ++ (x.identifier.text ++ rest)) =
        some (x.gap, x.identifier.text ++ rest) :=
      takeGap_eq_some_iff.2 ⟨hx.gap_ne_nil, hx.gap_blank, rfl, hx.head_solid rest⟩
    exact ⟨_, _, hword, _, _, hgap, _, _, Identifier.take?_text_append hx.wellFormed hend, rfl, rfl⟩

/-- A capture for one keyword is read wherever a mention of it stands, though perhaps with a
longer identifier. -/
theorem withPhrase?_isSome_iff (hk : IsPhrase k) (hs : SingleSpaced s) :
    (withPhrase? (Keyword.wordsOf k) s).isSome = true ↔
      ∃ x : Mention, x.Spells k ∧ x.text <+: s := by
  constructor
  · intro h
    obtain ⟨⟨c, rest⟩, hc⟩ := Option.isSome_iff_exists.1 h
    obtain ⟨x, hx, _, heq, _⟩ := (withPhrase?_eq_some_iff hk hs).1 hc
    exact ⟨x, hx, rest, heq⟩
  · rintro ⟨x, hx, left, rfl⟩
    obtain ⟨⟨i, rest⟩, hi⟩ := Option.isSome_iff_exists.1
      (Identifier.take?_isSome hx.wellFormed left)
    obtain ⟨hw, htext, hend⟩ := Identifier.take?_eq_some_iff.1 hi
    have hread := (withPhrase?_eq_some_iff (c := Mention.capture rest ⟨x.keyword, x.gap, i⟩)
      hk hs).2 ⟨⟨x.keyword, x.gap, i⟩, ⟨hx.same, hx.gap_ne_nil, hx.gap_blank, hw⟩, hend,
        by simp [Mention.text, htext], rfl⟩
    rw [hread]
    rfl

variable {keywords : List String}

/-- Nothing is read where no mention stands. -/
theorem take?_eq_none_iff (hks : ∀ k ∈ keywords, IsPhrase k) (hs : SingleSpaced s) :
    take? ((Keyword.byLength keywords).map Keyword.wordsOf) s = none ↔
      ∀ k ∈ keywords, ∀ x : Mention, x.Spells k → ¬ x.text <+: s := by
  rw [take?, List.findSome?_map, List.findSome?_eq_none_iff]
  constructor
  · intro h k hk x hx hstands
    have := (withPhrase?_isSome_iff (hks k hk) hs).2 ⟨x, hx, hstands⟩
    rw [show withPhrase? (Keyword.wordsOf k) s = none from h k (List.mem_mergeSort.2 hk)] at this
    exact absurd this (by simp)
  · intro h k hk
    have hk := List.mem_mergeSort.1 hk
    by_contra hne
    obtain ⟨x, hx, hstands⟩ := (withPhrase?_isSome_iff (hks k hk) hs).1
      (Option.isSome_iff_ne_none.2 hne)
    exact h k hk x hx hstands

/-- What is read is the mention that is chosen. -/
theorem exists_chosen_of_take? (hks : ∀ k ∈ keywords, IsPhrase k) (hs : SingleSpaced s)
    (h : take? ((Keyword.byLength keywords).map Keyword.wordsOf) s = some (c, rest)) :
    ∃ x : Mention, x.Chosen keywords s ∧ x.text ++ rest = s ∧ c = x.capture rest := by
  rw [take?, List.findSome?_map, List.findSome?_eq_some_iff] at h
  obtain ⟨before, k, after, hsplit, hk, hbefore⟩ := h
  have hmem : ∀ j, j ∈ before ++ k :: after ↔ j ∈ keywords := fun j => by
    rw [← hsplit]
    exact List.mem_mergeSort
  have hkey := (hmem k).1 (by simp)
  obtain ⟨x, hx, hend, heq, rfl⟩ := (withPhrase?_eq_some_iff (hks k hkey) hs).1 hk
  have hstands : x.text <+: s := ⟨rest, heq⟩
  refine ⟨x, ⟨⟨k, hkey, hx⟩, hstands, ?_, ?_⟩, heq, rfl⟩
  · intro j hj y hy hys
    -- a keyword that was tried before `k` did not fit, one tried after it is not longer
    have hsome := (withPhrase?_isSome_iff (hks j hj) hs).2 ⟨y, hy, hys⟩
    have hnot : j ∉ before := fun hjb => by
      rw [show withPhrase? (Keyword.wordsOf j) s = none from hbefore j hjb] at hsome
      exact absurd hsome (by simp)
    rcases List.mem_append.1 ((hmem j).2 hj) with hjb | hja
    · exact absurd hjb hnot
    · have hle : Keyword.precedes k j = true := by
        have hsorted := pairwise_byLength keywords
        rw [hsplit] at hsorted
        rcases List.mem_cons.1 hja with rfl | hja
        · simp [Keyword.precedes]
        · exact (List.pairwise_cons.1 (List.pairwise_append.1 hsorted).2.1).1 j hja
      exact length_le_of_precedes (hks k hkey) (hks j hj) hle hx.same hy.same
        (Mention.keyword_isPrefix hstands) (Mention.keyword_isPrefix hys)
  · rw [← heq, List.drop_left]
    exact hend

end Capture

/-! ## Selections -/

/-- A mention with the position where it begins. -/
structure Site extends Mention where
  start : Nat

namespace Site

/-- The position after a site. -/
def stop (x : Site) : Nat := x.start + x.text.length

/-- A site of a text as a capture. -/
def captureIn (text : List Char) (x : Site) : Capture := x.toMention.capture (text.drop x.stop)

end Site

/-- A mention may begin at position `p`: no name character stands before it, and one of the
keywords is followed there by a gap and an identifier. -/
def MayBegin (keywords : List String) (text : List Char) (p : Nat) : Prop :=
  (∀ c ∈ (text.take p).getLast?, isNameChar c = false) ∧
    ∃ k ∈ keywords, ∃ x : Mention, x.Spells k ∧ x.text <+: text.drop p

/-- The greedy selection of sites in a text from position `n` on.  The sites follow one another
without overlap; one begins wherever a mention may begin and no earlier site goes on; and each is
the mention that is chosen at its place. -/
structure IsSelection (keywords : List String) (text : List Char) (n : Nat)
    (sites : List Site) : Prop where
  from_start : ∀ x ∈ sites, n ≤ x.start
  apart : sites.Pairwise fun x y => x.stop ≤ y.start
  begins_iff : ∀ p, n ≤ p → ((∃ x ∈ sites, x.start = p) ↔
    (∀ x ∈ sites, ¬ (x.start < p ∧ p < x.stop)) ∧ MayBegin keywords text p)
  chosen : ∀ x ∈ sites, x.toMention.Chosen keywords (text.drop x.start)

namespace IsSelection

variable {keywords : List String} {text : List Char} {n : Nat} {sites : List Site}

/-- Nothing begins at the end of a text. -/
theorem nil (hn : text.length ≤ n) : IsSelection keywords text n [] where
  from_start := by simp
  apart := by simp
  begins_iff p hp := by
    simp only [List.not_mem_nil, false_and, exists_false, false_iff, not_and, MayBegin]
    rintro _ _ ⟨k, _, x, hx, hstands⟩
    rw [List.drop_eq_nil_of_le (by omega)] at hstands
    exact hx.text_ne_nil (List.prefix_nil.1 hstands)
  chosen := by simp

/-- Where no mention may begin the selection starts one position later. -/
theorem skip (hno : ¬ MayBegin keywords text n) (h : IsSelection keywords text (n + 1) sites) :
    IsSelection keywords text n sites where
  from_start x hx := Nat.le_of_succ_le (h.from_start x hx)
  apart := h.apart
  begins_iff p hp := by
    rcases Nat.eq_or_lt_of_le hp with rfl | hp
    · refine iff_of_false ?_ fun hp => hno hp.2
      rintro ⟨x, hx, rfl⟩
      exact absurd (h.from_start x hx) (by omega)
    · exact h.begins_iff p hp
  chosen := h.chosen

/-- A mention that may begin and is chosen comes first; the selection goes on behind it. -/
theorem cons {x : Site} (hbegin : MayBegin keywords text x.start)
    (hx : x.toMention.Chosen keywords (text.drop x.start))
    (h : IsSelection keywords text x.stop sites) :
    IsSelection keywords text x.start (x :: sites) where
  from_start y hy := by
    rcases List.mem_cons.1 hy with rfl | hy
    · exact Nat.le_refl _
    · have := h.from_start y hy
      simp only [Site.stop] at this
      omega
  apart := List.pairwise_cons.2 ⟨h.from_start, h.apart⟩
  begins_iff p hp := by
    have hlt : x.start < x.stop := by
      obtain ⟨k, _, hk⟩ := hx.spells
      have := List.length_pos_iff.2 hk.text_ne_nil
      simp only [Site.stop]
      omega
    rcases Nat.eq_or_lt_of_le hp with rfl | hp
    · refine iff_of_true ⟨x, by simp, rfl⟩ ⟨?_, hbegin⟩
      intro y hy
      rcases List.mem_cons.1 hy with rfl | hy
      · omega
      · have := h.from_start y hy
        omega
    · by_cases hin : p < x.stop
      · -- inside the first site nothing begins
        refine iff_of_false ?_ fun hall => hall.1 x (by simp) ⟨hp, hin⟩
        rintro ⟨y, hy, rfl⟩
        rcases List.mem_cons.1 hy with rfl | hy
        · omega
        · have := h.from_start y hy
          omega
      · have hrest := h.begins_iff p (by omega)
        have hne : x.start ≠ p := by omega
        simp only [List.exists_mem_cons_iff, hne, false_or, List.forall_mem_cons, hin, and_false,
          not_false_eq_true, true_and]
        exact hrest
  chosen := List.forall_mem_cons.2 ⟨hx, h.chosen⟩

/-- A selection puts its sites in strictly increasing order. -/
theorem pairwise_start_lt (h : IsSelection keywords text n sites) :
    sites.Pairwise fun x y => x.start < y.start := by
  refine h.apart.imp_of_mem ?_
  intro x y hx _ hle
  obtain ⟨k, _, hk⟩ := (h.chosen x hx).spells
  have := List.length_pos_iff.2 hk.text_ne_nil
  simp only [Site.stop] at hle
  omega

variable {other : List Site}

/-- A site of one selection belongs to the other if they agree on the sites before it. -/
theorem mem_of_agree (h : IsSelection keywords text n sites)
    (h' : IsSelection keywords text n other) {x : Site} (hx : x ∈ sites)
    (hbefore : ∀ y ∈ other, y.start < x.start → y ∈ sites) : x ∈ other := by
  have hn := h.from_start x hx
  obtain ⟨hfree, hbegin⟩ := (h.begins_iff x.start hn).1 ⟨x, hx, rfl⟩
  have hfree' : ∀ y ∈ other, ¬ (y.start < x.start ∧ x.start < y.stop) := fun y hy hin =>
    hfree y (hbefore y hy hin.1) hin
  obtain ⟨y, hy, hstart⟩ := (h'.begins_iff x.start hn).2 ⟨hfree', hbegin⟩
  have hchosen := h'.chosen y hy
  rw [hstart] at hchosen
  have hmention := hchosen.unique (h.chosen x hx)
  obtain rfl : y = x := by
    cases x
    cases y
    simp_all
  exact hy

/-- Two selections have the same sites. -/
theorem mem_iff (h : IsSelection keywords text n sites) (h' : IsSelection keywords text n other)
    (x : Site) : x ∈ sites ↔ x ∈ other := by
  -- from left to right: what was selected before a position decides whether one begins there
  induction hp : x.start using Nat.strong_induction_on generalizing x with
  | h p ih =>
    constructor
    · intro hx
      exact h.mem_of_agree h' hx fun y hy hlt => (ih y.start (hp ▸ hlt) y rfl).2 hy
    · intro hx
      exact h'.mem_of_agree h hx fun y hy hlt => (ih y.start (hp ▸ hlt) y rfl).1 hy

/-- There is at most one greedy selection. -/
theorem unique (h : IsSelection keywords text n sites)
    (h' : IsSelection keywords text n other) : sites = other := by
  have hlt := h.pairwise_start_lt
  have hlt' := h'.pairwise_start_lt
  have hnodup : sites.Nodup := hlt.imp fun hxy heq => by rw [heq] at hxy; omega
  have hnodup' : other.Nodup := hlt'.imp fun hxy heq => by rw [heq] at hxy; omega
  refine List.Perm.eq_of_pairwise ?_ hlt hlt'
    ((List.perm_ext_iff_of_nodup hnodup hnodup').2 (h.mem_iff h'))
  intro x y _ _ hxy hyx
  omega

end IsSelection

/-! ## Reading finds the selection -/

theorem isBoundary_iff {before : Option Char} :
    Capture.isBoundary before = true ↔ ∀ c ∈ before, isNameChar c = false := by
  cases before <;> simp [Capture.isBoundary]

theorem getLast?_take_stop {keywords : List String} {text : List Char} {x : Site}
    (h : x.toMention.Chosen keywords (text.drop x.start)) :
    (text.take x.stop).getLast? = x.identifier.text.getLast? := by
  obtain ⟨k, _, hk⟩ := h.spells
  have htext : (text.drop x.start).take x.text.length = x.text :=
    (List.prefix_iff_eq_take.1 h.stands).symm
  rw [Site.stop, List.take_add, htext, Mention.text, ← List.append_assoc,
    List.getLast?_append_of_ne_nil _ (Identifier.text_ne_nil hk.wellFormed)]

theorem getLast?_take_succ {text rest : List Char} {n : Nat} {c : Char}
    (h : text.drop n = c :: rest) :
    (text.take (n + 1)).getLast? = some c ∧ text.drop (n + 1) = rest := by
  constructor
  · rw [List.take_add, h]
    simp
  · rw [← List.drop_drop, h]
    rfl

/-- Reading the captures of a text from a position on finds a greedy selection. -/
theorem exists_selection {keywords : List String} {text : List Char}
    (hks : ∀ k ∈ keywords, IsPhrase k) (htext : SingleSpaced text) (n : Nat) :
    ∃ sites, IsSelection keywords text n sites ∧
      capturesAfter ((Keyword.byLength keywords).map Keyword.wordsOf) (text.take n).getLast?
        (text.drop n) = sites.map (Site.captureIn text) := by
  have hs (p : Nat) : SingleSpaced (text.drop p) := htext.of_suffix (List.drop_suffix p text)
  generalize hbefore : (text.take n).getLast? = before
  generalize hrest : text.drop n = s
  fun_induction capturesAfter ((Keyword.byLength keywords).map Keyword.wordsOf) before s
    generalizing n with
  | case1 before => exact ⟨[], .nil (List.drop_eq_nil_iff.1 hrest), rfl⟩
  | case2 before c rest hfree capture left hread ih =>
    obtain ⟨x, hx, heq, rfl⟩ := Capture.exists_chosen_of_take? hks (hrest ▸ hs n) hread
    rw [← hrest] at hx heq
    let y : Site := ⟨x, n⟩
    have hleft : text.drop y.stop = left := by
      rw [Site.stop, ← List.drop_drop, ← heq, List.drop_left]
    obtain ⟨sites, hsel, hcaptures⟩ := ih y.stop (getLast?_take_stop (x := y) hx) hleft
    have hbegin : MayBegin keywords text n := by
      obtain ⟨k, hk, hxk⟩ := hx.spells
      exact ⟨hbefore ▸ isBoundary_iff.1 hfree, k, hk, x, hxk, hx.stands⟩
    refine ⟨y :: sites, .cons hbegin hx hsel, ?_⟩
    rw [hcaptures, List.map_cons, Site.captureIn, hleft]
  | case3 before c rest hfree hread ih =>
    obtain ⟨hlast, hdrop⟩ := getLast?_take_succ hrest
    obtain ⟨sites, hsel, hcaptures⟩ := ih (n + 1) hlast hdrop
    refine ⟨sites, .skip ?_ hsel, hcaptures⟩
    rintro ⟨_, k, hk, x, hx, hstands⟩
    exact (Capture.take?_eq_none_iff hks (hrest ▸ hs n)).1 hread k hk x hx (hrest ▸ hstands)
  | case4 before c rest hfree ih =>
    obtain ⟨hlast, hdrop⟩ := getLast?_take_succ hrest
    obtain ⟨sites, hsel, hcaptures⟩ := ih (n + 1) hlast hdrop
    refine ⟨sites, .skip ?_ hsel, hcaptures⟩
    rintro ⟨hbegin, _⟩
    exact hfree (isBoundary_iff.2 (hbefore ▸ hbegin))

end SqlTables.Sql

namespace SqlTables

open SqlTables.Sql

/-- The name a site stands for is its identifier without quotes. -/
theorem Sql.IsSelection.name_captureIn {keywords : List String} {text : List Char} {n : Nat}
    {sites : List Site} (h : IsSelection keywords text n sites) {x : Site} (hx : x ∈ sites) :
    (x.captureIn text).name = cleaned (String.ofList x.identifier.text) := by
  obtain ⟨k, _, hk⟩ := (h.chosen x hx).spells
  rw [cleaned, String.toList_ofList, Identifier.clean_text hk.wellFormed]
  rfl

/-- For keywords in normal form, a query has exactly one greedy selection of mentions in its
scrubbed text.  The captures of the query are its sites in order, and without a catalog the tables
are their identifiers without quotes, function calls left out, each at its first occurrence. -/
theorem captures_greedy_selection (phrases : List String) (sql : String) :
    ∃ sites : List Site,
      (∀ l, IsSelection (Keyword.normalize phrases) (scrub sql.toList) 0 l ↔ l = sites) ∧
      captures (Keyword.normalize phrases) (scrub sql.toList) =
        sites.map (Site.captureIn (scrub sql.toList)) ∧
      ∀ filters, ((⟨none, filters, Keyword.normalize phrases⟩ : Extractor).extract sql).allTables =
        ((sites.filter fun x => !(x.captureIn (scrub sql.toList)).isCall).map fun x =>
          cleaned (String.ofList x.identifier.text)).eraseDups := by
  have hks : ∀ k ∈ Keyword.normalize phrases, IsPhrase k := fun _ => isPhrase_of_mem_normalize
  have hcollapsed := Text.isCollapsed_collapse (keep none (Lexeme.cut sql.toList))
  obtain ⟨sites, hsel, hcaptures⟩ := exists_selection hks hcollapsed.toSingleSpaced 0
  have hcaptures' : captures (Keyword.normalize phrases) (scrub sql.toList) =
      sites.map (Site.captureIn (scrub sql.toList)) := hcaptures
  refine ⟨sites, fun l => ⟨fun hl => hl.unique hsel, fun hl => hl ▸ hsel⟩, hcaptures', ?_⟩
  intro filters
  have hnames : ((⟨none, filters, Keyword.normalize phrases⟩ : Extractor).namesIn sql) =
      (sites.filter fun x => !(x.captureIn (scrub sql.toList)).isCall).map fun x =>
        cleaned (String.ofList x.identifier.text) := by
    rw [Extractor.namesIn, Extractor.capturesIn, hcaptures', List.filter_map, List.map_map]
    refine List.map_congr_left fun x hx => ?_
    exact hsel.name_captureIn (List.mem_of_mem_filter hx)
  rw [Extractor.allTables_extract, hnames]
  congr 1
  exact List.map_id _

end SqlTables
