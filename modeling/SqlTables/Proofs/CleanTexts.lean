import Mathlib.Algebra.Group.Nat.Even
import SqlTables.Proofs.Cutting
import SqlTables.Proofs.Scrubbing
import SqlTables.Proofs.Solids

/-!
# The texts that scrubbing leaves as they are

Scrubbing changes nothing in a text exactly if its blanks are in order and it is clean: outside its
double-quoted spans nothing begins a comment or a literal, and no such span comes right after a
comparison (`scrub_eq_self_iff`).

Double-quoted spans are those of the text at hand, its double quotes paired from left to right and
the last one running to the end if it has no partner: a place is outside them if an even number of
double quotes comes before it.
-/

set_option autoImplicit false

namespace SqlTables.Sql

open SqlTables.Text Lexeme

/-! ## Outside the double-quoted spans -/

/-- The characters `w` stand side by side in a text, and begin outside its double-quoted spans. -/
def StandsOutside (w s : List Char) : Prop := ∃ a b, s = a ++ w ++ b ∧ Even (a.count '"')

theorem not_standsOutside_nil {w : List Char} (hw : w ≠ []) : ¬ StandsOutside w [] := by
  rintro ⟨a, b, h, _⟩
  simp_all

theorem standsOutside_cons {c : Char} {w s : List Char} (hc : c ≠ '"') :
    StandsOutside w (c :: s) ↔ w <+: c :: s ∨ StandsOutside w s := by
  constructor
  · rintro ⟨a, b, h, heven⟩
    cases a with
    | nil => exact .inl ⟨b, h.symm⟩
    | cons d a =>
      obtain ⟨rfl, rfl⟩ := List.cons.inj h
      rw [List.count_cons_of_ne hc] at heven
      exact .inr ⟨a, b, rfl, heven⟩
  · rintro (⟨b, hb⟩ | ⟨a, b, rfl, heven⟩)
    · exact ⟨[], b, hb.symm, by simp⟩
    · exact ⟨c :: a, b, rfl, by rwa [List.count_cons_of_ne hc]⟩

theorem count_quoted {body : List Char} (hbody : '"' ∉ body) :
    ('"' :: (body ++ ['"'])).count '"' = 2 := by
  simp [List.count_eq_zero_of_not_mem hbody]

theorem standsOutside_pair_cons {c p q : Char} {s : List Char} (hc : c ≠ '"') :
    StandsOutside [p, q] (c :: s) ↔ c = p ∧ q ∈ s.head? ∨ StandsOutside [p, q] s := by
  have hprefix : [p, q] <+: c :: s ↔ c = p ∧ q ∈ s.head? := by
    cases s <;> simp [eq_comm]
  rw [standsOutside_cons hc, hprefix]

/-- A place outside the double-quoted spans is not inside the first of them. -/
theorem eq_nil_or_of_quoted_append {body t a r : List Char} (hbody : '"' ∉ body)
    (h : '"' :: (body ++ ['"']) ++ t = a ++ r) (heven : Even (a.count '"')) :
    a = [] ∨ ∃ a', a = '"' :: (body ++ ['"']) ++ a' ∧ t = a' ++ r ∧ Even (a'.count '"') := by
  have hcount := count_quoted hbody
  rcases List.append_eq_append_iff.1 h with ⟨a', rfl, rfl⟩ | ⟨c, hspan, rfl⟩
  · rw [List.count_append, hcount, Nat.even_add] at heven
    exact .inr ⟨a', rfl, rfl, heven.1 (by decide)⟩
  · rw [hspan, List.count_append] at hcount
    cases a with
    | nil => exact .inl rfl
    | cons d a =>
      obtain rfl : '"' = d := (List.cons.inj hspan).1
      -- both double quotes of the span come before the place, so the span does
      have hclosed : c.count '"' = 0 := by
        rw [List.count_cons_self] at hcount heven
        obtain ⟨k, hk⟩ := heven
        omega
      have hc : c = [] := by
        rcases List.eq_nil_or_concat c with rfl | ⟨c', e, rfl⟩
        · rfl
        · have hlast := congrArg List.getLast? hspan
          rw [getLast?_enclosed, List.concat_eq_append, ← List.append_assoc,
            List.getLast?_concat] at hlast
          simp [← Option.some.inj hlast] at hclosed
      subst hc
      exact .inr ⟨[], by rw [List.append_nil, hspan, List.append_nil], rfl, by simp⟩

/-- No place after the beginning of an open double-quoted span is outside. -/
theorem eq_nil_of_openQuoted_eq_append {body a r : List Char} (hbody : '"' ∉ body)
    (h : '"' :: body = a ++ r) (heven : Even (a.count '"')) : a = [] := by
  cases a with
  | nil => rfl
  | cons d a =>
    obtain ⟨rfl, rfl⟩ := List.cons.inj h
    have ha : a.count '"' = 0 := List.count_eq_zero.2 fun hmem => hbody (by simp [hmem])
    rw [List.count_cons_self, ha] at heven
    exact absurd heven (by decide)

theorem standsOutside_quoted_append {body w t : List Char} (hbody : '"' ∉ body)
    (hw : ∀ c ∈ w.head?, c ≠ '"') (hne : w ≠ []) :
    StandsOutside w ('"' :: (body ++ ['"']) ++ t) ↔ StandsOutside w t := by
  obtain ⟨c, w, rfl⟩ := List.exists_cons_of_ne_nil hne
  have hc : c ≠ '"' := hw c (by simp)
  constructor
  · rintro ⟨a, b, h, heven⟩
    rw [List.append_assoc a] at h
    rcases eq_nil_or_of_quoted_append hbody h heven with rfl | ⟨a', _, rfl, heven'⟩
    · exact absurd (List.cons.inj h).1.symm hc
    · exact ⟨a', b, (List.append_assoc _ _ _).symm, heven'⟩
  · rintro ⟨a, b, rfl, heven⟩
    refine ⟨'"' :: (body ++ ['"']) ++ a, b, by simp only [List.append_assoc], ?_⟩
    rw [List.count_append, count_quoted hbody]
    exact Nat.even_add.2 (iff_of_true (by decide) heven)

theorem not_standsOutside_openQuoted {body w : List Char} (hbody : '"' ∉ body)
    (hw : ∀ c ∈ w.head?, c ≠ '"') (hne : w ≠ []) : ¬ StandsOutside w ('"' :: body) := by
  obtain ⟨c, w, rfl⟩ := List.exists_cons_of_ne_nil hne
  rintro ⟨a, b, h, heven⟩
  rw [List.append_assoc] at h
  obtain rfl := eq_nil_of_openQuoted_eq_append hbody h heven
  exact hw c (by simp) (List.cons.inj h).1.symm

/-- Collapsing puts no characters side by side. -/
theorem StandsOutside.of_collapse {w s : List Char} (h : StandsOutside w (collapse s))
    (hw : IsSolid w) : StandsOutside w s := by
  obtain ⟨a, b, hsplit, heven⟩ := h
  obtain ⟨a', b', rfl, hsolids⟩ := exists_of_collapse_eq_append hsplit hw
  refine ⟨a', b', rfl, ?_⟩
  rwa [← count_solids (by decide), hsolids, count_solids (by decide)]

theorem StandsOutside.collapse {w s : List Char} (h : StandsOutside w s) (hw : IsSolid w)
    (hne : w ≠ []) : StandsOutside w (Text.collapse s) := by
  obtain ⟨a, b, rfl, heven⟩ := h
  obtain ⟨a', b', hsplit, hsolids⟩ := exists_collapse_eq_append hw hne a b
  refine ⟨a', b', hsplit, ?_⟩
  rwa [← count_solids (by decide), hsolids, count_solids (by decide)]

/-! ## The texts that scrubbing leaves as they are -/

/-- What a text quotes are names: no single quote stands outside the double-quoted spans, and the
last character that is not blank before such a span is no comparison.  `before` is that character
when the text begins with blanks and a span. -/
structure QuotesNamesOnly (before : Option Char) (s : List Char) : Prop where
  no_literal : ¬ StandsOutside ['\''] s
  name : ∀ a b, s = a ++ '"' :: b → Even (a.count '"') →
    (lastSolid before a).any isComparison = false

/-- A text in which scrubbing finds nothing to drop. -/
structure IsClean (before : Option Char) (s : List Char) : Prop
    extends QuotesNamesOnly before s where
  no_line_comment : ¬ StandsOutside ['-', '-'] s
  no_block_comment : ¬ StandsOutside ['/', '*'] s

theorem quotesNamesOnly_nil (before : Option Char) : QuotesNamesOnly before [] where
  no_literal := not_standsOutside_nil (by simp)
  name a b h := by simp at h

theorem quotesNamesOnly_cons {before : Option Char} {c : Char} {s : List Char} (hquote : c ≠ '\'')
    (hdouble : c ≠ '"') :
    QuotesNamesOnly before (c :: s) ↔ QuotesNamesOnly (lastSolid before [c]) s := by
  have hliteral : StandsOutside ['\''] (c :: s) ↔ StandsOutside ['\''] s := by
    rw [standsOutside_cons hdouble, or_iff_right]
    rintro ⟨t, ht⟩
    exact hquote (List.cons.inj ht).1.symm
  constructor
  · rintro ⟨hno, hname⟩
    refine ⟨hliteral.not.1 hno, fun a b h heven => ?_⟩
    have := hname (c :: a) b (by rw [h, List.cons_append]) (by rwa [List.count_cons_of_ne hdouble])
    rwa [← List.singleton_append, lastSolid_append] at this
  · rintro ⟨hno, hname⟩
    refine ⟨hliteral.not.2 hno, fun a b h heven => ?_⟩
    cases a with
    | nil => exact absurd (List.cons.inj h).1 hdouble
    | cons d a =>
      obtain ⟨rfl, rfl⟩ := List.cons.inj h
      rw [List.count_cons_of_ne hdouble] at heven
      rw [← List.singleton_append, lastSolid_append]
      exact hname a b rfl heven

theorem quotesNamesOnly_quoted_append {before : Option Char} {body t : List Char}
    (hbody : '"' ∉ body) :
    QuotesNamesOnly before ('"' :: (body ++ ['"']) ++ t) ↔ before.any isComparison = false ∧
      QuotesNamesOnly (lastSolid before ('"' :: (body ++ ['"']))) t := by
  have hliteral : StandsOutside ['\''] ('"' :: (body ++ ['"']) ++ t) ↔ StandsOutside ['\''] t :=
    standsOutside_quoted_append hbody (by simp) (by simp)
  constructor
  · rintro ⟨hno, hname⟩
    refine ⟨hname [] (body ++ ['"'] ++ t) rfl (by simp), hliteral.not.1 hno, fun a b h heven => ?_⟩
    rw [← lastSolid_append]
    refine hname _ b (by rw [h, List.append_assoc]) ?_
    rw [List.count_append, count_quoted hbody]
    exact Nat.even_add.2 (iff_of_true (by decide) heven)
  · rintro ⟨hbefore, hno, hname⟩
    refine ⟨hliteral.not.2 hno, fun a b h heven => ?_⟩
    rcases eq_nil_or_of_quoted_append hbody h heven with rfl | ⟨a', rfl, ht, heven'⟩
    · exact hbefore
    · rw [lastSolid_append]
      exact hname a' b ht heven'

theorem quotesNamesOnly_openQuoted {before : Option Char} {body : List Char} (hbody : '"' ∉ body) :
    QuotesNamesOnly before ('"' :: body) ↔ before.any isComparison = false := by
  constructor
  · rintro ⟨_, hname⟩
    exact hname [] body rfl (by simp)
  · intro hbefore
    refine ⟨not_standsOutside_openQuoted hbody (by simp) (by simp), fun a b h heven => ?_⟩
    obtain rfl := eq_nil_of_openQuoted_eq_append hbody h heven
    exact hbefore

theorem kept_quoted_eq_iff {before : Option Char} {s : List Char} (hs : s.head? = some '"') :
    (quoted s).kept before = s ↔ before.any isComparison = false := by
  obtain ⟨t, rfl⟩ := List.head?_eq_some_iff.1 hs
  rw [Lexeme.kept]
  split <;> simp_all

theorem isClean_nil (before : Option Char) : IsClean before [] where
  toQuotesNamesOnly := quotesNamesOnly_nil before
  no_line_comment := not_standsOutside_nil (by simp)
  no_block_comment := not_standsOutside_nil (by simp)

/-- A text is clean if its first lexeme is kept as it is and the rest is clean. -/
theorem isClean_text_append {before : Option Char} {l : Lexeme} {rest : List Char}
    (hl : IsLexeme l rest) : IsClean before (l.text ++ rest) ↔
      l.kept before = l.text ∧ IsClean (lastSolid before l.text) rest := by
  -- a comment or a literal is not kept as it is, and what it begins with stands outside
  have hbegins {w t : List Char} : StandsOutside w (w ++ t) := ⟨[], t, rfl, by simp⟩
  have hnothing {c : Char} {t : List Char} {p : Prop} : ¬ ([] = c :: t ∧ p) := by simp
  have hspace {t : List Char} {p : Prop} : ¬ ([' '] = '\'' :: t ∧ p) := by simp
  cases hl with
  | lineComment _ _ => exact iff_of_false (fun h => h.no_line_comment hbegins) hnothing
  | blockComment _ => exact iff_of_false (fun h => h.no_block_comment hbegins) hnothing
  | openComment _ => exact iff_of_false (fun h => h.no_block_comment hbegins) hnothing
  | literal _ => exact iff_of_false (fun h => h.no_literal hbegins) hspace
  | openLiteral => exact iff_of_false (fun h => h.no_literal hbegins) hspace
  | @quoted body _ hbody =>
    rw [Lexeme.text, kept_quoted_eq_iff rfl]
    have hpair {w : List Char} (hw : ∀ c ∈ w.head?, c ≠ '"') (hne : w ≠ []) :=
      standsOutside_quoted_append (t := rest) hbody hw hne
    constructor
    · rintro ⟨hnames, hline, hblock⟩
      obtain ⟨hbefore, hnames⟩ := (quotesNamesOnly_quoted_append hbody).1 hnames
      exact ⟨hbefore, hnames, (hpair (by simp) (by simp)).not.1 hline,
        (hpair (by simp) (by simp)).not.1 hblock⟩
    · rintro ⟨hbefore, hnames, hline, hblock⟩
      exact ⟨(quotesNamesOnly_quoted_append hbody).2 ⟨hbefore, hnames⟩,
        (hpair (by simp) (by simp)).not.2 hline, (hpair (by simp) (by simp)).not.2 hblock⟩
  | @openQuoted body hbody =>
    rw [Lexeme.text, kept_quoted_eq_iff rfl, List.append_nil]
    constructor
    · intro h
      exact ⟨(quotesNamesOnly_openQuoted hbody).1 h.toQuotesNamesOnly, isClean_nil _⟩
    · rintro ⟨hbefore, _⟩
      exact ⟨(quotesNamesOnly_openQuoted hbody).2 hbefore,
        not_standsOutside_openQuoted hbody (by simp) (by simp),
        not_standsOutside_openQuoted hbody (by simp) (by simp)⟩
  | @other c _ hquote hdouble hdash hslash =>
    have hpair {p q : Char} (h : c = p → ∀ d ∈ rest.head?, d ≠ q) :
        StandsOutside [p, q] (c :: rest) ↔ StandsOutside [p, q] rest := by
      rw [standsOutside_pair_cons hdouble, or_iff_right]
      rintro ⟨hc, hq⟩
      exact h hc q hq rfl
    constructor
    · rintro ⟨hnames, hline, hblock⟩
      exact ⟨rfl, (quotesNamesOnly_cons hquote hdouble).1 hnames, (hpair hdash).not.1 hline,
        (hpair hslash).not.1 hblock⟩
    · rintro ⟨_, hnames, hline, hblock⟩
      exact ⟨(quotesNamesOnly_cons hquote hdouble).2 hnames, (hpair hdash).not.2 hline,
        (hpair hslash).not.2 hblock⟩

theorem keep_text_append {before : Option Char} {l : Lexeme} {rest : List Char}
    (hl : IsLexeme l rest) : keep before (cut (l.text ++ rest)) =
      l.kept before ++ keep (lastSolid before (l.kept before)) (cut rest) := by
  rw [cut_text_append hl, keep]

/-- A lexeme that is not kept as it is loses a character that is not blank. -/
theorem kept_eq_text_or_lt {l : Lexeme} {rest : List Char} (hl : IsLexeme l rest)
    (before : Option Char) :
    l.kept before = l.text ∨ (solids (l.kept before)).length < (solids l.text).length := by
  have hgap : solids [' '] = [] := solids_of_isGap (by simp [IsGap])
  have hlost {c : Char} (hc : isBlank c = false) (t : List Char) :
      0 < (solids (c :: t)).length := by simp [solids_cons_solid hc]
  cases hl with
  | lineComment _ _ => exact .inr (hlost (by decide) _)
  | blockComment _ => exact .inr (hlost (by decide) _)
  | openComment _ => exact .inr (hlost (by decide) _)
  | literal _ => exact .inr (hgap ▸ hlost (by decide) _)
  | openLiteral => exact .inr (hgap ▸ hlost (by decide) _)
  | quoted _ =>
    rw [Lexeme.kept]
    split
    · exact .inr (hgap ▸ hlost (by decide) _)
    · exact .inl rfl
  | openQuoted _ =>
    rw [Lexeme.kept]
    split
    · exact .inr (hgap ▸ hlost (by decide) _)
    · exact .inl rfl
  | other _ _ _ _ => exact .inl rfl

/-- A text that is not kept as it is loses a character that is not blank. -/
theorem keep_eq_self_or_lt (before : Option Char) (s : List Char) :
    keep before (cut s) = s ∨ (solids (keep before (cut s))).length < (solids s).length := by
  induction s using induction_on_cut generalizing before with
  | nil => exact .inl (by rw [cut_nil, keep_nil])
  | cons l rest hl ih =>
    have hrest := ih (lastSolid before (l.kept before))
    rw [keep_text_append hl, solids_append, solids_append, List.length_append, List.length_append]
    rcases kept_eq_text_or_lt hl before with htext | hlt
    · rcases hrest with hkeep | hlt
      · exact .inl (by rw [hkeep, htext])
      · exact .inr (by rw [htext] at hlt ⊢; omega)
    · rcases hrest with hkeep | hlt'
      · exact .inr (by rw [hkeep]; omega)
      · exact .inr (by omega)

/-- The texts of which everything is kept. -/
theorem keep_cut_eq_self_iff {before : Option Char} {s : List Char} :
    keep before (cut s) = s ↔ IsClean before s := by
  induction s using induction_on_cut generalizing before with
  | nil => exact iff_of_true (by rw [cut_nil, keep_nil]) (isClean_nil before)
  | cons l rest hl ih =>
    rw [isClean_text_append hl, ← ih, keep_text_append hl]
    constructor
    · intro h
      have htext : l.kept before = l.text := by
        rcases kept_eq_text_or_lt hl before with htext | hlt
        · exact htext
        · -- what the first lexeme loses the rest cannot bring back
          have hlength := congrArg (fun t => (solids t).length) h
          simp only [solids_append, List.length_append] at hlength
          rcases keep_eq_self_or_lt (lastSolid before (l.kept before)) rest with hkeep | hlt'
          · rw [hkeep] at hlength
            omega
          · omega
      rw [htext] at h
      exact ⟨htext, List.append_cancel_left h⟩
    · rintro ⟨htext, hrest⟩
      rw [htext, hrest]

/-- The texts that scrubbing leaves as they are. -/
theorem scrub_eq_self_iff {s : List Char} : scrub s = s ↔ IsCollapsed s ∧ IsClean none s := by
  rw [← keep_cut_eq_self_iff]
  constructor
  · intro h
    refine ⟨h ▸ isCollapsed_collapse _, (keep_eq_self_or_lt none s).resolve_right fun hlt => ?_⟩
    rw [← solids_collapse, ← scrub, h] at hlt
    exact lt_irrefl _ hlt
  · rintro ⟨hcollapsed, hkeep⟩
    rw [scrub, hkeep, collapse_of_isCollapsed hcollapsed]

end SqlTables.Sql
