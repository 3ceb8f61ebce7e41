import SqlTables.Proofs.Identifiers
import SqlTables.Proofs.Lexemes

/-!
# What scrubbing leaves as it is

A text stays where it stands if cutting it off whatever follows keeps all its characters.  Texts
that stay can be put together (`Stays.append`), so it is enough to know the parts: text without
marks stays, and a double-quoted span stays unless a comparison comes before it.

A tidy identifier is one that scrubbing does not change: `Identifier.stays_text` says that it is
kept, `Identifier.isCollapsed_text` that collapsing has nothing to do in it.
-/

set_option autoImplicit false

namespace SqlTables.Sql

open SqlTables.Text Lexeme

/-! ## Texts that stay -/

/-- All characters of `s` are kept in front of any text, when `before` is the last character kept
that is not blank. -/
def Stays (before : Option Char) (s : List Char) : Prop :=
  ∀ t, keep before (cut (s ++ t)) = s ++ keep (lastSolid before s) (cut t)

theorem stays_nil (before : Option Char) : Stays before [] := fun _ => rfl

theorem Stays.append {before : Option Char} {s t : List Char} (hs : Stays before s)
    (ht : Stays (lastSolid before s) t) : Stays before (s ++ t) := by
  intro u
  rw [List.append_assoc, hs, ht, lastSolid_append, List.append_assoc]

/-- Nothing is lost of a text that stays. -/
theorem Stays.keep_eq {before : Option Char} {s : List Char} (h : Stays before s) :
    keep before (cut s) = s := by
  have := h []
  rwa [List.append_nil, cut_nil, keep_nil, List.append_nil] at this

/-- Scrubbing does not change a text that stays and has its blanks in order. -/
theorem scrub_eq_self {s : List Char} (hs : Stays none s) (hc : IsCollapsed s) : scrub s = s := by
  rw [scrub, hs.keep_eq, collapse_of_isCollapsed hc]

theorem keep_map_other (before : Option Char) (s : List Char) :
    keep before (s.map other) = s := by
  induction s generalizing before with
  | nil => rfl
  | cons c s ih => rw [List.map_cons, keep, ih, Lexeme.kept, List.singleton_append]

/-- Text without marks stays if its last character does not begin a comment. -/
theorem stays_of_unmarked {s : List Char} (hs : Unmarked s) (hlast : mayOpenComment s = false)
    (before : Option Char) : Stays before s := by
  intro t
  rw [cut_unmarked_append hs hlast, keep_append, keep_map_other]

/-- A double-quoted span stays unless it follows a comparison. -/
theorem stays_of_quoted {before : Option Char} {body : List Char} (hbody : '"' ∉ body)
    (hbefore : before.any isComparison = false) : Stays before ('"' :: (body ++ ['"'])) := by
  intro t
  have hl : IsLexeme (.quoted ('"' :: (body ++ ['"']))) t := .quoted hbody
  have hkept : (Lexeme.quoted ('"' :: (body ++ ['"']))).kept before = '"' :: (body ++ ['"']) := by
    rw [Lexeme.kept, hbefore]
    rfl
  exact (congrArg (keep before) (cut_text_append hl)).trans (by rw [keep, hkept])

/-! ## Shielded and tidy segments -/

/-- Scrubbing finds nothing to drop inside a segment: a quoted one is shielded by double quotes, or
no comment, literal or double-quoted span begins in it. -/
def Segment.IsShielded : Segment → Prop
  | .plain _ => True
  | .quoted q body => q ≠ .doubleQuotes → Unmarked body

instance (g : Segment) : Decidable g.IsShielded :=
  match g with
  | .plain _ => .isTrue trivial
  | .quoted q body => inferInstanceAs (Decidable (q ≠ .doubleQuotes → Unmarked body))

/-- A quoted segment is tidy if its blanks are single spaces and, unless double quotes protect it,
no comment, literal or double-quoted span begins in it.  A plain segment always is. -/
def Segment.IsTidy : Segment → Prop
  | .plain _ => True
  | .quoted q body => SingleSpaced body ∧ (q ≠ .doubleQuotes → Unmarked body)

instance (g : Segment) : Decidable g.IsTidy :=
  match g with
  | .plain _ => .isTrue trivial
  | .quoted q body =>
    inferInstanceAs (Decidable (SingleSpaced body ∧ (q ≠ .doubleQuotes → Unmarked body)))

theorem getLast?_enclosed (o c : Char) (body : List Char) :
    (o :: (body ++ [c])).getLast? = some c := by
  rw [← List.cons_append, List.getLast?_concat]

/-- Between two characters that are no part of a mark, a text holds only the marks it held. -/
theorem Lexeme.Unmarked.enclose {body : List Char} (h : Unmarked body) {o c : Char}
    (ho : o ∉ ['\'', '"', '-', '/']) (hc : c ∉ ['\'', '"', '-', '*']) :
    Unmarked (o :: (body ++ [c])) := by
  have hpair {a b : Char} (hoa : o ≠ a) (hcb : c ≠ b) (hab : ¬ [a, b] <:+: body) :
      ¬ [a, b] <:+: o :: (body ++ [c]) := by
    intro hin
    rcases pair_infix_cons_iff.1 hin with ⟨ha, _⟩ | hin
    · exact hoa ha
    · rcases List.infix_concat_iff.1 hin with ⟨r, hr⟩ | hin
      · have hlast := congrArg List.getLast? hr
        simp only [List.getLast?_append, List.getLast?_cons, List.getLast?_nil, Option.getD_none,
          Option.getD_some, Option.some_or, Option.some.injEq] at hlast
        exact hcb hlast.symm
      · exact hab hin
  simp only [List.mem_cons, List.not_mem_nil, or_false, not_or] at ho hc
  obtain ⟨hoq, hod, hodash, hoslash⟩ := ho
  obtain ⟨hcq, hcd, hcdash, hcstar⟩ := hc
  refine ⟨?_, ?_, hpair hodash hcdash h.no_line_comment, hpair hoslash hcstar h.no_block_comment⟩
  · simp [Ne.symm hoq, Ne.symm hcq, h.no_quote]
  · simp [Ne.symm hod, Ne.symm hcd, h.no_double_quote]

/-- No mark begins in a run of name characters. -/
theorem unmarked_of_isNameChar {body : List Char} (h : ∀ c ∈ body, isNameChar c = true) :
    Unmarked body := by
  have hnot {c : Char} (hc : isNameChar c = false) : c ∉ body := fun hmem =>
    absurd (h c hmem) (by simp [hc])
  refine ⟨hnot (by decide), hnot (by decide), fun hin => ?_, fun hin => ?_⟩
  · exact hnot (c := '-') (by decide) (hin.subset (by simp))
  · exact hnot (c := '/') (by decide) (hin.subset (by simp))

namespace Segment

theorem IsTidy.isShielded {g : Segment} (h : g.IsTidy) : g.IsShielded := by
  cases g with
  | plain body => trivial
  | quoted q body => exact h.2

/-- A shielded segment stays, at least where no comparison comes before it. -/
theorem stays_text {g : Segment} (hg : g.WellFormed) (hshielded : g.IsShielded)
    {before : Option Char} (hbefore : before.any isComparison = false) : Stays before g.text := by
  cases g with
  | plain body =>
    refine stays_of_unmarked (unmarked_of_isNameChar hg.2) ?_ before
    refine mayOpenComment_eq_false_iff.2 fun c hc => ?_
    have hname : isNameChar c = true := hg.2 c (List.mem_of_getLast? hc)
    constructor <;> rintro rfl <;> exact absurd hname (by decide)
  | quoted q body =>
    by_cases hq : q = .doubleQuotes
    · subst hq
      exact stays_of_quoted hg.2 hbefore
    · have hmarks : q.opening ∉ ['\'', '"', '-', '/'] ∧ q.closing ∉ ['\'', '"', '-', '*'] ∧
          q.closing ≠ '-' ∧ q.closing ≠ '/' := by
        cases q with
        | doubleQuotes => exact absurd rfl hq
        | brackets => decide
        | backticks => decide
      obtain ⟨hopening, hclosing, hend⟩ := hmarks
      refine stays_of_unmarked ((hshielded hq).enclose hopening hclosing) ?_ before
      refine mayOpenComment_eq_false_iff.2 fun c hc => ?_
      rw [getLast?_enclosed] at hc
      cases hc
      exact hend

/-- A tidy segment has its blanks in order. -/
theorem isCollapsed_text {g : Segment} (hg : g.WellFormed) (htidy : g.IsTidy) :
    IsCollapsed g.text := by
  cases g with
  | plain body => exact isCollapsed_of_isSolid fun c hc => isBlank_of_isNameChar (hg.2 c hc)
  | quoted q body =>
    have hopening : IsSolid [q.opening] := by simpa [IsSolid] using q.opening_solid
    have hclosing : IsSolid [q.closing] := by simpa [IsSolid] using q.closing_solid
    have hclosed : SingleSpaced (body ++ [q.closing]) :=
      htidy.1.append (.of_isSolid hclosing) (.inr (by simpa [IsSolid] using hclosing))
    refine ⟨(SingleSpaced.of_isSolid hopening).append hclosed (.inl ?_), ?_, ?_⟩
    · simpa [IsSolid] using hopening
    · simpa [IsSolid, text] using hopening
    · simpa [text, getLast?_enclosed, IsSolid] using hclosing

end Segment

/-! ## Tidy identifiers -/

/-- An identifier is tidy if all its segments are. -/
def Identifier.IsTidy (i : Identifier) : Prop := ∀ g ∈ i.segments, g.IsTidy

instance (i : Identifier) : Decidable i.IsTidy :=
  inferInstanceAs (Decidable (∀ g ∈ i.segments, g.IsTidy))

/-- Segments after dots stay whatever comes before: each has a dot before it. -/
theorem stays_dotted {gs : List Segment} (hgs : ∀ g ∈ gs, g.WellFormed)
    (htidy : ∀ g ∈ gs, g.IsTidy) (before : Option Char) : Stays before (dotted gs) := by
  induction gs generalizing before with
  | nil => exact stays_nil before
  | cons g gs ih =>
    obtain ⟨hg, hgs⟩ := List.forall_mem_cons.1 hgs
    obtain ⟨htg, htgs⟩ := List.forall_mem_cons.1 htidy
    have hdot : Stays before ['.'] := stays_of_unmarked (by decide) (by decide) before
    have hfirst : Stays (lastSolid before ['.']) g.text :=
      Segment.stays_text hg htg.isShielded rfl
    rw [dotted_cons]
    exact hdot.append (hfirst.append (ih hgs htgs _))

theorem isCollapsed_dotted {gs : List Segment} (hgs : ∀ g ∈ gs, g.WellFormed)
    (htidy : ∀ g ∈ gs, g.IsTidy) : IsCollapsed (dotted gs) := by
  induction gs with
  | nil => exact isCollapsed_nil
  | cons g gs ih =>
    obtain ⟨hg, hgs⟩ := List.forall_mem_cons.1 hgs
    obtain ⟨htg, htgs⟩ := List.forall_mem_cons.1 htidy
    have hdot : IsCollapsed ['.'] := isCollapsed_of_isSolid (by simp [IsSolid]; decide)
    rw [dotted_cons]
    exact hdot.append ((Segment.isCollapsed_text hg htg).append (ih hgs htgs))

namespace Identifier

/-- A tidy identifier stays, at least where no comparison comes before it. -/
theorem stays_text {i : Identifier} (hi : i.WellFormed) (htidy : i.IsTidy) {before : Option Char}
    (hbefore : before.any isComparison = false) : Stays before i.text := by
  obtain ⟨hfirst, hmore⟩ := List.forall_mem_cons.1 hi
  obtain ⟨htfirst, htmore⟩ := List.forall_mem_cons.1 htidy
  rw [text_eq]
  exact (Segment.stays_text hfirst htfirst.isShielded hbefore).append (stays_dotted hmore htmore _)

/-- A tidy identifier has its blanks in order. -/
theorem isCollapsed_text {i : Identifier} (hi : i.WellFormed) (htidy : i.IsTidy) :
    IsCollapsed i.text := by
  obtain ⟨hfirst, hmore⟩ := List.forall_mem_cons.1 hi
  obtain ⟨htfirst, htmore⟩ := List.forall_mem_cons.1 htidy
  rw [text_eq]
  exact (Segment.isCollapsed_text hfirst htfirst).append (isCollapsed_dotted hmore htmore)

end Identifier

end SqlTables.Sql
