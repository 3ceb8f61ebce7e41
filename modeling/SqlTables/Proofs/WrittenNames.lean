import Mathlib.Data.List.Basic
import SqlTables.Proofs.Walls

/-!
# Names as they are written

A name is written as its segments with dots between, each bare or in quotes of its own.  Whatever
dots and foreign quotes the bodies hold, the text is read back as these segments and no others
(`Segment.written_injective`).  So taking the quotes off gives the bodies with dots between, and
what is captured in a query has one reading.
-/

set_option autoImplicit false

namespace SqlTables.Sql

namespace Segment

/-- Segments as they are written, with dots between. -/
def written (gs : List Segment) : String := ".".intercalate (gs.map fun g => String.ofList g.text)

/-- The bodies of segments, with dots between. -/
def named (gs : List Segment) : String := ".".intercalate (gs.map fun g => String.ofList g.body)

theorem toList_written (g : Segment) (gs : List Segment) :
    (written (g :: gs)).toList = Identifier.text ⟨g, gs⟩ := by
  rw [written, String.toList_intercalate, List.map_map]
  simp only [Function.comp_def, String.toList_ofList]
  rfl

theorem toList_named (g : Segment) (gs : List Segment) :
    (named (g :: gs)).toList = Identifier.name ⟨g, gs⟩ := by
  rw [named, String.toList_intercalate, List.map_map]
  simp only [Function.comp_def, String.toList_ofList]
  rfl

/-- Segments are found again in the text in which they are written. -/
theorem segmentsIn_written {gs : List Segment} (h : ∀ g ∈ gs, g.WellFormed) :
    segmentsIn (written gs).toList = gs := by
  cases gs with
  | nil => simp [written, segmentsIn]
  | cons g gs =>
    have hi : Identifier.WellFormed ⟨g, gs⟩ := h
    rw [toList_written, Identifier.segmentsIn_text hi, Identifier.segments]

/-- A text has one reading as segments with dots between. -/
theorem written_injective {gs fs : List Segment} (hgs : ∀ g ∈ gs, g.WellFormed)
    (hfs : ∀ f ∈ fs, f.WellFormed) (h : written gs = written fs) : gs = fs := by
  rw [← segmentsIn_written hgs, h, segmentsIn_written hfs]

/-- Without the quotes of its segments a written name is the bodies with dots between. -/
theorem cleaned_written {gs : List Segment} (hne : gs ≠ []) (h : ∀ g ∈ gs, g.WellFormed) :
    cleaned (written gs) = named gs := by
  obtain ⟨g, gs, rfl⟩ := List.exists_cons_of_ne_nil hne
  have hi : Identifier.WellFormed ⟨g, gs⟩ := h
  rw [cleaned, toList_written, Identifier.clean_text hi, ← toList_named, String.ofList_toList]

end Segment

/-! ## The last part of a name -/

/-- What stands up to the last dot does not count. -/
theorem bare_append {s b : List Char} (hs : ∀ c ∈ s.getLast?, c = '.') (hb : '.' ∉ b) :
    bare (s ++ b) = b := by
  have hrun : ∀ c ∈ b.reverse, (c != '.') = true := by
    intro c hc
    rw [bne_iff_ne]
    rintro rfl
    exact hb (List.mem_reverse.1 hc)
  have hrest : ∀ c ∈ s.reverse.head?, (c != '.') = false := by
    intro c hc
    rw [List.head?_reverse] at hc
    rw [hs c hc, bne_self_eq_false]
  rw [bare, List.reverse_append, Text.takeWhile_run_append hrun hrest, List.reverse_reverse]

namespace Segment

/-- Names end with the body of the last segment, behind a dot if it is not the only one. -/
theorem exists_toList_named (before : List Segment) (g : Segment) :
    ∃ s, (named (before ++ [g])).toList = s ++ g.body ∧ ∀ c ∈ s.getLast?, c = '.' := by
  cases before with
  | nil => exact ⟨[], by simp [named], by simp⟩
  | cons f before =>
    refine ⟨(named (f :: before)).toList ++ ['.'], ?_, by simp⟩
    rw [List.cons_append, toList_named, toList_named, Identifier.name, Identifier.name,
      Identifier.segments, Identifier.segments, intercalate_dot, intercalate_dot]
    simp

/-- The last part of a name is the body of its last segment, if that has no dot. -/
theorem bareName_named {gs : List Segment} {g : Segment} (hlast : gs.getLast? = some g)
    (hdot : '.' ∉ g.body) : bareName (named gs) = String.ofList g.body := by
  obtain ⟨before, rfl⟩ := List.getLast?_eq_some_iff.1 hlast
  obtain ⟨s, hname, hs⟩ := exists_toList_named before g
  rw [bareName, hname, bare_append hs hdot]

end Segment

/-! ## Captured names -/

/-- The identifier of a capture is well formed and stands in the text. -/
theorem identifier_of_mem_capturesAfter {phrases : List (List (List Char))}
    {before : Option Char} {s : List Char} {c : Capture} (h : c ∈ capturesAfter phrases before s) :
    c.identifier.WellFormed ∧ c.identifier.text <:+: s := by
  fun_induction capturesAfter phrases before s with
  | case1 before => simp at h
  | case2 before d rest hfree capture left hread ih =>
    obtain ⟨hw, hstands⟩ := Capture.identifier_of_take? hread
    rcases List.mem_cons.1 h with rfl | h
    · exact ⟨hw, (List.prefix_append _ _).isInfix.trans hstands.isInfix⟩
    · have hleft : left <:+ d :: rest := Capture.suffix_of_take? hread
      exact ⟨(ih h).1, (ih h).2.trans hleft.isInfix⟩
  | case3 before d rest hfree hread ih =>
    exact ⟨(ih h).1, (ih h).2.trans (List.suffix_cons d rest).isInfix⟩
  | case4 before d rest hfree ih =>
    exact ⟨(ih h).1, (ih h).2.trans (List.suffix_cons d rest).isInfix⟩

/-- Segments written with dots between give their bodies with dots between when their quotes are
taken off, and the last part of that is the last body, unless it has a dot of its own.  What is
captured as an identifier stands in the text, and is one list of segments written with dots between
and no other; its name is that text without quotes. -/
theorem written_names_read_back :
    (∀ gs : List Segment, gs ≠ [] → (∀ g ∈ gs, g.WellFormed) →
      cleaned (Segment.written gs) = Segment.named gs ∧
      ∀ g, gs.getLast? = some g → '.' ∉ g.body →
        bareName (cleaned (Segment.written gs)) = String.ofList g.body) ∧
    ∀ (keywords : List String) (s : List Char), ∀ c ∈ captures keywords s,
      c.identifier.text <:+: s ∧ c.name = cleaned (String.ofList c.identifier.text) ∧
      ∃! gs : List Segment, gs ≠ [] ∧ (∀ g ∈ gs, g.WellFormed) ∧
        Segment.written gs = String.ofList c.identifier.text := by
  refine ⟨fun gs hne hgs => ?_, fun keywords s c hc => ?_⟩
  · have hclean := Segment.cleaned_written hne hgs
    refine ⟨hclean, fun g hlast hdot => ?_⟩
    rw [hclean, Segment.bareName_named hlast hdot]
  · obtain ⟨hw, hstands⟩ := identifier_of_mem_capturesAfter hc
    have hwritten : Segment.written c.identifier.segments = String.ofList c.identifier.text := by
      rw [← String.toList_inj, String.toList_ofList]
      exact Segment.toList_written c.identifier.first c.identifier.more
    refine ⟨hstands, ?_, c.identifier.segments, ⟨List.cons_ne_nil _ _, hw, hwritten⟩, ?_⟩
    · rw [cleaned, String.toList_ofList, Identifier.clean_text hw]
      rfl
    · rintro gs ⟨-, hgs, heq⟩
      exact Segment.written_injective hgs hw (heq.trans hwritten.symm)

/-- A dot in the first body, and in the last the quotes of the other styles. -/
def crossedSegments : List Segment :=
  [.quoted .brackets "my.db".toList, .plain "#t@1".toList, .quoted .doubleQuotes "a]`[b c".toList]

/-- What is captured of a query on the name that these segments write. -/
def crossedCapture : Capture :=
  ⟨"from".toList, ⟨.quoted .brackets "my.db".toList,
    [.plain "#t@1".toList, .quoted .doubleQuotes "a]`[b c".toList]⟩, false⟩

theorem written_names_read_back_crossed :
    Segment.written crossedSegments = "[my.db].#t@1.\"a]`[b c\"" ∧
      cleaned (Segment.written crossedSegments) = "my.db.#t@1.a]`[b c" ∧
      bareName (cleaned (Segment.written crossedSegments)) = "a]`[b c" ∧
      crossedCapture ∈ captures ["FROM"] "from [my.db].#t@1.\"a]`[b c\"`d`".toList ∧
      ∃! gs : List Segment, gs ≠ [] ∧ (∀ g ∈ gs, g.WellFormed) ∧
        Segment.written gs = String.ofList crossedCapture.identifier.text := by
  have hwell : ∀ g ∈ crossedSegments, g.WellFormed := by decide +kernel
  obtain ⟨hclean, hlast⟩ := written_names_read_back.1 crossedSegments (by decide) hwell
  have hcaptured : captures ["FROM"] "from [my.db].#t@1.\"a]`[b c\"`d`".toList =
      [crossedCapture] := by decide +kernel
  have hmem : crossedCapture ∈ captures ["FROM"] "from [my.db].#t@1.\"a]`[b c\"`d`".toList := by
    rw [hcaptured]
    simp
  refine ⟨by decide +kernel, hclean.trans (by decide +kernel), ?_, hmem,
    (written_names_read_back.2 _ _ _ hmem).2.2⟩
  exact (hlast _ rfl (by decide)).trans (by decide +kernel)

end SqlTables.Sql
