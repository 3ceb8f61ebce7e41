import SqlTables.Proofs.Letters

/-!
# What an identifier takes

A segment or an identifier at the head of a text is determined by three conditions that mention no
reader: it is well formed, its written form stands at the head, and it could not go on.
`Segment.take?_eq_some_iff` and `Identifier.take?_eq_some_iff` say that taking finds exactly that.

Taking the quotes off a written identifier gives its name (`clean_text`).
-/

set_option autoImplicit false

namespace SqlTables.Sql

theorem ofOpening?_of_isNameChar {c : Char} (h : isNameChar c = true) :
    Quoting.ofOpening? c = none := by
  cases hq : Quoting.ofOpening? c with
  | none => rfl
  | some q =>
    rw [Quoting.opening_of_ofOpening? hq] at h
    revert h
    cases q <;> decide

theorem Quoting.opening_solid (q : Quoting) : Text.isBlank q.opening = false := by
  cases q <;> decide

theorem Quoting.closing_solid (q : Quoting) : Text.isBlank q.closing = false := by
  cases q <;> decide

/-! ## Segments -/

namespace Segment

/-- A segment does not go on into what follows it: a plain one ends before a character that is
not of a name, a quoted one ends with its closing quote. -/
def EndsBefore (rest : List Char) : Segment → Prop
  | plain _ => ∀ c ∈ rest.head?, isNameChar c = false
  | quoted _ _ => True

/-- A well-formed segment is taken from the head of a text where it ends. -/
theorem take?_text_append {g : Segment} {rest : List Char} (hg : g.WellFormed)
    (hend : g.EndsBefore rest) : take? (g.text ++ rest) = some (g, rest) := by
  cases g with
  | plain b =>
    obtain ⟨c, b, rfl⟩ := List.exists_cons_of_ne_nil hg.1
    have hc : isNameChar c = true := hg.2 c (by simp)
    have hb : ∀ d ∈ b, isNameChar d = true := fun d hd => hg.2 d (List.mem_cons_of_mem c hd)
    simp only [text, List.cons_append, take?, ofOpening?_of_isNameChar hc, hc, if_true,
      Text.takeWhile_run_append hb hend, Text.dropWhile_run_append hb hend]
  | quoted q b =>
    have hb : ∀ d ∈ b, (d != q.closing) = true := fun d hd => by
      simpa using fun h : d = q.closing => hg.2 (h ▸ hd)
    obtain ⟨c, b, rfl⟩ := List.exists_cons_of_ne_nil hg.1
    simp only [text, List.cons_append, List.append_assoc, take?, Quoting.ofOpening?_opening]
    rw [← List.cons_append, List.takeWhile_append_of_pos hb, List.dropWhile_append_of_pos hb]
    simp

/-- Some segment is taken wherever a well-formed one stands, if only a longer one. -/
theorem take?_isSome {g : Segment} (hg : g.WellFormed) (rest : List Char) :
    (take? (g.text ++ rest)).isSome = true := by
  cases g with
  | plain b =>
    obtain ⟨c, b, rfl⟩ := List.exists_cons_of_ne_nil hg.1
    have hc : isNameChar c = true := hg.2 c (by simp)
    simp [text, take?, ofOpening?_of_isNameChar hc, hc]
  | quoted q b => rw [take?_text_append hg trivial]; rfl

theorem endsBefore_of_take? {s rest : List Char} {g : Segment} (h : take? s = some (g, rest)) :
    g.EndsBefore rest := by
  cases s with
  | nil => simp [take?] at h
  | cons c r =>
    simp only [take?] at h
    split at h
    · split at h
      · cases h; exact trivial
      · simp at h
    · split at h
      · cases h
        exact Text.head?_dropWhile_false isNameChar r
      · simp at h

/-- What is taken from the head of a text: a well-formed segment that stands and ends there. -/
theorem take?_eq_some_iff {s rest : List Char} {g : Segment} :
    take? s = some (g, rest) ↔ g.WellFormed ∧ g.text ++ rest = s ∧ g.EndsBefore rest := by
  constructor
  · intro h
    exact ⟨(take?_sound h).1, (take?_sound h).2, endsBefore_of_take? h⟩
  · rintro ⟨hg, rfl, hend⟩
    exact take?_text_append hg hend

/-- A segment that starts with a name character or an opening quote, so never with a blank. -/
theorem head_text_solid {g : Segment} (hg : g.WellFormed) :
    ∀ c ∈ g.text.head?, Text.isBlank c = false := by
  cases g with
  | plain b =>
    intro c hc
    exact isBlank_of_isNameChar (hg.2 c (List.mem_of_head? hc))
  | quoted q b =>
    simpa [text] using q.opening_solid

end Segment

/-! ## Segments after dots -/

/-- Segments as written after dots. -/
def dotted (gs : List Segment) : List Char := gs.flatMap fun g => '.' :: g.text

/-- No further segment follows: the text does not go on with a dot and a well-formed segment. -/
def NoSegment (rest : List Char) : Prop :=
  ∀ (g : Segment) (left : List Char), g.WellFormed → rest ≠ '.' :: (g.text ++ left)

theorem dotted_cons (g : Segment) (gs : List Segment) :
    dotted (g :: gs) = '.' :: (g.text ++ dotted gs) := by
  simp [dotted]

theorem Segment.endsBefore_dotted_append {g : Segment} {gs : List Segment} {rest : List Char}
    (h : gs = [] → g.EndsBefore rest) : g.EndsBefore (dotted gs ++ rest) := by
  cases gs with
  | nil => simpa [dotted] using h rfl
  | cons f gs =>
    cases g with
    | plain b =>
      intro c hc
      obtain rfl : '.' = c := by simpa [dotted_cons] using hc
      decide
    | quoted q b => exact trivial

theorem dottedSegments_of_noSegment {rest : List Char} (h : NoSegment rest) :
    dottedSegments rest = ([], rest) := by
  unfold dottedSegments
  split
  · rename_i r
    split
    · rename_i g left hg
      obtain ⟨hw, hs⟩ := Segment.take?_sound hg
      exact absurd (by rw [hs]) (h g left hw)
    · rfl
  · rfl

theorem dottedSegments_of_take? {s left : List Char} {g : Segment}
    (h : Segment.take? s = some (g, left)) :
    dottedSegments ('.' :: s) = (g :: (dottedSegments left).1, (dottedSegments left).2) := by
  rw [dottedSegments]
  split
  · rename_i f r hf
    rw [h] at hf
    cases hf
    rfl
  · rename_i hf
    rw [h] at hf
    cases hf

theorem dottedSegments_of_take?_eq_none {s : List Char} (h : Segment.take? s = none) :
    dottedSegments ('.' :: s) = ([], '.' :: s) := by
  rw [dottedSegments]
  split
  · rename_i g left hg
    rw [h] at hg
    cases hg
  · rfl

/-- The last of some segments, if there is one, ends before the rest of the text. -/
def LastEndsBefore (rest : List Char) (gs : List Segment) : Prop :=
  ∀ g ∈ gs.getLast?, g.EndsBefore rest

theorem lastEndsBefore_cons {rest : List Char} {g : Segment} {gs : List Segment} :
    LastEndsBefore rest (g :: gs) ↔ (gs = [] → g.EndsBefore rest) ∧ LastEndsBefore rest gs := by
  cases gs <;> simp [LastEndsBefore]

/-- Dotted segments are taken from the head of a text where the last one ends. -/
theorem dottedSegments_dotted_append {gs : List Segment} {rest : List Char}
    (hgs : ∀ g ∈ gs, g.WellFormed) (hlast : LastEndsBefore rest gs) (hno : NoSegment rest) :
    dottedSegments (dotted gs ++ rest) = (gs, rest) := by
  induction gs with
  | nil => simpa [dotted] using dottedSegments_of_noSegment hno
  | cons g gs ih =>
    obtain ⟨hend, hlast⟩ := lastEndsBefore_cons.1 hlast
    have ih := ih (fun f hf => hgs f (List.mem_cons_of_mem g hf)) hlast
    have hg : Segment.take? (g.text ++ (dotted gs ++ rest)) = some (g, dotted gs ++ rest) :=
      Segment.take?_text_append (hgs g (by simp)) (Segment.endsBefore_dotted_append hend)
    rw [dotted_cons, List.cons_append, List.append_assoc, dottedSegments_of_take? hg, ih]

/-- What `dottedSegments` takes is well formed, stands at the head of the text, and ends there. -/
theorem dottedSegments_sound {s rest : List Char} {gs : List Segment}
    (h : dottedSegments s = (gs, rest)) :
    (∀ g ∈ gs, g.WellFormed) ∧ dotted gs ++ rest = s ∧ LastEndsBefore rest gs ∧
      NoSegment rest := by
  fun_induction dottedSegments s generalizing gs rest with
  | case1 r g left hg more after hmore ih =>
    cases h
    obtain ⟨hw, hs, hend⟩ := Segment.take?_eq_some_iff.1 hg
    obtain ⟨hws, hss, hlast, hno⟩ := ih hmore
    refine ⟨List.forall_mem_cons.2 ⟨hw, hws⟩, ?_, lastEndsBefore_cons.2 ⟨?_, hlast⟩, hno⟩
    · rw [dotted_cons, List.cons_append, List.append_assoc, hss, hs]
    · rintro rfl
      rwa [← hss] at hend
  | case2 r hg =>
    cases h
    refine ⟨by simp, by simp [dotted], by simp [LastEndsBefore], ?_⟩
    intro g left hw heq
    have := Segment.take?_isSome hw left
    rw [← (List.cons.inj heq).2, hg] at this
    exact absurd this (by simp)
  | case3 s hs =>
    cases h
    refine ⟨by simp, by simp [dotted], by simp [LastEndsBefore], ?_⟩
    intro g left _ heq
    exact hs _ heq

/-! ## Identifiers -/

theorem intercalate_dot (f : Segment → List Char) (g : Segment) (gs : List Segment) :
    ['.'].intercalate ((g :: gs).map f) = f g ++ gs.flatMap fun h => '.' :: f h := by
  induction gs generalizing g with
  | nil => simp
  | cons h gs ih =>
    have := ih h
    simp only [List.map_cons] at this ⊢
    rw [List.intercalate_cons_cons, this]
    simp

namespace Identifier

/-- An identifier that can be written: all its segments can. -/
def WellFormed (i : Identifier) : Prop := ∀ g ∈ i.segments, g.WellFormed

instance (i : Identifier) : Decidable i.WellFormed :=
  inferInstanceAs (Decidable (∀ g ∈ i.segments, g.WellFormed))

/-- An identifier does not go on into what follows it: its last segment ends there, and no
further segment follows. -/
def EndsBefore (rest : List Char) (i : Identifier) : Prop :=
  LastEndsBefore rest i.segments ∧ NoSegment rest

theorem text_eq (i : Identifier) : i.text = i.first.text ++ dotted i.more :=
  intercalate_dot Segment.text i.first i.more

/-- A well-formed identifier is taken from the head of a text where it ends. -/
theorem take?_text_append {i : Identifier} {rest : List Char} (hi : i.WellFormed)
    (hend : i.EndsBefore rest) : take? (i.text ++ rest) = some (i, rest) := by
  obtain ⟨g, gs⟩ := i
  obtain ⟨hg, hgs⟩ := List.forall_mem_cons.1 hi
  obtain ⟨hlast, hno⟩ := hend
  obtain ⟨hend, hlast⟩ := lastEndsBefore_cons.1 hlast
  have hfirst : Segment.take? (g.text ++ (dotted gs ++ rest)) = some (g, dotted gs ++ rest) :=
    Segment.take?_text_append hg (Segment.endsBefore_dotted_append hend)
  rw [text_eq, List.append_assoc, take?, hfirst]
  simp [dottedSegments_dotted_append hgs hlast hno]

/-- What is taken from the head of a text: a well-formed identifier that stands and ends there. -/
theorem take?_eq_some_iff {s rest : List Char} {i : Identifier} :
    take? s = some (i, rest) ↔ i.WellFormed ∧ i.text ++ rest = s ∧ i.EndsBefore rest := by
  constructor
  · intro h
    simp only [take?, Option.map_eq_some_iff, Prod.exists] at h
    obtain ⟨g, r, hg, heq⟩ := h
    obtain ⟨hw, hs, hend⟩ := Segment.take?_eq_some_iff.1 hg
    obtain ⟨hws, hss, hlast, hno⟩ := dottedSegments_sound (s := r) rfl
    cases heq
    refine ⟨List.forall_mem_cons.2 ⟨hw, hws⟩, ?_, lastEndsBefore_cons.2 ⟨?_, hlast⟩, hno⟩
    · rw [text_eq, List.append_assoc, hss, hs]
    · intro hnil
      rwa [← hss, show (dottedSegments r).1 = [] from hnil] at hend
  · rintro ⟨hi, rfl, hend⟩
    exact take?_text_append hi hend

/-- Some identifier is taken wherever a well-formed one stands, if only a longer one. -/
theorem take?_isSome {i : Identifier} (hi : i.WellFormed) (rest : List Char) :
    (take? (i.text ++ rest)).isSome = true := by
  rw [text_eq, List.append_assoc, take?, Option.isSome_map]
  exact Segment.take?_isSome (hi i.first (by simp [segments])) _

theorem text_ne_nil {i : Identifier} (hi : i.WellFormed) : i.text ≠ [] := by
  rw [text_eq]
  simp [Segment.text_ne_nil (hi i.first (by simp [segments]))]

/-- A written identifier does not begin with a blank. -/
theorem head_text_solid {i : Identifier} (hi : i.WellFormed) :
    ∀ c ∈ i.text.head?, Text.isBlank c = false := by
  have hg := hi i.first (by simp [segments])
  obtain ⟨d, t, ht⟩ := List.exists_cons_of_ne_nil (Segment.text_ne_nil hg)
  have hd := Segment.head_text_solid hg d (by simp [ht])
  rw [text_eq, ht]
  simpa using hd

end Identifier

/-! ## Names without quotes -/

theorem segmentsIn_of_take? {s left : List Char} {g : Segment}
    (h : Segment.take? s = some (g, left)) : segmentsIn s = g :: segmentsIn left := by
  cases s with
  | nil => simp [Segment.take?] at h
  | cons c s =>
    rw [segmentsIn]
    split
    · rename_i f r hf
      rw [h] at hf
      cases hf
      rfl
    · rename_i hf
      rw [h] at hf
      cases hf

theorem segmentsIn_dot (s : List Char) : segmentsIn ('.' :: s) = segmentsIn s := by
  have h : Segment.take? ('.' :: s) = none := by
    have hname : isNameChar '.' = false := by decide
    simp [Segment.take?, Quoting.ofOpening?, hname]
  rw [segmentsIn]
  split
  · rename_i g left hg
    rw [h] at hg
    cases hg
  · rfl

theorem segmentsIn_dotted {gs : List Segment} (h : ∀ g ∈ gs, g.WellFormed) :
    segmentsIn (dotted gs) = gs := by
  induction gs with
  | nil => simp [dotted, segmentsIn]
  | cons g gs ih =>
    obtain ⟨hg, hgs⟩ := List.forall_mem_cons.1 h
    have hnil : g.EndsBefore [] := by cases g <;> simp [Segment.EndsBefore]
    have hend : g.EndsBefore (dotted gs ++ []) := Segment.endsBefore_dotted_append fun _ => hnil
    rw [List.append_nil] at hend
    rw [dotted_cons, segmentsIn_dot, segmentsIn_of_take? (Segment.take?_text_append hg hend),
      ih hgs]

theorem Identifier.segmentsIn_text {i : Identifier} (h : i.WellFormed) :
    segmentsIn i.text = i.segments := by
  have hall := segmentsIn_dotted h
  rwa [segments, dotted_cons, ← i.text_eq, segmentsIn_dot] at hall

/-- A written identifier without its quotes is the name it stands for. -/
theorem Identifier.clean_text {i : Identifier} (h : i.WellFormed) : clean i.text = i.name := by
  rw [clean, segmentsIn_text h]
  rfl

end SqlTables.Sql
