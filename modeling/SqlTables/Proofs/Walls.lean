import Mathlib.Data.List.TakeWhile
import SqlTables.Proofs.Reading

/-!
# Reading up to a semicolon

A wall is a semicolon with the blanks before it.  Words, gaps and unquoted identifiers do not go on
across a wall, so a reader that finds one of them in front of a wall finds the same without it
(`StopsAtWalls`).  Readers one after the other keep this property, and so does reading all captures
(`capturesAfter_append_wall`): what stands before a wall and what stands behind it are read apart.
-/

set_option autoImplicit false

namespace SqlTables.Sql

open SqlTables.Text

/-! ## Walls -/

/-- Blanks and a semicolon, and anything behind them. -/
def IsWall (r : List Char) : Prop := ∃ g t, IsGap g ∧ r = g ++ ';' :: t

theorem isWall_semicolon (t : List Char) : IsWall (';' :: t) := ⟨[], t, by simp [IsGap], rfl⟩

/-- A wall begins with a blank or the semicolon. -/
theorem IsWall.exists_cons {r : List Char} (h : IsWall r) :
    ∃ c s, r = c :: s ∧ (isBlank c = true ∨ c = ';') := by
  obtain ⟨g, t, hg, rfl⟩ := h
  cases g with
  | nil => exact ⟨';', t, rfl, .inr rfl⟩
  | cons c g => exact ⟨c, g ++ ';' :: t, rfl, .inl (hg c (by simp))⟩

theorem isCaseless_semicolon : isCaseless ';'.toNat = true := by
  decide +kernel

/-- A text in which no quoted segment begins. -/
def Unquoted (s : List Char) : Prop := ∀ c ∈ s, Quoting.ofOpening? c = none

/-- What a reader finds at the head of an unquoted text does not depend on a wall behind it. -/
def StopsAtWalls {α : Type} (read : List Char → Option (α × List Char)) : Prop :=
  ∀ s r, Unquoted s → IsWall r → read (s ++ r) = (read s).map fun x => (x.1, x.2 ++ r)

/-! ## One reader after another -/

namespace StopsAtWalls

variable {α β : Type} {read : List Char → Option (α × List Char)}
  {next : α → List Char → Option (β × List Char)}

/-- In front of a wall alone a reader finds nothing if it finds nothing at the end of a text. -/
theorem eq_none (h : StopsAtWalls read) (hnil : read [] = none) {r : List Char} (hr : IsWall r) :
    read r = none := by
  have := h [] r (by simp [Unquoted]) hr
  rwa [List.nil_append, hnil] at this

theorem bind (h : StopsAtWalls read) (hrest : ∀ s x rest, read s = some (x, rest) → rest <:+ s)
    (hnext : ∀ x, StopsAtWalls (next x)) :
    StopsAtWalls fun s => (read s).bind fun x => next x.1 x.2 := by
  intro s r hs hr
  show (read (s ++ r)).bind _ = ((read s).bind _).map _
  rw [h s r hs hr]
  cases hread : read s with
  | none => rfl
  | some x =>
    have hleft : Unquoted x.2 := fun c hc => hs c ((hrest s x.1 x.2 hread).subset hc)
    exact hnext x.1 x.2 r hleft hr

/-- A result that does not depend on a wall behind the rest may be made of what is read. -/
theorem map (h : StopsAtWalls read) {f : α → List Char → β}
    (hf : ∀ x rest r, IsWall r → f x (rest ++ r) = f x rest) :
    StopsAtWalls fun s => (read s).map fun x => (f x.1 x.2, x.2) := by
  intro s r hs hr
  show (read (s ++ r)).map _ = ((read s).map _).map _
  rw [h s r hs hr, Option.map_map, Option.map_map]
  congr 1
  funext x
  simp only [Function.comp_apply, hf x.1 x.2 r hr]

end StopsAtWalls

/-! ## Words and gaps -/

/-- A word of a keyword: not empty, without blanks and without semicolons. -/
structure IsPlainWord (w : List Char) : Prop where
  ne_nil : w ≠ []
  solid : IsSolid w
  no_semicolon : ';' ∉ w

/-- No letter of a plain word is the first character of a wall. -/
theorem IsPlainWord.not_sameLetter {w : List Char} (h : IsPlainWord w) {a c : Char} (ha : a ∈ w)
    (hc : isBlank c = true ∨ c = ';') : sameLetter a c = false := by
  by_contra hsame
  rw [Bool.not_eq_false] at hsame
  rcases hc with hblank | rfl
  · have := h.solid a ha
    rw [eq_of_sameLetter_blank hsame hblank, hblank] at this
    exact absurd this (by simp)
  · obtain rfl := (sameLetter_caseless_iff isCaseless_semicolon).1 hsame
    exact h.no_semicolon ha

namespace Capture

theorem takeWord_append_of_head {w s r : List Char}
    (hr : ∃ c t, r = c :: t ∧ ∀ a ∈ w, sameLetter a c = false) :
    takeWord w (s ++ r) = (takeWord w s).map fun x => (x.1, x.2 ++ r) := by
  induction w generalizing s with
  | nil => rfl
  | cons a w ih =>
    obtain ⟨c, t, rfl, hclash⟩ := hr
    obtain ⟨hac, hw⟩ := List.forall_mem_cons.1 hclash
    cases s with
    | nil => simp [takeWord, hac]
    | cons d s =>
      simp only [List.cons_append, takeWord]
      split
      · rw [ih ⟨c, t, rfl, hw⟩, Option.map_map, Option.map_map]
        rfl
      · rfl

theorem stopsAtWalls_takeWord {w : List Char} (hw : IsPlainWord w) :
    StopsAtWalls (takeWord w) := by
  intro s r _ hr
  obtain ⟨c, t, rfl, hc⟩ := hr.exists_cons
  exact takeWord_append_of_head ⟨c, t, rfl, fun a ha => hw.not_sameLetter ha hc⟩

theorem suffix_of_takeWord (w s m rest : List Char) (h : takeWord w s = some (m, rest)) :
    rest <:+ s :=
  ⟨m, (takeWord_eq_some_iff.1 h).2⟩

theorem takeWord_nil {w : List Char} (hw : w ≠ []) : takeWord w [] = none := by
  obtain ⟨a, w, rfl⟩ := List.exists_cons_of_ne_nil hw
  rfl

theorem takeGap_run_append {g rest : List Char} (hg : IsGap g)
    (hrest : ∀ c ∈ rest.head?, isBlank c = false) :
    takeGap (g ++ rest) = if g = [] then none else some (g, rest) := by
  rw [takeGap, takeWhile_run_append hg hrest, dropWhile_run_append hg hrest]
  cases g <;> rfl

/-- A gap may go on into the blanks of a wall, but nothing is read behind it there. -/
theorem stopsAtWalls_afterGap {α : Type} {next : List Char → List Char → Option (α × List Char)}
    (hnext : ∀ gap, StopsAtWalls (next gap)) (hnil : ∀ gap, next gap [] = none) :
    StopsAtWalls fun s => (takeGap s).bind fun x => next x.1 x.2 := by
  intro s r hs hr
  have hsplit : s.takeWhile isBlank ++ s.dropWhile isBlank = s := List.takeWhile_append_dropWhile
  have hgap : IsGap (s.takeWhile isBlank) := fun _ hc => List.mem_takeWhile_imp hc
  have hsolid := head?_dropWhile_false isBlank s
  generalize s.takeWhile isBlank = gap at hsplit hgap
  generalize s.dropWhile isBlank = left at hsplit hsolid
  subst hsplit
  show (takeGap (gap ++ left ++ r)).bind _ = ((takeGap (gap ++ left)).bind _).map _
  cases left with
  | nil =>
    -- only blanks before the wall: the gap ends at the semicolon, without it at the end of the text
    obtain ⟨g, t, hg, rfl⟩ := hr
    have hlong : IsGap (gap ++ g) := fun c hc => (List.mem_append.1 hc).elim (hgap c) (hg c)
    have hsemicolon : ∀ c ∈ (';' :: t).head?, isBlank c = false := by
      rintro c hc
      obtain rfl : ';' = c := by simpa using hc
      decide
    have hstop : next (gap ++ g) (';' :: t) = none :=
      (hnext _).eq_none (hnil _) (isWall_semicolon t)
    rw [List.append_nil, ← List.append_assoc, takeGap_run_append hlong hsemicolon]
    rw [← List.append_nil gap, takeGap_run_append hgap (by simp), List.append_nil]
    split <;> split <;> simp [hstop, hnil]
  | cons c left =>
    have hmore : ∀ d ∈ (c :: left ++ r).head?, isBlank d = false := by simpa using hsolid
    have hleft : Unquoted (c :: left) := fun d hd => hs d (List.mem_append_right gap hd)
    rw [List.append_assoc, takeGap_run_append hgap hmore, takeGap_run_append hgap hsolid]
    split
    · rfl
    · exact hnext gap (c :: left) r hleft hr

theorem takePhrase_nil {w : List Char} {ws : List (List Char)} (hw : w ≠ []) :
    takePhrase (w :: ws) [] = none := by
  cases ws <;> simp [takePhrase, takeWord_nil hw]

theorem stopsAtWalls_takePhrase {ws : List (List Char)} (hws : ∀ w ∈ ws, IsPlainWord w) :
    StopsAtWalls (takePhrase ws) := by
  induction ws with
  | nil => exact fun _ _ _ _ => rfl
  | cons w ws ih =>
    obtain ⟨hw, hmore⟩ := List.forall_mem_cons.1 hws
    cases ws with
    | nil => exact stopsAtWalls_takeWord hw
    | cons v ws =>
      have hv : v ≠ [] := (hmore v (by simp)).ne_nil
      have hphrase (m gap : List Char) : StopsAtWalls fun s =>
          (takePhrase (v :: ws) s).map fun x => (m ++ gap ++ x.1, x.2) :=
        (ih hmore).map (f := fun more _ => m ++ gap ++ more) fun _ _ _ _ => rfl
      have hgap (m : List Char) : StopsAtWalls fun s => (takeGap s).bind fun x =>
          (takePhrase (v :: ws) x.2).map fun y => (m ++ x.1 ++ y.1, y.2) :=
        stopsAtWalls_afterGap (hphrase m) fun _ => by rw [takePhrase_nil hv]; rfl
      have hall := (stopsAtWalls_takeWord hw).bind (suffix_of_takeWord w) hgap
      have heq : takePhrase (w :: v :: ws) = fun s => (takeWord w s).bind fun x =>
          (takeGap x.2).bind fun y => (takePhrase (v :: ws) y.2).map fun z =>
            (x.1 ++ y.1 ++ z.1, z.2) := by
        funext s
        simp only [takePhrase, Option.map_eq_bind]
        rfl
      rw [heq]
      exact hall

end Capture

/-! ## Identifiers -/

section

variable {r : List Char}

theorem IsWall.isNameChar_head (h : IsWall r) : ∀ c ∈ r.head?, isNameChar c = false := by
  obtain ⟨c, s, rfl, hc⟩ := h.exists_cons
  intro d hd
  obtain rfl : c = d := by simpa using hd
  rcases hc with hblank | rfl
  · exact isNameChar_of_isBlank hblank
  · decide

theorem Segment.stopsAtWalls_take? : StopsAtWalls Segment.take? := by
  intro s r hs hr
  cases s with
  | nil =>
    obtain ⟨c, t, rfl, hc⟩ := hr.exists_cons
    have hname : isNameChar c = false := hr.isNameChar_head c (by simp)
    have hopening : Quoting.ofOpening? c = none := by
      rcases hc with hblank | rfl
      · by_contra hne
        obtain ⟨q, hq⟩ := Option.ne_none_iff_exists'.1 hne
        rw [Quoting.opening_of_ofOpening? hq, q.opening_solid] at hblank
        exact absurd hblank (by simp)
      · rfl
    simp [take?, hopening, hname]
  | cons c s =>
    have hopening : Quoting.ofOpening? c = none := hs c (by simp)
    have htake := takeWhile_append_stop hr.isNameChar_head s
    have hdrop := dropWhile_append_stop hr.isNameChar_head s
    simp only [List.cons_append, take?, hopening, htake, hdrop]
    split <;> rfl

theorem Unquoted.of_suffix {s t : List Char} (h : Unquoted t) (hst : s <:+ t) : Unquoted s :=
  fun c hc => h c (hst.subset hc)

theorem Segment.suffix_of_take? (s : List Char) (g : Segment) (rest : List Char)
    (h : Segment.take? s = some (g, rest)) : rest <:+ s :=
  ⟨g.text, (Segment.take?_sound h).2⟩

theorem dottedSegments_append_wall {s : List Char} (hs : Unquoted s) (hr : IsWall r) :
    dottedSegments (s ++ r) = ((dottedSegments s).1, (dottedSegments s).2 ++ r) := by
  fun_induction dottedSegments s with
  | case1 t g left hg more after hmore ih =>
    have hread : Segment.take? (t ++ r) = some (g, left ++ r) := by
      have := Segment.stopsAtWalls_take? t r (hs.of_suffix (List.suffix_cons '.' t)) hr
      rw [this, hg]
      rfl
    have hleft : left <:+ '.' :: t :=
      (Segment.suffix_of_take? t g left hg).trans (List.suffix_cons '.' t)
    have ih := ih (hs.of_suffix hleft)
    rw [hmore] at ih
    rw [List.cons_append, dottedSegments_of_take? hread, ih]
  | case2 t hg =>
    have hread : Segment.take? (t ++ r) = none := by
      have := Segment.stopsAtWalls_take? t r (hs.of_suffix (List.suffix_cons '.' t)) hr
      rw [this, hg]
      rfl
    exact dottedSegments_of_take?_eq_none hread
  | case3 s hdot =>
    refine dottedSegments_of_noSegment ?_
    rintro g left - heq
    cases s with
    | nil =>
      have := hr.isNameChar_head
      obtain ⟨c, u, rfl, hc⟩ := hr.exists_cons
      obtain ⟨rfl, _⟩ := List.cons.inj heq
      revert hc
      decide
    | cons c s => exact hdot s (by rw [(List.cons.inj heq).1])

theorem Identifier.stopsAtWalls_take? : StopsAtWalls Identifier.take? := by
  intro s r hs hr
  rw [take?, Segment.stopsAtWalls_take? s r hs hr, take?, Option.map_map, Option.map_map]
  cases hg : Segment.take? s with
  | none => rfl
  | some x =>
    have hleft := hs.of_suffix (Segment.suffix_of_take? s x.1 x.2 hg)
    simp [dottedSegments_append_wall hleft hr]

end

/-! ## Captures -/

namespace Capture

theorem opensParenthesis_append_wall {r : List Char} (hr : IsWall r) (s : List Char) :
    opensParenthesis (s ++ r) = opensParenthesis s := by
  have hwall : opensParenthesis r = false := by
    obtain ⟨g, t, hg, rfl⟩ := hr
    have hsemicolon : isBlank ';' = false := by decide
    rw [opensParenthesis, dropWhile_run_append hg (by simp [hsemicolon])]
    rfl
  induction s with
  | nil => exact hwall
  | cons c s ih =>
    by_cases hc : isBlank c = true
    · simpa [opensParenthesis, hc] using ih
    · simp [opensParenthesis, hc]

theorem suffix_of_takePhrase (ws : List (List Char)) (s m rest : List Char)
    (h : takePhrase ws s = some (m, rest)) : rest <:+ s := by
  fun_induction takePhrase ws s generalizing m rest with
  | case1 s =>
    cases h
    exact List.suffix_rfl
  | case2 w s => exact suffix_of_takeWord w s m rest h
  | case3 w v ws s ih =>
    simp only [bind, Option.bind_eq_some_iff, Prod.exists, pure, Option.some.injEq] at h
    obtain ⟨m₁, s₁, h₁, gap, s₂, h₂, m₂, s₃, h₃, heq⟩ := h
    cases heq
    have hword : s₁ <:+ s := suffix_of_takeWord w s m₁ s₁ h₁
    have hgap : s₂ <:+ s₁ := ⟨gap, (takeGap_eq_some_iff.1 h₂).2.2.1⟩
    exact (ih s₂ m₂ rest h₃).trans (hgap.trans hword)

theorem stopsAtWalls_withPhrase? {ws : List (List Char)} (hws : ∀ w ∈ ws, IsPlainWord w) :
    StopsAtWalls (withPhrase? ws) := by
  have hidentifier (m : List Char) : StopsAtWalls fun s => (Identifier.take? s).map fun x =>
      ((⟨m, x.1, opensParenthesis x.2⟩ : Capture), x.2) :=
    Identifier.stopsAtWalls_take?.map (f := fun i rest => (⟨m, i, opensParenthesis rest⟩ : Capture))
      fun i rest r hr => by rw [opensParenthesis_append_wall hr]
  have hgap (m : List Char) : StopsAtWalls fun s => (takeGap s).bind fun x =>
      (Identifier.take? x.2).map fun y => ((⟨m, y.1, opensParenthesis y.2⟩ : Capture), y.2) :=
    stopsAtWalls_afterGap (fun _ => hidentifier m) fun _ => rfl
  have hall := (stopsAtWalls_takePhrase hws).bind (suffix_of_takePhrase ws) hgap
  have heq : withPhrase? ws = fun s => (takePhrase ws s).bind fun x =>
      (takeGap x.2).bind fun y => (Identifier.take? y.2).map fun z =>
        (⟨x.1, z.1, opensParenthesis z.2⟩, z.2) := by
    funext s
    simp only [withPhrase?, Option.map_eq_bind]
    rfl
  rw [heq]
  exact hall

theorem stopsAtWalls_take? {phrases : List (List (List Char))}
    (h : ∀ p ∈ phrases, ∀ w ∈ p, IsPlainWord w) : StopsAtWalls (take? phrases) := by
  intro s r hs hr
  induction phrases with
  | nil => rfl
  | cons p phrases ih =>
    obtain ⟨hp, hmore⟩ := List.forall_mem_cons.1 h
    have ih := ih hmore
    simp only [take?, List.findSome?_cons] at ih ⊢
    rw [stopsAtWalls_withPhrase? hp s r hs hr]
    cases withPhrase? p s with
    | none => exact ih
    | some x => rfl

/-- The identifier of a capture is well formed and stands in the text, with the rest behind it. -/
theorem identifier_of_take? {phrases : List (List (List Char))} {s rest : List Char} {c : Capture}
    (h : take? phrases s = some (c, rest)) :
    c.identifier.WellFormed ∧ c.identifier.text ++ rest <:+ s := by
  obtain ⟨p, _, hp⟩ := List.exists_of_findSome?_eq_some h
  simp only [withPhrase?, bind, Option.bind_eq_some_iff, Prod.exists, pure, Option.some.injEq]
    at hp
  obtain ⟨m, s₁, h₁, gap, s₂, h₂, i, s₃, h₃, heq⟩ := hp
  cases heq
  have hphrase : s₁ <:+ s := suffix_of_takePhrase p s m s₁ h₁
  have hgap : s₂ <:+ s₁ := ⟨gap, (takeGap_eq_some_iff.1 h₂).2.2.1⟩
  obtain ⟨hw, rfl, -⟩ := Identifier.take?_eq_some_iff.1 h₃
  exact ⟨hw, hgap.trans hphrase⟩

theorem suffix_of_take? {phrases : List (List (List Char))} {s rest : List Char} {c : Capture}
    (h : take? phrases s = some (c, rest)) : rest <:+ s :=
  (List.suffix_append _ _).trans (identifier_of_take? h).2

theorem take?_nil (phrases : List (List (List Char))) : take? phrases [] = none := by
  cases h : take? phrases [] with
  | none => rfl
  | some x => exact absurd (length_lt_of_take? h) (by simp)

end Capture

section

variable {phrases : List (List (List Char))} {r : List Char}

/-- A wall is passed over, whatever stands before it. -/
theorem capturesAfter_wall (h : ∀ p ∈ phrases, ∀ w ∈ p, IsPlainWord w) {g : List Char}
    (hg : IsGap g) (t : List Char) (before : Option Char) :
    capturesAfter phrases before (g ++ ';' :: t) = capturesAfter phrases (some ';') t := by
  have hnone {u : List Char} (hu : IsWall u) : Capture.take? phrases u = none :=
    (Capture.stopsAtWalls_take? h).eq_none (Capture.take?_nil phrases) hu
  induction g generalizing before with
  | nil => exact capturesAfter_cons_of_none (hnone (isWall_semicolon t)) before
  | cons c g ih =>
    have hwall : IsWall (c :: g ++ ';' :: t) := ⟨c :: g, t, hg, rfl⟩
    rw [List.cons_append] at hwall ⊢
    rw [capturesAfter_cons_of_none (hnone hwall),
      ih fun d hd => hg d (List.mem_cons_of_mem c hd)]

/-- The captures before a wall are those of the text before it, and the others are found behind the
semicolon. -/
theorem capturesAfter_append_wall (h : ∀ p ∈ phrases, ∀ w ∈ p, IsPlainWord w) {s g : List Char}
    (hs : Unquoted s) (hg : IsGap g) (t : List Char) (before : Option Char) :
    capturesAfter phrases before (s ++ (g ++ ';' :: t)) =
      capturesAfter phrases before s ++ capturesAfter phrases (some ';') t := by
  have hwall : IsWall (g ++ ';' :: t) := ⟨g, t, hg, rfl⟩
  fun_induction capturesAfter phrases before s with
  | case1 before => exact capturesAfter_wall h hg t before
  | case2 before c rest hfree capture left hread ih =>
    have hlong : Capture.take? phrases (c :: (rest ++ (g ++ ';' :: t))) =
        some (capture, left ++ (g ++ ';' :: t)) := by
      have := Capture.stopsAtWalls_take? h (c :: rest) _ hs hwall
      rwa [hread] at this
    have ih := ih (hs.of_suffix (Capture.suffix_of_take? hread))
    rw [List.cons_append, capturesAfter_cons_of_some hfree hlong, ih, List.cons_append]
  | case3 before c rest hfree hread ih =>
    have hlong : Capture.take? phrases (c :: (rest ++ (g ++ ';' :: t))) = none := by
      have := Capture.stopsAtWalls_take? h (c :: rest) _ hs hwall
      rwa [hread] at this
    rw [List.cons_append, capturesAfter_cons_of_none hlong]
    exact ih (hs.of_suffix (List.suffix_cons c rest))
  | case4 before c rest hfree ih =>
    rw [List.cons_append, capturesAfter, if_neg hfree]
    exact ih (hs.of_suffix (List.suffix_cons c rest))

end

end SqlTables.Sql
