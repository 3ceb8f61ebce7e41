import SqlTables.Sql.Identifier
import SqlTables.Sql.Keyword

/-!
# Captures

A capture is a keyword, a gap of blanks and an identifier, found in scrubbed SQL.  Captures are
taken greedily from left to right: none begins inside an earlier one, or right after a name
character, and at one place the keyword that is tried first and can be completed wins.
-/

set_option autoImplicit false

namespace SqlTables.Sql

/-- A keyword followed by an identifier. -/
structure Capture where
  /-- The keyword as it stands in the text. -/
  keyword : List Char
  identifier : Identifier
  /-- Whether an opening parenthesis follows. -/
  called : Bool
deriving DecidableEq, Repr

namespace Capture

/-- Matches a word at the head of a text, ignoring case; gives the matched text and the rest. -/
def takeWord : List Char → List Char → Option (List Char × List Char)
  | [], s => some ([], s)
  | _ :: _, [] => none
  | w :: ws, c :: s =>
    if Text.sameLetter w c then (takeWord ws s).map fun (m, rest) => (c :: m, rest) else none

/-- One or more blanks at the head of a text, and the rest. -/
def takeGap (s : List Char) : Option (List Char × List Char) :=
  match s.takeWhile Text.isBlank with
  | [] => none
  | gap => some (gap, s.dropWhile Text.isBlank)

/-- Matches the words of a phrase with gaps between them. -/
def takePhrase : List (List Char) → List Char → Option (List Char × List Char)
  | [], s => some ([], s)
  | [w], s => takeWord w s
  | w :: v :: ws, s => do
    let (m, afterWord) ← takeWord w s
    let (gap, afterGap) ← takeGap afterWord
    let (more, rest) ← takePhrase (v :: ws) afterGap
    return (m ++ gap ++ more, rest)

/-- Whether an opening parenthesis comes next, blanks aside. -/
def opensParenthesis (s : List Char) : Bool := (s.dropWhile Text.isBlank).head? == some '('

/-- The capture that begins at the head of a text with the given phrase. -/
def withPhrase? (phrase : List (List Char)) (s : List Char) : Option (Capture × List Char) := do
  let (keyword, afterKeyword) ← takePhrase phrase s
  let (_, afterGap) ← takeGap afterKeyword
  let (identifier, rest) ← Identifier.take? afterGap
  return (⟨keyword, identifier, opensParenthesis rest⟩, rest)

/-- The capture that begins at the head of a text with the first phrase that allows one. -/
def take? (phrases : List (List (List Char))) (s : List Char) : Option (Capture × List Char) :=
  phrases.findSome? (withPhrase? · s)

/-- Whether a keyword may begin after this character. -/
def isBoundary (before : Option Char) : Bool := !before.any isNameChar

theorem length_of_takeWord {w s m rest : List Char} (h : takeWord w s = some (m, rest)) :
    rest.length ≤ s.length := by
  induction w generalizing s m with
  | nil => simp [takeWord] at h; simp [h.2]
  | cons a w ih =>
    cases s with
    | nil => simp [takeWord] at h
    | cons c s =>
      simp only [takeWord] at h
      split at h
      · simp only [Option.map_eq_some_iff, Prod.exists] at h
        obtain ⟨m', rest', h', heq⟩ := h
        cases heq
        have := ih h'
        simp only [List.length_cons]
        omega
      · simp at h

theorem length_of_takeGap {s gap rest : List Char} (h : takeGap s = some (gap, rest)) :
    rest.length < s.length := by
  unfold takeGap at h
  split at h
  · simp at h
  · next hne =>
    cases h
    have hs := List.takeWhile_append_dropWhile (p := Text.isBlank) (l := s)
    have := congrArg List.length hs
    have hpos := List.length_pos_iff.2 hne
    rw [List.length_append] at this
    omega

theorem length_of_takePhrase {ws : List (List Char)} {s m rest : List Char}
    (h : takePhrase ws s = some (m, rest)) : rest.length ≤ s.length := by
  fun_induction takePhrase ws s generalizing m rest with
  | case1 s => simp at h; simp [h.2]
  | case2 w s => exact length_of_takeWord h
  | case3 w v ws s ih =>
    simp only [bind, Option.bind_eq_some_iff, Prod.exists, pure, Option.some.injEq] at h
    obtain ⟨m₁, s₁, h₁, g, s₂, h₂, m₂, s₃, h₃, heq⟩ := h
    cases heq
    have := length_of_takeWord h₁
    have := length_of_takeGap h₂
    have := ih _ h₃
    omega

theorem length_le_of_identifier {s rest : List Char} {i : Identifier}
    (h : Identifier.take? s = some (i, rest)) : rest.length < s.length := by
  simp only [Identifier.take?, Option.map_eq_some_iff, Prod.exists] at h
  obtain ⟨g, r, hg, heq⟩ := h
  have h₁ := Segment.length_lt_of_take? hg
  have h₂ := length_of_dottedSegments r
  cases heq
  omega

theorem length_lt_of_take? {phrases : List (List (List Char))} {s rest : List Char} {c : Capture}
    (h : take? phrases s = some (c, rest)) : rest.length < s.length := by
  obtain ⟨p, _, hp⟩ := List.exists_of_findSome?_eq_some h
  simp only [withPhrase?, bind, Option.bind_eq_some_iff, Prod.exists, pure, Option.some.injEq]
    at hp
  obtain ⟨m, s₁, h₁, g, s₂, h₂, i, s₃, h₃, heq⟩ := hp
  cases heq
  have := length_of_takePhrase h₁
  have := length_of_takeGap h₂
  have := length_le_of_identifier h₃
  omega

end Capture

/-- The captures of a text that follows the character `before`, from left to right. -/
def capturesAfter (phrases : List (List (List Char))) (before : Option Char) (s : List Char) :
    List Capture :=
  match s with
  | [] => []
  | c :: rest =>
    if Capture.isBoundary before then
      match _h : Capture.take? phrases (c :: rest) with
      | some (capture, left) =>
        capture :: capturesAfter phrases capture.identifier.text.getLast? left
      | none => capturesAfter phrases (some c) rest
    else capturesAfter phrases (some c) rest
termination_by s.length
decreasing_by
  · exact Capture.length_lt_of_take? _h
  · simp
  · simp

/-- The captures of a text for a list of keywords. -/
def captures (keywords : List String) (s : List Char) : List Capture :=
  capturesAfter ((Keyword.byLength keywords).map Keyword.wordsOf) none s

/-- Whether a capture is a function call rather than a table: a parenthesis follows, and the
keyword is one that reads. -/
def Capture.isCall (c : Capture) : Bool := c.called && Role.ofKeyword c.keyword == .source

/-- The name a capture stands for. -/
def Capture.name (c : Capture) : String := String.ofList c.identifier.name

end SqlTables.Sql
