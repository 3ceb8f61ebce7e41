import SqlTables.Text.Letter

/-!
# Identifiers

A table name in SQL text is one or more segments joined by dots.  A segment is a run of word
characters with the sigils `@` and `#`, or a body between brackets, double quotes or backticks.
The main statement, `Segment.take?_sound`, says that taking a segment loses nothing: what was taken
is well formed, and its written form followed by the rest is the text it was taken from.
-/

set_option autoImplicit false

namespace SqlTables.Sql

/-- The three ways to quote a segment. -/
inductive Quoting where
  | brackets
  | doubleQuotes
  | backticks
deriving DecidableEq, Repr

namespace Quoting

/-- The character that opens a quoted segment. -/
def opening : Quoting → Char
  | brackets => '['
  | doubleQuotes => '"'
  | backticks => '`'

/-- The character that closes a quoted segment and so cannot stand in its body. -/
def closing : Quoting → Char
  | brackets => ']'
  | doubleQuotes => '"'
  | backticks => '`'

/-- The quoting that a character opens. -/
def ofOpening? (c : Char) : Option Quoting :=
  if c = '[' then some brackets
  else if c = '"' then some doubleQuotes
  else if c = '`' then some backticks
  else none

theorem ofOpening?_opening (q : Quoting) : ofOpening? q.opening = some q := by
  cases q <;> rfl

theorem opening_of_ofOpening? {c : Char} {q : Quoting} (h : ofOpening? c = some q) :
    c = q.opening := by
  unfold ofOpening? at h
  split at h
  · cases h; assumption
  · split at h
    · cases h; assumption
    · split at h
      · cases h; assumption
      · simp at h

end Quoting

/-- The characters of unquoted segments. -/
def isNameChar (c : Char) : Bool := Text.isWordChar c || c == '@' || c == '#'

/-- One part of a dotted identifier. -/
inductive Segment where
  | plain (body : List Char)
  | quoted (quoting : Quoting) (body : List Char)
deriving DecidableEq, Repr

namespace Segment

/-- The characters of a segment without its quotes. -/
def body : Segment → List Char
  | plain b | quoted _ b => b

/-- The characters of a segment as written. -/
def text : Segment → List Char
  | plain b => b
  | quoted q b => q.opening :: (b ++ [q.closing])

/-- A segment that can be written: its body is not empty and its quotes hold it together. -/
def WellFormed : Segment → Prop
  | plain b => b ≠ [] ∧ ∀ c ∈ b, isNameChar c = true
  | quoted q b => b ≠ [] ∧ q.closing ∉ b

instance (s : Segment) : Decidable s.WellFormed :=
  match s with
  | plain b =>
    decidable_of_iff (b.isEmpty = false ∧ b.all isNameChar = true) (by simp [WellFormed])
  | quoted q b =>
    decidable_of_iff (b.isEmpty = false ∧ b.contains q.closing = false) (by simp [WellFormed])

/-- The longest segment at the head of a text, and what follows it. -/
def take? : List Char → Option (Segment × List Char)
  | [] => none
  | c :: rest =>
    match Quoting.ofOpening? c with
    | some q =>
      match rest.takeWhile (· != q.closing), rest.dropWhile (· != q.closing) with
      | b :: bs, _ :: left => some (quoted q (b :: bs), left)
      | _, _ => none
    | none =>
      if isNameChar c then
        some (plain (c :: rest.takeWhile isNameChar), rest.dropWhile isNameChar)
      else none

/-- A segment that was taken is well formed, and written in front of the rest it is the text. -/
theorem take?_sound {s rest : List Char} {g : Segment} (h : take? s = some (g, rest)) :
    g.WellFormed ∧ g.text ++ rest = s := by
  cases s with
  | nil => simp [take?] at h
  | cons c r =>
    simp only [take?] at h
    split at h
    · next q hq =>
      split at h
      · next b bs d left hb hd =>
        simp only [Option.some.injEq, Prod.mk.injEq] at h
        obtain ⟨rfl, rfl⟩ := h
        have hc := Quoting.opening_of_ofOpening? hq
        have hsplit := List.takeWhile_append_dropWhile (p := (· != q.closing)) (l := r)
        rw [hb, hd] at hsplit
        have hdc : d = q.closing := by
          have := List.head?_dropWhile_not (· != q.closing) r
          rw [hd] at this
          simpa using this
        refine ⟨⟨by simp, ?_⟩, ?_⟩
        · intro hmem
          have := List.all_takeWhile (p := (· != q.closing)) (l := r)
          rw [hb, List.all_eq_true] at this
          simpa using this _ hmem
        · simp [text, hc, ← hsplit, hdc]
      · simp at h
    · next hq =>
      split at h
      · next hn =>
        simp only [Option.some.injEq, Prod.mk.injEq] at h
        obtain ⟨rfl, rfl⟩ := h
        refine ⟨⟨by simp, ?_⟩, by simp [text]⟩
        intro d hd
        rcases List.mem_cons.1 hd with rfl | hd
        · exact hn
        · have := List.all_takeWhile (p := isNameChar) (l := r)
          rw [List.all_eq_true] at this
          exact this d hd
      · simp at h

theorem text_ne_nil {g : Segment} (h : g.WellFormed) : g.text ≠ [] := by
  cases g with
  | plain b => exact h.1
  | quoted q b => simp [text]

theorem length_lt_of_take? {s rest : List Char} {g : Segment} (h : take? s = some (g, rest)) :
    rest.length < s.length := by
  obtain ⟨hw, rfl⟩ := take?_sound h
  have := List.length_pos_iff.2 (text_ne_nil hw)
  rw [List.length_append]
  omega

end Segment

/-- The segments after a first one: as many `.segment` as the text offers. -/
def dottedSegments (s : List Char) : List Segment × List Char :=
  match s with
  | '.' :: rest =>
    match _h : Segment.take? rest with
    | some (g, left) =>
      let (more, after) := dottedSegments left
      (g :: more, after)
    | none => ([], s)
  | _ => ([], s)
termination_by s.length
decreasing_by
  have := Segment.length_lt_of_take? _h
  simp only [List.length_cons]
  omega

theorem length_of_dottedSegments (s : List Char) : (dottedSegments s).2.length ≤ s.length := by
  fun_induction dottedSegments s with
  | case1 rest g left h more after hmore ih =>
    have := Segment.length_lt_of_take? h
    simp only [hmore, List.length_cons] at ih ⊢
    omega
  | case2 => simp
  | case3 => simp

/-- A dotted identifier: a first segment and those after the dots. -/
structure Identifier where
  first : Segment
  more : List Segment
deriving DecidableEq, Repr

namespace Identifier

/-- All segments of an identifier. -/
def segments (i : Identifier) : List Segment := i.first :: i.more

/-- The identifier as written. -/
def text (i : Identifier) : List Char := ['.'].intercalate (i.segments.map Segment.text)

/-- The name an identifier stands for: the bodies of its segments joined by dots. -/
def name (i : Identifier) : List Char := ['.'].intercalate (i.segments.map Segment.body)

/-- The longest identifier at the head of a text, and what follows it. -/
def take? (s : List Char) : Option (Identifier × List Char) :=
  (Segment.take? s).map fun (g, rest) =>
    let (more, left) := dottedSegments rest
    (⟨g, more⟩, left)

end Identifier

/-- The segments found anywhere in a text, from left to right. -/
def segmentsIn (s : List Char) : List Segment :=
  match s with
  | [] => []
  | c :: rest =>
    match _h : Segment.take? (c :: rest) with
    | some (g, left) => g :: segmentsIn left
    | none => segmentsIn rest
termination_by s.length
decreasing_by
  · exact Segment.length_lt_of_take? _h
  · simp

/-- A written name without one layer of quotes around each of its segments.  A text in which no
segment is found stays as it is. -/
def clean (s : List Char) : List Char :=
  match segmentsIn s with
  | [] => s
  | gs => ['.'].intercalate (gs.map Segment.body)

/-- `clean` on strings. -/
def cleaned (s : String) : String := String.ofList (clean s.toList)

/-- The part of a name after its last dot. -/
def bare (s : List Char) : List Char := (s.reverse.takeWhile (· != '.')).reverse

/-- `bare` on strings. -/
def bareName (s : String) : String := String.ofList (bare s.toList)

end SqlTables.Sql
