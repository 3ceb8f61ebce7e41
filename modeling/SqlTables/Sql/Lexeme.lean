/-!
# Lexemes of SQL text

SQL text is cut from left to right into comments, string literals, double-quoted spans and single
other characters.  A lexeme is chosen by its first characters alone; one that is never closed runs
to the end of the text.  The main statement, `next_text`, says that cutting loses nothing: a
lexeme followed by the rest is the text it was cut from.
-/

set_option autoImplicit false

namespace SqlTables.Sql

/-- One piece of SQL text, with its own characters. -/
inductive Lexeme where
  /-- `--` up to the next newline, which is not part of it. -/
  | lineComment (chars : List Char)
  /-- `/*` through the next `*/`. -/
  | blockComment (chars : List Char)
  /-- `'` through the next `'` that is not one of a pair. -/
  | literal (chars : List Char)
  /-- `"` through the next `"`. -/
  | quoted (chars : List Char)
  /-- Any other character. -/
  | other (c : Char)
deriving DecidableEq, Repr

namespace Lexeme

/-- The characters of a lexeme, as they stand in the text. -/
def text : Lexeme → List Char
  | lineComment s | blockComment s | literal s | quoted s => s
  | other c => [c]

/-- Splits after the first `*/`. -/
def throughCommentEnd : List Char → List Char × List Char
  | [] => ([], [])
  | '*' :: '/' :: rest => (['*', '/'], rest)
  | c :: rest => let (taken, left) := throughCommentEnd rest; (c :: taken, left)

/-- Splits after the first single quote that does not begin a pair of them. -/
def throughLoneQuote : List Char → List Char × List Char
  | [] => ([], [])
  | '\'' :: '\'' :: rest =>
    let (taken, left) := throughLoneQuote rest; ('\'' :: '\'' :: taken, left)
  | '\'' :: rest => (['\''], rest)
  | c :: rest => let (taken, left) := throughLoneQuote rest; (c :: taken, left)

/-- Splits after the first occurrence of `stop`. -/
def through (stop : Char) : List Char → List Char × List Char
  | [] => ([], [])
  | c :: rest =>
    if c = stop then ([c], rest)
    else let (taken, left) := through stop rest; (c :: taken, left)

/-- The first lexeme of a text and what follows it. -/
def next : List Char → Option (Lexeme × List Char)
  | [] => none
  | '-' :: '-' :: rest =>
    some (lineComment ('-' :: '-' :: rest.takeWhile (· != '\n')), rest.dropWhile (· != '\n'))
  | '/' :: '*' :: rest =>
    some (blockComment ('/' :: '*' :: (throughCommentEnd rest).1), (throughCommentEnd rest).2)
  | '\'' :: rest => some (literal ('\'' :: (throughLoneQuote rest).1), (throughLoneQuote rest).2)
  | '"' :: rest => some (quoted ('"' :: (through '"' rest).1), (through '"' rest).2)
  | c :: rest => some (other c, rest)

theorem throughCommentEnd_append (s : List Char) :
    (throughCommentEnd s).1 ++ (throughCommentEnd s).2 = s := by
  fun_induction throughCommentEnd s <;> simp_all

theorem throughLoneQuote_append (s : List Char) :
    (throughLoneQuote s).1 ++ (throughLoneQuote s).2 = s := by
  fun_induction throughLoneQuote s <;> simp_all

theorem through_append (stop : Char) (s : List Char) :
    (through stop s).1 ++ (through stop s).2 = s := by
  fun_induction through stop s <;> simp_all

theorem text_ne_nil {s rest : List Char} {l : Lexeme} (h : next s = some (l, rest)) :
    l.text ≠ [] := by
  unfold next at h
  split at h <;> simp_all <;> simp [← h.1, text]

/-- A lexeme followed by the rest is the text it was cut from. -/
theorem next_text {s rest : List Char} {l : Lexeme} (h : next s = some (l, rest)) :
    l.text ++ rest = s := by
  unfold next at h
  split at h <;> simp_all <;> obtain ⟨rfl, rfl⟩ := h <;>
    simp [text, throughCommentEnd_append, throughLoneQuote_append, through_append]

theorem length_lt_of_next {s rest : List Char} {l : Lexeme} (h : next s = some (l, rest)) :
    rest.length < s.length := by
  rw [← next_text h, List.length_append]
  have := List.length_pos_iff.2 (text_ne_nil h)
  omega

/-- A text cut into lexemes. -/
def cut (s : List Char) : List Lexeme :=
  match _h : next s with
  | none => []
  | some (l, rest) => l :: cut rest
termination_by s.length
decreasing_by exact length_lt_of_next _h

/-- The lexemes of a text, put together again, are the text. -/
theorem flatMap_text_cut (s : List Char) : (cut s).flatMap text = s := by
  fun_induction cut s with
  | case1 s h => cases s <;> simp_all [next]; split at h <;> simp_all
  | case2 s l rest h ih => simp [ih, next_text h]

end Lexeme

end SqlTables.Sql
