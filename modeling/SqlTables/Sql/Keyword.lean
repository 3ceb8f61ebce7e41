import SqlTables.Text.Blank
import SqlTables.Text.Case

/-!
# Keywords

A keyword is a phrase that may stand before a table name.  Phrases are compared and kept in a
normal form: no outer blanks, single spaces inside.  `normalize` brings a list of phrases into that
form, drops the blank ones and keeps the first of equal ones.

A keyword has a role: it reads from the table after it or writes to it.
-/

set_option autoImplicit false

namespace SqlTables.Sql

namespace Keyword

/-- Phrases in normal form, none blank, each at its first place only. -/
def normalize (phrases : List String) : List String :=
  ((phrases.map Text.collapsed).filter (· ≠ "")).eraseDups

/-- The words of a phrase. -/
def wordsOf (phrase : String) : List (List Char) := Text.words phrase.toList

/-- Whether `a` is tried before `b` at one place: more words first, then more characters. -/
def precedes (a b : String) : Bool :=
  let x := (wordsOf a).length
  let y := (wordsOf b).length
  y < x || (x == y && b.length ≤ a.length)

/-- Phrases in the order in which they are tried; equally long ones keep their order. -/
def byLength (phrases : List String) : List String := phrases.mergeSort precedes

/-- The phrases every dialect has. -/
def standard : List String := [
  "FROM", "JOIN", "INNER JOIN", "LEFT JOIN", "RIGHT JOIN", "FULL JOIN", "CROSS JOIN", "OUTER JOIN",
  "INTO", "UPDATE", "DELETE FROM", "INSERT INTO", "REPLACE INTO", "UPSERT INTO", "MERGE INTO",
  "USING"]

theorem normalize_standard : normalize standard = standard := by rfl

end Keyword

/-- What a statement does with the table after a keyword. -/
inductive Role where
  /-- The table is read. -/
  | source
  /-- The table is written. -/
  | target
deriving DecidableEq, Repr

namespace Role

/-- Whether `needle` occurs in `s` as an unbroken stretch. -/
def occursIn (needle : List Char) : List Char → Bool
  | [] => needle.isEmpty
  | c :: s => needle.isPrefixOf (c :: s) || occursIn needle s

/-- The role of a keyword: `FROM`, `USING` and every kind of `JOIN` read, all others write.
Case is ignored by comparing upper-case forms. -/
def ofKeyword (phrase : List Char) : Role :=
  let s := Text.collapse (Text.upper phrase)
  if s = "FROM".toList ∨ occursIn "JOIN".toList s ∨ s = "USING".toList then source else target

end Role

end SqlTables.Sql
