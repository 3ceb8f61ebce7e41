import SqlTables.Sql.Lexeme
import SqlTables.Text.Blank

/-!
# Scrubbed SQL

The form of a query in which keywords are looked for: without comments, with a space in place of
each string literal, and with blanks collapsed.  Quoted identifiers stay as they are.

A double-quoted span is a literal when it follows a comparison (`name = "John"`) and an identifier
anywhere else; what counts is the last character that is not blank among those already kept.
-/

set_option autoImplicit false

namespace SqlTables.Sql

/-- The characters after which a double-quoted span is a string literal. -/
def isComparison (c : Char) : Bool := c == '=' || c == '!' || c == '<' || c == '>'

/-- The last character of `s` that is not blank, or `before` when there is none. -/
def lastSolid (before : Option Char) (s : List Char) : Option Char :=
  s.foldl (fun last c => if Text.isBlank c then last else some c) before

/-- What a lexeme leaves behind when `before` is the last character kept that is not blank. -/
def Lexeme.kept (before : Option Char) : Lexeme → List Char
  | lineComment _ | blockComment _ => []
  | literal _ => [' ']
  | quoted s => if before.any isComparison then [' '] else s
  | other c => [c]

/-- What a list of lexemes leaves behind. -/
def keep (before : Option Char) : List Lexeme → List Char
  | [] => []
  | l :: ls => l.kept before ++ keep (lastSolid before (l.kept before)) ls

/-- A query without its comments and literals, its blanks collapsed. -/
def scrub (s : List Char) : List Char := Text.collapse (keep none (Lexeme.cut s))

/-- `scrub` on strings. -/
def scrubbed (s : String) : String := String.ofList (scrub s.toList)

theorem lastSolid_append (before : Option Char) (s t : List Char) :
    lastSolid before (s ++ t) = lastSolid (lastSolid before s) t :=
  List.foldl_append

@[simp] theorem keep_nil (before : Option Char) : keep before [] = [] := rfl

theorem keep_append (before : Option Char) (ls ms : List Lexeme) :
    keep before (ls ++ ms) =
      keep before ls ++ keep (lastSolid before (keep before ls)) ms := by
  induction ls generalizing before with
  | nil => simp [lastSolid]
  | cons l ls ih => simp [keep, ih, lastSolid_append]

end SqlTables.Sql
