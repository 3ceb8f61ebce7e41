import SqlTables.Sql.Capture

/-!
# Texts that look like SQL

A text looks like SQL when a word of it is one that statements begin with, in letters of any case.
-/

set_option autoImplicit false

namespace SqlTables.Sql

/-- The words that statements begin with. -/
def statementWords : List String := [
  "SELECT", "INSERT", "UPDATE", "DELETE", "CREATE", "ALTER", "DROP", "MERGE", "TRUNCATE", "EXEC",
  "EXECUTE"]

/-- Whether a word stands at the head of a text and ends there. -/
def isWordAt (word : String) (s : List Char) : Bool :=
  match Capture.takeWord word.toList s with
  | some (_, rest) => !rest.head?.any Text.isWordChar
  | none => false

/-- Whether one of the words that statements begin with stands in a text that follows the
character `before`. -/
def hasStatementAfter (before : Option Char) : List Char → Bool
  | [] => false
  | c :: rest =>
    (!before.any Text.isWordChar && statementWords.any (isWordAt · (c :: rest)))
      || hasStatementAfter (some c) rest

/-- Whether a text looks like SQL. -/
def looksLikeSql (s : List Char) : Bool := hasStatementAfter none s

end SqlTables.Sql
