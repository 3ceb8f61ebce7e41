import SqlTables.Text.CaseTable

/-!
# Letter case

Two notions of case live side by side.  `sameLetter` compares two characters one to one, as a
search that ignores case does: by their simple lower-case forms, with a few extra pairs that share
an upper-case form.  `upper` and `lower` convert whole texts, where one letter may become several.
-/

set_option autoImplicit false

namespace SqlTables.Text

/-- The simple lower-case form of a code point. -/
def lowerCode (n : Nat) : Nat :=
  if n < 0x80 then (if 0x41 ≤ n && n ≤ 0x5A then n + 0x20 else n) else mapRuns lowerRuns n

/-- The code points that stand for the lower-case code point `n` where case is ignored, besides
`n` itself. -/
def companions (n : Nat) : List Nat := (caseCompanions.lookup n).getD []

/-- Whether two characters are the same letter when case is ignored. -/
def sameLetter (a b : Char) : Bool :=
  let x := lowerCode a.toNat
  let y := lowerCode b.toNat
  x == y || (companions x).contains y

/-- The lower-case form of a character; only the dotted capital I takes two. -/
def lowerChar (c : Char) : List Char :=
  if c.toNat == 0x130 then ['i', Char.ofNat 0x307] else [Char.ofNat (lowerCode c.toNat)]

/-- The upper-case form of a character. -/
def upperChar (c : Char) : List Char :=
  let n := c.toNat
  if n < 0x80 then [c.toUpper]
  else match upperExpansions.lookup n with
    | some codes => codes.map Char.ofNat
    | none => [Char.ofNat (mapRuns upperRuns n)]

/-- Every letter in lower case. -/
def lower (s : List Char) : List Char := s.flatMap lowerChar

/-- Every letter in upper case. -/
def upper (s : List Char) : List Char := s.flatMap upperChar

/-- `lower` on strings. -/
def lowered (s : String) : String := String.ofList (lower s.toList)

end SqlTables.Text
