import SqlTables.Files.Path

/-!
# Patterns

Patterns for names: a star stands for any characters, a question mark for one, and brackets for one
of a set, which may hold ranges and may be negated by an exclamation mark.  A bracket that is never
closed stands for itself.  Letters must agree in case.

A path matches a pattern of several names when its last names match them one by one.
-/

set_option autoImplicit false

namespace SqlTables.Files

/-- A part of a pattern. -/
inductive PatternPart where
  /-- Any characters. -/
  | anyRun
  /-- Any one character. -/
  | anyOne
  | literal (c : Char)
  /-- One character within one of the ranges, or within none of them. -/
  | oneOf (negated : Bool) (ranges : List (Char × Char))
deriving DecidableEq, Repr

/-- A pattern for a name. -/
abbrev Pattern := List PatternPart

namespace Pattern

/-- Cuts the inside of brackets at the hyphens that make ranges.  The first character, and the two
after such a hyphen, make none; `skip` counts these, and `current` is the stretch being read,
reversed.  A hyphen at the very end stands for itself. -/
def stretches : Nat → List Char → List Char → List (List Char)
  | _, current, [] => if current.isEmpty then [] else [current.reverse]
  | 0, current, '-' :: rest =>
    if rest.isEmpty then [('-' :: current).reverse] else current.reverse :: stretches 2 [] rest
  | skip, current, c :: rest => stretches (skip - 1) (c :: current) rest

/-- Whether a range between two stretches is empty, since its ends are reversed. -/
def isReversed (left right : List Char) : Bool :=
  match left.getLast?, right.head? with
  | some a, some b => b < a
  | _, _ => false

/-- Drops the ranges that are empty, from right to left; the stretches around them become one. -/
def dropReversed (parts : List (List Char)) : List (List Char) :=
  parts.foldr (fun part rest =>
    match rest with
    | [] => [part]
    | next :: more =>
      if isReversed part next then (part.dropLast ++ next.tail) :: more else part :: rest) []

/-- A character as a range. -/
def single (c : Char) : Char × Char := (c, c)

/-- The ranges of stretches: between two of them the range from the last character of the first to
the first of the second, and the other characters by themselves. -/
def rangesOf (current : List Char) : List (List Char) → List (Char × Char)
  | [] => current.map single
  | next :: more =>
    let between := match current.getLast?, next.head? with
      | some a, some b => [(a, b)]
      | _, _ => []
    current.dropLast.map single ++ between ++ rangesOf next.tail more

/-- The set that the inside of brackets stands for. -/
def setOf (inside : List Char) : PatternPart :=
  let (negated, body) := match inside with
    | '!' :: rest => (true, rest)
    | other => (false, other)
  match dropReversed (stretches 1 [] body) with
  | [] => .oneOf negated []
  | first :: more => .oneOf negated (rangesOf first more)

/-- The inside of brackets after the opening one, and what follows the closing one.  A closing
bracket that comes first, or first after the exclamation mark, does not close. -/
def inside? (s : List Char) : Option (List Char × List Char) :=
  let mark := match s with
    | '!' :: _ => 1
    | _ => 0
  let lead := match s.drop mark with
    | ']' :: _ => mark + 1
    | _ => mark
  let body := (s.drop lead).takeWhile (· != ']')
  match (s.drop lead).drop body.length with
  | _ :: after => some (s.take lead ++ body, after)
  | [] => none

/-- The pattern of a text; `fuel` bounds its length. -/
def parseParts : Nat → List Char → Pattern
  | 0, _ => []
  | _, [] => []
  | fuel + 1, '*' :: rest => .anyRun :: parseParts fuel rest
  | fuel + 1, '?' :: rest => .anyOne :: parseParts fuel rest
  | fuel + 1, '[' :: rest =>
    match inside? rest with
    | some (inside, after) => setOf inside :: parseParts fuel after
    | none => .literal '[' :: parseParts fuel rest
  | fuel + 1, c :: rest => .literal c :: parseParts fuel rest

/-- The pattern of a text. -/
def parse (s : String) : Pattern := parseParts s.length s.toList

/-- Whether a part stands for a character. -/
def accepts (part : PatternPart) (c : Char) : Bool :=
  match part with
  | .anyRun | .anyOne => true
  | .literal d => c == d
  | .oneOf negated ranges => negated != ranges.any fun r => r.1 ≤ c && c ≤ r.2

/-- Whether a pattern stands for a text. -/
def fits : Pattern → List Char → Bool
  | [], s => s.isEmpty
  | .anyRun :: .anyRun :: parts, s => fits (.anyRun :: parts) s
  | .anyRun :: parts, [] => fits parts []
  | .anyRun :: parts, c :: s => fits parts (c :: s) || fits (.anyRun :: parts) s
  | _ :: _, [] => false
  | part :: parts, c :: s => accepts part c && fits parts s
termination_by parts s => (parts.length, s.length)

end Pattern

/-- Whether a name matches a pattern as written. -/
def nameMatches (pattern name : String) : Bool := (Pattern.parse pattern).fits name.toList

namespace Path

/-- Whether names match patterns one by one. -/
def allMatch (patterns names : List String) : Bool :=
  (patterns.zip names).all fun (p, n) => nameMatches p n

/-- Whether a path matches a pattern of paths: its last names match, or all of them when the
pattern is absolute.  A pattern without names is none. -/
def matches? (p : Path) (pattern : String) : Option Bool :=
  let q := Path.parse pattern
  if q.root = "" ∧ q.names = [] then none
  else if q.root = "" then
    if p.names.length < q.names.length then some false
    else some (allMatch q.names (p.names.drop (p.names.length - q.names.length)))
  else some (q.root = p.root && q.names.length = p.names.length && allMatch q.names p.names)

end Path

end SqlTables.Files
