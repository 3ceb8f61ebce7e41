import SqlTables.Noted

/-!
# Keyword presets

The keywords of a dialect are the standard ones, those the dialect adds, and those that presets
add to it.  A preset belongs to the dialect that its key spells, in letters of any case.
-/

set_option autoImplicit false

namespace SqlTables.Sql

open Document (Value WrongKind)

/-- The phrases that presets add to a dialect. -/
def presetPhrases (d : Dialect) (presets : List (String × List String)) : List String :=
  (presets.filter fun p => Dialect.ofSpelling? p.1 = some d).flatMap (·.2)

/-- The keywords of a dialect with presets. -/
def Dialect.allKeywords (d : Dialect) (presets : List (String × List String)) : List String :=
  Keyword.normalize (Keyword.standard ++ (d.keywords ++ presetPhrases d presets))

/-- The dialect that a value names. -/
def Dialect.ofValue (v : Value) : Except Failure Dialect :=
  match v.phrase with
  | .error k => .error (.wrongKind k)
  | .ok s =>
    match Dialect.parse? s with
    | some d => .ok d
    | none => .error (.unknownDialect v.display)

/-- The items that presets add to a dialect.  Only the presets of that dialect are looked into. -/
def presetItems (d : Dialect) : List (Value × Value) → Except WrongKind (List Value)
  | [] => .ok []
  | (.text key, values) :: rest => do
    let own ← if Dialect.ofSpelling? key = some d then values.givenItems else .ok []
    return own ++ (← presetItems d rest)
  | _ :: _ => .error .notText

/-- The keywords of a dialect with presets, from values. -/
def keywordsOf (d : Dialect) (presets : Value) : Noted (List String) := do
  let entries ← Noted.ofKind presets.givenEntries
  let items ← Noted.ofKind (presetItems d entries)
  if d.keywords = [] ∧ items.isEmpty then Noted.tell [.noPreset d]
  let phrases ← Noted.ofKind (Value.phrases items)
  return Keyword.normalize (Keyword.standard ++ (d.keywords ++ phrases))

/-- The keywords for a value that names a dialect, the standard ones if it is not given. -/
def keywordsForDialect (dialect presets : Value) : Noted (List String) := do
  if dialect.isGiven then
    match Dialect.ofValue dialect with
    | .ok d => keywordsOf d presets
    | .error failure => Noted.fail failure
  else return Keyword.standard

end SqlTables.Sql
