import SqlTables.Command.Usage

/-!
# Arguments

A command line is a list of words.  A word that begins with a dash gives options, the others are
arguments.  An option has a long name, and maybe a letter; options of a letter may stand together
behind one dash.  The value of an option is attached to it, or is the next word, whatever that is.
After a word of two dashes all words are arguments.
-/

set_option autoImplicit false

namespace SqlTables.Command

/-- What an option does to the choices made so far. -/
inductive Effect (σ : Type) where
  | flag (apply : σ → σ)
  | value (apply : String → σ → σ)

/-- An option. -/
structure OptionForm (σ : Type) where
  /-- The long name, with its dashes. -/
  name : String
  letter : Option Char := none
  effect : Effect σ

/-- What is known after some words. -/
structure Progress (σ : Type) where
  choices : σ
  /-- The option whose value is the next word. -/
  waiting : Option (String × (String → σ → σ)) := none
  /-- Whether all further words are arguments. -/
  closed : Bool := false
  arguments : List String := []

namespace Progress

variable {σ : Type}

/-- Reads the letters behind one dash; what follows the letter of an option that takes a value is
its value. -/
def letters (forms : List (OptionForm σ)) (p : Progress σ) :
    List Char → Except UsageError (Progress σ)
  | [] => .ok p
  | c :: rest =>
    match forms.find? (·.letter = some c) with
    | none => .error (.unknownOption (String.ofList ['-', c]))
    | some form =>
      match form.effect with
      | .flag apply => letters forms { p with choices := apply p.choices } rest
      | .value apply =>
        if rest.isEmpty then .ok { p with waiting := some (form.name, apply) }
        else .ok { p with choices := apply (String.ofList rest) p.choices }

/-- Reads an option by its long name, with the value attached to it behind an equals sign. -/
def longOption (form : OptionForm σ) (attached : Option String) (p : Progress σ) :
    Except UsageError (Progress σ) :=
  match form.effect, attached with
  | .flag apply, none => .ok { p with choices := apply p.choices }
  | .flag _, some _ => .error (.unexpectedValue form.name)
  | .value apply, some v => .ok { p with choices := apply v p.choices }
  | .value apply, none => .ok { p with waiting := some (form.name, apply) }

/-- Reads a word that begins with a dash. -/
def options (forms : List (OptionForm σ)) (p : Progress σ) (word : String) :
    Except UsageError (Progress σ) :=
  let chars := word.toList
  let name := String.ofList (chars.takeWhile (· != '='))
  let attached := match chars.dropWhile (· != '=') with
    | [] => none
    | _ :: v => some (String.ofList v)
  match forms.find? (·.name = name) with
  | some form => p.longOption form attached
  | none =>
    if "--".toList.isPrefixOf chars then .error (.unknownOption name)
    else p.letters forms chars.tail

/-- Reads a word.  Where arguments and options are not `mixed`, the first argument ends the
options. -/
def word (forms : List (OptionForm σ)) (mixed : Bool) (p : Progress σ) (w : String) :
    Except UsageError (Progress σ) :=
  match p.waiting with
  | some (_, apply) => .ok { p with choices := apply w p.choices, waiting := none }
  | none =>
    if p.closed then .ok { p with arguments := p.arguments ++ [w] }
    else if w = "--" then .ok { p with closed := true }
    else if w.startsWith "-" && w != "-" then p.options forms w
    else .ok { p with arguments := p.arguments ++ [w], closed := !mixed }

end Progress

/-- The choices that words make, and the arguments among them. -/
def readArguments {σ : Type} (forms : List (OptionForm σ)) (mixed : Bool) (initial : σ)
    (words : List String) : Except UsageError (σ × List String) := do
  let p ← words.foldlM (Progress.word forms mixed) { choices := initial }
  match p.waiting with
  | some (option, _) => .error (.missingValue option)
  | none => .ok (p.choices, p.arguments)

end SqlTables.Command
