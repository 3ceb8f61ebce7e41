import SqlTables.Document.Value

/-!
# Values used as something

Documents and requests are loosely typed, so a value may stand where one of another kind is
needed.  Each function here takes a value for a purpose and says, when it does not serve it, what
was wanted.  A value that is not given (null, zero, empty) stands for the blank text.
-/

set_option autoImplicit false

namespace SqlTables.Document

/-- What a value was wanted for and does not serve as. -/
inductive WrongKind where
  /-- A text was wanted, to be split, trimmed or put in lower case. -/
  | notText
  /-- A mapping was wanted. -/
  | notMapping
  /-- Something with items was wanted. -/
  | notItems
  /-- Texts were wanted, to be joined to one. -/
  | notJoinable
  /-- A path was wanted. -/
  | notPath
  /-- A pattern was wanted. -/
  | notPattern
  /-- Something was wanted that can be a key or an element of a set. -/
  | notKey
  /-- The name of a setting was wanted. -/
  | notName
  /-- A record's own class or dictionary was to be replaced by something else. -/
  | notReplaceable
  /-- A record was to change a part of itself that is fixed. -/
  | notWritable
  /-- A setting that the record no longer has was wanted. -/
  | notPresent
  /-- A request has a field that its kind does not have. -/
  | notField
deriving DecidableEq, Repr

namespace Value

/-- The items of a value: those of a list, the characters of a text, the keys of a mapping.  A
collection inside itself is not gone into. -/
def items : Value → Except WrongKind (List Value)
  | list xs | tuple xs | set xs => .ok xs
  | text s => .ok (s.toList.map fun c => text (String.singleton c))
  | bytes bs => .ok (bs.map fun b => int b.toNat)
  | map entries => .ok (entries.map (·.1))
  | again _ => .ok []
  | _ => .error .notItems

/-- The items of a value; one that is not given has none. -/
def givenItems (v : Value) : Except WrongKind (List Value) :=
  if v.isGiven then v.items else .ok []

/-- A value as a text; one that is not given is blank. -/
def phrase (v : Value) : Except WrongKind String :=
  match v with
  | text s => .ok s
  | v => if v.isGiven then .error .notText else .ok ""

/-- The entries of a value as a mapping; one that is not given has none. -/
def givenEntries (v : Value) : Except WrongKind (List (Value × Value)) :=
  match v with
  | map entries => .ok entries
  | again true => .ok []
  | v => if v.isGiven then .error .notMapping else .ok []

/-- Values as texts. -/
def phrases (vs : List Value) : Except WrongKind (List String) := vs.mapM phrase

/-- Texts as a list. -/
def ofTexts (texts : List String) : Value := list (texts.map text)

theorem phrase_text (s : String) : phrase (text s) = .ok s := rfl

/-- Texts are phrases as they are. -/
theorem phrases_texts (texts : List String) : phrases (texts.map text) = .ok texts := by
  induction texts with
  | nil => rfl
  | cons s texts ih =>
    rw [phrases] at ih ⊢
    rw [List.map_cons, List.mapM_cons, ih]
    rfl

/-- The items of a list of texts are these texts. -/
theorem givenItems_ofTexts (texts : List String) :
    (ofTexts texts).givenItems = .ok (texts.map text) := by
  cases texts <;> rfl

end Value

end SqlTables.Document
