import SqlTables.Decimal.Limit
import SqlTables.Document.Display

/-!
# Faults of documents

Why a text has no value in the format that it is read in.
-/

set_option autoImplicit false

namespace SqlTables.Document

/-- The name of a collection that nests too deeply. -/
inductive Nest where
  | array
  | object
  /-- One of any kind. -/
  | node
deriving DecidableEq, Repr

/-- Why a text has no value. -/
inductive ReadError where
  /-- It is not of its format, or has a part without a meaning. -/
  | malformed
  /-- A whole number is too long. -/
  | tooLong (error : Decimal.LimitError)
  /-- Collections stand in one another too many times. -/
  | tooDeep (nest : Nest)
  /-- An escape stands for no character. -/
  | noCharacter (code : Nat)
  /-- A scalar is no whole number in the base that it is written in. -/
  | notWhole (base : Nat) (literal : String)
  /-- A scalar is no decimal. -/
  | notDecimal (literal : String)
  /-- A scalar that is to be a number has no digits. -/
  | noDigits
  /-- A power of sixty is greater than all doubles. -/
  | beyondDoubles
  /-- A scalar that is to be a truth value is another word. -/
  | notTruth (word : String)
  /-- A scalar that is to be a day or time is something else. -/
  | notStamp
  /-- A day or time is out of the calendar. -/
  | notInCalendar (message : String)
deriving DecidableEq, Repr

namespace ReadError

/-- The most characters of a text in quotes that are shown of a scalar that is no whole number. -/
def shownLength : Nat := 200

/-- The greatest number by which a character is asked for in one machine word with a sign. -/
def greatestWord : Nat := 0x7FFFFFFF

/-- The wording of a fault. -/
def message : ReadError → String
  | malformed => ""
  | tooLong e => e.message
  | tooDeep .array =>
    "maximum recursion depth exceeded while decoding a JSON array from a unicode string"
  | tooDeep .object =>
    "maximum recursion depth exceeded while decoding a JSON object from a unicode string"
  | tooDeep .node => "maximum recursion depth exceeded"
  | noCharacter code =>
    if code ≤ greatestWord then "chr() arg not in range(0x110000)"
    else "Python int too large to convert to C int"
  | notWhole base literal =>
    let shown := String.ofList ((quotedText literal).toList.take shownLength)
    s!"invalid literal for int() with base {base}: {shown}"
  | notDecimal literal =>
    let shown := quotedText literal
    s!"could not convert string to float: {shown}"
  | noDigits => "string index out of range"
  | beyondDoubles => "int too large to convert to float"
  | notTruth word => word
  | notStamp => ""
  | notInCalendar text => text

/-- Whether a fault is one of form or of a value out of its range, and not of a word without a
meaning or of limits of the reader. -/
def isOfContent : ReadError → Bool
  | malformed | tooLong _ | notWhole .. | notDecimal _ | notInCalendar _ => true
  | noCharacter code => code ≤ greatestWord
  | tooDeep _ | noDigits | beyondDoubles | notTruth _ | notStamp => false

end ReadError

end SqlTables.Document
