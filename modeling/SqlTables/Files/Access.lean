import SqlTables.Failure
import SqlTables.Files.Tree

/-!
# Access to files

The system takes no path that cannot be encoded, that holds a null character or that is too long as
a whole.  The operations on trees know nothing of this; those that are asked for by a path go
through this module.
-/

set_option autoImplicit false

namespace SqlTables.Files

variable [Text.Repertoire]

/-! ## Paths that are taken -/

namespace Path

/-- Whether half of a surrogate pair makes no name; the other halves stand for the bytes of names
that are not UTF-8. -/
def refusesHalf (n : Nat) : Bool := n < 0xDC80 || 0xDD00 ≤ n

/-- Why no file at all can have a path. -/
def rangeFault? (p : Path) : Option RangeFault :=
  match Bytes.Utf8.encodeErrorFrom? refusesHalf 0 p.text.toList with
  | some e => some (.unencodable e)
  | none => if p.text.toList.contains '\x00' then some (.worded "embedded null byte") else none

/-- The length of the longest path, in bytes. -/
def greatestLength : Nat := 4095

/-- Whether a path is too long as a whole. -/
def isTooLong (p : Path) : Bool := greatestLength < p.text.utf8ByteSize

/-- Why the system does not take a path. -/
def fault? (p : Path) : Option Failure :=
  match p.rangeFault? with
  | some fault => some (.badValue fault)
  | none => if p.isTooLong then some (.file (.nameTooLong p.text)) else none

end Path

/-! ## Looking for files -/

namespace Tree

/-- Whether a path leads to a name that is too long. -/
def endsInLongName (t : Tree) (p : Path) : Bool :=
  match t.locate p with
  | .error .longName => true
  | _ => false

/-- Why it cannot be told whether a path leads anywhere.  One that no file can have leads nowhere,
as do others; but one that is too long, in whole or in a name, is an error. -/
def lookFault? (t : Tree) (p : Path) : Option FileError :=
  if p.rangeFault?.isNone && (p.isTooLong || t.endsInLongName p) then some (.nameTooLong p.text)
  else none

/-- The node that a path leads to as it is written; one that is too long as a whole leads nowhere. -/
def nodeAsGiven? (t : Tree) (s : String) : Option Node :=
  if Path.greatestLength < s.utf8ByteSize then none else t.nodeAsWritten? s

/-- Whether a path leads anywhere, if it can be told. -/
def lookFor (t : Tree) (p : Path) : Except FileError Bool :=
  match t.lookFault? p with
  | some e => .error e
  | none => .ok (t.exists? p)

/-- Why the directories below a path cannot all be opened: the path, or that of one of them, is too
long. -/
def searchFault? (t : Tree) (root : Path) : Option FileError :=
  match t.lookFault? root with
  | some e => some e
  | none => ((t.below root).find? fun p => p.isTooLong && t.isDirectory p).map (.nameTooLong ·.text)

/-- The paths of all nodes below a directory, in order, unless some of it cannot be opened. -/
def search (t : Tree) (root : Path) : Except FileError (List Path) :=
  match t.searchFault? root with
  | some e => .error e
  | none => .ok (t.below root)

end Tree

/-! ## Changing files -/

/-- The files with a directory made, and those above it that are missing. -/
def makeDirectories (t : Tree) (p : Path) : Except Failure Tree :=
  match p.fault? with
  | some failure => .error failure
  | none => (t.makeDirectories p).mapError .file

/-- What is left when a directory cannot be made. -/
def leftByMaking (t : Tree) (p : Path) : Tree :=
  if p.fault?.isSome then t else t.leftByMaking p

/-- The files with a text written to one of them, in UTF-8.  It is opened before the text is
encoded. -/
def writeText (t : Tree) (p : Path) (s : String) : Except Failure Tree :=
  match p.fault? with
  | some failure => .error failure
  | none =>
    match t.write p (Bytes.Utf8.encode s.toList), Bytes.Utf8.encodeError? s.toList with
    | .error e, _ => .error (.file e)
    | .ok _, some e => .error (.badValue (.unencodable e))
    | .ok t', none => .ok t'

/-- What is left when a text cannot be written: a file that was opened is empty. -/
def leftByWriting (t : Tree) (p : Path) : Tree :=
  if p.fault?.isSome then t else (t.write p []).toOption.getD t

end SqlTables.Files
