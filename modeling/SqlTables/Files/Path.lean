import SqlTables.Document.Display

/-!
# Paths

A path is a sequence of names, with a mark of where it starts when that is not the working
directory.  Empty names and single dots between slashes are not part of it.
-/

set_option autoImplicit false

namespace SqlTables.Files

/-- A path in normal form. -/
structure Path where
  /-- The slashes in front of an absolute path, empty for a relative one. -/
  root : String
  names : List String
deriving DecidableEq, Repr, Inhabited

namespace Path

/-- The slashes that mark a path as absolute: two when there are exactly two, else one. -/
def rootOf (s : List Char) : String :=
  match s with
  | '/' :: '/' :: '/' :: _ => "/"
  | '/' :: '/' :: _ => "//"
  | '/' :: _ => "/"
  | _ => ""

/-- The path of a text. -/
def parse (s : String) : Path where
  root := rootOf s.toList
  names := (s.splitOn "/").filter fun n => n ≠ "" ∧ n ≠ "."

/-- A path as text; the working directory itself is a dot. -/
def text (p : Path) : String :=
  if p.root = "" ∧ p.names = [] then "." else p.root ++ "/".intercalate p.names

/-- The last name of a path. -/
def name (p : Path) : String := p.names.getLast?.getD ""

/-- The path without its last name. -/
def parent (p : Path) : Path := { p with names := p.names.dropLast }

/-- A path below another: an absolute one stands for itself. -/
def join (p q : Path) : Path :=
  if q.root = "" then { p with names := p.names ++ q.names } else q

/-- A name cut before its last dot, when the dot is neither its first nor its last character. -/
def splitSuffix (name : String) : String × String :=
  let chars := name.toList
  let ending := (chars.reverse.takeWhile (· != '.')).reverse
  let stem := chars.take (chars.length - ending.length - 1)
  if ending.isEmpty || ending.length = chars.length || stem.isEmpty then (name, "")
  else (String.ofList stem, String.ofList ('.' :: ending))

/-- The suffix of the last name, with its dot. -/
def suffix (p : Path) : String := (splitSuffix p.name).2

/-- The path with another suffix on its last name. -/
def withSuffix (p : Path) (suffix : String) : Path :=
  { p with names := p.names.dropLast ++ [(splitSuffix p.name).1 ++ suffix] }

/-- The order of texts: code point by code point. -/
def codesLe : List Char → List Char → Bool
  | [], _ => true
  | _ :: _, [] => false
  | a :: s, b :: t => if a = b then codesLe s t else a.toNat < b.toNat

/-- The order of sequences of names: name by name. -/
def namesLe : List String → List String → Bool
  | [], _ => true
  | _ :: _, [] => false
  | m :: ms, n :: ns => if m = n then namesLe ms ns else codesLe m.toList n.toList

/-- The order of paths: name by name, and names by code points. -/
def le (p q : Path) : Bool := namesLe p.names q.names

end Path

/-- Why an operation on a file failed. -/
inductive FileError where
  | notFound (path : String)
  | exists (path : String)
  | notDirectory (path : String)
  | isDirectory (path : String)
  | nameTooLong (path : String)
deriving DecidableEq, Repr

/-- The wording of a file error. -/
def FileError.message : FileError → String
  | notFound p => "[Errno 2] No such file or directory: " ++ Document.quotedText p
  | .exists p => "[Errno 17] File exists: " ++ Document.quotedText p
  | notDirectory p => "[Errno 20] Not a directory: " ++ Document.quotedText p
  | isDirectory p => "[Errno 21] Is a directory: " ++ Document.quotedText p
  | nameTooLong p => "[Errno 36] File name too long: " ++ Document.quotedText p

end SqlTables.Files
