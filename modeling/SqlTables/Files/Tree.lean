import SqlTables.Files.Path

/-!
# File trees

The files and directories below the working directory, as a value: each node under its names from
there.  The working directory itself has no names and is always a directory.  Operations that
change files give a new tree or say why they cannot.
-/

set_option autoImplicit false

namespace SqlTables.Files

/-- A file with its bytes, or a directory. -/
inductive Node where
  | directory
  | file (bytes : List UInt8)
deriving DecidableEq, Repr

/-- The nodes below the working directory. -/
structure Tree where
  nodes : List (List String × Node)
deriving Repr, Inhabited

/-- Why a path leads nowhere. -/
inductive Obstacle where
  /-- A name on the way is not there. -/
  | missing
  /-- A name on the way is a file. -/
  | fileOnTheWay
  /-- A name is longer than file systems allow. -/
  | longName
deriving DecidableEq, Repr

/-- The error of an obstacle on a path. -/
def Obstacle.error (path : String) : Obstacle → FileError
  | missing => .notFound path
  | fileOnTheWay => .notDirectory path
  | longName => .nameTooLong path

namespace Tree

/-- The node under names that lead straight to it. -/
def node? (t : Tree) (names : List String) : Option Node :=
  if names = [] then some .directory else t.nodes.lookup names

/-- The longest name of a node, in bytes. -/
def longestName : Nat := 255

/-- Follows names from a node; two dots lead back up. -/
def walk (t : Tree) (base : List String) : List String → Except Obstacle (List String)
  | [] => .ok base
  | n :: rest =>
    match t.node? base with
    | some .directory =>
      if longestName < n.utf8ByteSize then .error .longName
      else
        let next := if n = ".." then base.dropLast else base ++ [n]
        if (t.node? next).isSome then walk t next rest else .error .missing
    | some (.file _) => .error .fileOnTheWay
    | none => .error .missing

/-- The names that a path leads to.  Nothing lies outside the working directory. -/
def locate (t : Tree) (p : Path) : Except Obstacle (List String) :=
  if p.root = "" then t.walk [] p.names else .error .missing

/-- The node that a path leads to. -/
def nodeAt? (t : Tree) (p : Path) : Option Node :=
  match t.locate p with
  | .ok names => t.node? names
  | .error _ => none

/-- The node that a path leads to as it is written: a slash or dot at its end asks for a directory,
and a blank one leads nowhere. -/
def nodeAsWritten? (t : Tree) (s : String) : Option Node :=
  match t.nodeAt? (.parse s) with
  | some (.file bytes) =>
    if s.endsWith "/" || s.endsWith "/." then none else some (.file bytes)
  | node => if s = "" then none else node

/-- Whether a path leads anywhere. -/
def exists? (t : Tree) (p : Path) : Bool := (t.nodeAt? p).isSome

/-- Whether a path leads to a directory. -/
def isDirectory (t : Tree) (p : Path) : Bool := t.nodeAt? p == some .directory

/-- The bytes of a file. -/
def read (t : Tree) (p : Path) : Except FileError (List UInt8) :=
  match t.locate p with
  | .error o => .error (o.error p.text)
  | .ok names =>
    match t.node? names with
    | some (.file bytes) => .ok bytes
    | some .directory => .error (.isDirectory p.text)
    | none => .error (.notFound p.text)

/-- Nodes with the one under some names set: in its place if it is there, else at the end. -/
def put (names : List String) (node : Node) :
    List (List String × Node) → List (List String × Node)
  | [] => [(names, node)]
  | (n, x) :: rest => if n = names then (n, node) :: rest else (n, x) :: put names node rest

/-- The tree with a node under some names. -/
def set (t : Tree) (names : List String) (node : Node) : Tree := ⟨put names node t.nodes⟩

/-- The names of the directory in which the last name of a path lies, with that name. -/
def place (t : Tree) (p : Path) : Except FileError (List String) :=
  match t.locate p.parent with
  | .error o => .error (o.error p.text)
  | .ok names =>
    match t.node? names with
    | some .directory =>
      if longestName < p.name.utf8ByteSize then .error (.nameTooLong p.text)
      else .ok (names ++ [p.name])
    | some (.file _) => .error (.notDirectory p.text)
    | none => .error (.notFound p.text)

/-- Writes a file in a directory that is there. -/
def write (t : Tree) (p : Path) (bytes : List UInt8) : Except FileError Tree :=
  if p.names = [] then .error (.isDirectory p.text)
  else do
    let names ← t.place p
    if t.node? names == some .directory then .error (.isDirectory p.text)
    else .ok (t.set names (.file bytes))

/-- Makes a directory in a directory that is there. -/
def makeDirectory (t : Tree) (p : Path) : Except FileError Tree :=
  if t.exists? p then .error (.exists p.text)
  else do
    let names ← t.place p
    .ok (t.set names .directory)

/-- Makes a directory in a directory that is there, or leaves the one that is there already. -/
def ensureDirectory (t : Tree) (p : Path) : Except FileError Tree :=
  match t.makeDirectory p with
  | .ok t' => .ok t'
  | .error e => if t.isDirectory p then .ok t else .error e

/-- Makes a directory and those above it that are missing; `depth` bounds their number. -/
def ensureDirectories (t : Tree) (p : Path) : Nat → Except FileError Tree
  | 0 => t.ensureDirectory p
  | depth + 1 =>
    match t.makeDirectory p with
    | .ok t' => .ok t'
    | .error (.notFound path) =>
      if p.names = [] then .error (.notFound path)
      else do
        let t' ← t.ensureDirectories p.parent depth
        t'.ensureDirectory p
    | .error e => if t.isDirectory p then .ok t else .error e

/-- Makes a directory and those above it that are missing. -/
def makeDirectories (t : Tree) (p : Path) : Except FileError Tree :=
  t.ensureDirectories p p.names.length

/-- What is left when a directory cannot be made: those above it that could be made stay. -/
def leftByEnsuring (t : Tree) (p : Path) : Nat → Tree
  | 0 => t
  | depth + 1 =>
    match t.makeDirectory p with
    | .error (.notFound _) =>
      if p.names = [] then t
      else match t.ensureDirectories p.parent depth with
        | .ok t' => t'
        | .error _ => t.leftByEnsuring p.parent depth
    | _ => t

/-- What is left when a directory and those above it that are missing cannot all be made. -/
def leftByMaking (t : Tree) (p : Path) : Tree := t.leftByEnsuring p p.names.length

/-- The paths of all nodes below a directory, in the order of paths; none if it is no directory. -/
def below (t : Tree) (root : Path) : List Path :=
  match t.locate root with
  | .error _ => []
  | .ok base =>
    let inside := t.nodes.filter fun (names, _) => base.isPrefixOf names && names != base
    (inside.map fun (names, _) => root.join ⟨"", names.drop base.length⟩).mergeSort Path.le

/-- A tree with a node, and directories above it where nothing is yet. -/
def plant (t : Tree) (p : Path) (node : Node) : Tree :=
  let parents := (List.range p.names.length).map p.names.take
  let withParents := parents.foldl (fun t names =>
    if (t.node? names).isSome then t else t.set names .directory) t
  if p.names = [] then withParents else withParents.set p.names node

end Tree

end SqlTables.Files
