import SqlTables.Command.Run

/-!
# The program

Runs a command line on the files below the working directory: they are read before the run, and
those that the run made or changed are written after it.
-/

set_option autoImplicit false

namespace SqlTables

open Files (Node Tree)

/-- The nodes below a directory, under their names from the working directory. -/
partial def readNodes (names : List String) (entries : Array IO.FS.DirEntry) :
    IO (List (List String × Node)) := do
  let mut nodes := []
  for entry in entries do
    let here := names ++ [entry.fileName]
    if ← entry.path.isDir then
      nodes := nodes ++ [(here, .directory)] ++ (← readNodes here (← entry.path.readDir))
    else
      nodes := nodes ++ [(here, .file (← IO.FS.readBinFile entry.path).toList)]
  return nodes

/-- Makes or writes a node in the working directory. -/
def writeNode (names : List String) : Node → IO Unit
  | .directory => IO.FS.createDirAll ("/".intercalate names)
  | .file bytes => do
    IO.FS.createDirAll ("/".intercalate ("." :: names.dropLast))
    IO.FS.writeBinFile ("/".intercalate names) ⟨bytes.toArray⟩

end SqlTables

open SqlTables

/-- Runs a command line. -/
def main (words : List String) : IO UInt32 := do
  let files : Files.Tree := ⟨← readNodes [] (← (← IO.currentDir).readDir)⟩
  let (outcome, later, notices) := Action.outcome (Command.run words) files
  for (names, node) in later.nodes do
    if files.node? names != some node then writeNode names node
  match outcome with
  | .error failure =>
    IO.eprintln ("Failure: " ++ failure.message)
    return 1
  | .ok (level, ending) =>
    for notice in notices do
      if level.tells notice.level then IO.eprintln notice.message
    IO.print ending.out
    IO.eprint ending.err
    return ending.exitCode.toUInt32
