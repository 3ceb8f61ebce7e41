import SqlTables.Files.Tree
import SqlTables.Noted

/-!
# Actions

A computation that may change files, besides leaving notices.  What it changed and told stays, also
when it fails.
-/

set_option autoImplicit false

namespace SqlTables

/-- The files as they are now, and the notices so far. -/
structure World where
  files : Files.Tree
  notices : List Notice

/-- A computation with a result or a failure that may change files. -/
abbrev Action (α : Type) := ExceptT Failure (StateM World) α

namespace Action

/-- Does a computation that changes no files, given the files. -/
def reading {α : Type} (x : Files.Tree → Noted α) : Action α := fun w =>
  let (outcome, notices) := (x w.files).outcome
  (outcome, { w with notices := w.notices ++ notices })

/-- Does a computation that needs no files. -/
def noting {α : Type} (x : Noted α) : Action α := reading fun _ => x

/-- Fails. -/
def fail {α : Type} (failure : Failure) : Action α := fun w => (.error failure, w)

/-- Changes files, if they can be changed so; `left` is what there is of them when they cannot. -/
def changing (f : Files.Tree → Except Failure Files.Tree) (left : Files.Tree → Files.Tree) :
    Action Unit := fun w =>
  match f w.files with
  | .ok files => (.ok (), { w with files })
  | .error failure => (.error failure, { w with files := left w.files })

/-- Does a computation whose failures are handled if they are of a kind. -/
def handling {α : Type} (x : Action α) (handles : Failure → Bool) (handler : Failure → Action α) :
    Action α := fun w =>
  match x w with
  | (.error failure, later) =>
    if handles failure then handler failure later else (.error failure, later)
  | done => done

/-- The outcome of an action on files, the files and the notices afterwards. -/
def outcome {α : Type} (x : Action α) (files : Files.Tree) :
    Except Failure α × Files.Tree × List Notice :=
  let (result, w) := x.run.run ⟨files, []⟩
  (result, w.files, w.notices)

end Action

end SqlTables
