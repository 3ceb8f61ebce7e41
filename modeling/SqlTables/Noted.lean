import SqlTables.Failure
import SqlTables.Notice

/-!
# Computations that leave notices

A computation may fail, and whether it does or not it leaves the notices of what happened before.
-/

set_option autoImplicit false

namespace SqlTables

/-- A computation with a result or a failure, and notices. -/
abbrev Noted (α : Type) := ExceptT Failure (StateM (List Notice)) α

namespace Noted

/-- Leaves notices. -/
def tell (notices : List Notice) : Noted Unit := fun earlier => (.ok (), earlier ++ notices)

/-- Fails. -/
def fail {α : Type} (failure : Failure) : Noted α := fun earlier => (.error failure, earlier)

/-- A result that may be missing for want of a value of the right kind. -/
def ofKind {α : Type} (r : Except Document.WrongKind α) : Noted α :=
  fun earlier => (r.mapError .wrongKind, earlier)

/-- A result with its notices. -/
def ofPair {α : Type} (p : α × List Notice) : Noted α := fun earlier => (.ok p.1, earlier ++ p.2)

/-- The outcome and the notices of a computation. -/
def outcome {α : Type} (x : Noted α) : Except Failure α × List Notice := x.run.run []

@[simp] theorem outcome_pure {α : Type} (a : α) :
    outcome (pure a : Noted α) = (.ok a, []) := rfl

@[simp] theorem outcome_fail {α : Type} (e : Failure) :
    outcome (fail e : Noted α) = (.error e, []) := rfl

end Noted

end SqlTables
