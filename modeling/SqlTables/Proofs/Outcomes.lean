import SqlTables.Action

/-!
# Outcomes of computations

When computations in sequence succeed, and with what: the parts of a sequence succeed one after the
other, each where the one before left off.  So a computation is taken apart by `bind_eq_ok_iff`
without regard to how notices and files are passed along.
-/

set_option autoImplicit false

namespace SqlTables

open Document (WrongKind)

/-! ## Results that may fail -/

theorem Outcome.ok_bind {ε α β : Type} (a : α) (f : α → Except ε β) :
    (Except.ok a >>= f) = f a := rfl

theorem Outcome.error_bind {ε α β : Type} (e : ε) (f : α → Except ε β) :
    (Except.error e >>= f) = .error e := rfl

theorem Outcome.bind_eq_ok_iff {ε α β : Type} {x : Except ε α} {f : α → Except ε β} {b : β} :
    (x >>= f) = .ok b ↔ ∃ a, x = .ok a ∧ f a = .ok b := by
  cases x <;> simp [bind, Except.bind]

theorem Outcome.exists_bind_pure_iff {ε α β : Type} {x : Except ε α} {g : α → β} :
    (∃ b, (x >>= fun a => pure (g a)) = .ok b) ↔ ∃ a, x = .ok a := by
  cases x with
  | error e => exact iff_of_false (fun ⟨_, h⟩ => nomatch h) (fun ⟨_, h⟩ => nomatch h)
  | ok a => exact iff_of_true ⟨_, rfl⟩ ⟨a, rfl⟩

theorem Outcome.map_eq_ok_iff {ε α β : Type} {x : Except ε α} {f : α → β} {b : β} :
    (f <$> x) = .ok b ↔ ∃ a, x = .ok a ∧ f a = b := by
  cases x <;> simp [Functor.map, Except.map]

theorem Outcome.toOption_eq_some_iff {ε α : Type} {x : Except ε α} {a : α} :
    x.toOption = some a ↔ x = .ok a := by
  cases x <;> simp [Except.toOption]

/-- Whether a test succeeds and says yes. -/
def Outcome.holds {ε : Type} : Except ε Bool → Bool
  | .ok b => b
  | .error _ => false

theorem Outcome.filterAuxM_eq_ok_iff {ε α : Type} {f : α → Except ε Bool} {xs acc ys : List α} :
    List.filterAuxM f xs acc = .ok ys ↔ (∀ x ∈ xs, ∃ b, f x = .ok b) ∧
      ys = (xs.filter fun x => holds (f x)).reverse ++ acc := by
  induction xs generalizing acc with
  | nil => simp [pure, Except.pure, eq_comm]
  | cons x xs ih =>
    rw [List.filterAuxM, bind_eq_ok_iff]
    cases hx : f x with
    | error e => simp [hx]
    | ok b => cases b <;> simp [ih, hx, holds]

/-- A list is filtered with a test that may fail if the test succeeds on each element. -/
theorem Outcome.filterM_eq_ok_iff {ε α : Type} {f : α → Except ε Bool} {xs ys : List α} :
    xs.filterM f = .ok ys ↔ (∀ x ∈ xs, ∃ b, f x = .ok b) ∧ ys = xs.filter fun x => holds (f x) := by
  simp only [List.filterM, bind_eq_ok_iff, filterAuxM_eq_ok_iff, pure, Except.pure]
  constructor
  · rintro ⟨zs, ⟨hf, rfl⟩, hys⟩
    cases hys
    exact ⟨hf, by simp⟩
  · rintro ⟨hf, rfl⟩
    exact ⟨_, ⟨hf, rfl⟩, by simp⟩

/-- A list is mapped by a function that may fail if the function succeeds on each element. -/
theorem Outcome.exists_mapM_eq_ok_iff {ε α β : Type} {f : α → Except ε β} {xs : List α} :
    (∃ ys, xs.mapM f = .ok ys) ↔ ∀ x ∈ xs, ∃ y, f x = .ok y := by
  induction xs with
  | nil => simp [pure, Except.pure]
  | cons x xs ih =>
    rw [List.forall_mem_cons, ← ih]
    simp only [List.mapM_cons, bind_eq_ok_iff]
    constructor
    · rintro ⟨_, y, hy, ys, hys, -⟩
      exact ⟨⟨y, hy⟩, ys, hys⟩
    · rintro ⟨⟨y, hy⟩, ys, hys⟩
      exact ⟨y :: ys, y, hy, ys, hys, rfl⟩

/-! ## Sequences -/

section Sequence

variable {ε σ α β : Type} {x : ExceptT ε (StateM σ) α} {f : α → ExceptT ε (StateM σ) β}
  {s s' : σ}

theorem bind_apply (x : ExceptT ε (StateM σ) α) (f : α → ExceptT ε (StateM σ) β) (s : σ) :
    (x >>= f) s =
      match x s with
      | (.ok a, s') => f a s'
      | (.error e, s') => (.error e, s') := by
  show (match x s with | (r, s') => ExceptT.bindCont f r s') = _
  rcases x s with ⟨_ | a, s'⟩ <;> rfl

theorem bind_of_ok {a : α} (h : x s = (.ok a, s')) : (x >>= f) s = f a s' := by
  rw [bind_apply, h]

theorem bind_of_error {e : ε} (h : x s = (.error e, s')) : (x >>= f) s = (.error e, s') := by
  rw [bind_apply, h]

theorem bind_eq_ok_iff {b : β} :
    (x >>= f) s = (.ok b, s') ↔ ∃ a mid, x s = (.ok a, mid) ∧ f a mid = (.ok b, s') := by
  rw [bind_apply]
  constructor
  · intro h
    split at h
    · exact ⟨_, _, ‹_›, h⟩
    · cases h
  · rintro ⟨a, mid, hx, hf⟩
    rwa [hx]

theorem map_apply (g : α → β) (x : ExceptT ε (StateM σ) α) (s : σ) :
    (g <$> x) s = ((x s).1.map g, (x s).2) := by
  show (x >>= fun a => pure (g a)) s = _
  rw [bind_apply]
  rcases x s with ⟨_ | a, s'⟩ <;> rfl

end Sequence

/-! ## Computations with notices -/

namespace Noted

variable {α β : Type} {earlier later : List Notice}

theorem ofKind_eq_ok_iff {r : Except WrongKind α} {a : α} :
    ofKind r earlier = (.ok a, later) ↔ r = .ok a ∧ earlier = later := by
  cases r with
  | error kind =>
    constructor
    · intro h
      cases h
    · rintro ⟨h, -⟩
      cases h
  | ok a' =>
    constructor
    · intro h
      cases h
      exact ⟨rfl, rfl⟩
    · rintro ⟨h, rfl⟩
      cases h
      rfl

theorem ofKind_ok_bind (a : α) (f : α → Noted β) : ofKind (.ok a) >>= f = f a := rfl

theorem ofKind_bind_congr {r : Except WrongKind α} {f g : α → Noted β}
    (h : ∀ a, r = .ok a → f a = g a) : ofKind r >>= f = ofKind r >>= g := by
  cases r with
  | error kind => rfl
  | ok a =>
    show f a = g a
    exact h a rfl

/-- A result that may be missing. -/
def ofResult (r : Except Failure α) : Noted α := fun earlier => (r, earlier)

theorem ofResult_eq_ok_iff {r : Except Failure α} {a : α} :
    ofResult r earlier = (.ok a, later) ↔ r = .ok a ∧ earlier = later := by
  constructor
  · intro h
    cases h
    exact ⟨rfl, rfl⟩
  · rintro ⟨rfl, rfl⟩
    rfl

theorem outcome_apply (x : Noted α) : x.outcome = x [] := rfl

theorem outcome_bind_of_error {x : Noted α} {failure : Failure}
    (h : x.outcome.1 = .error failure) (f : α → Noted β) :
    (x >>= f).outcome.1 = .error failure := by
  have hx : x [] = (.error failure, (x []).2) := Prod.ext h rfl
  rw [outcome_apply, bind_of_error hx]

end Noted

/-! ## Computations on files -/

namespace Action

variable {α : Type} {w w' : World}

theorem reading_apply (x : Files.Tree → Noted α) (w : World) :
    reading x w = ((x w.files).outcome.1, ⟨w.files, w.notices ++ (x w.files).outcome.2⟩) := rfl

theorem reading_eq_ok_iff {x : Files.Tree → Noted α} {a : α} :
    reading x w = (.ok a, w') ↔ (x w.files).outcome.1 = .ok a ∧
      w' = ⟨w.files, w.notices ++ (x w.files).outcome.2⟩ := by
  rw [reading_apply, Prod.mk.injEq]
  exact and_congr_right' eq_comm

theorem noting_tell (notices : List Notice) (w : World) :
    noting (Noted.tell notices) w = (.ok (), ⟨w.files, w.notices ++ notices⟩) := rfl

theorem changing_eq_ok_iff {f : Files.Tree → Except Failure Files.Tree}
    {left : Files.Tree → Files.Tree} {u : Unit} :
    changing f left w = (.ok u, w') ↔ f w.files = .ok w'.files ∧ w'.notices = w.notices := by
  unfold changing
  constructor
  · intro h
    split at h
    · cases h
      exact ⟨‹_›, rfl⟩
    · cases h
  · rintro ⟨hfiles, hnotices⟩
    rw [hfiles, ← hnotices]

theorem changing_of_ok {f : Files.Tree → Except Failure Files.Tree}
    {left : Files.Tree → Files.Tree} {files : Files.Tree} (h : f w.files = .ok files) :
    changing f left w = (.ok (), ⟨files, w.notices⟩) := by
  simp [changing, h]

theorem outcome_eq_iff {x : Action α} {files files' : Files.Tree} {notices : List Notice}
    {result : Except Failure α} :
    x.outcome files = (result, files', notices) ↔ x ⟨files, []⟩ = (result, ⟨files', notices⟩) := by
  show ((x ⟨files, []⟩).1, (x ⟨files, []⟩).2.files, (x ⟨files, []⟩).2.notices) = _ ↔ _
  rcases x ⟨files, []⟩ with ⟨found, w⟩
  constructor
  · intro h
    cases h
    rfl
  · intro h
    cases h
    rfl

end Action

end SqlTables
