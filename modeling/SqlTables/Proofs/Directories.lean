import SqlTables.Proofs.Trees

/-!
# Making directories and writing files

What making directories and writing a file do to a tree.  If they succeed, the tree only evolves:
nothing but the written file changes (`makeDirectories_ok`, `write_ok`).  Below a directory they
succeed when names are short enough, no file is in the way and the file to be written is no
directory (`makeDirectories_of_clear`, `write_below`), and then what is there afterwards is known
node by node.
-/

set_option autoImplicit false

namespace SqlTables.Files.Tree

variable {t t' t'' : Tree} {p : Path}

/-! ## The place of a path -/

theorem Path.names_eq_concat (h : p.names ≠ []) : p.names = p.names.dropLast ++ [p.name] := by
  have hlast := List.dropLast_concat_getLast h
  rw [Path.name, List.getLast?_eq_some_getLast h]
  exact hlast.symm

/-- A path is followed by following all but its last name first. -/
theorem locate_eq_parent (h : p.names ≠ []) :
    t.locate p = t.locate p.parent >>= fun k => t.enter k p.name := by
  have hp : p = ⟨p.root, p.names.dropLast ++ [p.name]⟩ := by rw [← Path.names_eq_concat h]
  conv_lhs => rw [hp]
  exact locate_append t p.root p.names.dropLast [p.name]

theorem place_eq_ok_iff {names : List String} :
    t.place p = .ok names ↔ ∃ k, t.locate p.parent = .ok k ∧ t.node? k = some .directory ∧
      p.name.utf8ByteSize ≤ longestName ∧ names = k ++ [p.name] := by
  unfold place
  constructor
  · intro h
    split at h
    · cases h
    · rename_i k hk
      split at h
      · split at h
        · cases h
        · cases h
          exact ⟨k, hk, ‹_›, by omega, rfl⟩
      · cases h
      · cases h
  · rintro ⟨k, hk, hdirectory, hshort, rfl⟩
    simp [hk, hdirectory, Nat.not_lt.2 hshort]

theorem isDirectory_iff :
    t.isDirectory p = true ↔ ∃ k, t.locate p = .ok k ∧ t.node? k = some .directory := by
  unfold isDirectory nodeAt?
  cases t.locate p with
  | error o => simp
  | ok k => simp

theorem exists?_of_locate {k : List String} (h : t.locate p = .ok k) : t.exists? p = true := by
  unfold exists? nodeAt?
  rw [h]
  exact isSome_of_locate h

theorem exists?_of_isDirectory (h : t.isDirectory p = true) : t.exists? p = true :=
  exists?_of_locate (isDirectory_iff.1 h).choose_spec.1

/-! ## What a change does -/

/-- A tree with more nodes and nothing else changed. -/
abbrev Grows (t t' : Tree) : Prop := Evolves (fun _ => False) t t'

theorem makeDirectory_eq_ok_iff :
    t.makeDirectory p = .ok t' ↔
      t.exists? p = false ∧ ∃ names, t.place p = .ok names ∧ t' = t.set names .directory := by
  unfold makeDirectory
  cases t.exists? p with
  | true => simp
  | false =>
    cases t.place p with
    | error e => simp [bind, Except.bind]
    | ok names => simp [bind, Except.bind, eq_comm]

theorem write_eq_ok_iff {bytes : List UInt8} :
    t.write p bytes = .ok t' ↔ p.names ≠ [] ∧ ∃ names, t.place p = .ok names ∧
      t.node? names ≠ some .directory ∧ t' = t.set names (.file bytes) := by
  unfold write
  by_cases hnames : p.names = []
  · simp [hnames]
  · cases t.place p with
    | error e => simp [hnames, bind, Except.bind]
    | ok names =>
      by_cases hdirectory : t.node? names = some .directory
      · simp [hnames, hdirectory, bind, Except.bind]
      · simp [hnames, hdirectory, bind, Except.bind]
        exact eq_comm

/-- The place of a path that leads nowhere is free, and its last name leads down. -/
theorem Grounded.place_free (ht : t.Grounded) {k : List String} (hk : t.locate p.parent = .ok k)
    (hdirectory : t.node? k = some .directory) (hshort : p.name.utf8ByteSize ≤ longestName)
    (hfree : t.exists? p = false) :
    p.names ≠ [] ∧ p.name ≠ ".." ∧ t.node? (k ++ [p.name]) = none := by
  have hlost : ∀ m, t.locate p ≠ .ok m := fun m hm => by
    rw [exists?_of_locate hm] at hfree
    cases hfree
  have hnames : p.names ≠ [] := fun hnil => by
    refine hlost k ?_
    have hparent : p.parent = p := by
      obtain ⟨root, names⟩ := p
      simp_all [Path.parent]
    rwa [hparent] at hk
  have hnext : (t.node? (next k p.name)).isSome = false := by
    by_contra hsome
    rw [Bool.not_eq_false] at hsome
    refine hlost (next k p.name) ?_
    rw [locate_eq_parent hnames, hk]
    exact enter_eq_ok_iff.2 ⟨hdirectory, hshort, rfl, hsome⟩
  have hdots : p.name ≠ ".." := fun hname => by
    rw [next, if_pos hname, ht.inDirectory hdirectory] at hnext
    cases hnext
  refine ⟨hnames, hdots, ?_⟩
  rw [next, if_neg hdots] at hnext
  simpa using hnext

/-- A node set in a directory leaves a tree grounded, unless a file takes the place of a
directory. -/
theorem Grounded.set (ht : t.Grounded) {k : List String} {n : String} {node : Node}
    (hk : t.node? k = some .directory) (hn : n ≠ "..")
    (hnode : node = .directory ∨ t.node? (k ++ [n]) ≠ some .directory) :
    (t.set (k ++ [n]) node).Grounded where
  inDirectory {m x} hm := by
    rw [node?_set (by simp)] at hm ⊢
    have hparent : t.node? m.dropLast = some .directory := by
      split at hm
      · rename_i heq
        rw [heq, List.dropLast_concat]
        exact hk
      · exact ht.inDirectory hm
    split
    · rename_i heq
      rw [heq] at hparent
      rw [hnode.resolve_right (· hparent)]
    · exact hparent
  no_dots {m x} hm := by
    rw [node?_set (by simp)] at hm
    split at hm
    · rename_i heq
      have := ht.no_dots hk
      simp [heq, this, Ne.symm hn]
    · exact ht.no_dots hm

/-- A node that is set where no directory is changes nothing else. -/
theorem evolves_set {names : List String} (hnames : names ≠ []) {node : Node}
    (hplace : t.node? names ≠ some .directory)
    (hnode : node = .directory → t.node? names = none) :
    Evolves (· = names) t (t.set names node) where
  directory {k} hk := by
    rw [node?_set hnames, if_neg fun heq => hplace (by rwa [heq] at hk)]
    exact hk
  file {k b} hb := by
    rw [node?_set hnames]
    by_cases heq : k = names
    · cases node with
      | directory =>
        rw [heq, hnode rfl] at hb
        cases hb
      | file b' => exact .inr ⟨heq, b', by simp [heq]⟩
    · exact .inl (by simpa [heq] using hb)

/-- A node that is set in a free place is added. -/
theorem grows_set {names : List String} (hnames : names ≠ []) {node : Node}
    (hfree : t.node? names = none) : Grows t (t.set names node) where
  directory {k} hk := by
    rw [node?_set hnames, if_neg fun heq => by simp [heq, hfree] at hk]
    exact hk
  file {k b} hb := by
    rw [node?_set hnames, if_neg fun heq => by simp [heq, hfree] at hb]
    exact .inl hb

/-- A tree with directories added where a path leads, or one above it, and nothing was before. -/
structure Opened (p : Path) (t t' : Tree) : Prop where
  grounded : t'.Grounded
  grows : Grows t t'
  added : ∀ k, t'.node? k ≠ t.node? k → t'.node? k = some .directory ∧
    ∃ names, names <+: p.names ∧ t.locate ⟨p.root, names⟩ = .error .missing ∧
      t'.locate ⟨p.root, names⟩ = .ok k

theorem Grounded.opened_self (ht : t.Grounded) (p : Path) : Opened p t t :=
  ⟨ht, .refl _ _, fun _ h => absurd rfl h⟩

/-- What was added for the path above was added for the path. -/
theorem Opened.of_parent (h : Opened p.parent t t') : Opened p t t' where
  grounded := h.grounded
  grows := h.grows
  added k hk := by
    obtain ⟨hdirectory, names, hnames, hfree, hmade⟩ := h.added k hk
    exact ⟨hdirectory, names, hnames.trans (List.dropLast_prefix _), hfree, hmade⟩

theorem Opened.trans (h : Opened p t t') (h' : Opened p t' t'') : Opened p t t'' where
  grounded := h'.grounded
  grows := h.grows.trans h'.grows
  added k hk := by
    by_cases hlater : t''.node? k = t'.node? k
    · rw [hlater] at hk ⊢
      obtain ⟨hdirectory, names, hnames, hfree, hmade⟩ := h.added k hk
      exact ⟨hdirectory, names, hnames, hfree,
        (h'.grows.locate_eq (by simp [hmade])).trans hmade⟩
    · obtain ⟨hdirectory, names, hnames, hfree, hmade⟩ := h'.added k hlater
      refine ⟨hdirectory, names, hnames, ?_, hmade⟩
      by_contra hthere
      exact hthere ((h.grows.locate_eq hthere).symm.trans hfree)

/-- Where a directory was made there is one, and it was added. -/
theorem Grounded.makeDirectory_ok (ht : t.Grounded) (h : t.makeDirectory p = .ok t') :
    Opened p t t' ∧ t'.isDirectory p = true := by
  obtain ⟨hfree, names, hplace, rfl⟩ := makeDirectory_eq_ok_iff.1 h
  obtain ⟨k, hk, hdirectory, hshort, rfl⟩ := place_eq_ok_iff.1 hplace
  obtain ⟨hnames, hdots, hnone⟩ := ht.place_free hk hdirectory hshort hfree
  have hgrows : Grows t (t.set (k ++ [p.name]) .directory) := grows_set (by simp) hnone
  have hmade : (t.set (k ++ [p.name]) .directory).node? (k ++ [p.name]) = some .directory := by
    rw [node?_set (by simp), if_pos rfl]
  have hmissing : t.locate p = .error .missing := by
    rw [locate_eq_parent hnames, hk]
    show t.enter k p.name = _
    simp [enter_eq, hdirectory, Nat.not_lt.2 hshort, next, hdots, hnone]
  have hlocate : (t.set (k ++ [p.name]) .directory).locate p = .ok (k ++ [p.name]) := by
    rw [locate_eq_parent hnames, hgrows.locate_eq (by simp [hk]), hk]
    refine enter_eq_ok_iff.2 ⟨hgrows.directory hdirectory, hshort, ?_, ?_⟩
    · simp [next, hdots]
    · simp [hmade]
  refine ⟨⟨ht.set hdirectory hdots (.inl rfl), hgrows, fun m hm => ?_⟩,
    isDirectory_iff.2 ⟨_, hlocate, hmade⟩⟩
  obtain rfl : m = k ++ [p.name] := by
    by_contra hne
    exact hm (by rw [node?_set (by simp), if_neg hne])
  exact ⟨hmade, p.names, List.prefix_rfl, hmissing, hlocate⟩

theorem Grounded.ensureDirectory_ok (ht : t.Grounded) (h : t.ensureDirectory p = .ok t') :
    Opened p t t' ∧ t'.isDirectory p = true := by
  unfold ensureDirectory at h
  split at h
  · cases h
    exact ht.makeDirectory_ok ‹_›
  · split at h
    · cases h
      exact ⟨ht.opened_self p, ‹_›⟩
    · cases h

theorem Grounded.ensureDirectories_ok (ht : t.Grounded) {depth : Nat}
    (h : t.ensureDirectories p depth = .ok t') : Opened p t t' ∧ t'.isDirectory p = true := by
  induction depth generalizing p t' with
  | zero => exact ht.ensureDirectory_ok h
  | succ depth ih =>
    rw [ensureDirectories] at h
    split at h
    · cases h
      exact ht.makeDirectory_ok ‹_›
    · split at h
      · cases h
      · cases hparent : t.ensureDirectories p.parent depth with
        | error e =>
          rw [hparent] at h
          cases h
        | ok above =>
          rw [hparent] at h
          obtain ⟨habove, -⟩ := ih hparent
          obtain ⟨hlast, hmade⟩ := habove.grounded.ensureDirectory_ok h
          exact ⟨habove.of_parent.trans hlast, hmade⟩
    · split at h
      · cases h
        exact ⟨ht.opened_self p, ‹_›⟩
      · cases h

/-- If a directory could be made, with those above it, it is there, and the tree only grew. -/
theorem Grounded.makeDirectories_ok (ht : t.Grounded) (h : t.makeDirectories p = .ok t') :
    t'.Grounded ∧ Grows t t' ∧ t'.isDirectory p = true := by
  obtain ⟨hopened, hmade⟩ := ht.ensureDirectories_ok h
  exact ⟨hopened.grounded, hopened.grows, hmade⟩

/-- If a file could be written, it is there, and nothing else changed. -/
theorem Grounded.write_ok (ht : t.Grounded) (hdots : p.name ≠ "..") {bytes : List UInt8}
    (h : t.write p bytes = .ok t') :
    t'.Grounded ∧ ∃ k, t.locate p.parent = .ok k ∧ t'.locate p = .ok (k ++ [p.name]) ∧
      t'.node? (k ++ [p.name]) = some (.file bytes) ∧ Evolves (· = k ++ [p.name]) t t' := by
  obtain ⟨hnames, names, hplace, hfile, rfl⟩ := write_eq_ok_iff.1 h
  obtain ⟨k, hk, hdirectory, hshort, rfl⟩ := place_eq_ok_iff.1 hplace
  have hwritten : (t.set (k ++ [p.name]) (.file bytes)).node? (k ++ [p.name]) =
      some (.file bytes) := by
    rw [node?_set (by simp), if_pos rfl]
  have hevolves : Evolves (· = k ++ [p.name]) t (t.set (k ++ [p.name]) (.file bytes)) :=
    evolves_set (by simp) hfile (by simp)
  refine ⟨ht.set hdirectory hdots (.inr hfile), k, hk, ?_, hwritten, hevolves⟩
  rw [locate_eq_parent hnames, hevolves.locate_eq (by simp [hk]), hk]
  refine enter_eq_ok_iff.2 ⟨hevolves.directory hdirectory, hshort, ?_, ?_⟩
  · simp [next, hdots]
  · simp [hwritten]

/-! ## When a change is possible -/

section Below

variable {root : String} {above : List String} {base : List String} {n : String}

/-- A name below a directory is a directory if the node there is one. -/
theorem isDirectory_below (hbase : t.locate ⟨root, above⟩ = .ok base)
    (hdirectory : t.node? base = some .directory) (hshort : n.utf8ByteSize ≤ longestName)
    (hdots : n ≠ "..") (h : t.node? (base ++ [n]) = some .directory) :
    t.isDirectory ⟨root, above ++ [n]⟩ = true := by
  refine isDirectory_iff.2 ⟨base ++ [n], ?_, h⟩
  rw [locate_eq_parent (by simp)]
  simp only [Path.parent, Path.name, List.dropLast_concat, List.getLast?_concat, hbase]
  exact enter_eq_ok_iff.2 ⟨hdirectory, hshort, by simp [next, hdots], by simp [h]⟩

/-- The place below a directory. -/
theorem place_below (hbase : t.locate ⟨root, above⟩ = .ok base)
    (hdirectory : t.node? base = some .directory) (hshort : n.utf8ByteSize ≤ longestName) :
    t.place ⟨root, above ++ [n]⟩ = .ok (base ++ [n]) :=
  place_eq_ok_iff.2 ⟨base, by simpa [Path.parent] using hbase, hdirectory,
    by simpa [Path.name] using hshort, by simp [Path.name]⟩

/-- A directory can be made in a free place below a directory. -/
theorem makeDirectory_below (hbase : t.locate ⟨root, above⟩ = .ok base)
    (hdirectory : t.node? base = some .directory) (hshort : n.utf8ByteSize ≤ longestName)
    (hdots : n ≠ "..") (hfree : t.node? (base ++ [n]) = none) :
    t.makeDirectory ⟨root, above ++ [n]⟩ = .ok (t.set (base ++ [n]) .directory) := by
  refine makeDirectory_eq_ok_iff.2 ⟨?_, base ++ [n], place_below hbase hdirectory hshort, rfl⟩
  have hlost : t.locate ⟨root, above ++ [n]⟩ = .error .missing := by
    rw [locate_eq_parent (by simp)]
    simp only [Path.parent, Path.name, List.dropLast_concat, List.getLast?_concat, hbase]
    show t.enter base n = _
    simp [enter_eq, hdirectory, Nat.not_lt.2 hshort, next, hdots, hfree]
  simp [exists?, nodeAt?, hlost]

/-- A file can be written below a directory, unless there is a directory in its place. -/
theorem write_below (hbase : t.locate ⟨root, above⟩ = .ok base)
    (hdirectory : t.node? base = some .directory) (hshort : n.utf8ByteSize ≤ longestName)
    (hfile : t.node? (base ++ [n]) ≠ some .directory) (bytes : List UInt8) :
    t.write ⟨root, above ++ [n]⟩ bytes = .ok (t.set (base ++ [n]) (.file bytes)) :=
  write_eq_ok_iff.2 ⟨by simp, base ++ [n], place_below hbase hdirectory hshort, hfile, rfl⟩

/-- Nothing stands in the way of making directories with some names below a node. -/
structure Clear (t : Tree) (base names : List String) : Prop where
  short : ∀ n ∈ names, n.utf8ByteSize ≤ longestName
  no_dots : ".." ∉ names
  no_file : ∀ m, m <+: names → ∀ b, t.node? (base ++ m) ≠ some (.file b)

theorem Clear.of_concat {names : List String} (h : t.Clear base (names ++ [n])) :
    t.Clear base names where
  short m hm := h.short m (by simp [hm])
  no_dots hm := h.no_dots (by simp [hm])
  no_file m hm := h.no_file m (hm.trans (List.prefix_append names [n]))

theorem Clear.tail {names : List String} (h : t.Clear base (n :: names)) :
    t.Clear (base ++ [n]) names where
  short m hm := h.short m (by simp [hm])
  no_dots hm := h.no_dots (by simp [hm])
  no_file m hm := by
    have := h.no_file (n :: m) ((List.prefix_cons_inj n).2 hm)
    simpa using this

/-- A node with nothing in the way below it is no file. -/
theorem Clear.directory {names : List String} (h : t.Clear base names)
    (hbase : (t.node? base).isSome) : t.node? base = some .directory := by
  obtain ⟨node, hnode⟩ := Option.isSome_iff_exists.1 hbase
  cases node with
  | directory => exact hnode
  | file b => exact absurd (by simpa using hnode) (h.no_file [] List.nil_prefix b)

/-- Where nothing is in the way, names are followed down to a node, or one is missing. -/
theorem Clear.walk {names : List String} (h : t.Clear base names)
    (hbase : (t.node? base).isSome) :
    t.walk base names = .error .missing ∨
      t.walk base names = .ok (base ++ names) ∧
        ∀ m, m <+: names → t.node? (base ++ m) = some .directory := by
  induction names generalizing base with
  | nil => exact .inr ⟨by simp [Tree.walk], by simpa using h.directory hbase⟩
  | cons n names ih =>
    have hdots : n ≠ ".." := fun hn => h.no_dots (by simp [hn])
    have hlong : ¬ longestName < n.utf8ByteSize := Nat.not_lt.2 (h.short n (by simp))
    rw [walk_cons, enter_eq, h.directory hbase]
    simp only [hlong, if_false, next, hdots]
    by_cases hnext : (t.node? (base ++ [n])).isSome
    · simp only [hnext, if_true]
      rcases ih h.tail hnext with hmissing | ⟨hwalk, hdown⟩
      · exact .inl hmissing
      refine .inr ⟨hwalk.trans (by simp), fun m hm => ?_⟩
      rcases List.prefix_cons_iff.1 hm with rfl | ⟨m', rfl, hm'⟩
      · simpa using h.directory hbase
      · simpa using hdown m' hm'
    · simp only [hnext]
      exact .inl rfl

/-- A tree after directories with some names were made below a node: each of them is there, and all
else is as before. -/
structure Made (t t' : Tree) (base names : List String) : Prop where
  made : ∀ m, m <+: names → t'.node? (base ++ m) = some .directory
  kept : ∀ k, (∀ m, m <+: names → k ≠ base ++ m) → t'.node? k = t.node? k

theorem Made.of_directories {names : List String}
    (h : ∀ m, m <+: names → t.node? (base ++ m) = some .directory) : Made t t base names :=
  ⟨h, fun _ _ => rfl⟩

/-- Directories that are made where nothing is in the way are added. -/
theorem Made.grows {names : List String} (h : Made t t' base names) (hclear : t.Clear base names) :
    Grows t t' where
  directory {k} hk := by
    by_cases hmade : ∃ m, m <+: names ∧ k = base ++ m
    · obtain ⟨m, hm, rfl⟩ := hmade
      exact h.made m hm
    · rw [h.kept k fun m hm heq => hmade ⟨m, hm, heq⟩]
      exact hk
  file {k b} hb := by
    rw [h.kept k fun m hm heq => hclear.no_file m hm b (heq ▸ hb)]
    exact .inl hb

/-- Names that lead from directory to directory are followed. -/
theorem walk_of_directories {names : List String}
    (hshort : ∀ n ∈ names, n.utf8ByteSize ≤ longestName) (hdots : ".." ∉ names)
    (h : ∀ m, m <+: names → t.node? (base ++ m) = some .directory) :
    t.walk base names = .ok (base ++ names) := by
  induction names generalizing base with
  | nil => simp [Tree.walk]
  | cons n names ih =>
    obtain ⟨hn, hshort⟩ := List.forall_mem_cons.1 hshort
    have hbase : t.node? base = some .directory := by simpa using h [] List.nil_prefix
    have hnext : t.node? (base ++ [n]) = some .directory := h [n] (by simp)
    have hdown : n ≠ ".." := fun hn => hdots (by simp [hn])
    have henter : t.enter base n = .ok (base ++ [n]) :=
      enter_eq_ok_iff.2 ⟨hbase, hn, by simp [next, hdown], by simp [hnext]⟩
    have hbelow : ∀ m, m <+: names → t.node? (base ++ [n] ++ m) = some .directory := fun m hm => by
      simpa using h (n :: m) ((List.prefix_cons_inj n).2 hm)
    rw [walk_cons, henter]
    exact (ih hshort (fun hm => hdots (by simp [hm])) hbelow).trans (by simp)

/-- One more directory below. -/
theorem Made.set {names : List String} (h : Made t t' base names) :
    Made t (t'.set (base ++ names ++ [n]) .directory) base (names ++ [n]) where
  made m hm := by
    rw [node?_set (by simp)]
    rcases List.prefix_concat_iff.1 hm with rfl | hm
    · simp
    · split
      · rfl
      · exact h.made m hm
  kept k hk := by
    rw [node?_set (by simp), if_neg fun heq => hk _ List.prefix_rfl (by simp [heq])]
    exact h.kept k fun m hm => hk m (hm.trans (List.prefix_append names [n]))

/-- One more directory below that was there already. -/
theorem Made.concat {names : List String} (h : Made t t' base names)
    (hlast : t'.node? (base ++ names ++ [n]) = some .directory) :
    Made t t' base (names ++ [n]) where
  made m hm := by
    rcases List.prefix_concat_iff.1 hm with rfl | hm
    · simpa using hlast
    · exact h.made m hm
  kept k hk := h.kept k fun m hm => hk m (hm.trans (List.prefix_append names [n]))

theorem makeDirectory_of_isDirectory (h : t.isDirectory p = true) :
    t.makeDirectory p = .error (.exists p.text) := by
  simp [makeDirectory, exists?_of_isDirectory h]

theorem ensureDirectory_of_isDirectory (h : t.isDirectory p = true) :
    t.ensureDirectory p = .ok t := by
  simp [ensureDirectory, makeDirectory_of_isDirectory h, h]

/-- A directory that is there is left as it is. -/
theorem ensureDirectories_of_isDirectory (h : t.isDirectory p = true) (depth : Nat) :
    t.ensureDirectories p depth = .ok t := by
  cases depth with
  | zero => exact ensureDirectory_of_isDirectory h
  | succ depth => simp [ensureDirectories, makeDirectory_of_isDirectory h, h]

/-- What makes a directory by itself makes it also where those above it may be made. -/
theorem ensureDirectories_of_ensureDirectory (h : t.ensureDirectory p = .ok t') (depth : Nat) :
    t.ensureDirectories p (depth + 1) = .ok t' := by
  unfold ensureDirectory at h
  split at h
  · rename_i hmake
    simp only [ensureDirectories, hmake]
    exact h
  · split at h
    · cases h
      exact ensureDirectories_of_isDirectory ‹_› (depth + 1)
    · cases h

theorem makeDirectory_of_missing (hnames : p.names ≠ [])
    (h : t.locate p.parent = .error .missing) : t.makeDirectory p = .error (.notFound p.text) := by
  have hlost : t.locate p = .error .missing := by
    rw [locate_eq_parent hnames, h]
    rfl
  simp [makeDirectory, exists?, nodeAt?, hlost, place, h, Obstacle.error, bind, Except.bind]

/-- Makes one more directory below those that were made. -/
theorem Made.ensureDirectory {names : List String} (h : Made t t' base names)
    (hclear : t.Clear base (names ++ [n])) (hbase : t'.locate ⟨root, above⟩ = .ok (base ++ names)) :
    ∃ later, t'.ensureDirectory ⟨root, above ++ [n]⟩ = .ok later ∧
      Made t later base (names ++ [n]) := by
  have hdirectory := h.made names List.prefix_rfl
  have hshort := hclear.short n (by simp)
  have hdots : n ≠ ".." := fun hn => hclear.no_dots (by simp [hn])
  have hkept : t'.node? (base ++ names ++ [n]) = t.node? (base ++ names ++ [n]) :=
    h.kept _ fun m hm heq => by
      have hlength := hm.length_le
      have := congrArg List.length heq
      simp only [List.length_append, List.length_cons, List.length_nil] at this
      omega
  cases hnode : t.node? (base ++ names ++ [n]) with
  | none =>
    have hmake := makeDirectory_below hbase hdirectory hshort hdots (hkept.trans hnode)
    exact ⟨_, by simp [Tree.ensureDirectory, hmake], h.set⟩
  | some node =>
    cases node with
    | file b => exact absurd (by simpa using hnode) (hclear.no_file _ List.prefix_rfl b)
    | directory =>
      have hlast := hkept.trans hnode
      have hbelow := isDirectory_below hbase hdirectory hshort hdots hlast
      exact ⟨t', ensureDirectory_of_isDirectory hbelow, h.concat hlast⟩

/-- Where nothing is in the way, directories are made below one that is there. -/
theorem ensureDirectories_of_clear (hbase : t.locate ⟨root, above⟩ = .ok base)
    {names : List String} (hclear : t.Clear base names) {depth : Nat}
    (hdepth : names.length ≤ depth) :
    ∃ t', t.ensureDirectories ⟨root, above ++ names⟩ depth = .ok t' ∧ Made t t' base names := by
  have hsome := isSome_of_locate hbase
  induction names using List.reverseRecOn generalizing depth with
  | nil =>
    have hdirectory := hclear.directory hsome
    refine ⟨t, ensureDirectories_of_isDirectory ?_ depth, .of_directories fun m hm => ?_⟩
    · exact isDirectory_iff.2 ⟨base, by simpa using hbase, hdirectory⟩
    · simpa [List.prefix_nil.1 hm] using hdirectory
  | append_singleton names n ih =>
    obtain ⟨depth, rfl⟩ : ∃ d, depth = d + 1 := ⟨depth - 1, by simp at hdepth; omega⟩
    have hlocate : t.locate ⟨root, above ++ names⟩ = t.walk base names := by
      rw [locate_append, hbase]
      rfl
    rcases hclear.of_concat.walk hsome with hmissing | ⟨hdown, hdirectories⟩
    · have hdepth' : names.length ≤ depth := by simpa using hdepth
      obtain ⟨made, hmake, hmade⟩ := ih hclear.of_concat hdepth'
      have hclear' := hclear.of_concat
      have hparent : made.locate ⟨root, above ++ names⟩ = .ok (base ++ names) := by
        rw [locate_append, (hmade.grows hclear').locate_eq (by simp [hbase]), hbase]
        exact walk_of_directories hclear'.short hclear'.no_dots hmade.made
      obtain ⟨later, hlater, hdone⟩ := hmade.ensureDirectory hclear hparent
      refine ⟨later, ?_, hdone⟩
      rw [← List.append_assoc, ensureDirectories, makeDirectory_of_missing (by simp)
        (by simpa [Path.parent, hlocate] using hmissing)]
      simp only [Path.parent, List.dropLast_concat, hmake]
      rw [if_neg (by simp)]
      exact hlater
    · rw [← List.append_assoc]
      obtain ⟨later, hlater, hdone⟩ :=
        (Made.of_directories hdirectories).ensureDirectory hclear (hlocate.trans hdown)
      exact ⟨later, ensureDirectories_of_ensureDirectory hlater depth, hdone⟩

/-- Where nothing is in the way, all missing directories are made below one that is there. -/
theorem makeDirectories_of_clear (hbase : t.locate ⟨root, above⟩ = .ok base)
    {names : List String} (hclear : t.Clear base names) :
    ∃ t', t.makeDirectories ⟨root, above ++ names⟩ = .ok t' ∧ Made t t' base names :=
  ensureDirectories_of_clear hbase hclear (by simp)

end Below

end SqlTables.Files.Tree
