import Mathlib.Data.List.Induction
import SqlTables.Files.Tree

/-!
# Trees and what stays in them

A path is followed name by name (`walk_cons`), so two paths one after the other are followed one
after the other.  In a well-formed tree the names of a node lead straight to it (`walk_down`).

A tree evolves by getting new nodes and by other bytes in some of its files.  Where a path led to
something before, it leads to the same afterwards (`Evolves.locate_eq`), and files that did not
change are read as before (`Evolves.read_eq`).
-/

set_option autoImplicit false

namespace SqlTables.Files

/-- A name that a node can have. -/
structure IsName (n : String) : Prop where
  ne_empty : n ≠ ""
  ne_dot : n ≠ "."
  ne_dots : n ≠ ".."
  no_slash : '/' ∉ n.toList

instance (n : String) : Decidable (IsName n) :=
  decidable_of_iff (n ≠ "" ∧ n ≠ "." ∧ n ≠ ".." ∧ '/' ∉ n.toList)
    ⟨fun ⟨h, h', h'', h'''⟩ => ⟨h, h', h'', h'''⟩, fun h => ⟨h.1, h.2, h.3, h.4⟩⟩

namespace Tree

variable {t t' t'' : Tree}

/-! ## Nodes -/

theorem node?_of_ne_nil {k : List String} (h : k ≠ []) : t.node? k = t.nodes.lookup k := by
  simp [node?, h]

theorem lookup_put (names : List String) (node : Node) (nodes : List (List String × Node))
    (k : List String) :
    (put names node nodes).lookup k = if k = names then some node else nodes.lookup k := by
  induction nodes with
  | nil => by_cases h : k = names <;> simp [put, h]
  | cons e rest ih =>
    obtain ⟨n, x⟩ := e
    by_cases hn : n = names
    · subst hn
      by_cases hk : k = n
      · simp [put, hk]
      · simp [put, List.lookup_cons, beq_false_of_ne hk, hk]
    · by_cases hk : k = n
      · subst hk
        simp [put, hn]
      · simp [put, hn, List.lookup_cons, beq_false_of_ne hk, ih]

theorem node?_set {names : List String} (h : names ≠ []) (t : Tree) (node : Node)
    (k : List String) :
    (t.set names node).node? k = if k = names then some node else t.node? k := by
  by_cases hk : k = []
  · subst hk
    rw [if_neg (Ne.symm h)]
    rfl
  · rw [node?_of_ne_nil hk, node?_of_ne_nil hk]
    exact lookup_put names node t.nodes k

/-! ## Following names -/

/-- Where one name leads from a node. -/
def next (base : List String) (n : String) : List String :=
  if n = ".." then base.dropLast else base ++ [n]

/-- Follows one name from a node. -/
def enter (t : Tree) (base : List String) (n : String) : Except Obstacle (List String) :=
  t.walk base [n]

theorem enter_eq (t : Tree) (base : List String) (n : String) :
    t.enter base n =
      match t.node? base with
      | some .directory =>
        if longestName < n.utf8ByteSize then .error .longName
        else if (t.node? (next base n)).isSome then .ok (next base n) else .error .missing
      | some (.file _) => .error .fileOnTheWay
      | none => .error .missing := rfl

theorem walk_cons (t : Tree) (base : List String) (n : String) (rest : List String) :
    t.walk base (n :: rest) = t.enter base n >>= fun k => t.walk k rest := by
  rw [enter_eq, walk]
  cases t.node? base with
  | none => rfl
  | some node =>
    cases node with
    | file bytes => rfl
    | directory =>
      by_cases hlong : longestName < n.utf8ByteSize
      · simp only [hlong, if_true]
        rfl
      · simp only [hlong, if_false]
        show (if (t.node? (next base n)).isSome then _ else _) = _
        by_cases hnext : (t.node? (next base n)).isSome
        · simp only [hnext, if_true]
          rfl
        · simp only [hnext]
          rfl

theorem walk_append (t : Tree) (base a b : List String) :
    t.walk base (a ++ b) = t.walk base a >>= fun k => t.walk k b := by
  induction a generalizing base with
  | nil => rfl
  | cons n a ih => simp only [List.cons_append, walk_cons, ih, bind_assoc]

theorem enter_eq_ok_iff {base k : List String} {n : String} :
    t.enter base n = .ok k ↔ t.node? base = some .directory ∧ n.utf8ByteSize ≤ longestName ∧
      k = next base n ∧ (t.node? k).isSome := by
  rw [enter_eq]
  constructor
  · intro h
    split at h
    · split at h
      · cases h
      · split at h
        · cases h
          exact ⟨‹_›, by omega, rfl, ‹_›⟩
        · cases h
    · cases h
    · cases h
  · rintro ⟨hbase, hshort, rfl, hk⟩
    simp [hbase, hk, Nat.not_lt.2 hshort]

theorem isSome_of_walk {base k : List String} {names : List String}
    (hbase : (t.node? base).isSome) (h : t.walk base names = .ok k) : (t.node? k).isSome := by
  induction names generalizing base with
  | nil =>
    cases h
    exact hbase
  | cons n rest ih =>
    rw [walk_cons] at h
    cases henter : t.enter base n with
    | error o =>
      rw [henter] at h
      cases h
    | ok m =>
      rw [henter] at h
      exact ih (enter_eq_ok_iff.1 henter).2.2.2 h

/-- A path below another is followed from where that one leads. -/
theorem locate_append (t : Tree) (root : String) (above names : List String) :
    t.locate ⟨root, above ++ names⟩ = t.locate ⟨root, above⟩ >>= fun k => t.walk k names := by
  unfold locate
  split
  · exact walk_append t [] above names
  · rfl

theorem isSome_of_locate {p : Path} {k : List String} (h : t.locate p = .ok k) :
    (t.node? k).isSome := by
  unfold locate at h
  split at h
  · exact isSome_of_walk rfl h
  · cases h

/-! ## Trees in which paths lead straight to nodes -/

/-- Nodes lie in directories, and two dots are the name of none. -/
structure Grounded (t : Tree) : Prop where
  inDirectory : ∀ {k node}, t.node? k = some node → t.node? k.dropLast = some .directory
  no_dots : ∀ {k node}, t.node? k = some node → ".." ∉ k

/-- Everything on the way to a node is a directory. -/
theorem Grounded.directory_of_append (ht : t.Grounded) {a b : List String} {node : Node}
    (hb : b ≠ []) (h : t.node? (a ++ b) = some node) : t.node? a = some .directory := by
  induction b using List.reverseRecOn generalizing node with
  | nil => exact absurd rfl hb
  | append_singleton b n ih =>
    have hparent : t.node? (a ++ b) = some .directory := by
      have := ht.inDirectory h
      rwa [← List.append_assoc, List.dropLast_concat] at this
    by_cases hnil : b = []
    · simpa [hnil] using hparent
    · exact ih hnil hparent

/-- Names that lead down to a node are followed to it, unless one of them is too long. -/
theorem Grounded.walk_down (ht : t.Grounded) {base rest : List String}
    (h : (t.node? (base ++ rest)).isSome) :
    t.walk base rest = .ok (base ++ rest) ∨ t.walk base rest = .error .longName := by
  induction rest generalizing base with
  | nil => exact .inl (by simp [walk])
  | cons n rest ih =>
    obtain ⟨node, hnode⟩ := Option.isSome_iff_exists.1 h
    have hbase := ht.directory_of_append (by simp) hnode
    have hdots : n ≠ ".." := fun hn => ht.no_dots hnode (by simp [hn])
    have hsplit : base ++ n :: rest = (base ++ [n]) ++ rest := by simp
    have hnext : next base n = base ++ [n] := by simp [next, hdots]
    have hsome : (t.node? (base ++ [n])).isSome := by
      by_cases hrest : rest = []
      · simpa [hrest] using h
      · rw [hsplit] at hnode
        rw [ht.directory_of_append hrest hnode]
        rfl
    rw [walk_cons, enter_eq, hbase, hnext]
    by_cases hlong : longestName < n.utf8ByteSize
    · simp only [hlong, if_true]
      exact .inr rfl
    · simp only [hlong, if_false, hsome, if_true]
      rw [hsplit] at h ⊢
      exact ih h

/-- A tree as it can stand on a disk: each node once, under proper names, in a directory. -/
structure WellFormed (t : Tree) : Prop where
  nodup : (t.nodes.map (·.1)).Nodup
  named : ∀ e ∈ t.nodes, e.1 ≠ [] ∧ ∀ n ∈ e.1, IsName n
  inDirectory : ∀ e ∈ t.nodes, t.node? e.1.dropLast = some .directory

instance (t : Tree) : Decidable t.WellFormed :=
  decidable_of_iff ((t.nodes.map (·.1)).Nodup ∧ (∀ e ∈ t.nodes, e.1 ≠ [] ∧ ∀ n ∈ e.1, IsName n) ∧
      ∀ e ∈ t.nodes, t.node? e.1.dropLast = some .directory)
    ⟨fun ⟨h, h', h''⟩ => ⟨h, h', h''⟩, fun h => ⟨h.1, h.2, h.3⟩⟩

theorem mem_of_node? {k : List String} {node : Node} (hk : k ≠ []) (h : t.node? k = some node) :
    (k, node) ∈ t.nodes := by
  rw [node?_of_ne_nil hk] at h
  obtain ⟨before, after, heq, -⟩ := List.lookup_eq_some_iff.1 h
  simp [heq]

theorem WellFormed.node?_of_mem (ht : t.WellFormed) {k : List String} {node : Node}
    (h : (k, node) ∈ t.nodes) : t.node? k = some node := by
  rw [node?_of_ne_nil (ht.named _ h).1, List.lookup_eq_some_iff]
  obtain ⟨before, after, heq⟩ := List.append_of_mem h
  refine ⟨before, after, heq, fun e he => ?_⟩
  have hnodup := ht.nodup
  rw [heq, List.map_append, List.map_cons] at hnodup
  have hne := (List.nodup_append.1 hnodup).2.2 e.1 (List.mem_map_of_mem he) k (by simp)
  simpa using Ne.symm hne

theorem WellFormed.grounded (ht : t.WellFormed) : t.Grounded where
  inDirectory {k node} h := by
    by_cases hk : k = []
    · subst hk
      rfl
    · exact ht.inDirectory _ (mem_of_node? hk h)
  no_dots {k node} h hdots := by
    by_cases hk : k = []
    · subst hk
      cases hdots
    · exact ((ht.named _ (mem_of_node? hk h)).2 _ hdots).ne_dots rfl

/-! ## Changes -/

/-- A tree after some changes: directories and files stay what they are, and only files under names
in `changed` may have got other bytes.  Nodes may have been added. -/
structure Evolves (changed : List String → Prop) (t t' : Tree) : Prop where
  directory : ∀ {k}, t.node? k = some .directory → t'.node? k = some .directory
  file : ∀ {k b}, t.node? k = some (.file b) →
    t'.node? k = some (.file b) ∨ changed k ∧ ∃ b', t'.node? k = some (.file b')

namespace Evolves

variable {changed changed' : List String → Prop}

theorem refl (changed : List String → Prop) (t : Tree) : Evolves changed t t := ⟨id, .inl⟩

theorem mono (h : Evolves changed t t') (hsub : ∀ k, changed k → changed' k) :
    Evolves changed' t t' :=
  ⟨h.directory, fun hb => (h.file hb).imp_right fun ⟨hk, hfile⟩ => ⟨hsub _ hk, hfile⟩⟩

theorem trans (h : Evolves changed t t') (h' : Evolves changed t' t'') :
    Evolves changed t t'' where
  directory hk := h'.directory (h.directory hk)
  file {k b} hb := by
    rcases h.file hb with hb | ⟨hk, b', hb'⟩
    · exact h'.file hb
    · rcases h'.file hb' with hb'' | ⟨-, b'', hb''⟩
      · exact .inr ⟨hk, b', hb''⟩
      · exact .inr ⟨hk, b'', hb''⟩

/-- Files stay files. -/
theorem exists_file (h : Evolves changed t t') {k : List String} {b : List UInt8}
    (hb : t.node? k = some (.file b)) : ∃ b', t'.node? k = some (.file b') := by
  rcases h.file hb with hb | ⟨-, hfile⟩
  · exact ⟨b, hb⟩
  · exact hfile

theorem isSome (h : Evolves changed t t') {k : List String} (hk : (t.node? k).isSome) :
    (t'.node? k).isSome := by
  obtain ⟨node, hnode⟩ := Option.isSome_iff_exists.1 hk
  cases node with
  | directory => simp [h.directory hnode]
  | file b =>
    obtain ⟨b', hb'⟩ := h.exists_file hnode
    simp [hb']

/-- Only what is missing on the way may come to be there. -/
theorem enter_eq (h : Evolves changed t t') {base : List String} {n : String}
    (hway : t.enter base n ≠ .error .missing) : t'.enter base n = t.enter base n := by
  rw [Tree.enter_eq] at hway
  rw [Tree.enter_eq, Tree.enter_eq]
  cases hbase : t.node? base with
  | none => simp [hbase] at hway
  | some node =>
    cases node with
    | file b =>
      obtain ⟨b', hb'⟩ := h.exists_file hbase
      simp [hb']
    | directory =>
      rw [h.directory hbase]
      by_cases hlong : longestName < n.utf8ByteSize
      · simp [hlong]
      · by_cases hnext : (t.node? (next base n)).isSome
        · simp [hlong, hnext, h.isSome hnext]
        · simp [hbase, hlong, hnext] at hway

theorem walk_eq (h : Evolves changed t t') {base names : List String}
    (hway : t.walk base names ≠ .error .missing) : t'.walk base names = t.walk base names := by
  induction names generalizing base with
  | nil => rfl
  | cons n rest ih =>
    rw [walk_cons] at hway
    rw [walk_cons, walk_cons]
    cases henter : t.enter base n with
    | error o =>
      rw [henter] at hway
      rw [h.enter_eq (henter ▸ hway), henter]
      rfl
    | ok k =>
      rw [henter] at hway
      rw [h.enter_eq (by simp [henter]), henter]
      exact ih hway

theorem locate_eq (h : Evolves changed t t') {p : Path} (hway : t.locate p ≠ .error .missing) :
    t'.locate p = t.locate p := by
  unfold locate at hway ⊢
  split
  · rename_i hroot
    rw [if_pos hroot] at hway
    exact h.walk_eq hway
  · rfl

/-- What a path leads to is read as before, unless it is one of the files that got other bytes. -/
theorem read_eq (h : Evolves changed t t') {p : Path} (hway : t.locate p ≠ .error .missing)
    (hkept : ∀ k, t.locate p = .ok k → ¬ changed k) : t'.read p = t.read p := by
  unfold read
  rw [h.locate_eq hway]
  cases hlocate : t.locate p with
  | error o => rfl
  | ok k =>
    obtain ⟨node, hnode⟩ := Option.isSome_iff_exists.1 (isSome_of_locate hlocate)
    cases node with
    | directory => simp [hnode, h.directory hnode]
    | file b =>
      have hb : t'.node? k = some (.file b) :=
        (h.file hnode).resolve_right fun hchanged => hkept k hlocate hchanged.1
      simp [hnode, hb]

end Evolves

end Tree
end SqlTables.Files
