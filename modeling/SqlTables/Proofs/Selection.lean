import Mathlib.Data.List.Nodup
import Mathlib.Data.List.TakeDrop
import SqlTables.Proofs.Access
import SqlTables.Proofs.Splitting
import SqlTables.Proofs.Trees
import SqlTables.Report.Scan

/-!
# Selected files

Which files a scan selects: the paths below a directory whose names end in `.sql`, that match an
including pattern, if there are any, and no excluding one.  They come in the order of paths, each
once (`mem_selectedAmong`, `selectedAmong_sublist`).  A directory too long to be opened ends the
search (`selectedPaths_eq_ok_iff`).
-/

set_option autoImplicit false

namespace SqlTables

/-! ## The order of paths -/

namespace Files.Path

theorem codesLe_total (s t : List Char) : codesLe s t || codesLe t s := by
  induction s generalizing t with
  | nil => simp [codesLe]
  | cons a s ih =>
    cases t with
    | nil => simp [codesLe]
    | cons b t =>
      by_cases hab : a = b
      · subst hab
        simpa [codesLe] using ih t
      · have hne : a.toNat ≠ b.toNat := fun h => hab (Char.toNat_inj.1 h)
        simp [codesLe, hab, Ne.symm hab]
        omega

theorem codesLe_antisymm {s t : List Char} (hst : codesLe s t) (hts : codesLe t s) : s = t := by
  induction s generalizing t with
  | nil =>
    cases t with
    | nil => rfl
    | cons b t => cases hts
  | cons a s ih =>
    cases t with
    | nil => cases hst
    | cons b t =>
      by_cases hab : a = b
      · subst hab
        simp only [codesLe, if_true] at hst hts
        rw [ih hst hts]
      · simp [codesLe, hab, Ne.symm hab] at hst hts
        omega

theorem codesLe_trans {s t u : List Char} (hst : codesLe s t) (htu : codesLe t u) :
    codesLe s u := by
  induction s generalizing t u with
  | nil => rfl
  | cons a s ih =>
    cases t with
    | nil => cases hst
    | cons b t =>
      cases u with
      | nil => cases htu
      | cons c u =>
        simp only [codesLe] at hst htu ⊢
        grind

theorem namesLe_total (p q : List String) : namesLe p q || namesLe q p := by
  induction p generalizing q with
  | nil => simp [namesLe]
  | cons m p ih =>
    cases q with
    | nil => simp [namesLe]
    | cons n q =>
      by_cases hmn : m = n
      · subst hmn
        simpa [namesLe] using ih q
      · simpa [namesLe, hmn, Ne.symm hmn] using codesLe_total m.toList n.toList

theorem namesLe_trans {p q r : List String} (hpq : namesLe p q) (hqr : namesLe q r) :
    namesLe p r := by
  induction p generalizing q r with
  | nil => rfl
  | cons l p ih =>
    cases q with
    | nil => cases hpq
    | cons m q =>
      cases r with
      | nil => cases hqr
      | cons n r =>
        -- The names in the middle are equal or in order, and so are the outer ones: outer names
        -- that are equal have the middle one between them, so it is the same.
        have hmiddle : codesLe l.toList m.toList → codesLe m.toList n.toList → l = n → l = m :=
          fun hlm hmn hln => String.toList_inj.1 (codesLe_antisymm hlm (hln ▸ hmn))
        have htrans : codesLe l.toList m.toList → codesLe m.toList n.toList →
            codesLe l.toList n.toList := codesLe_trans
        simp only [namesLe] at hpq hqr ⊢
        grind

theorem le_total (p q : Path) : le p q || le q p := namesLe_total p.names q.names

theorem le_trans (p q r : Path) (hpq : le p q) (hqr : le q r) : le p r := namesLe_trans hpq hqr

end Files.Path

/-! ## The paths below a directory -/

namespace Files.Tree

variable {t : Tree}

/-- The path of a node below a directory. -/
def pathBelow (root : Path) (names : List String) : Path :=
  { root with names := root.names ++ names }

theorem join_eq_pathBelow (root : Path) (names : List String) :
    root.join ⟨"", names⟩ = pathBelow root names := rfl

/-- The paths of the nodes below a directory: their names go on from those of the directory. -/
def LiesBelow (t : Tree) (root p : Path) : Prop :=
  ∃ base names, t.locate root = .ok base ∧ names ≠ [] ∧ (t.node? (base ++ names)).isSome ∧
    p = pathBelow root names

theorem mem_below (ht : t.WellFormed) {root p : Path} :
    p ∈ t.below root ↔ t.LiesBelow root p := by
  unfold below LiesBelow
  cases hroot : t.locate root with
  | error o => simp
  | ok base =>
    simp only [List.mem_mergeSort, List.mem_map, List.mem_filter]
    constructor
    · rintro ⟨⟨k, node⟩, ⟨hmem, hinside⟩, rfl⟩
      obtain ⟨hbegins, hne⟩ : base <+: k ∧ k ≠ base := by simpa using hinside
      obtain ⟨names, rfl⟩ := hbegins
      refine ⟨base, names, rfl, by simpa using hne, ?_, by simp [join_eq_pathBelow]⟩
      rw [ht.node?_of_mem hmem]
      rfl
    · rintro ⟨base', names, hbase, hnames, hsome, rfl⟩
      cases hbase
      obtain ⟨node, hnode⟩ := Option.isSome_iff_exists.1 hsome
      exact ⟨(base ++ names, node), ⟨mem_of_node? (by simp [hnames]) hnode, by simp [hnames]⟩,
        by simp [join_eq_pathBelow]⟩

theorem pairwise_below (t : Tree) (root : Path) : (t.below root).Pairwise (Path.le · ·) := by
  unfold below
  split
  · exact .nil
  · exact List.pairwise_mergeSort Path.le_trans Path.le_total _

/-- Each node below a directory has a path of its own. -/
theorem nodup_below (ht : t.WellFormed) (root : Path) : (t.below root).Nodup := by
  unfold below
  split
  · exact .nil
  · rename_i base _
    refine List.Nodup.mergeSort ?_
    have hnodup := ht.nodup.filter fun names => base.isPrefixOf names && names != base
    rw [List.filter_map] at hnodup
    refine List.Nodup.of_map (fun p => base ++ p.names.drop root.names.length) ?_
    rw [List.map_map]
    refine (List.map_congr_left fun e he => ?_) ▸ hnodup
    obtain ⟨names, hnames⟩ : base <+: e.1 := by
      have := (List.mem_filter.1 he).2
      simp_all
    simp [← hnames, join_eq_pathBelow, pathBelow]

end Files.Tree

/-! ## Names of SQL files -/

namespace Files.Pattern

theorem fits_literals (written s : List Char) :
    fits (written.map .literal) s = true ↔ s = written := by
  induction written generalizing s with
  | nil => simp [fits]
  | cons c written ih =>
    cases s with
    | nil => simp [fits]
    | cons d s => simp [fits, accepts, ih]

/-- A pattern that is a star before a text stands for the texts that end in it. -/
theorem fits_anyRun_literals (ending s : List Char) :
    fits (.anyRun :: ending.map .literal) s = true ↔ ending <:+ s := by
  induction s with
  | nil =>
    rw [List.suffix_nil, ← fits_literals]
    cases ending <;> simp [fits]
  | cons c s ih =>
    rw [List.suffix_cons_iff, ← ih]
    cases ending with
    | nil => simp [fits]
    | cons d ending => simp [fits, accepts, fits_literals, @eq_comm _ d c, @eq_comm _ ending s]

end Files.Pattern

namespace Report

open Document (Value WrongKind)
open Files (Path Tree)

/-- The paths of SQL files are those whose last name ends in `.sql`. -/
theorem isSqlPath_iff (p : Path) : isSqlPath p = true ↔ ".sql".toList <:+ p.name.toList := by
  have hparse : Files.Pattern.parse "*.sql" = .anyRun :: ".sql".toList.map .literal := by decide
  rw [isSqlPath, Files.nameMatches, hparse, Files.Pattern.fits_anyRun_literals]

theorem isSqlPath_eq (p : Path) : isSqlPath p = decide (".sql".toList <:+ p.name.toList) := by
  rw [Bool.eq_iff_iff, isSqlPath_iff, decide_eq_true_iff]

/-! ## Selection by patterns -/

/-- Whether a path matches one of some patterns. -/
def MatchesOne (p : Path) (patterns : List Value) : Prop :=
  ∃ s, .text s ∈ patterns ∧ p.matches? s = some true

/-- A path that including and excluding patterns select. -/
structure Selected (includes excludes : List Value) (p : Path) : Prop where
  included : includes = [] ∨ MatchesOne p includes
  not_excluded : ¬ MatchesOne p excludes

theorem pathMatchesAny_ok {p : Path} {patterns : List Value} {b : Bool}
    (h : pathMatchesAny p patterns = .ok b) : b = true ↔ MatchesOne p patterns := by
  induction patterns with
  | nil =>
    cases h
    simp [MatchesOne]
  | cons v rest ih =>
    unfold pathMatchesAny at h
    split at h
    · rename_i s
      split at h
      · cases h
        exact iff_of_true rfl ⟨s, by simp, ‹_›⟩
      · rename_i hs
        simp only [ih h, MatchesOne, List.mem_cons, Value.text.injEq]
        refine exists_congr fun s' => and_congr_left fun hs' => ?_
        refine (or_iff_right fun heq => ?_).symm
        simp [heq, hs] at hs'
      · cases h
    · split at h <;> cases h

theorem isSelected_eq (includes excludes : List Value) (p : Path) :
    isSelected includes excludes p =
      (if includes.isEmpty then .ok true else pathMatchesAny p includes) >>= fun included =>
        if included then pathMatchesAny p excludes >>= fun excluded => .ok !excluded
        else .ok false := by
  unfold isSelected
  cases includes.isEmpty <;> rfl

theorem isSelected_ok {includes excludes : List Value} {p : Path} {b : Bool}
    (h : isSelected includes excludes p = .ok b) : b = true ↔ Selected includes excludes p := by
  rw [isSelected_eq] at h
  obtain ⟨included, hincluded, h⟩ := Outcome.bind_eq_ok_iff.1 h
  have hincluded' : included = true ↔ includes = [] ∨ MatchesOne p includes := by
    split at hincluded
    · rename_i hempty
      cases hincluded
      simpa using .inl (List.isEmpty_iff.1 hempty)
    · rename_i hempty
      simp [pathMatchesAny_ok hincluded, List.isEmpty_iff.not.1 hempty]
  split at h
  · rename_i hyes
    obtain ⟨excluded, hexcluded, h⟩ := Outcome.bind_eq_ok_iff.1 h
    cases h
    have := pathMatchesAny_ok hexcluded
    constructor
    · intro hb
      exact ⟨hincluded'.1 hyes, fun hm => by simp_all⟩
    · intro hs
      have := hs.not_excluded
      simp_all
  · rename_i hno
    cases h
    simpa using fun hs : Selected includes excludes p => hno (hincluded'.2 hs.included)

/-- The selected paths are those of SQL files that the patterns select among all that were found. -/
theorem mem_selectedAmong {found : List Path} {includes excludes : List Value}
    {paths : List Path} (h : selectedAmong found includes excludes = .ok paths) {p : Path} :
    p ∈ paths ↔ p ∈ found ∧ isSqlPath p = true ∧ Selected includes excludes p := by
  obtain ⟨hok, rfl⟩ := Outcome.filterM_eq_ok_iff.1 h
  rw [List.mem_filter, List.mem_filter, and_assoc]
  refine and_congr_right fun hfound => and_congr_right fun hsql => ?_
  obtain ⟨b, hb⟩ := hok p (List.mem_filter.2 ⟨hfound, hsql⟩)
  rw [← isSelected_ok hb, hb]
  rfl

/-- The selected paths come in the order in which they were found. -/
theorem selectedAmong_sublist {found : List Path} {includes excludes : List Value}
    {paths : List Path} (h : selectedAmong found includes excludes = .ok paths) :
    paths.Sublist found := by
  obtain ⟨-, rfl⟩ := Outcome.filterM_eq_ok_iff.1 h
  exact List.filter_sublist.trans List.filter_sublist

/-! ## The patterns when nothing is said -/

/-- The pattern `*.sql` selects the paths of SQL files. -/
theorem matches?_sql {p : Path} (h : p.names ≠ []) : p.matches? "*.sql" = some (isSqlPath p) := by
  have hparse : Path.parse "*.sql" = ⟨"", ["*.sql"]⟩ := by
    rw [Path.parse_eq]
    decide
  have hlast : p.names.drop (p.names.length - 1) = [p.name] := by
    rw [Path.name, List.drop_length_sub_one h, List.getLast?_eq_some_getLast h]
    rfl
  have hlength : ¬ p.names.length < 1 := by simpa using h
  simp [Path.matches?, hparse, hlength, hlast, Path.allMatch, isSqlPath]

theorem selectedAmong_sql (found : List Path) :
    selectedAmong found [.text "*.sql"] [] = .ok (found.filter isSqlPath) := by
  have hselected : ∀ p, isSqlPath p = true → isSelected [.text "*.sql"] [] p = .ok true := by
    intro p hp
    have hnames : p.names ≠ [] := fun h => by
      rw [isSqlPath_iff, Path.name, h] at hp
      revert hp
      decide
    simp [isSelected_eq, pathMatchesAny, matches?_sql hnames, hp, bind, Except.bind]
  refine Outcome.filterM_eq_ok_iff.2 ⟨fun p hp => ⟨true, hselected p (List.mem_filter.1 hp).2⟩, ?_⟩
  refine (List.filter_eq_self.2 fun p hp => ?_).symm
  rw [hselected p (List.mem_filter.1 hp).2]
  rfl

/-! ## The files of a search -/

section Search

variable [Text.Repertoire] {t : Tree} {root : Path} {includes excludes : List Value}

/-- Paths are selected among those below the directory, if all of it can be opened. -/
theorem selectedPaths_eq_ok_iff {paths : List Path} :
    selectedPaths t root includes excludes = .ok paths ↔
      t.searchFault? root = none ∧ selectedAmong (t.below root) includes excludes = .ok paths := by
  rw [selectedPaths, Tree.search]
  cases t.searchFault? root with
  | none => simp [Except.mapError, bind, Except.bind]
  | some e => simp [Except.mapError, bind, Except.bind]

end Search

end Report

end SqlTables
