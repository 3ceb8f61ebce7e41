import SqlTables.Extraction
import SqlTables.Proofs.FirstOccurrences

/-!
# Resolution and classification

A catalog classifies names after it has resolved them.  That this agrees with the names as captured
rests on one fact, `Catalog.isKnown_resolve`: what a name resolves to is known exactly when the name
is.  So unknown names stay as they are, known ones stay known, and the two never meet.
-/

set_option autoImplicit false

namespace SqlTables

/-! ## Looking up what a name resolves to -/

namespace Catalog

variable {c : Catalog} {name : String} {t : Table}

/-- A table that is found is in the catalog. -/
theorem exists_mem_of_lookup (h : c.lookup name = some t) : ∃ key, (key, t) ∈ c.entries := by
  unfold lookup at h
  split at h
  · rename_i u hu
    cases h
    obtain ⟨before, after, heq, _⟩ := List.lookup_eq_some_iff.1 hu
    exact ⟨name, by simp [heq]⟩
  · obtain ⟨⟨key, u⟩, hfind, rfl⟩ := Option.map_eq_some_iff.1 h
    exact ⟨key, List.mem_of_find?_eq_some hfind⟩

/-- A name to which an entry answers is known. -/
theorem isKnown_of_answersTo {e : String × Table} (he : e ∈ c.entries)
    (h : answersTo name e = true) : c.isKnown name = true := by
  unfold isKnown lookup
  split
  · rfl
  · rw [Option.isSome_map, List.find?_isSome]
    exact ⟨e, he, h⟩

/-- The qualified name of a table in the catalog is known. -/
theorem isKnown_qualifiedName {key : String} (h : (key, t) ∈ c.entries) :
    c.isKnown t.qualifiedName = true :=
  isKnown_of_answersTo h (by simp [answersTo])

/-- An unknown name resolves to itself. -/
theorem resolve_of_not_isKnown (h : c.isKnown name = false) : c.resolve name = name := by
  have hlookup : c.lookup name = none := by simpa [isKnown] using h
  simp [resolve, hlookup]

/-- What a name resolves to is known exactly when the name is. -/
theorem isKnown_resolve (c : Catalog) (name : String) :
    c.isKnown (c.resolve name) = c.isKnown name := by
  by_cases hq : c.qualifies = true
  · cases hlookup : c.lookup name with
    | none => rw [resolve_of_not_isKnown (by simp [isKnown, hlookup])]
    | some t =>
      obtain ⟨key, hmem⟩ := exists_mem_of_lookup hlookup
      have hresolve : c.resolve name = t.qualifiedName := by simp [resolve, hq, hlookup]
      rw [hresolve, isKnown_qualifiedName hmem, isKnown, hlookup]
      rfl
  · simp [resolve, hq]

end Catalog

/-! ## Names apart and together -/

/-- The tables and the other names of an extraction are all its names, told apart: no name is in
both lists or twice in one, and in each the names keep their order. -/
structure Extraction.IsPartition (e : Extraction) : Prop where
  disjoint : e.realTables.Disjoint e.ctes
  nodup_real : e.realTables.Nodup
  nodup_ctes : e.ctes.Nodup
  sublist_real : e.realTables.Sublist e.allTables
  sublist_ctes : e.ctes.Sublist e.allTables
  perm : (e.realTables ++ e.ctes).Perm e.allTables

namespace Extractor

/-- Without a catalog the names are reported as they are captured. -/
theorem allTables_without_catalog (filters : Bool) (keywords : List String) (sql : String) :
    (extract ⟨none, filters, keywords⟩ sql).allTables =
      (namesIn ⟨none, filters, keywords⟩ sql).eraseDups := by
  rw [allTables_extract]
  congr 1
  exact List.map_id _

/-- With a catalog all tables are the captured names, resolved. -/
theorem allTables_with_catalog (c : Catalog) (filters filters' : Bool) (keywords : List String)
    (sql : String) :
    (extract ⟨some c, filters, keywords⟩ sql).allTables =
      ((extract ⟨none, filters', keywords⟩ sql).allTables.map c.resolve).eraseDups := by
  rw [allTables_without_catalog, eraseDups_map_eraseDups, allTables_extract]
  rfl

/-- Choosing names by what the catalog says of them may come before or after resolving them. -/
theorem filter_eraseDups_map_resolve (c : Catalog) (p : Bool → Bool) (names : List String) :
    ((names.map c.resolve).eraseDups.filter fun n => p (c.isKnown n)) =
      ((names.filter fun n => p (c.isKnown n)).map c.resolve).eraseDups := by
  rw [filter_eraseDups, List.filter_map]
  congr 3
  funext n
  simp [Catalog.isKnown_resolve]

/-- Names that the catalog does not know stay as they are. -/
theorem map_resolve_of_not_isKnown (c : Catalog) (names : List String) :
    (names.filter (!c.isKnown ·)).map c.resolve = names.filter (!c.isKnown ·) := by
  refine (List.map_congr_left fun n hn => ?_).trans (List.map_id _)
  exact Catalog.resolve_of_not_isKnown (by simpa using (List.mem_filter.1 hn).2)

/-- The short form asked for with nothing but a catalog: the standard keywords are looked for, and
unknown names are set apart. -/
theorem outcome_simpleOptions (catalog : Option Catalog) (sql : String) :
    ((simpleOptions catalog).build >>= (tablesNoted · sql)).outcome.1 =
      .ok (tables ⟨catalog, catalog.isSome, Sql.Keyword.standard⟩ sql) := by
  have h : ((simpleOptions catalog).build >>= (tablesNoted · sql)).outcome.1 =
      .ok (tables ⟨catalog, catalog.isSome, Sql.Keyword.normalize Sql.Keyword.standard⟩ sql) := rfl
  rw [h, Sql.Keyword.normalize_standard]

/-- Without a catalog the short form gives all names. -/
theorem tables_without_catalog (filters filters' : Bool) (keywords : List String) (sql : String) :
    tables ⟨none, filters, keywords⟩ sql = (extract ⟨none, filters', keywords⟩ sql).allTables := by
  rw [allTables_without_catalog]
  exact allTables_without_catalog filters keywords sql

/-- Setting unknown names apart divides all names into two lists. -/
theorem isPartition_extract (c : Catalog) (keywords : List String) (sql : String) :
    (extract ⟨some c, true, keywords⟩ sql).IsPartition := by
  have hall : (extract ⟨some c, true, keywords⟩ sql).allTables.Nodup := by
    rw [allTables_extract]
    exact nodup_eraseDups _
  refine ⟨?_, hall.filter _, hall.filter _, List.filter_sublist, List.filter_sublist,
    List.filter_append_perm _ _⟩
  intro n hreal hctes
  have hknown := (List.mem_filter.1 hreal).2
  have hunknown := (List.mem_filter.1 hctes).2
  rw [hknown] at hunknown
  exact absurd hunknown (by simp)

/-- What is reported with a catalog, in terms of the names reported without one: all tables are
those names resolved; told apart, the names the catalog does not know stay as they are, and the
others are resolved; and the short form of an extraction gives the tables that were told apart, or
all names if there is no catalog. -/
theorem extract_resolves_and_classifies (c : Catalog) (filters : Bool) (keywords : List String)
    (sql : String) :
    let plain := (extract ⟨none, filters, keywords⟩ sql).allTables
    let apart := extract ⟨some c, true, keywords⟩ sql
    let joint := extract ⟨some c, false, keywords⟩ sql
    (∀ name, c.isKnown (c.resolve name) = c.isKnown name) ∧
      apart.allTables = (plain.map c.resolve).eraseDups ∧
      apart.ctes = plain.filter (!c.isKnown ·) ∧
      apart.realTables = ((plain.filter c.isKnown).map c.resolve).eraseDups ∧
      apart.IsPartition ∧
      joint = ⟨apart.allTables, apart.allTables, []⟩ ∧
      tables ⟨some c, true, keywords⟩ sql = apart.realTables ∧
      tables ⟨none, filters, keywords⟩ sql = plain ∧
      ((simpleOptions (some c)).build >>= (tablesNoted · sql)).outcome.1 =
        .ok (extract ⟨some c, true, Sql.Keyword.standard⟩ sql).realTables ∧
      ((simpleOptions none).build >>= (tablesNoted · sql)).outcome.1 =
        .ok (extract ⟨none, filters, Sql.Keyword.standard⟩ sql).allTables := by
  intro plain apart joint
  have hall : apart.allTables = (plain.map c.resolve).eraseDups :=
    allTables_with_catalog c true filters keywords sql
  have hjoint : joint = ⟨apart.allTables, apart.allTables, []⟩ := rfl
  refine ⟨c.isKnown_resolve, hall, ?_, ?_, isPartition_extract c keywords sql, hjoint, rfl,
    tables_without_catalog filters filters keywords sql, outcome_simpleOptions (some c) sql, ?_⟩
  · have hplain : plain.Nodup := by
      rw [show plain = _ from allTables_without_catalog filters keywords sql]
      exact nodup_eraseDups _
    calc apart.ctes = apart.allTables.filter (!c.isKnown ·) := rfl
      _ = ((plain.filter (!c.isKnown ·)).map c.resolve).eraseDups := by
        rw [hall, filter_eraseDups_map_resolve c (!·)]
      _ = plain.filter (!c.isKnown ·) := by
        rw [map_resolve_of_not_isKnown, eraseDups_of_nodup (hplain.filter _)]
  · calc apart.realTables = apart.allTables.filter c.isKnown := rfl
      _ = ((plain.filter c.isKnown).map c.resolve).eraseDups := by
        rw [hall]
        exact filter_eraseDups_map_resolve c id plain
  · rw [outcome_simpleOptions, tables_without_catalog _ filters]

end Extractor

end SqlTables
