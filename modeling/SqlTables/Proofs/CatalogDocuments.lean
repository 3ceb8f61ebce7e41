import SqlTables.Proofs.CatalogBuilding

/-!
# Catalogs and their documents

The document of a catalog describes each table by an object without the parts that it does not
have.  Reading such an object gives the table (`ofValue_entries`), and the keys of a catalog are
texts without repeats, so the document builds the catalog again, entry by entry.  It is never taken
for a list of tables, since what stands under a key in it is an object (`optional_ne_list`).
-/

set_option autoImplicit false

namespace SqlTables

open Document (Value)

/-! ## Objects of tables -/

namespace Table

/-- A part of a table is left out of its object only if it is null. -/
theorem optionalEntry_cases (key : String) (v : Value) :
    v = .null ∧ optionalEntry key v = [] ∨ optionalEntry key v = [(.text key, v)] := by
  cases v with
  | null => exact .inl ⟨rfl, rfl⟩
  | _ => exact .inr rfl

/-- The object of a table describes it. -/
theorem ofValue_entries (t : Table) : ofValue (.map t.entries) = .ok t := by
  obtain ⟨name, qualified, schema, database⟩ := t
  unfold entries
  rcases optionalEntry_cases "schema" schema with ⟨rfl, hschema⟩ | hschema <;>
    rcases optionalEntry_cases "database" database with ⟨rfl, hdatabase⟩ | hdatabase <;>
    rw [hschema, hdatabase] <;> rfl

end Table

namespace Catalog

variable {mapping : List (Value × Description)} {c : Catalog}

/-! ## Catalogs that are built -/

/-- A catalog that building gives, be it strict or, at some level of the log, not. -/
def IsBuiltFrom (mapping : List (Value × Description)) (c : Catalog) : Prop :=
  ofMappingStrict mapping = .ok c ∨ ∃ level, (build mapping level).outcome.1 = .ok c

theorem IsBuiltFrom.exists_eq_ofValid (h : IsBuiltFrom mapping c) :
    ∃ kept, c = ofValid kept := by
  rcases h with h | ⟨level, h⟩
  · rw [ofMappingStrict] at h
    split at h <;> cases h
    exact ⟨mapping, rfl⟩
  · rw [Noted.outcome_apply] at h
    by_cases hfails : ∃ entry ∈ mapping, FailsToWarn level entry.1
    · obtain ⟨entry, hentry, hfails⟩ := hfails
      cases (build_of_failsToWarn hentry hfails []).symm.trans h
    · rw [build_of_warns (by simpa using hfails)] at h
      exact ⟨_, (Except.ok.inj h).symm⟩

theorem nodup_keys_ofValid (mapping : List (Value × Description)) :
    (ofValid mapping).keys.Nodup := by
  rw [(isCatalogOf_ofValid mapping).keys]
  exact nodup_eraseDups _

/-! ## The document of a catalog -/

/-- The entries of the document of a catalog. -/
def documentEntries (c : Catalog) : List (Value × Value) :=
  c.entries.map fun (k, t) => (.text k, .map t.entries)

theorem toDocument_eq (c : Catalog) : c.toDocument = .map c.documentEntries := rfl

theorem keyedByTexts_documentEntries (c : Catalog) : KeyedByTexts c.documentEntries := by
  intro entry hentry
  obtain ⟨⟨k, t⟩, -, rfl⟩ := List.mem_map.1 hentry
  exact ⟨k, rfl⟩

/-- Each entry of the document of a catalog describes the table of that entry. -/
theorem validEntries_documentEntries (c : Catalog) :
    validEntries (described c.documentEntries) = c.entries := by
  rw [validEntries, described, documentEntries, List.map_map, List.filterMap_map]
  refine (List.filterMap_congr fun entry _ => ?_).trans List.filterMap_some
  simp only [Function.comp_apply, Description.toTable, Table.ofValue_entries, Value.display]

theorem faults_documentEntries (c : Catalog) : faults (described c.documentEntries) = [] := by
  rw [faults, described, documentEntries, List.map_map, List.filterMap_map,
    List.filterMap_eq_nil_iff]
  intro entry _
  simp only [Function.comp_apply, Description.toTable, Table.ofValue_entries]

/-- The document of a catalog with different keys builds it again. -/
theorem ofValid_documentEntries (hkeys : c.keys.Nodup) (hqualifies : c.qualifies = true) :
    ofValid (described c.documentEntries) = c := by
  obtain ⟨entries, qualifies⟩ := c
  cases hqualifies
  rw [ofValid, validEntries_documentEntries]
  exact congrArg (Catalog.mk · true) (foldl_insert_of_nodup hkeys)

theorem sound_documentEntries (c : Catalog) : ∀ entry ∈ described c.documentEntries,
    entry.1.isWritable = true ∧ IsValid entry.2 := by
  intro entry hentry
  simp only [described, documentEntries, List.map_map, List.mem_map] at hentry
  obtain ⟨⟨k, t⟩, -, rfl⟩ := hentry
  exact ⟨rfl, t, toTable_eq_ok_iff.1 (Table.ofValue_entries t)⟩

/-- What stands under a key in the document of a catalog is no list. -/
theorem optional_documentEntries_ne_list (c : Catalog) (key : String) (items : List Value) :
    Table.optional c.documentEntries key ≠ .list items := by
  unfold Table.optional Value.lookup
  cases hfind : c.documentEntries.find? fun entry => Value.sameKey (.text key) entry.1 with
  | none => nofun
  | some entry =>
    obtain ⟨⟨k, t⟩, -, rfl⟩ := List.mem_map.1 (List.mem_of_find?_eq_some hfind)
    nofun

theorem ofDocument_toDocument (path : String) (c : Catalog) (level : LogLevel) :
    ofDocument path c.toDocument level = build (described c.documentEntries) level := by
  rw [toDocument_eq, ofDocument]
  split
  · exact absurd ‹_› (optional_documentEntries_ne_list c "tables" _)
  · rfl

/-- A catalog that was built is built again from its document, and loaded again from a file that
holds it, without a warning. -/
theorem built_catalog_reads_back [Text.Repertoire] (h : IsBuiltFrom mapping c) :
    ∃ entries, c.toDocument = .map entries ∧ ofMappingStrict (described entries) = .ok c ∧
      ∀ t p, readDocument t p = .ok c.toDocument →
        ∀ level, (load t p level).outcome = (.ok c, []) := by
  obtain ⟨kept, rfl⟩ := h.exists_eq_ofValid
  have hagain := ofValid_documentEntries (nodup_keys_ofValid kept) rfl
  refine ⟨_, toDocument_eq _, ?_, fun t p hdocument level => ?_⟩
  · rw [ofMappingStrict_of_sound (sound_documentEntries _), hagain]
  · rw [load_of_readDocument hdocument, ofDocument_toDocument,
      build_apply (keyedByTexts_documentEntries _), hagain, faults_documentEntries]
    rfl

/-- A mapping with a table under the key of lists of tables. -/
def tablesMapping : List (Value × Description) :=
  [(.text "tables", .value (.map [(.text "table_name", .text "t"),
      (.text "fully_qualified_name", .text "s.t")]))]

def tablesCatalog : Catalog :=
  ⟨[("tables", ⟨"t", "s.t", .null, .null⟩)], true⟩

/-- The document of that catalog. -/
def tablesText : String :=
  "\x7b\"tables\": \x7b\"tableName\": \"t\", \"fullyQualifiedName\": \"s.t\"\x7d\x7d"

theorem readDocument_tables :
    readDocument (fileOf tablesText) ⟨"", ["t.json"]⟩ = .ok tablesCatalog.toDocument := by
  have hread : Document.Json.read tablesText = .ok (.map
      [(.text "tables", .map [(.text "tableName", .text "t"),
          (.text "fullyQualifiedName", .text "s.t")])]) :=
    Value.eq_ok_of_isEqual (by decide +kernel)
  exact readDocument_fileOf (Outcome.toOption_eq_some_iff.1 (by decide +kernel)) hread

theorem readDocument_noTables :
    readDocument (fileOf "\x7b\x7d") ⟨"", ["t.json"]⟩ = .ok (toDocument ⟨[], true⟩) := by
  have hread : Document.Json.read "\x7b\x7d" = .ok (.map []) :=
    Value.eq_ok_of_isEqual (by decide +kernel)
  exact readDocument_fileOf (Outcome.toOption_eq_some_iff.1 (by decide +kernel)) hread

theorem built_catalog_reads_back_tables :
    IsBuiltFrom tablesMapping tablesCatalog ∧ IsBuiltFrom [] ⟨[], true⟩ ∧
      (load (fileOf tablesText) ⟨"", ["t.json"]⟩).outcome = (.ok tablesCatalog, []) ∧
      (load (fileOf "\x7b\x7d") ⟨"", ["t.json"]⟩).outcome = (.ok ⟨[], true⟩, []) := by
  have htables : IsBuiltFrom tablesMapping tablesCatalog := .inl rfl
  have hempty : IsBuiltFrom [] ⟨[], true⟩ := .inl rfl
  obtain ⟨-, -, -, hload⟩ := built_catalog_reads_back htables
  obtain ⟨-, -, -, hload'⟩ := built_catalog_reads_back hempty
  exact ⟨htables, hempty, hload _ _ readDocument_tables .info,
    hload' _ _ readDocument_noTables .info⟩

end Catalog

end SqlTables
