import SqlTables.Proofs.FirstOccurrences
import SqlTables.Proofs.ListedTables

/-!
# Strict and lenient building

A mapping of keys to descriptions makes the same catalog whether building is strict or not: under
each text of a key that has a valid description the last one, at the place of the first
(`IsCatalogOf`).  The two differ in what they do with an invalid description.  Strict building ends
at the first one (`Refuses`), and lenient building leaves each out with a warning (`Warns`).

Neither can do with a key that has no text, such as a whole number with too many digits: strict
building ends there as at an invalid description, and lenient building ends too where warnings are
told, and else leaves the description out.
-/

set_option autoImplicit false

namespace SqlTables

open Document (Value)

/-! ## Valid descriptions -/

/-- What describes a table: the table itself, its qualified name, or an object with texts for its
two names. -/
inductive Describes : Description → Table → Prop where
  | table (t : Table) : Describes (.table t) t
  | text {s : String} (h : s ≠ "") :
      Describes (.value (.text s)) ⟨Sql.bareName s, s, .null, .null⟩
  | object {entries : List (Value × Value)} {name qualified : String}
      (hname : Table.member entries "tableName" "table_name" = .text name)
      (hqualified : Table.member entries "fullyQualifiedName" "fully_qualified_name" =
        .text qualified) :
      Describes (.value (.map entries))
        ⟨name, qualified, Table.optional entries "schema", Table.optional entries "database"⟩

/-- A description of some table. -/
def IsValid (d : Description) : Prop := ∃ t, Describes d t

theorem toTable_eq_ok_iff {d : Description} {t : Table} : d.toTable = .ok t ↔ Describes d t := by
  constructor
  · intro h
    cases d with
    | table t' =>
      cases h
      exact .table t
    | value v =>
      rw [Description.toTable, Table.ofValue.eq_def] at h
      split at h
      · split at h
        · cases h
        · cases h
          exact .text ‹_›
      · rw [Table.ofEntries] at h
        split at h
        · cases h
          exact .object ‹_› ‹_›
        · cases h
      · cases h
      · cases h
  · intro h
    cases h with
    | table => rfl
    | text h => simp [Description.toTable, Table.ofValue, h]
    | object hname hqualified =>
      simp [Description.toTable, Table.ofValue, Table.ofEntries, hname, hqualified]

theorem not_isValid_iff {d : Description} : ¬ IsValid d ↔ ∃ fault, d.toTable = .error fault := by
  simp only [IsValid, ← toTable_eq_ok_iff]
  cases d.toTable <;> simp

instance (d : Description) : Decidable (IsValid d) :=
  decidable_of_iff (d.toTable.isOk = true) (by
    simp only [IsValid, ← toTable_eq_ok_iff]
    cases d.toTable <;> simp [Except.isOk, Except.toBool])

namespace Catalog

variable {mapping : List (Value × Description)} {k : Value} {d : Description} {key : String}
  {t : Table}

/-! ## What a catalog holds -/

/-- The last valid description of a mapping under a text gives a table. -/
def IsLastValid (mapping : List (Value × Description)) (key : String) (t : Table) : Prop :=
  ∃ before k d after, mapping = before ++ (k, d) :: after ∧ k.display = key ∧ Describes d t ∧
    ∀ entry ∈ after, entry.1.display = key → ¬ IsValid entry.2

/-- The catalog of a mapping: the texts of the keys with valid descriptions, each where it comes
first and with the last of its tables. -/
structure IsCatalogOf (mapping : List (Value × Description)) (c : Catalog) : Prop where
  qualifies : c.qualifies = true
  keys : c.keys = ((mapping.filter fun entry => IsValid entry.2).map (·.1.display)).eraseDups
  entry : ∀ key t, (key, t) ∈ c.entries ↔ IsLastValid mapping key t

theorem isLastValid_concat : IsLastValid (mapping ++ [(k, d)]) key t ↔
    k.display = key ∧ Describes d t ∨
      ¬ (k.display = key ∧ IsValid d) ∧ IsLastValid mapping key t := by
  constructor
  · rintro ⟨before, k', d', after, heq, hkey, ht, hafter⟩
    rcases List.eq_nil_or_concat after with rfl | ⟨after, last, rfl⟩
    · obtain ⟨-, hlast⟩ := List.append_inj' heq rfl
      cases List.singleton_inj.1 hlast
      exact .inl ⟨hkey, ht⟩
    · rw [List.concat_eq_append, ← List.cons_append, ← List.append_assoc] at heq
      obtain ⟨hmapping, hlast⟩ := List.append_inj' heq rfl
      cases List.singleton_inj.1 hlast
      rw [List.concat_eq_append, List.forall_mem_append] at hafter
      exact .inr ⟨fun ⟨hk, hd⟩ => hafter.2 (k, d) (by simp) hk hd,
        before, k', d', after, hmapping, hkey, ht, hafter.1⟩
  · rintro (⟨hkey, ht⟩ | ⟨hlast, before, k', d', after, rfl, hkey, ht, hafter⟩)
    · exact ⟨mapping, k, d, [], rfl, hkey, ht, by simp⟩
    · refine ⟨before, k', d', after ++ [(k, d)], by simp, hkey, ht, ?_⟩
      rw [List.forall_mem_append]
      refine ⟨hafter, List.forall_mem_singleton.2 fun hk hd => hlast ⟨hk, hd⟩⟩

/-- A key that is there gets another table in its place. -/
theorem insert_of_mem {entries : List (String × Table)} (hnodup : (entries.map (·.1)).Nodup)
    (h : key ∈ entries.map (·.1)) (table : Table) :
    insert key table entries = entries.map fun entry =>
      if entry.1 = key then (key, table) else entry := by
  induction entries with
  | nil => cases h
  | cons entry entries ih =>
    obtain ⟨k, t⟩ := entry
    obtain ⟨hk, hrest⟩ := List.nodup_cons.1 hnodup
    by_cases heq : k = key
    · subst heq
      have hkept : ∀ entry ∈ entries, (if entry.1 = k then (k, table) else entry) = entry :=
        fun entry hentry => if_neg fun hkey : entry.1 = k =>
          hk (hkey ▸ List.mem_map_of_mem (f := (·.1)) hentry)
      rw [insert, if_pos rfl, List.map_cons, if_pos rfl, List.map_congr_left hkept, List.map_id']
    · have hmem : key ∈ entries.map (·.1) :=
        (List.mem_cons.1 h).resolve_left fun hkey => heq hkey.symm
      rw [insert, if_neg heq, List.map_cons, if_neg heq, ih hrest hmem]

/-- An entry that is set leaves the others with their tables. -/
theorem mem_insert_iff {entries : List (String × Table)} (hnodup : (entries.map (·.1)).Nodup)
    {k : String} {table : Table} :
    (k, t) ∈ insert key table entries ↔ k = key ∧ t = table ∨ k ≠ key ∧ (k, t) ∈ entries := by
  by_cases hkey : key ∈ entries.map (·.1)
  · obtain ⟨there, hthere, hsame⟩ := List.mem_map.1 hkey
    rw [insert_of_mem hnodup hkey, List.mem_map]
    constructor
    · rintro ⟨entry, hentry, heq⟩
      split at heq
      · cases heq
        exact .inl ⟨rfl, rfl⟩
      · cases heq
        exact .inr ⟨‹_›, hentry⟩
    · rintro (⟨rfl, rfl⟩ | ⟨hne, hentry⟩)
      · exact ⟨there, hthere, if_pos hsame⟩
      · exact ⟨(k, t), hentry, if_neg hne⟩
  · have hne {t : Table} (h : (k, t) ∈ entries) : k ≠ key := fun heq =>
      hkey (heq ▸ List.mem_map_of_mem (f := (·.1)) h)
    rw [insert_of_not_mem hkey, List.mem_append, List.mem_singleton, Prod.mk.injEq, or_comm]
    exact or_congr_right ⟨fun h => ⟨hne h, h⟩, And.right⟩

/-- An entry that is set stands where its key is already, or at the end. -/
theorem keys_insert {entries : List (String × Table)} {keys : List String}
    (h : entries.map (·.1) = keys.eraseDups) (table : Table) :
    (insert key table entries).map (·.1) = (keys ++ [key]).eraseDups := by
  have hnodup : (entries.map (·.1)).Nodup := h ▸ nodup_eraseDups keys
  by_cases hkey : key ∈ keys
  · have hthere : key ∈ entries.map (·.1) := by rwa [h, List.mem_eraseDups]
    rw [eraseDups_concat_of_mem hkey, ← h, insert_of_mem hnodup hthere, List.map_map]
    refine List.map_congr_left fun entry _ => ?_
    show (if entry.1 = key then (key, table) else entry).1 = entry.1
    split
    · exact ‹entry.1 = key›.symm
    · rfl
  · have hnew : key ∉ entries.map (·.1) := by rwa [h, List.mem_eraseDups]
    rw [eraseDups_concat_of_not_mem hkey, ← h, insert_of_not_mem hnew, List.map_append]
    rfl

theorem validEntries_concat_of_ok (h : d.toTable = .ok t) :
    validEntries (mapping ++ [(k, d)]) = validEntries mapping ++ [(k.display, t)] := by
  simp [validEntries, h]

theorem validEntries_concat_of_error {fault : TableFault} (h : d.toTable = .error fault) :
    validEntries (mapping ++ [(k, d)]) = validEntries mapping := by
  simp [validEntries, h]

/-- The valid descriptions make the catalog of a mapping. -/
theorem isCatalogOf_ofValid (mapping : List (Value × Description)) :
    IsCatalogOf mapping (ofValid mapping) := by
  induction mapping using List.reverseRecOn with
  | nil =>
    refine ⟨rfl, rfl, fun key t => iff_of_false (by simp [ofValid, validEntries]) ?_⟩
    rintro ⟨before, k, d, after, heq, -⟩
    simp at heq
  | append_singleton mapping entry ih =>
    obtain ⟨k, d⟩ := entry
    have hnodup : ((ofValid mapping).entries.map (·.1)).Nodup := by
      show (ofValid mapping).keys.Nodup
      rw [ih.keys]
      exact nodup_eraseDups _
    cases htable : d.toTable with
    | error fault =>
      have hinvalid : ¬ IsValid d := not_isValid_iff.2 ⟨fault, htable⟩
      have hsame : ofValid (mapping ++ [(k, d)]) = ofValid mapping := by
        rw [ofValid, validEntries_concat_of_error htable, ofValid]
      rw [hsame]
      refine ⟨rfl, ?_, fun key t => ?_⟩
      · simp [ih.keys, hinvalid]
      · rw [ih.entry, isLastValid_concat]
        constructor
        · exact fun h => .inr ⟨fun hlast => hinvalid hlast.2, h⟩
        · rintro (⟨-, ht⟩ | ⟨-, h⟩)
          · exact absurd ⟨t, ht⟩ hinvalid
          · exact h
    | ok table =>
      have htable' : Describes d table := toTable_eq_ok_iff.1 htable
      have hvalid : IsValid d := ⟨table, htable'⟩
      have hentries : (ofValid (mapping ++ [(k, d)])).entries =
          insert k.display table (ofValid mapping).entries := by
        rw [ofValid, validEntries_concat_of_ok htable, List.foldl_append]
        rfl
      refine ⟨rfl, ?_, fun key t => ?_⟩
      · rw [Catalog.keys, hentries, keys_insert ih.keys]
        simp [hvalid]
      · rw [hentries, mem_insert_iff hnodup, ih.entry, isLastValid_concat]
        have hdescribes : Describes d t ↔ t = table := by
          rw [← toTable_eq_ok_iff, htable, Except.ok.injEq, eq_comm]
        simp only [hdescribes, hvalid, and_true, eq_comm (a := k.display)]

/-! ## What is done with the other descriptions -/

/-- How strict building ends at an entry of a mapping. -/
inductive Refuses : Value × Description → Failure → Prop where
  | invalid {k : Value} {d : Description} {fault : TableFault} (hkey : k.isWritable = true)
      (h : d.toTable = .error fault) : Refuses (k, d) (.catalog (.invalidTable k fault))
  | noText {k : Value} (d : Description) (hkey : k.isWritable = false) : Refuses (k, d) .unwritable

/-- Strict building ends at the first entry of a mapping where it has to. -/
def RefusesFirst (mapping : List (Value × Description)) (failure : Failure) : Prop :=
  ∃ before entry after, mapping = before ++ entry :: after ∧ Refuses entry failure ∧
    ∀ earlier ∈ before, earlier.1.isWritable = true ∧ IsValid earlier.2

/-- A notice that an entry of a mapping is left out. -/
def Warns (entry : Value × Description) (notice : Notice) : Prop :=
  ∃ fault, entry.2.toTable = .error fault ∧ notice = .invalidTable entry.1 fault

theorem refusal?_eq_some_iff {entry : Value × Description} {failure : Failure} :
    refusal? entry = some failure ↔ Refuses entry failure := by
  obtain ⟨k, d⟩ := entry
  simp only [refusal?]
  constructor
  · intro h
    split at h
    · split at h <;> cases h
      exact .invalid ‹_› ‹_›
    · cases h
      exact .noText d (Bool.not_eq_true _ ▸ ‹¬ k.isWritable = true›)
  · intro h
    cases h with
    | invalid hkey h => simp [hkey, h]
    | noText d hkey => simp [hkey]

theorem refusal?_eq_none_iff {entry : Value × Description} :
    refusal? entry = none ↔ entry.1.isWritable = true ∧ IsValid entry.2 := by
  obtain ⟨k, d⟩ := entry
  simp only [refusal?, IsValid, ← toTable_eq_ok_iff]
  cases k.isWritable <;> cases d.toTable <;> simp

theorem ofMappingStrict_eq_error_iff {failure : Failure} :
    ofMappingStrict mapping = .error failure ↔ RefusesFirst mapping failure := by
  have hfirst : mapping.findSome? refusal? = some failure ↔ RefusesFirst mapping failure := by
    simp only [List.findSome?_eq_some_iff, RefusesFirst, refusal?_eq_some_iff,
      refusal?_eq_none_iff]
  rw [← hfirst, ofMappingStrict]
  cases mapping.findSome? refusal? <;> simp

theorem ofMappingStrict_of_sound
    (h : ∀ entry ∈ mapping, entry.1.isWritable = true ∧ IsValid entry.2) :
    ofMappingStrict mapping = .ok (ofValid mapping) := by
  have hnone : mapping.findSome? refusal? = none :=
    List.findSome?_eq_none_iff.2 fun entry hentry => refusal?_eq_none_iff.2 (h entry hentry)
  rw [ofMappingStrict, hnone]

/-- With texts for all keys, strict building ends exactly if a description is invalid. -/
theorem exists_catalog_error_iff (hkeys : ∀ entry ∈ mapping, entry.1.isWritable = true) :
    (∃ e, ofMappingStrict mapping = .error (.catalog e)) ↔
      ∃ entry ∈ mapping, ¬ IsValid entry.2 := by
  constructor
  · rintro ⟨e, he⟩
    obtain ⟨before, entry, after, rfl, hrefuses, -⟩ := ofMappingStrict_eq_error_iff.1 he
    cases hrefuses with
    | @invalid k d fault _ h => exact ⟨(k, d), by simp, not_isValid_iff.2 ⟨fault, h⟩⟩
  · rintro ⟨entry, hentry, hinvalid⟩
    have hfirst : mapping.findSome? refusal? ≠ none := fun hnone =>
      hinvalid (refusal?_eq_none_iff.1 (List.findSome?_eq_none_iff.1 hnone entry hentry)).2
    obtain ⟨failure, hfailure⟩ := Option.ne_none_iff_exists'.1 hfirst
    have hstrict : ofMappingStrict mapping = .error failure := by rw [ofMappingStrict, hfailure]
    obtain ⟨before, first, after, rfl, hrefuses, -⟩ := ofMappingStrict_eq_error_iff.1 hstrict
    cases hrefuses with
    | invalid => exact ⟨_, hstrict⟩
    | @noText k d hkey =>
      rw [hkeys (k, d) (by simp)] at hkey
      cases hkey

/-- Each invalid description is warned of, in their order. -/
theorem forall₂_warns (mapping : List (Value × Description)) :
    List.Forall₂ Warns (mapping.filter fun entry => ¬ IsValid entry.2) (ofMapping mapping).2 := by
  induction mapping with
  | nil => exact .nil
  | cons entry mapping ih =>
    obtain ⟨k, d⟩ := entry
    cases htable : d.toTable with
    | ok table =>
      have hvalid : IsValid d := ⟨table, toTable_eq_ok_iff.1 htable⟩
      have htold : (ofMapping ((k, d) :: mapping)).2 = (ofMapping mapping).2 := by
        simp [ofMapping, faults, htable]
      rw [htold, List.filter_cons_of_neg (by simpa using hvalid)]
      exact ih
    | error fault =>
      have hinvalid : ¬ IsValid d := not_isValid_iff.2 ⟨fault, htable⟩
      have htold : (ofMapping ((k, d) :: mapping)).2 =
          .invalidTable k fault :: (ofMapping mapping).2 := by
        simp [ofMapping, faults, htable]
      rw [htold, List.filter_cons_of_pos (by simpa using hinvalid)]
      exact .cons ⟨fault, htable, rfl⟩ ih

theorem outcome_build_of_writable (h : ∀ entry ∈ mapping, entry.1.isWritable = true)
    (level : LogLevel) :
    (build mapping level).outcome = (.ok (ofValid mapping), (ofMapping mapping).2) := by
  have hwarns : ∀ entry ∈ mapping, ¬ FailsToWarn level entry.1 :=
    fun entry hentry => not_failsToWarn (h entry hentry)
  rw [Noted.outcome_apply, build_of_warns hwarns, writable_eq_self h, List.nil_append]

/-- Where warnings are not told, the descriptions whose keys have texts are built from. -/
theorem outcome_build_of_quiet {level : LogLevel} (h : level.tells .warning = false)
    (mapping : List (Value × Description)) : (build mapping level).outcome =
      (.ok (ofValid (writable mapping)), (ofMapping (writable mapping)).2) := by
  have hwarns : ∀ entry ∈ mapping, ¬ FailsToWarn level entry.1 :=
    fun _ _ hfails => nomatch hfails.2.symm.trans h
  rw [Noted.outcome_apply, build_of_warns hwarns, List.nil_append]

theorem outcome_build_eq_error_iff {level : LogLevel} {failure : Failure} :
    (build mapping level).outcome.1 = .error failure ↔
      failure = .unwritable ∧ ∃ entry ∈ mapping, FailsToWarn level entry.1 := by
  rw [Noted.outcome_apply]
  by_cases h : ∃ entry ∈ mapping, FailsToWarn level entry.1
  · obtain ⟨entry, hentry, hfails⟩ := h
    rw [build_of_failsToWarn hentry hfails, Except.error.injEq]
    exact ⟨fun heq => ⟨heq.symm, entry, hentry, hfails⟩, fun heq => heq.1.symm⟩
  · rw [build_of_warns (by simpa using h)]
    exact iff_of_false nofun fun hfails => h hfails.2

/-- Strict and lenient building agree.  One catalog is what a mapping makes; lenient building gives
it with a warning for each invalid description, and strict building gives it if there is none and
else names the first.  All that stands in the way is a key without a text: strict building ends at
such a key that comes before all invalid descriptions; lenient building gives no catalog where
warnings are told, and else that of the other descriptions. -/
theorem strict_and_lenient_building_agree (mapping : List (Value × Description)) :
    ∃ c notices, IsCatalogOf mapping c ∧
      List.Forall₂ Warns (mapping.filter fun entry => ¬ IsValid entry.2) notices ∧
      (∀ failure, ofMappingStrict mapping = .error failure ↔ RefusesFirst mapping failure) ∧
      ((∀ entry ∈ mapping, entry.1.isWritable = true ∧ IsValid entry.2) →
        ofMappingStrict mapping = .ok c) ∧
      ((∀ entry ∈ mapping, entry.1.isWritable = true) →
        (∀ level, (build mapping level).outcome = (.ok c, notices)) ∧
        ((∃ e, ofMappingStrict mapping = .error (.catalog e)) ↔
          ∃ entry ∈ mapping, ¬ IsValid entry.2)) ∧
      (∀ level failure, (build mapping level).outcome.1 = .error failure ↔
        failure = .unwritable ∧ ∃ entry ∈ mapping, FailsToWarn level entry.1) ∧
      ∀ level, level.tells .warning = false → ∃ c' notices',
        (build mapping level).outcome = (.ok c', notices') ∧ IsCatalogOf (writable mapping) c' ∧
        List.Forall₂ Warns ((writable mapping).filter fun entry => ¬ IsValid entry.2) notices' := by
  refine ⟨ofValid mapping, (ofMapping mapping).2, isCatalogOf_ofValid mapping,
    forall₂_warns mapping, fun _ => ofMappingStrict_eq_error_iff, ofMappingStrict_of_sound,
    fun hkeys => ⟨outcome_build_of_writable hkeys, exists_catalog_error_iff hkeys⟩,
    fun _ _ => outcome_build_eq_error_iff, fun level hquiet => ?_⟩
  exact ⟨_, _, outcome_build_of_quiet hquiet mapping, isCatalogOf_ofValid _, forall₂_warns _⟩

end Catalog

end SqlTables
