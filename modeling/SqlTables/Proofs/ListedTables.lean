import Mathlib.Data.List.Nodup
import SqlTables.Proofs.CatalogFailures
import SqlTables.Proofs.DocumentValues

/-!
# Lists of tables in a document

A document may list its tables one by one.  The list becomes a mapping of names to descriptions and
that a catalog, so of several items of one name only the last counts (`mem_mapping_iff`).  Each name
has its entry from that item, with the qualified name that the item gives or is made of
(`tableOf_of_plain`); what is no item for a table at all is left out with a warning.
-/

set_option autoImplicit false

namespace SqlTables

open Document (Value)

/-! ## Mappings with one more entry -/

namespace Document.Value

/-- A text is the same key as itself only. -/
theorem sameKey_text_iff {s : String} {k : Value} : sameKey (text s) k = true ↔ k = text s := by
  cases k with
  | text t =>
    rw [sameKey, beq_iff_eq, text.injEq]
    exact eq_comm
  | _ => exact iff_of_false (by simp [sameKey, whole?]) (by simp)

/-- Setting a text key leaves the other keys with their values. -/
theorem mem_insert_text_iff {s : String} {w : Value} {entries : List (Value × Value)}
    (hnodup : (entries.map (·.1)).Nodup) {k v : Value} :
    (k, v) ∈ insert (text s) w entries ↔ k = text s ∧ v = w ∨ k ≠ text s ∧ (k, v) ∈ entries := by
  induction entries with
  | nil => simp [insert]
  | cons entry entries ih =>
    obtain ⟨key, value⟩ := entry
    obtain ⟨hkey, hrest⟩ := List.nodup_cons.1 hnodup
    have hother {v : Value} (h : (key, v) ∈ entries) : False :=
      hkey (List.mem_map_of_mem (f := (·.1)) h)
    unfold insert
    by_cases h : sameKey (text s) key = true
    · obtain rfl := sameKey_text_iff.1 h
      rw [if_pos h]
      simp only [List.mem_cons, Prod.mk.injEq]
      constructor
      · rintro (hnew | hmem)
        · exact .inl hnew
        · exact .inr ⟨fun hk => hother (hk ▸ hmem), .inr hmem⟩
      · rintro (hnew | ⟨hk, ⟨rfl, -⟩ | hmem⟩)
        · exact .inl hnew
        · exact absurd rfl hk
        · exact .inr hmem
    · have hne : key ≠ text s := fun hk => h (sameKey_text_iff.2 hk)
      rw [if_neg h]
      simp only [List.mem_cons, Prod.mk.injEq, ih hrest]
      constructor
      · rintro (⟨rfl, rfl⟩ | hnew | ⟨hk, hmem⟩)
        · exact .inr ⟨hne, .inl ⟨rfl, rfl⟩⟩
        · exact .inl hnew
        · exact .inr ⟨hk, .inr hmem⟩
      · rintro (hnew | ⟨hk, hhead | hmem⟩)
        · exact .inr (.inl hnew)
        · exact .inl hhead
        · exact .inr (.inr ⟨hk, hmem⟩)

theorem nodup_keys_insert_text {s : String} {w : Value} {entries : List (Value × Value)}
    (hnodup : (entries.map (·.1)).Nodup) : ((insert (text s) w entries).map (·.1)).Nodup := by
  induction entries with
  | nil => simp [insert]
  | cons entry entries ih =>
    obtain ⟨key, value⟩ := entry
    obtain ⟨hkey, hrest⟩ := List.nodup_cons.1 hnodup
    unfold insert
    by_cases h : sameKey (text s) key = true
    · rw [if_pos h]
      exact hnodup
    · have hne : key ≠ text s := fun hk => h (sameKey_text_iff.2 hk)
      rw [if_neg h, List.map_cons]
      refine List.nodup_cons.2 ⟨fun hmem => ?_, ih hrest⟩
      obtain ⟨⟨k, v⟩, hentry, rfl⟩ := List.mem_map.1 hmem
      rcases (mem_insert_text_iff hrest).1 hentry with ⟨hk, -⟩ | ⟨-, hentry⟩
      · exact hne hk
      · exact hkey (List.mem_map_of_mem (f := (·.1)) hentry)

end Document.Value

namespace Catalog

theorem insert_of_not_mem {key : String} {entries : List (String × Table)}
    (h : key ∉ entries.map (·.1)) (table : Table) :
    insert key table entries = entries ++ [(key, table)] := by
  induction entries with
  | nil => rfl
  | cons entry entries ih =>
    obtain ⟨k, t⟩ := entry
    rw [List.map_cons, List.mem_cons, not_or] at h
    rw [insert, if_neg (Ne.symm h.1), ih h.2, List.cons_append]

/-- Entries under different keys are all kept in their places. -/
theorem foldl_insert_of_nodup {added entries : List (String × Table)}
    (h : ((added ++ entries).map (·.1)).Nodup) :
    entries.foldl (fun es (k, t) => insert k t es) added = added ++ entries := by
  induction entries generalizing added with
  | nil => simp
  | cons entry entries ih =>
    obtain ⟨k, t⟩ := entry
    have hnew : k ∉ added.map (·.1) := by
      rw [List.map_append, List.nodup_append] at h
      exact fun hk => h.2.2 k hk k (by simp) rfl
    rw [List.foldl_cons]
    simp only [insert_of_not_mem hnew]
    rw [ih (by simpa using h), List.append_assoc, List.singleton_append]

/-! ## Items of a list -/

/-- An item of a list of tables under a name. -/
def IsListedAs (name : String) (item : Value) : Prop :=
  ∃ entries, item = .map entries ∧ Table.optional entries "name" = .text name

/-- The last item of a list under a name, as the entries of a mapping. -/
def IsLastOf (items : List Value) (name : String) (entries : List (Value × Value)) : Prop :=
  ∃ before after, items = before ++ .map entries :: after ∧
    Table.optional entries "name" = .text name ∧ ∀ other ∈ after, ¬ IsListedAs name other

theorem isLastOf_concat {items : List Value} {item : Value} {name : String}
    {entries : List (Value × Value)} : IsLastOf (items ++ [item]) name entries ↔
      item = .map entries ∧ Table.optional entries "name" = .text name ∨
        IsLastOf items name entries ∧ ¬ IsListedAs name item := by
  constructor
  · rintro ⟨before, after, heq, hname, hafter⟩
    rcases List.eq_nil_or_concat after with rfl | ⟨after, other, rfl⟩
    · obtain ⟨-, hitem⟩ := List.append_inj' heq rfl
      exact .inl ⟨List.singleton_inj.1 hitem, hname⟩
    · rw [List.concat_eq_append, ← List.cons_append, ← List.append_assoc] at heq
      obtain ⟨hitems, hitem⟩ := List.append_inj' heq rfl
      obtain rfl := List.singleton_inj.1 hitem
      rw [List.concat_eq_append, List.forall_mem_append] at hafter
      exact .inr ⟨⟨before, after, hitems, hname, hafter.1⟩, hafter.2 item (by simp)⟩
  · rintro (⟨rfl, hname⟩ | ⟨⟨before, after, rfl, hname, hafter⟩, hother⟩)
    · exact ⟨items, [], rfl, hname, by simp⟩
    · refine ⟨before, after ++ [item], by simp, hname, ?_⟩
      rw [List.forall_mem_append]
      exact ⟨hafter, by simpa using hother⟩

/-- The table that an item describes under its name, if its qualified name is a text. -/
def tableOf (name : String) (entries : List (Value × Value)) : Option Table :=
  (listedTable name entries).toOption.bind fun description =>
    (Table.ofValue (.map description)).toOption

/-! ## Qualified names -/

/-- A part of an item that is absent or null, or a text. -/
def IsPlain (v : Value) : Prop := v = .null ∨ ∃ s, v = .text s

/-- The text that a value is, blank for any other value. -/
def plainText : Value → String
  | .text s => s
  | _ => ""

/-- Schema, database and qualified name of an item are texts as far as they are there. -/
def HasPlainParts (entries : List (Value × Value)) : Prop :=
  ∀ key ∈ ["schema", "database", "fullyQualifiedName"], IsPlain (Table.optional entries key)

/-- The qualified name of an item: the one it gives unless that is empty, else its database, its
schema, as far as they are not empty, and its name, joined by dots. -/
def qualifiedName (name : String) (entries : List (Value × Value)) : String :=
  let given := plainText (Table.optional entries "fullyQualifiedName")
  let parts := [Table.optional entries "database", Table.optional entries "schema"].map plainText
  if given ≠ "" then given else ".".intercalate (parts.filter (· ≠ "") ++ [name])

theorem IsPlain.isGiven_iff {v : Value} (h : IsPlain v) : v.isGiven = true ↔ plainText v ≠ "" := by
  rcases h with rfl | ⟨s, rfl⟩ <;> simp [Value.isGiven, plainText]

theorem IsPlain.eq_text {v : Value} (h : IsPlain v) (hgiven : v.isGiven = true) :
    v = .text (plainText v) := by
  rcases h with rfl | ⟨s, rfl⟩
  · cases hgiven
  · rfl

theorem filter_isGiven_plain {vs : List Value} (h : ∀ v ∈ vs, IsPlain v) :
    vs.filter Value.isGiven = ((vs.map plainText).filter (· ≠ "")).map .text := by
  induction vs with
  | nil => rfl
  | cons v vs ih =>
    obtain ⟨hv, hvs⟩ := List.forall_mem_cons.1 h
    rw [List.map_cons, List.filter_cons, List.filter_cons, ih hvs]
    by_cases hgiven : v.isGiven = true
    · rw [if_pos hgiven, if_pos (by simpa using hv.isGiven_iff.1 hgiven), List.map_cons,
        ← hv.eq_text hgiven]
    · rw [if_neg hgiven, if_neg (by simpa using hv.isGiven_iff.not.1 hgiven)]

theorem joinedParts_texts (texts : List String) :
    joinedParts (texts.map .text) = .ok (".".intercalate texts) := by
  refine Outcome.bind_eq_ok_iff.2 ⟨texts, ?_, rfl⟩
  induction texts with
  | nil => rfl
  | cons s texts ih =>
    rw [List.map_cons, List.mapM_cons, ih]
    rfl

/-- The description of an item with parts that are texts. -/
theorem listedTable_of_plain {entries : List (Value × Value)} (h : HasPlainParts entries)
    (name : String) : listedTable name entries =
      .ok [(.text "tableName", .text (Sql.bareName name)),
        (.text "fullyQualifiedName", .text (qualifiedName name entries)),
        (.text "schema", Table.optional entries "schema"),
        (.text "database", Table.optional entries "database")] := by
  have hgiven := h "fullyQualifiedName" (by simp)
  have hparts : ∀ v ∈ [Table.optional entries "database", Table.optional entries "schema"],
      IsPlain v := by
    simpa using ⟨h "database" (by simp), h "schema" (by simp)⟩
  unfold listedTable qualifiedName
  by_cases hqualified : (Table.optional entries "fullyQualifiedName").isGiven = true
  · simp only [hqualified, if_true, if_pos (hgiven.isGiven_iff.1 hqualified), pure_bind]
    rw [← hgiven.eq_text hqualified]
    rfl
  · have hjoined : [Table.optional entries "database", Table.optional entries "schema"].filter
        Value.isGiven ++ [.text name] =
          ((([Table.optional entries "database", Table.optional entries "schema"].map
            plainText).filter (· ≠ "")) ++ [name]).map .text := by
      rw [filter_isGiven_plain hparts, List.map_append]
      rfl
    simp only [hqualified, if_neg (hgiven.isGiven_iff.not.1 hqualified)]
    rw [hjoined, joinedParts_texts]
    rfl

/-- The table of a description is the one with its two names if these are texts. -/
theorem ofValue_description (name qualified : String) (schema database : Value) :
    Table.ofValue (.map [(.text "tableName", .text name),
      (.text "fullyQualifiedName", .text qualified), (.text "schema", schema),
      (.text "database", database)]) =
        .ok ⟨name, qualified, schema, database⟩ := rfl

/-- An item with parts that are texts describes the table of the last part of its name and of its
qualified name. -/
theorem tableOf_of_plain {entries : List (Value × Value)} (h : HasPlainParts entries)
    (name : String) : tableOf name entries =
      some ⟨Sql.bareName name, qualifiedName name entries, Table.optional entries "schema",
        Table.optional entries "database"⟩ := by
  rw [tableOf, listedTable_of_plain h, Except.toOption, Option.bind_some, ofValue_description]
  rfl

/-! ## The mapping of a list -/

/-- Whether an item is a mapping with a text as its name. -/
def isListed : Value → Bool
  | .map entries =>
    match Table.optional entries "name" with
    | .text _ => true
    | _ => false
  | _ => false

theorem isListed_iff {item : Value} : isListed item = true ↔ IsListed item := by
  constructor
  · intro h
    unfold isListed at h
    split at h
    · split at h
      · exact ⟨_, _, rfl, ‹_›⟩
      · cases h
    · cases h
  · rintro ⟨entries, name, rfl, hname⟩
    simp only [isListed, hname]

instance : DecidablePred IsListed := fun _ => decidable_of_iff _ isListed_iff

/-- The notices for the items of a list that are left out, one for each that has a text. -/
def leftOut (items : List Value) : List Notice :=
  (items.filter fun item => ¬ IsListed item ∧ item.isWritable = true).map .invalidListedTable

theorem leftOut_concat_of_listed {item : Value} (hlisted : IsListed item) (items : List Value) :
    leftOut (items ++ [item]) = leftOut items := by
  rw [leftOut, List.filter_append, List.map_append, leftOut]
  simp [hlisted]

theorem leftOut_concat_of_not_listed {item : Value} (hlisted : ¬ IsListed item)
    (items : List Value) : leftOut (items ++ [item]) =
      leftOut items ++ if item.isWritable then [.invalidListedTable item] else [] := by
  rw [leftOut, List.filter_append, List.map_append, leftOut]
  cases hwritable : item.isWritable <;> simp [hlisted, hwritable]

variable {level : LogLevel}

theorem addListed_apply_of_listed {entries description : List (Value × Value)} {name : String}
    (hname : Table.optional entries "name" = .text name)
    (h : listedTable name entries = .ok description) (mapping : List (Value × Value))
    (earlier : List Notice) : addListed level mapping (.map entries) earlier =
      (.ok (Value.insert (.text name) (.map description) mapping), earlier) := by
  rw [addListed_of_listed hname, h]
  rfl

theorem addListed_apply_of_not_listed {item : Value} (hlisted : ¬ IsListed item)
    (hwarns : ¬ FailsToWarn level item) (mapping : List (Value × Value)) (earlier : List Notice) :
    addListed level mapping item earlier =
      (.ok mapping, earlier ++ if item.isWritable then [.invalidListedTable item] else []) := by
  rw [addListed_of_not_listed hlisted, leaveOut]
  cases hwritable : item.isWritable with
  | true => rfl
  | false =>
    have htells : level.tells .warning = false := by simpa [FailsToWarn, hwritable] using hwarns
    simp only [htells, Bool.false_eq_true, if_false, List.append_nil]
    rfl

/-- An entry of the mapping that a list of tables stands for: a name with the description of the
last item under it. -/
def IsDescribed (items : List Value) (k v : Value) : Prop :=
  ∃ name entries description, k = .text name ∧ IsLastOf items name entries ∧
    listedTable name entries = .ok description ∧ v = .map description

/-- One more item that is no table describes nothing. -/
theorem isDescribed_concat_of_not_listed {items : List Value} {item : Value}
    (hlisted : ¬ IsListed item) {k v : Value} :
    IsDescribed (items ++ [item]) k v ↔ IsDescribed items k v := by
  have hlast (name : String) (entries : List (Value × Value)) :
      IsLastOf (items ++ [item]) name entries ↔ IsLastOf items name entries := by
    rw [isLastOf_concat]
    constructor
    · rintro (⟨rfl, hname⟩ | ⟨h, -⟩)
      · exact absurd ⟨_, _, rfl, hname⟩ hlisted
      · exact h
    · exact fun h => .inr ⟨h, fun ⟨es, hes⟩ => hlisted ⟨es, name, hes⟩⟩
  simp only [IsDescribed, hlast]

/-- One more item under a name takes the place of those before it. -/
theorem isDescribed_concat_of_listed {items : List Value} {name : String}
    {entries description : List (Value × Value)}
    (hname : Table.optional entries "name" = .text name)
    (h : listedTable name entries = .ok description) {k v : Value} :
    IsDescribed (items ++ [.map entries]) k v ↔
      k = .text name ∧ v = .map description ∨ k ≠ .text name ∧ IsDescribed items k v := by
  have hlisted (other : String) : IsListedAs other (.map entries) ↔ other = name := by
    constructor
    · rintro ⟨es, hes, hother⟩
      cases hes
      rw [hname] at hother
      exact (Value.text.inj hother).symm
    · rintro rfl
      exact ⟨entries, rfl, hname⟩
  simp only [IsDescribed, isLastOf_concat, hlisted, Value.map.injEq]
  constructor
  · rintro ⟨other, es, d, rfl, ⟨rfl, hother⟩ | ⟨hlast, hne⟩, hd, rfl⟩
    · rw [hname] at hother
      cases hother
      rw [h] at hd
      cases hd
      exact .inl ⟨rfl, rfl⟩
    · exact .inr ⟨fun heq => hne (Value.text.inj heq), other, es, d, rfl, hlast, hd, rfl⟩
  · rintro (⟨rfl, rfl⟩ | ⟨hne, other, es, d, rfl, hlast, hd, rfl⟩)
    · exact ⟨name, entries, description, rfl, .inl ⟨rfl, hname⟩, h, rfl⟩
    · exact ⟨other, es, d, rfl, .inr ⟨hlast, fun heq => hne (congrArg _ heq)⟩, hd, rfl⟩

/-- A list of which no item ends the building stands for the mapping of its names to the
descriptions by their last items, and leaves a notice for each item that is left out. -/
theorem foldlM_addListed_apply {items : List Value} (h : ∀ item ∈ items, ¬ ItemEscapes level item)
    (earlier : List Notice) : ∃ mapping,
      items.foldlM (addListed level) [] earlier = (.ok mapping, earlier ++ leftOut items) ∧
      (mapping.map (·.1)).Nodup ∧ ∀ k v, (k, v) ∈ mapping ↔ IsDescribed items k v := by
  -- From the end of the list: one more item is the last one of its name.
  induction items using List.reverseRecOn with
  | nil =>
    refine ⟨[], ?_, List.nodup_nil, fun k v => ?_⟩
    · rw [leftOut, List.filter_nil, List.map_nil, List.append_nil]
      rfl
    · refine iff_of_false List.not_mem_nil ?_
      rintro ⟨_, _, _, _, ⟨before, after, heq, -⟩, -⟩
      cases before <;> cases heq
  | append_singleton items item ih =>
    rw [List.forall_mem_append] at h
    obtain ⟨mapping, hfold, hnodup, hmem⟩ := ih h.1
    have hitem : ¬ ItemEscapes level item := h.2 item (by simp)
    rw [List.foldlM_append, bind_of_ok hfold, List.foldlM_cons]
    by_cases hlisted : IsListed item
    · obtain ⟨entries, name, rfl, hname⟩ := hlisted
      obtain ⟨description, hdescription⟩ := (exists_listedTable_iff hname).2 hitem
      refine ⟨Value.insert (.text name) (.map description) mapping, ?_,
        Value.nodup_keys_insert_text hnodup, fun k v => ?_⟩
      · rw [bind_of_ok (addListed_apply_of_listed hname hdescription mapping _),
          leftOut_concat_of_listed ⟨entries, name, rfl, hname⟩]
        rfl
      · rw [Value.mem_insert_text_iff hnodup, isDescribed_concat_of_listed hname hdescription, hmem]
    · have hwarns := (itemEscapes_iff_of_not_listed hlisted).not.1 hitem
      refine ⟨mapping, ?_, hnodup, fun k v => ?_⟩
      · rw [bind_of_ok (addListed_apply_of_not_listed hlisted hwarns mapping _),
          leftOut_concat_of_not_listed hlisted, ← List.append_assoc]
        rfl
      · rw [isDescribed_concat_of_not_listed hlisted, hmem]

/-! ## The catalog of a mapping with different keys -/

theorem mem_validEntries_iff {mapping : List (Value × Value)} {key : String} {table : Table} :
    (key, table) ∈ validEntries (described mapping) ↔
      ∃ k v, (k, v) ∈ mapping ∧ k.display = key ∧ Table.ofValue v = .ok table := by
  simp only [validEntries, described, List.mem_filterMap, List.mem_map]
  constructor
  · rintro ⟨_, ⟨⟨k, v⟩, hmem, rfl⟩, hvalid⟩
    refine ⟨k, v, hmem, ?_⟩
    simp only [Description.toTable] at hvalid
    split at hvalid
    · cases hvalid
      exact ⟨rfl, ‹_›⟩
    · cases hvalid
  · rintro ⟨k, v, hmem, rfl, htable⟩
    exact ⟨(k, .value v), ⟨(k, v), hmem, rfl⟩, by simp only [Description.toTable, htable]⟩

theorem mem_faults_of_error {mapping : List (Value × Value)} {k v : Value} {fault : TableFault}
    (hmem : (k, v) ∈ mapping) (h : Table.ofValue v = .error fault) :
    (k, fault) ∈ faults (described mapping) := by
  refine List.mem_filterMap.2 ⟨(k, .value v), List.mem_map_of_mem hmem, ?_⟩
  simp only [Description.toTable, h]

theorem keys_validEntries_sublist (mapping : List (Value × Description)) :
    ((validEntries mapping).map (·.1)).Sublist (mapping.map fun entry => entry.1.display) := by
  induction mapping with
  | nil => exact .slnil
  | cons entry mapping ih =>
    obtain ⟨k, d⟩ := entry
    rw [validEntries, List.filterMap_cons, List.map_cons]
    cases htable : d.toTable with
    | error fault =>
      simp only [htable]
      exact ih.cons _
    | ok table =>
      simp only [htable]
      exact ih.cons_cons _

variable {mapping : List (Value × Value)}

theorem nodup_keys_validEntries (hkeyed : KeyedByTexts mapping)
    (hnodup : (mapping.map (·.1)).Nodup) :
    ((validEntries (described mapping)).map (·.1)).Nodup := by
  have hkeys : (described mapping).map (fun entry => entry.1.display) =
      (mapping.map (·.1)).map Value.display := by
    simp [described]
  refine (keys_validEntries_sublist _).nodup ?_
  rw [hkeys]
  refine hnodup.map_on fun k hk k' hk' heq => ?_
  obtain ⟨entry, hentry, rfl⟩ := List.mem_map.1 hk
  obtain ⟨entry', hentry', rfl⟩ := List.mem_map.1 hk'
  obtain ⟨s, hs⟩ := hkeyed entry hentry
  obtain ⟨s', hs'⟩ := hkeyed entry' hentry'
  simp only [hs, hs', Value.display] at heq ⊢
  rw [heq]

/-- With different texts for keys, the catalog holds the valid descriptions as they stand. -/
theorem entries_ofValid (hkeyed : KeyedByTexts mapping) (hnodup : (mapping.map (·.1)).Nodup) :
    (ofValid (described mapping)).entries = validEntries (described mapping) := by
  have hvalid : (([] ++ validEntries (described mapping)).map Prod.fst).Nodup :=
    nodup_keys_validEntries hkeyed hnodup
  exact foldl_insert_of_nodup hvalid

theorem build_apply (hkeyed : KeyedByTexts mapping) (earlier : List Notice) :
    build (described mapping) level earlier = (.ok (ofValid (described mapping)),
      earlier ++ (faults (described mapping)).map fun (k, fault) => .invalidTable k fault) := by
  have hkeys : ∀ entry ∈ described mapping, entry.1.isWritable = true := by
    rw [described, List.forall_mem_map]
    intro entry hentry
    obtain ⟨s, hs⟩ := hkeyed entry hentry
    rw [hs]
    rfl
  have hwarns : ∀ entry ∈ described mapping, ¬ FailsToWarn level entry.1 :=
    fun entry hentry => not_failsToWarn (hkeys entry hentry)
  rw [build_of_warns hwarns, writable_eq_self hkeys]
  rfl

/-- An object is no table only for want of its two names. -/
theorem eq_namesMissing_of_ofValue_map {entries : List (Value × Value)} {fault : TableFault}
    (h : Table.ofValue (.map entries) = .error fault) : fault = .namesMissing := by
  rw [Table.ofValue, Table.ofEntries] at h
  split at h <;> cases h
  rfl

/-! ## The catalog of a list -/

/-- A catalog and the notices of its building hold what a list of tables says: each name has the
table that its last item describes, and what has none is reported; an item without a text only where
warnings are told. -/
structure HoldsListed (level : LogLevel) (items : List Value) (c : Catalog)
    (notices : List Notice) : Prop where
  nodup_keys : c.keys.Nodup
  mem_entries_iff : ∀ name table, (name, table) ∈ c.entries ↔
    ∃ item, IsLastOf items name item ∧ tableOf name item = some table
  left_out : ∀ item ∈ items, ¬ IsListed item →
    item.isWritable = true ∨ level.tells .warning = true → .invalidListedTable item ∈ notices
  invalid : ∀ name item, IsLastOf items name item → tableOf name item = none →
    .invalidTable (.text name) .namesMissing ∈ notices

/-- The last item of each name describes a table or is reported. -/
theorem holdsListed_ofDocument (path : String) {entries : List (Value × Value)} {items : List Value}
    (htables : Table.optional entries "tables" = .list items)
    (h : ∀ item ∈ items, ¬ ItemEscapes level item) :
    ∃ c notices, ofDocument path (.map entries) level [] = (.ok c, notices) ∧
      HoldsListed level items c notices := by
  obtain ⟨mapping, hfold, hnodup, hmem⟩ := foldlM_addListed_apply h []
  have hkeyed : KeyedByTexts mapping := by
    rintro ⟨k, v⟩ hentry
    obtain ⟨name, _, _, rfl, -⟩ := (hmem k v).1 hentry
    exact ⟨name, rfl⟩
  have hlast {name : String} {item : List (Value × Value)} (hitem : IsLastOf items name item) :
      ∃ description, listedTable name item = .ok description ∧
        (.text name, .map description) ∈ mapping := by
    obtain ⟨before, after, rfl, hname, -⟩ := id hitem
    obtain ⟨description, hdescription⟩ := (exists_listedTable_iff hname).2 (h (.map item) (by simp))
    exact ⟨description, hdescription, (hmem _ _).2 ⟨name, item, description, rfl, hitem,
      hdescription, rfl⟩⟩
  refine ⟨ofValid (described mapping), leftOut items ++ (faults (described mapping)).map
    fun (k, fault) => .invalidTable k fault, ?_, ?_, fun name table => ?_,
    fun item hitem hlisted htold => ?_, fun name item hitem hnone => ?_⟩
  · have hdocument : ofDocument path (.map entries) level =
        items.foldlM (addListed level) [] >>= fun mapping => build (described mapping) level := by
      rw [← tablesSection_eq]
      simp only [ofDocument, htables]
    rw [hdocument, bind_of_ok hfold, build_apply hkeyed, List.nil_append]
  · rw [keys, entries_ofValid hkeyed hnodup]
    exact nodup_keys_validEntries hkeyed hnodup
  · rw [entries_ofValid hkeyed hnodup, mem_validEntries_iff]
    constructor
    · rintro ⟨k, v, hentry, rfl, htable⟩
      obtain ⟨name, item, description, rfl, hitem, hdescription, rfl⟩ := (hmem k v).1 hentry
      refine ⟨item, hitem, ?_⟩
      rw [Value.display, tableOf, hdescription, Except.toOption, Option.bind_some, htable]
      rfl
    · rintro ⟨item, hitem, htable⟩
      obtain ⟨description, hdescription, hentry⟩ := hlast hitem
      rw [tableOf, hdescription, Except.toOption, Option.bind_some,
        Outcome.toOption_eq_some_iff] at htable
      exact ⟨.text name, .map description, hentry, rfl, htable⟩
  · have hwritable : item.isWritable = true := by
      have hwarns := (itemEscapes_iff_of_not_listed hlisted).not.1 (h item hitem)
      refine htold.elim id fun htells => ?_
      simpa [FailsToWarn, htells] using hwarns
    refine List.mem_append_left _ (List.mem_map_of_mem (List.mem_filter.2 ⟨hitem, ?_⟩))
    simpa using ⟨hlisted, hwritable⟩
  · obtain ⟨description, hdescription, hentry⟩ := hlast hitem
    rw [tableOf, hdescription, Except.toOption, Option.bind_some] at hnone
    cases hvalue : Table.ofValue (.map description) with
    | ok table =>
      rw [hvalue] at hnone
      cases hnone
    | error fault =>
      obtain rfl := eq_namesMissing_of_ofValue_map hvalue
      exact List.mem_append_right _ (List.mem_map_of_mem (mem_faults_of_error hentry hvalue))

section Files

variable [Text.Repertoire] {t : Files.Tree} {p : Files.Path}

theorem load_of_readDocument {document : Value} (h : readDocument t p = .ok document) :
    (load t p level).outcome = ofDocument p.text document level [] := by
  rw [load, h, Noted.outcome_apply]

/-- The catalog of a file with a list of tables holds, unless an item ends the building, the last
item of each name: one whose parts are texts or absent under its qualified name, and one of which
the qualified name is no text as a warning; and every item that is no table is a warning. -/
theorem load_holds_last_listed {entries : List (Value × Value)} {items : List Value}
    (hdocument : readDocument t p = .ok (.map entries))
    (htables : Table.optional entries "tables" = .list items) (level : LogLevel) :
    ((∃ item ∈ items, ItemEscapes level item) → Escaped (load t p level).outcome.1) ∧
    ((∀ item ∈ items, ¬ ItemEscapes level item) →
      ∃ c notices, (load t p level).outcome = (.ok c, notices) ∧
        HoldsListed level items c notices ∧
        ∀ name item, IsLastOf items name item → HasPlainParts item →
          ∃ e ∈ c.entries, e.2.name = Sql.bareName name ∧
            e.2.qualifiedName = qualifiedName name item) := by
  rw [load_of_readDocument hdocument]
  constructor
  · intro hescapes
    have hlisting : IsListing (.map entries) := trivial
    rcases yieldsUnless_ofDocument p.text hlisting [] with
      ⟨_, _, -, -, hnot⟩ | ⟨hescaped, -⟩
    · exact absurd ((documentEscapes_tables_iff htables).2 hescapes) hnot
    · exact hescaped
  · intro h
    obtain ⟨c, notices, hload, hholds⟩ := holdsListed_ofDocument p.text htables h
    refine ⟨c, notices, hload, hholds, fun name item hitem hplain => ?_⟩
    have hentry := (hholds.mem_entries_iff name _).2 ⟨item, hitem, tableOf_of_plain hplain name⟩
    exact ⟨_, hentry, rfl, rfl⟩

end Files

/-- A file with one text. -/
def fileOf (text : String) : Files.Tree :=
  ⟨[(["t.json"], .file (Bytes.Utf8.encode text.toList))]⟩

theorem readDocument_fileOf {text : String} {document : Value}
    (htext : Files.documentText (Bytes.Utf8.encode text.toList) = .ok text)
    (hread : Document.Json.read text = .ok document) :
    readDocument (fileOf text) ⟨"", ["t.json"]⟩ = .ok document := by
  have hbytes : Files.readBytes (fileOf text) ⟨"", ["t.json"]⟩ =
      .ok (Bytes.Utf8.encode text.toList) := rfl
  have hjson : isJsonPath ⟨"", ["t.json"]⟩ = true := by decide +kernel
  rw [readDocument_of_text hbytes htext, documentOf, if_pos hjson, hread, Except.mapError]

/-- A list of one name in two schemas with a number between them. -/
def twoSchemasText : String :=
  "\x7b\"tables\": [\x7b\"name\": \"orders\", \"schema\": \"raw\"\x7d, 17, " ++
    "\x7b\"name\": \"orders\", \"schema\": \"mart\"\x7d]\x7d"

def twoSchemasTree : Files.Tree :=
  ⟨[(["t.json"], .file (Bytes.Utf8.encode twoSchemasText.toList))]⟩

/-- The name in one schema. -/
def ordersIn (schema : String) : List (Value × Value) :=
  [(.text "name", .text "orders"), (.text "schema", .text schema)]

theorem readDocument_twoSchemas : readDocument twoSchemasTree ⟨"", ["t.json"]⟩ = .ok (.map
    [(.text "tables", .list [.map (ordersIn "raw"), .int 17, .map (ordersIn "mart")])]) := by
  have htext : Files.documentText (Bytes.Utf8.encode twoSchemasText.toList) = .ok twoSchemasText :=
    Outcome.toOption_eq_some_iff.1 (by decide +kernel)
  have hread : Document.Json.read twoSchemasText = .ok (.map
      [(.text "tables", .list [.map (ordersIn "raw"), .int 17, .map (ordersIn "mart")])]) :=
    Value.eq_ok_of_isEqual (by decide +kernel)
  exact readDocument_fileOf htext hread

/-- Only the second of the two schemas is in the catalog; the number is reported, the first schema
is not. -/
theorem load_holds_last_listed_twoSchemas :
    let items := [.map (ordersIn "raw"), .int 17, .map (ordersIn "mart")]
    readDocument twoSchemasTree ⟨"", ["t.json"]⟩ = .ok (.map [(.text "tables", .list items)]) ∧
      (∀ item ∈ items, ¬ ItemEscapes .info item) ∧ HasPlainParts (ordersIn "raw") ∧
      ∃ c notices, (load twoSchemasTree ⟨"", ["t.json"]⟩ .info).outcome = (.ok c, notices) ∧
        .invalidListedTable (.int 17) ∈ notices ∧
        (∃ e ∈ c.entries, e.2.name = "orders" ∧ e.2.qualifiedName = "mart.orders") ∧
        ∀ e ∈ c.entries, e.2.qualifiedName ≠ "raw.orders" := by
  intro items
  have hname (schema : String) : Table.optional (ordersIn schema) "name" = .text "orders" := rfl
  have hplain (schema : String) : HasPlainParts (ordersIn schema) := by
    simp only [HasPlainParts, List.forall_mem_cons]
    exact ⟨.inr ⟨schema, rfl⟩, .inl rfl, .inl rfl, nofun⟩
  have hkept (schema : String) : ¬ ItemEscapes .info (.map (ordersIn schema)) := by
    rw [← exists_listedTable_iff (hname schema)]
    exact ⟨_, listedTable_of_plain (hplain schema) "orders"⟩
  have hnumber : ¬ IsListed (.int 17) := fun ⟨_, _, h, _⟩ => nomatch h
  have hescapes : ∀ item ∈ items, ¬ ItemEscapes .info item := by
    have hwritable : ¬ ItemEscapes .info (.int 17) := by
      rw [itemEscapes_iff_of_not_listed hnumber]
      exact fun h => absurd h.1 (by decide +kernel)
    simpa [items] using ⟨hkept "raw", hwritable, hkept "mart"⟩
  have hlast (name : String) (item : List (Value × Value)) :
      IsLastOf items name item ↔ name = "orders" ∧ item = ordersIn "mart" := by
    have hitems : items = [.map (ordersIn "raw"), .int 17] ++ [.map (ordersIn "mart")] := rfl
    rw [hitems, isLastOf_concat]
    constructor
    · rintro (⟨hitem, hn⟩ | ⟨⟨before, after, heq, hn, -⟩, hother⟩)
      · cases hitem
        exact ⟨(Value.text.inj ((hname "mart").symm.trans hn)).symm, rfl⟩
      · -- Another last item would have the name that the second schema lists again.
        have hmem : Value.map item ∈ [.map (ordersIn "raw"), .int 17] := by simp [heq]
        have hraw : item = ordersIn "raw" := by simpa using hmem
        subst hraw
        rw [hname] at hn
        exact absurd ⟨_, rfl, (hname "mart").trans hn⟩ hother
    · rintro ⟨rfl, rfl⟩
      exact .inl ⟨rfl, hname "mart"⟩
  obtain ⟨c, notices, hload, hholds, hplainHeld⟩ :=
    (load_holds_last_listed readDocument_twoSchemas rfl .info).2 hescapes
  refine ⟨readDocument_twoSchemas, hescapes, hplain _, c, notices, hload,
    hholds.left_out (.int 17) (by simp) hnumber (.inr rfl), ?_, ?_⟩
  · exact hplainHeld "orders" (ordersIn "mart") ((hlast _ _).2 ⟨rfl, rfl⟩) (hplain _)
  · rintro ⟨name, table⟩ he hraw
    obtain ⟨item, hitem, htable⟩ := (hholds.mem_entries_iff name table).1 he
    obtain ⟨rfl, rfl⟩ := (hlast name item).1 hitem
    rw [tableOf_of_plain (hplain _)] at htable
    cases htable
    exact absurd hraw (by decide +kernel)

end Catalog

end SqlTables
