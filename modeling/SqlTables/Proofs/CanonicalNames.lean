import SqlTables.Proofs.Resolution

/-!
# Canonical names

A catalog is consistent if key, name and qualified name of each entry agree on the last part, and
that part tells the qualified name.  Then it does not matter along which way a name is found: the
entry has the name's last part for its name (`Catalog.IsConsistent.name_of_lookup`), and all such
entries resolve alike.  So resolving is canonical, and a query names each known table once.
-/

set_option autoImplicit false

namespace SqlTables

open SqlTables.Sql (bareName)

/-! ## Consistent catalogs -/

/-- Key and qualified name of each entry have the entry's name for their last part, and entries
of one name have one qualified name. -/
structure Catalog.IsConsistent (c : Catalog) : Prop where
  bareName_key : ∀ e ∈ c.entries, bareName e.1 = e.2.name
  bareName_qualifiedName : ∀ e ∈ c.entries, bareName e.2.qualifiedName = e.2.name
  qualifiedName_eq : ∀ e ∈ c.entries, ∀ f ∈ c.entries, e.2.name = f.2.name →
    e.2.qualifiedName = f.2.qualifiedName

instance (c : Catalog) : Decidable c.IsConsistent :=
  decidable_of_iff ((∀ e ∈ c.entries, bareName e.1 = e.2.name) ∧
      (∀ e ∈ c.entries, bareName e.2.qualifiedName = e.2.name) ∧
      ∀ e ∈ c.entries, ∀ f ∈ c.entries, e.2.name = f.2.name →
        e.2.qualifiedName = f.2.qualifiedName)
    ⟨fun ⟨h₁, h₂, h₃⟩ => ⟨h₁, h₂, h₃⟩, fun ⟨h₁, h₂, h₃⟩ => ⟨h₁, h₂, h₃⟩⟩

namespace Catalog.IsConsistent

variable {c : Catalog} (hc : c.IsConsistent) {name : String}

include hc

/-- An entry that answers to a name has its last part for its name, whichever of the three criteria
it meets. -/
theorem name_of_answersTo {e : String × Table} (he : e ∈ c.entries)
    (h : answersTo name e = true) : e.2.name = bareName name := by
  simp only [answersTo, Bool.or_eq_true, decide_eq_true_eq] at h
  rcases h with (hkey | hname) | hqualified
  · rw [← hkey, hc.bareName_key e he]
  · exact hname
  · rw [← hqualified, hc.bareName_qualifiedName e he]

/-- The table found for a name, under its own key or by search, has the name's last part for its
name. -/
theorem name_of_lookup {t : Table} (h : c.lookup name = some t) :
    ∃ key, (key, t) ∈ c.entries ∧ t.name = bareName name := by
  unfold lookup at h
  split at h
  · rename_i hfound
    cases h
    obtain ⟨before, after, heq, _⟩ := List.lookup_eq_some_iff.1 hfound
    have hmem : (name, t) ∈ c.entries := by simp [heq]
    exact ⟨name, hmem, (hc.bareName_key _ hmem).symm⟩
  · obtain ⟨⟨key, u⟩, hfind, rfl⟩ := Option.map_eq_some_iff.1 h
    have hmem := List.mem_of_find?_eq_some hfind
    exact ⟨key, hmem, hc.name_of_answersTo hmem (List.find?_some hfind)⟩

/-- A name is known if its last part is the name of an entry. -/
theorem isKnown_iff : c.isKnown name = true ↔ ∃ e ∈ c.entries, e.2.name = bareName name := by
  constructor
  · intro h
    obtain ⟨t, ht⟩ := Option.isSome_iff_exists.1 h
    obtain ⟨key, hmem, hname⟩ := hc.name_of_lookup ht
    exact ⟨(key, t), hmem, hname⟩
  · rintro ⟨e, he, hname⟩
    exact isKnown_of_answersTo he (by simp [answersTo, hname])

variable (hq : c.qualifies = true)

include hq

/-- A name resolves to the qualified name of every entry that has its last part for its name. -/
theorem resolve_of_mem {e : String × Table} (he : e ∈ c.entries)
    (hname : e.2.name = bareName name) : c.resolve name = e.2.qualifiedName := by
  obtain ⟨t, ht⟩ := Option.isSome_iff_exists.1 (hc.isKnown_iff.2 ⟨e, he, hname⟩)
  obtain ⟨key, hmem, htname⟩ := hc.name_of_lookup ht
  calc c.resolve name = t.qualifiedName := by simp [resolve, hq, ht]
    _ = e.2.qualifiedName := hc.qualifiedName_eq _ hmem e he (htname.trans hname.symm)

omit hq in
/-- A name whose last part is no entry's name resolves to itself. -/
theorem resolve_of_forall_ne (h : ∀ e ∈ c.entries, e.2.name ≠ bareName name) :
    c.resolve name = name := by
  refine resolve_of_not_isKnown (Bool.eq_false_iff.2 fun hknown => ?_)
  obtain ⟨e, he, hname⟩ := hc.isKnown_iff.1 hknown
  exact h e he hname

/-- Resolving keeps the last part of a name. -/
theorem bareName_resolve (name : String) : bareName (c.resolve name) = bareName name := by
  by_cases h : ∃ e ∈ c.entries, e.2.name = bareName name
  · obtain ⟨e, he, hname⟩ := h
    rw [hc.resolve_of_mem hq he hname, hc.bareName_qualifiedName e he, hname]
  · rw [hc.resolve_of_forall_ne fun e he hname => h ⟨e, he, hname⟩]

/-- What a name resolves to depends on its last part only, if that is known. -/
theorem resolve_congr {m n : String} (h : bareName m = bareName n)
    (hknown : ∃ e ∈ c.entries, e.2.name = bareName m) : c.resolve m = c.resolve n := by
  obtain ⟨e, he, hname⟩ := hknown
  rw [hc.resolve_of_mem hq he hname, hc.resolve_of_mem hq he (hname.trans h)]

theorem resolve_resolve (name : String) : c.resolve (c.resolve name) = c.resolve name := by
  by_cases h : ∃ e ∈ c.entries, e.2.name = bareName name
  · exact (hc.resolve_congr hq (hc.bareName_resolve hq name).symm h).symm
  · have hself : c.resolve name = name :=
      hc.resolve_of_forall_ne fun e he hname => h ⟨e, he, hname⟩
    rw [hself, hself]

omit hq in
/-- Consistency does not depend on the order of the entries. -/
theorem of_perm {d : Catalog} (h : d.entries.Perm c.entries) : d.IsConsistent where
  bareName_key e he := hc.bareName_key e (h.mem_iff.1 he)
  bareName_qualifiedName e he := hc.bareName_qualifiedName e (h.mem_iff.1 he)
  qualifiedName_eq e he f hf := hc.qualifiedName_eq e (h.mem_iff.1 he) f (h.mem_iff.1 hf)

/-- Nor does resolving. -/
theorem resolve_of_perm {d : Catalog} (hd : d.qualifies = true) (h : d.entries.Perm c.entries)
    (name : String) : d.resolve name = c.resolve name := by
  by_cases hmem : ∃ e ∈ c.entries, e.2.name = bareName name
  · obtain ⟨e, he, hname⟩ := hmem
    rw [hc.resolve_of_mem hq he hname, (hc.of_perm h).resolve_of_mem hd (h.mem_iff.2 he) hname]
  · have hno : ∀ e ∈ c.entries, e.2.name ≠ bareName name := fun e he hname => hmem ⟨e, he, hname⟩
    rw [hc.resolve_of_forall_ne hno,
      (hc.of_perm h).resolve_of_forall_ne fun e he => hno e (h.mem_iff.1 he)]

end Catalog.IsConsistent

/-! ## One name for each known table -/

/-- In a list without repeats a choice that only one element can meet chooses at most one. -/
theorem length_filter_le_one {l : List String} (hl : l.Nodup) {p : String → Bool}
    (h : ∀ a ∈ l, ∀ b ∈ l, p a = true → p b = true → a = b) : (l.filter p).length ≤ 1 := by
  have hnodup := hl.filter p
  match hfilter : l.filter p with
  | [] => simp
  | [_] => simp
  | a :: b :: rest =>
    obtain ⟨ha, hpa⟩ := List.mem_filter.1 (by simp [hfilter] : a ∈ l.filter p)
    obtain ⟨hb, hpb⟩ := List.mem_filter.1 (by simp [hfilter] : b ∈ l.filter p)
    rw [hfilter] at hnodup
    exact absurd (h a ha b hb hpa hpb) (by rintro rfl; simp at hnodup)

/-- However the references of a query are qualified or quoted, the names reported with a consistent
catalog hold each known table once. -/
theorem Extractor.length_filter_allTables_le_one {c : Catalog} (hc : c.IsConsistent)
    (hq : c.qualifies = true) (filters : Bool) (keywords : List String) (sql : String)
    {e : String × Table} (he : e ∈ c.entries) :
    ((extract ⟨some c, filters, keywords⟩ sql).allTables.filter
      fun n => bareName n = e.2.name).length ≤ 1 := by
  rw [allTables_extract]
  refine length_filter_le_one (nodup_eraseDups _) ?_
  -- a reported name with this last part is what some captured name resolves to
  have hcanonical : ∀ a ∈ (((namesIn ⟨some c, filters, keywords⟩ sql).map
      (resolve ⟨some c, filters, keywords⟩)).eraseDups),
      decide (bareName a = e.2.name) = true → a = e.2.qualifiedName := by
    intro a ha hbare
    obtain ⟨n, _, rfl⟩ := List.mem_map.1 (List.mem_eraseDups.1 ha)
    have hname : bareName (c.resolve n) = e.2.name := of_decide_eq_true hbare
    rw [hc.bareName_resolve hq] at hname
    exact hc.resolve_of_mem hq he hname.symm
  intro a ha b hb hpa hpb
  rw [hcanonical a ha hpa, hcanonical b hb hpb]

/-- Resolution is canonical on a consistent catalog that qualifies names: a name resolves to the
qualified name of the entries that have its last part for their name, or to itself if there is none.
So resolving twice is resolving once, keeps the last part, and does not depend on the order of the
entries; and of the names reported for a query at most one has the name of a given entry for its
last part. -/
theorem resolve_canonical (c : Catalog) (hq : c.qualifies = true) (hc : c.IsConsistent) :
    (∀ n, (∀ e ∈ c.entries, e.2.name = bareName n → c.resolve n = e.2.qualifiedName) ∧
        ((∀ e ∈ c.entries, e.2.name ≠ bareName n) → c.resolve n = n)) ∧
      (∀ n, c.resolve (c.resolve n) = c.resolve n) ∧
      (∀ n, bareName (c.resolve n) = bareName n) ∧
      (∀ d : Catalog, d.qualifies = true → d.entries.Perm c.entries →
        ∀ n, d.resolve n = c.resolve n) ∧
      ∀ (filters : Bool) (keywords : List String) (sql : String), ∀ e ∈ c.entries,
        ((Extractor.extract ⟨some c, filters, keywords⟩ sql).allTables.filter
          fun n => bareName n = e.2.name).length ≤ 1 := by
  refine ⟨fun n => ⟨fun e he => hc.resolve_of_mem hq he, hc.resolve_of_forall_ne⟩,
    hc.resolve_resolve hq, hc.bareName_resolve hq, fun d hd hperm => hc.resolve_of_perm hq hd hperm,
    fun filters keywords sql e he => ?_⟩
  exact Extractor.length_filter_allTables_le_one hc hq filters keywords sql he

/-- A catalog with two keys for one table, qualified in different ways. -/
def twoKeysCatalog : Catalog where
  entries := [("dbo.orders", { name := "orders", qualifiedName := "dw.dbo.orders" }),
    ("users", { name := "users", qualifiedName := "users" }),
    ("stage.orders", { name := "orders", qualifiedName := "dw.dbo.orders" })]
  qualifies := true

/-- Both keys, any other qualification and the bare name come to the same table. -/
theorem resolve_canonical_twoKeys :
    twoKeysCatalog.qualifies = true ∧ twoKeysCatalog.IsConsistent ∧
      twoKeysCatalog.resolve "stage.orders" = "dw.dbo.orders" ∧
      twoKeysCatalog.resolve "archive.orders" = twoKeysCatalog.resolve "orders" ∧
      twoKeysCatalog.resolve "dbo.clients" = "dbo.clients" ∧
      ((Extractor.extract ⟨some twoKeysCatalog, true, Sql.Keyword.standard⟩
          "FROM orders JOIN [stage].[orders] JOIN \"dw\".orders").allTables.filter
        fun n => bareName n = "orders").length ≤ 1 := by
  have hconsistent : twoKeysCatalog.IsConsistent := by decide +kernel
  obtain ⟨hresolve, _, _, _, honce⟩ := resolve_canonical twoKeysCatalog rfl hconsistent
  let entry : String × Table :=
    ("stage.orders", { name := "orders", qualifiedName := "dw.dbo.orders" })
  have hentry : entry ∈ twoKeysCatalog.entries := by simp [entry, twoKeysCatalog]
  have horders (n : String) (h : "orders" = bareName n) :
      twoKeysCatalog.resolve n = "dw.dbo.orders" := (hresolve n).1 entry hentry h
  refine ⟨rfl, hconsistent, horders _ (by decide +kernel), ?_, ?_, ?_⟩
  · rw [horders "archive.orders" (by decide +kernel), horders "orders" (by decide +kernel)]
  · exact (hresolve "dbo.clients").2 (by decide +kernel)
  · exact honce true Sql.Keyword.standard _ entry hentry

end SqlTables
