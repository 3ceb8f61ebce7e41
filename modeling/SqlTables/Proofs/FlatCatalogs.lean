import Mathlib.Data.Finset.Card
import SqlTables.Proofs.Outcomes
import SqlTables.Proofs.Resolution
import SqlTables.Proofs.Splitting

/-!
# Flat catalogs

A flat catalog is a set of names: in whatever order, how often and with how many blanks they are
given, as a list or as one text, only the set of the trimmed names counts (`knownNames`).  An entry
is its own key, name and qualified name, so the three criteria of the look-up come down to two
memberships in that set, and the order in which entries are searched does not show.
-/

set_option autoImplicit false

namespace SqlTables

open Document (Value)
open SqlTables.Sql (bareName)

/-! ## Sets of names -/

/-- The names in a collection of texts: trimmed, without blank ones. -/
def knownNames (raw : List String) : Finset String :=
  ((raw.map Text.trimmed).filter (· ≠ "")).toFinset

/-- A name is in a set by itself or by its last part. -/
def IsAmong (names : Finset String) (name : String) : Prop := name ∈ names ∨ bareName name ∈ names

instance (names : Finset String) (name : String) : Decidable (IsAmong names name) :=
  inferInstanceAs (Decidable (_ ∨ _))

namespace Catalog

/-- A catalog behaves as a set of names: it knows those that are in the set by themselves or by
their last part, leaves all names as they are, and has one entry for each element. -/
structure IsSetOf (c : Catalog) (names : Finset String) : Prop where
  isKnown_iff : ∀ name, c.isKnown name = true ↔ IsAmong names name
  resolve_eq : ∀ name, c.resolve name = name
  nodup_keys : c.keys.Nodup
  toFinset_keys : c.keys.toFinset = names
  size_eq : c.size = names.card

/-- A name is known if an entry answers to it: a key that is the name is one of the three ways. -/
theorem isKnown_iff_exists_answersTo {c : Catalog} {name : String} :
    c.isKnown name = true ↔ ∃ e ∈ c.entries, answersTo name e = true := by
  refine ⟨fun h => ?_, fun ⟨e, he, h⟩ => isKnown_of_answersTo he h⟩
  unfold isKnown lookup at h
  split at h
  · rename_i t hfound
    obtain ⟨before, after, heq, _⟩ := List.lookup_eq_some_iff.1 hfound
    exact ⟨(name, t), by simp [heq], by simp [answersTo]⟩
  · rwa [Option.isSome_map, List.find?_isSome] at h

/-! ## The catalog of a list of names -/

theorem keys_ofNames (raw : List String) :
    (ofNames raw).keys = ((raw.map Text.trimmed).filter (· ≠ "")).eraseDups := by
  simp [keys, ofNames, Function.comp_def]

theorem answersTo_flat {n name : String} :
    answersTo name (n, ⟨n, n, .null, .null⟩) = true ↔ n = name ∨ n = bareName name := by
  simp only [answersTo, Bool.or_eq_true, decide_eq_true_eq]
  tauto

/-- The catalog of a list of names behaves as the set of these names. -/
theorem isSetOf_ofNames (raw : List String) : (ofNames raw).IsSetOf (knownNames raw) := by
  have hset : (ofNames raw).keys.toFinset = knownNames raw := by
    ext n
    simp only [keys_ofNames, knownNames, List.mem_toFinset, List.mem_eraseDups]
  have hnodup : (ofNames raw).keys.Nodup := by
    rw [keys_ofNames]
    exact nodup_eraseDups _
  have hmem (n : String) : n ∈ (ofNames raw).keys ↔ n ∈ knownNames raw := by
    rw [← hset, List.mem_toFinset]
  refine ⟨fun name => ?_, fun name => rfl, hnodup, hset, ?_⟩
  · rw [isKnown_iff_exists_answersTo, IsAmong, ← hmem, ← hmem, keys_ofNames]
    simp only [ofNames, List.mem_map, exists_exists_and_eq_and, answersTo_flat]
    constructor
    · rintro ⟨n, hn, rfl | rfl⟩
      · exact .inl hn
      · exact .inr hn
    · rintro (hn | hn)
      · exact ⟨name, hn, .inl rfl⟩
      · exact ⟨bareName name, hn, .inr rfl⟩
  · rw [← hset, List.toFinset_card_of_nodup hnodup, keys, List.length_map, size]

/-- Names without commas, joined by commas, are the names again once the text is cut; of no names
at all there is one blank one. -/
theorem splitOn_joined {raw : List String} (hcomma : ∀ n ∈ raw, ',' ∉ n.toList) :
    (",".intercalate raw).splitOn "," = if raw = [] then [""] else raw := by
  have hsep : "," = String.singleton ',' := rfl
  rw [hsep, splitOn_singleton, String.toList_intercalate]
  by_cases hraw : raw = []
  · simp [hraw]
  · have hchars : ∀ cs ∈ raw.map String.toList, ',' ∉ cs := by simpa using hcomma
    rw [String.toList_singleton, List.splitOn_intercalate ',' hchars (by simpa using hraw),
      if_neg hraw]
    simp

/-- The catalog of names joined by commas is that of the list of the names. -/
theorem ofCommaSeparated_joined {raw : List String} (hcomma : ∀ n ∈ raw, ',' ∉ n.toList) :
    ofCommaSeparated (",".intercalate raw) = ofNames raw := by
  rw [ofCommaSeparated, splitOn_joined hcomma]
  split
  · subst raw
    rfl
  · rfl

/-- The ways in which a collection of names is made a catalog: as a list of texts, as a value that
is a list, a tuple or a set, and joined by commas, as a text or as a value. -/
inductive Supplies (raw : List String) : Noted (Option Catalog) → Prop where
  | names : Supplies raw (pure (some (ofNames raw)))
  | items {v : Value} {items : List Value} (hv : v ∈ [.list items, .tuple items, .set items])
      (hitems : Value.phrases items = .ok raw) (level : LogLevel) : Supplies raw (ofValue v level)
  | joined (hcomma : ∀ n ∈ raw, ',' ∉ n.toList) :
      Supplies raw (pure (some (ofCommaSeparated (",".intercalate raw))))
  | text (hcomma : ∀ n ∈ raw, ',' ∉ n.toList) (level : LogLevel) :
      Supplies raw (ofValue (.text (",".intercalate raw)) level)

/-- Each way gives the catalog of the list, without a notice. -/
theorem Supplies.outcome_eq {raw : List String} {x : Noted (Option Catalog)} (h : Supplies raw x) :
    x.outcome = (.ok (some (ofNames raw)), []) := by
  cases h with
  | names => rfl
  | @items v items hv hitems level =>
    have hofItems : v.items = .ok items → ofItems v = .ok (ofNames raw) := by
      intro hv
      rw [ofItems, hv, Outcome.ok_bind, hitems]
      rfl
    simp only [List.mem_cons, List.not_mem_nil, or_false] at hv
    rcases hv with rfl | rfl | rfl <;>
      simp only [ofValue, hofItems rfl] <;> rfl
  | joined hcomma =>
    rw [ofCommaSeparated_joined hcomma]
    rfl
  | text hcomma level =>
    rw [ofValue, ofCommaSeparated_joined hcomma]
    rfl

end Catalog

/-! ## Extraction -/

namespace Extractor

variable {c d : Catalog} {names : Finset String}

/-- With a catalog that behaves as a set of names, all tables are the names as captured, and those
told apart are the ones in the set, in order. -/
theorem extract_of_isSetOf (h : c.IsSetOf names) (filters filters' : Bool) (keywords : List String)
    (sql : String) :
    let plain := (extract ⟨none, filters', keywords⟩ sql).allTables
    extract ⟨some c, filters, keywords⟩ sql =
      if filters then ⟨plain, plain.filter (IsAmong names ·), plain.filter (¬ IsAmong names ·)⟩
      else ⟨plain, plain, []⟩ := by
  intro plain
  have hknown : c.isKnown = fun name => decide (IsAmong names name) := by
    funext name
    rw [Bool.eq_iff_iff, h.isKnown_iff, decide_eq_true_iff]
  have hall : (extract ⟨some c, filters, keywords⟩ sql).allTables = plain := by
    have hplain : plain.Nodup := by
      rw [show plain = _ from allTables_without_catalog filters' keywords sql]
      exact nodup_eraseDups _
    rw [allTables_with_catalog c filters filters', funext h.resolve_eq, List.map_id',
      eraseDups_of_nodup hplain]
  rw [← hall]
  cases filters with
  | false => rfl
  | true =>
    simp only [if_true, decide_not]
    simp only [extract, hknown]

end Extractor

/-- A flat catalog is a set of names.  Two collections with the same names give, in whatever ways
they are supplied, catalogs that behave as the set of these names, and so the same extraction from
every query: all tables are the captured names, and those told apart are the ones in the set. -/
theorem flat_catalogs_are_sets {raw others : List String}
    (hsame : knownNames raw = knownNames others)
    {x y : Noted (Option Catalog)} (hx : Catalog.Supplies raw x) (hy : Catalog.Supplies others y) :
    ∃ c d, x.outcome = (.ok (some c), []) ∧ y.outcome = (.ok (some d), []) ∧
      c.IsSetOf (knownNames raw) ∧ d.IsSetOf (knownNames raw) ∧
      ∀ (filters : Bool) (keywords : List String) (sql : String),
        Extractor.extract ⟨some c, filters, keywords⟩ sql =
          Extractor.extract ⟨some d, filters, keywords⟩ sql ∧
        (Extractor.extract ⟨some c, true, keywords⟩ sql).realTables =
          (Extractor.extract ⟨none, filters, keywords⟩ sql).allTables.filter
            fun name => name ∈ knownNames raw ∨ bareName name ∈ knownNames raw := by
  have hc := Catalog.isSetOf_ofNames raw
  have hd : (Catalog.ofNames others).IsSetOf (knownNames raw) := by
    rw [hsame]
    exact Catalog.isSetOf_ofNames others
  refine ⟨_, _, hx.outcome_eq, hy.outcome_eq, hc, hd, fun filters keywords sql => ⟨?_, ?_⟩⟩
  · rw [Extractor.extract_of_isSetOf hc filters filters,
      Extractor.extract_of_isSetOf hd filters filters]
  · rw [Extractor.extract_of_isSetOf hc true filters]
    rfl

/-- A padded text and a list in another order with repeats and blanks. -/
theorem flat_catalogs_are_sets_padded :
    let raw := ["users", " dbo.orders ", ""]
    let others := ["dbo.orders", "users\t", "users", " "]
    let sql := "SELECT (FROM app.users) FROM dbo.orders UNION FROM orders"
    knownNames raw = knownNames others ∧ (∀ n ∈ raw, ',' ∉ n.toList) ∧
      ∃ c d, (Catalog.ofValue (.text "users, dbo.orders ,")).outcome = (.ok (some c), []) ∧
        (Catalog.ofValue (.list (others.map .text))).outcome = (.ok (some d), []) ∧
        c.IsSetOf (knownNames raw) ∧
        Extractor.extract ⟨some c, true, ["FROM"]⟩ sql =
          Extractor.extract ⟨some d, true, ["FROM"]⟩ sql ∧
        (Extractor.extract ⟨some c, true, ["FROM"]⟩ sql).realTables =
          ["app.users", "dbo.orders"] := by
  intro raw others sql
  have hsame : knownNames raw = knownNames others := by decide +kernel
  have hcomma : ∀ n ∈ raw, ',' ∉ n.toList := by decide +kernel
  obtain ⟨c, d, hx, hy, hc, -, hextract⟩ := flat_catalogs_are_sets hsame (.text hcomma .info)
    (.items (v := .list (others.map .text)) (by simp) (Value.phrases_texts others) .info)
  obtain ⟨heq, hreal⟩ := hextract true ["FROM"] sql
  refine ⟨hsame, hcomma, c, d, hx, hy, hc, heq, hreal.trans ?_⟩
  decide +kernel

end SqlTables
