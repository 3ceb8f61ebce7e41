import Mathlib.Data.List.TakeWhile
import SqlTables.Catalog.File
import SqlTables.Proofs.Access

/-!
# How loading a catalog fails

A file that cannot be read, a text that is not of its format and a document that is neither a list
nor a mapping are catalog errors (`Rejects`).  What else can go wrong escapes as another failure
(`Escapes`): bytes that are not UTF-8, and values in the document that have no text or are not the
texts that a qualified name is joined of.  Of what is left out with a warning, that is only so where
warnings are told (`FailsToWarn`).
-/

set_option autoImplicit false

namespace SqlTables.Catalog

open Document (ReadError Value WrongKind)
open Files (FileError Path Tree)

/-! ## Computations that may escape -/

section Escaping

variable {α β : Type} {P : α → Prop} {Q : β → Prop} {escapes escapes' : Prop}

/-- An outcome without a result, of which the failure is none of a catalog. -/
def Escaped (outcome : Except Failure α) : Prop :=
  ∃ failure, outcome = .error failure ∧ ∀ e, failure ≠ .catalog e

/-- A computation that escapes if something is the case, and else has a result with a property. -/
def YieldsUnless (P : α → Prop) (escapes : Prop) (x : Noted α) : Prop :=
  ∀ earlier, (∃ a later, x earlier = (.ok a, later) ∧ P a ∧ ¬ escapes) ∨
    Escaped (x earlier).1 ∧ escapes

theorem yieldsUnless_pure {a : α} (ha : P a) (h : ¬ escapes) :
    YieldsUnless P escapes (pure a) :=
  fun earlier => .inl ⟨a, earlier, rfl, ha, h⟩

theorem yieldsUnless_fail {failure : Failure} (hfailure : ∀ e, failure ≠ .catalog e)
    (h : escapes) : YieldsUnless P escapes (Noted.fail failure) :=
  fun _ => .inr ⟨⟨failure, rfl, hfailure⟩, h⟩

theorem yieldsUnless_ofKind {r : Except WrongKind α} (h : (∃ a, r = .ok a) ↔ ¬ escapes) :
    YieldsUnless (fun _ => True) escapes (Noted.ofKind r) := by
  intro earlier
  cases r with
  | ok a => exact .inl ⟨a, earlier, rfl, trivial, h.1 ⟨a, rfl⟩⟩
  | error kind =>
    exact .inr ⟨⟨.wrongKind kind, rfl, nofun⟩, not_not.1 fun hnot => nomatch h.2 hnot⟩

theorem YieldsUnless.of_iff {x : Noted α} (h : YieldsUnless P escapes x)
    (hiff : escapes ↔ escapes') : YieldsUnless P escapes' x := by
  rwa [← propext hiff]

theorem YieldsUnless.bind {x : Noted α} {f : α → Noted β} (hx : YieldsUnless P escapes x)
    (hf : ∀ a, P a → YieldsUnless Q escapes' (f a)) :
    YieldsUnless Q (escapes ∨ escapes') (x >>= f) := by
  intro earlier
  rcases hx earlier with ⟨a, later, hok, ha, hnot⟩ | ⟨⟨failure, hfails, hfailure⟩, h⟩
  · rw [bind_of_ok hok]
    rcases hf a ha later with ⟨b, last, hok', hb, hnot'⟩ | ⟨hescaped, h⟩
    · exact .inl ⟨b, last, hok', hb, not_or.2 ⟨hnot, hnot'⟩⟩
    · exact .inr ⟨hescaped, .inr h⟩
  · rw [bind_of_error (Prod.ext hfails rfl)]
    exact .inr ⟨⟨failure, rfl, hfailure⟩, .inl h⟩

/-- Where nothing further escapes, a computation goes on as before. -/
theorem YieldsUnless.bind_pure {x : Noted α} {g : α → β} (hx : YieldsUnless P escapes x)
    (hg : ∀ a, P a → Q (g a)) : YieldsUnless Q escapes (x >>= fun a => pure (g a)) :=
  (hx.bind fun a ha => yieldsUnless_pure (hg a ha) id).of_iff (or_iff_left id)

end Escaping

/-! ## Lists of tables -/

variable {level : LogLevel}

/-- An item of a list of tables that is not left out: a mapping with a text as its name. -/
def IsListed (item : Value) : Prop :=
  ∃ entries name, item = .map entries ∧ Table.optional entries "name" = .text name

/-- The database and the schema of an item are texts, as far as they are given. -/
def HasTextParts (entries : List (Value × Value)) : Prop :=
  ∀ key ∈ ["database", "schema"], (Table.optional entries key).isGiven = true →
    ∃ s, Table.optional entries key = .text s

/-- A warning that names a value fails: it is told, and the value has no text. -/
def FailsToWarn (level : LogLevel) (v : Value) : Prop :=
  v.isWritable = false ∧ level.tells .warning = true

theorem not_failsToWarn {v : Value} (h : v.isWritable = true) : ¬ FailsToWarn level v :=
  fun hfails => absurd h (by simp [hfails.1])

/-- An item of a list of tables that ends the building of the catalog: one whose qualified name
cannot be made, or one that is to be left out and that the warning fails to name. -/
inductive ItemEscapes (level : LogLevel) : Value → Prop where
  | notJoinable {entries : List (Value × Value)} {name : String}
      (hname : Table.optional entries "name" = .text name)
      (hqualified : (Table.optional entries "fullyQualifiedName").isGiven = false)
      (hparts : ¬ HasTextParts entries) : ItemEscapes level (.map entries)
  | unwritable {item : Value} (hlisted : ¬ IsListed item) (h : FailsToWarn level item) :
      ItemEscapes level item

theorem itemEscapes_iff_of_listed {entries : List (Value × Value)} {name : String}
    (hname : Table.optional entries "name" = .text name) : ItemEscapes level (.map entries) ↔
      (Table.optional entries "fullyQualifiedName").isGiven = false ∧ ¬ HasTextParts entries := by
  constructor
  · rintro (⟨-, hqualified, hparts⟩ | ⟨hlisted, -⟩)
    · exact ⟨hqualified, hparts⟩
    · exact absurd ⟨entries, name, rfl, hname⟩ hlisted
  · rintro ⟨hqualified, hparts⟩
    exact .notJoinable hname hqualified hparts

theorem itemEscapes_iff_of_not_listed {item : Value} (hlisted : ¬ IsListed item) :
    ItemEscapes level item ↔ FailsToWarn level item := by
  refine ⟨?_, .unwritable hlisted⟩
  rintro (⟨hname, -, -⟩ | ⟨-, hfails⟩)
  · exact absurd ⟨_, _, rfl, hname⟩ hlisted
  · exact hfails

/-- Parts are joined if they are texts. -/
theorem exists_joinedParts_iff {parts : List Value} :
    (∃ s, joinedParts parts = .ok s) ↔ ∀ part ∈ parts, ∃ s, part = .text s := by
  unfold joinedParts
  rw [Outcome.exists_bind_pure_iff, Outcome.exists_mapM_eq_ok_iff]
  refine forall₂_congr fun part _ => ?_
  cases part <;> simp

theorem exists_joinedParts_qualified_iff (entries : List (Value × Value)) (name : String) :
    (∃ s, joinedParts ([Table.optional entries "database", Table.optional entries "schema"].filter
      Value.isGiven ++ [.text name]) = .ok s) ↔ HasTextParts entries := by
  rw [exists_joinedParts_iff, HasTextParts]
  simp only [List.mem_append, List.mem_filter, List.mem_cons, List.not_mem_nil, or_false]
  constructor
  · rintro h key (rfl | rfl) hgiven
    · exact h _ (.inl ⟨.inl rfl, hgiven⟩)
    · exact h _ (.inl ⟨.inr rfl, hgiven⟩)
  · rintro h part (⟨rfl | rfl, hgiven⟩ | rfl)
    · exact h _ (.inl rfl) hgiven
    · exact h _ (.inr rfl) hgiven
    · exact ⟨name, rfl⟩

/-- An item with a name describes a table, unless its qualified name cannot be made. -/
theorem exists_listedTable_iff {entries : List (Value × Value)} {name : String}
    (hname : Table.optional entries "name" = .text name) :
    (∃ description, listedTable name entries = .ok description) ↔
      ¬ ItemEscapes level (.map entries) := by
  rw [itemEscapes_iff_of_listed hname]
  unfold listedTable
  by_cases hgiven : (Table.optional entries "fullyQualifiedName").isGiven = true
  · simp only [hgiven, if_true]
    exact iff_of_true ⟨_, rfl⟩ (by simp)
  · rw [← exists_joinedParts_qualified_iff entries name]
    simp only [hgiven, true_and, not_not]
    cases joinedParts ([Table.optional entries "database", Table.optional entries "schema"].filter
      Value.isGiven ++ [.text name]) with
    | error kind => exact iff_of_false (fun ⟨_, h⟩ => nomatch h) (fun ⟨_, h⟩ => nomatch h)
    | ok s => exact iff_of_true ⟨_, rfl⟩ ⟨s, rfl⟩

/-- Adds what an item of a list of tables stands for to a mapping. -/
def addListed (level : LogLevel) (mapping : List (Value × Value)) (item : Value) :
    Noted (List (Value × Value)) :=
  match item with
  | .map entries =>
    match Table.optional entries "name" with
    | .text name => do
      let description ← Noted.ofKind (listedTable name entries)
      return Value.insert (.text name) (.map description) mapping
    | _ => do
      leaveOut item level
      return mapping
  | _ => do
    leaveOut item level
    return mapping

theorem tablesSection_eq (items : List Value) :
    tablesSection items level = items.foldlM (addListed level) [] := rfl

theorem addListed_of_listed {entries : List (Value × Value)} {name : String}
    (hname : Table.optional entries "name" = .text name) (mapping : List (Value × Value)) :
    addListed level mapping (.map entries) =
      Noted.ofKind (listedTable name entries) >>= fun description =>
        pure (Value.insert (.text name) (.map description) mapping) := by
  simp only [addListed, hname]

theorem addListed_of_not_listed {item : Value} (hlisted : ¬ IsListed item)
    (mapping : List (Value × Value)) :
    addListed level mapping item = leaveOut item level >>= fun _ => pure mapping := by
  unfold addListed
  split
  · split
    · exact absurd ⟨_, _, rfl, ‹_›⟩ hlisted
    · rfl
  · rfl

/-- Every key of a mapping is a text. -/
def KeyedByTexts (mapping : List (Value × Value)) : Prop :=
  ∀ entry ∈ mapping, ∃ s, entry.1 = .text s

theorem KeyedByTexts.insert {mapping : List (Value × Value)} (h : KeyedByTexts mapping) (s : String)
    (v : Value) : KeyedByTexts (Value.insert (.text s) v mapping) := by
  induction mapping with
  | nil => simp [Value.insert, KeyedByTexts]
  | cons entry mapping ih =>
    obtain ⟨hentry, hmapping⟩ := List.forall_mem_cons.1 h
    unfold Value.insert
    split
    · exact List.forall_mem_cons.2 ⟨hentry, hmapping⟩
    · exact List.forall_mem_cons.2 ⟨hentry, ih hmapping⟩

theorem yieldsUnless_leaveOut (item : Value) :
    YieldsUnless (fun _ => True) (FailsToWarn level item) (leaveOut item level) := by
  intro earlier
  rw [leaveOut, FailsToWarn]
  cases hwritable : item.isWritable with
  | true => exact .inl ⟨(), _, rfl, trivial, by simp⟩
  | false =>
    cases htells : level.tells .warning with
    | true => exact .inr ⟨⟨.unwritable, rfl, nofun⟩, rfl, rfl⟩
    | false => exact .inl ⟨(), _, rfl, trivial, by simp⟩

/-- What an item stands for is added, unless the item ends the building. -/
theorem yieldsUnless_addListed {mapping : List (Value × Value)} (hmapping : KeyedByTexts mapping)
    (item : Value) :
    YieldsUnless KeyedByTexts (ItemEscapes level item) (addListed level mapping item) := by
  by_cases hlisted : IsListed item
  · obtain ⟨entries, name, rfl, hname⟩ := hlisted
    rw [addListed_of_listed hname]
    exact (yieldsUnless_ofKind (exists_listedTable_iff hname)).bind_pure
      fun description _ => hmapping.insert name (.map description)
  · rw [addListed_of_not_listed hlisted, itemEscapes_iff_of_not_listed hlisted]
    exact (yieldsUnless_leaveOut item).bind_pure fun _ _ => hmapping

/-- A list of tables stands for a mapping unless one of its items ends the building. -/
theorem yieldsUnless_foldlM_addListed (items : List Value) {mapping : List (Value × Value)}
    (hmapping : KeyedByTexts mapping) :
    YieldsUnless KeyedByTexts (∃ item ∈ items, ItemEscapes level item)
      (items.foldlM (addListed level) mapping) := by
  induction items generalizing mapping with
  | nil => exact yieldsUnless_pure hmapping (by simp)
  | cons item items ih =>
    rw [List.foldlM_cons]
    exact ((yieldsUnless_addListed hmapping item).bind fun mapping' hmapping' =>
      ih hmapping').of_iff (by simp)

/-! ## Documents -/

theorem unwritable?_eq_none_iff {mapping : List (Value × Description)} :
    unwritable? mapping = none ↔ ∀ entry ∈ mapping, entry.1.isWritable = true := by
  rw [← List.takeWhile_eq_self_iff]
  simp only [unwritable?, ite_eq_right_iff, reduceCtorEq, imp_false, Nat.not_lt]
  exact ⟨(List.takeWhile_prefix _).eq_of_length_le, fun h => (congrArg List.length h).ge⟩

theorem writable_eq_self {mapping : List (Value × Description)}
    (h : ∀ entry ∈ mapping, entry.1.isWritable = true) : writable mapping = mapping :=
  List.filter_eq_self.2 h

/-- A warning that fails to name a key ends the building. -/
theorem build_of_failsToWarn {mapping : List (Value × Description)} {entry : Value × Description}
    (hentry : entry ∈ mapping) (h : FailsToWarn level entry.1) (earlier : List Notice) :
    (build mapping level earlier).1 = .error .unwritable := by
  obtain ⟨before, hbefore⟩ : ∃ before, unwritable? mapping = some before :=
    Option.ne_none_iff_exists'.1 fun hnone =>
      not_failsToWarn (unwritable?_eq_none_iff.1 hnone entry hentry) h
  rw [build, hbefore]
  simp only [h.2, if_true]
  rfl

/-- Where every warning succeeds, a catalog is built of the descriptions whose keys have texts. -/
theorem build_of_warns {mapping : List (Value × Description)}
    (h : ∀ entry ∈ mapping, ¬ FailsToWarn level entry.1) (earlier : List Notice) :
    build mapping level earlier =
      (.ok (ofValid (writable mapping)), earlier ++ (ofMapping (writable mapping)).2) := by
  by_cases hkeys : ∀ entry ∈ mapping, entry.1.isWritable = true
  · rw [build, unwritable?_eq_none_iff.2 hkeys, writable_eq_self hkeys]
    rfl
  · obtain ⟨before, hbefore⟩ :=
      Option.ne_none_iff_exists'.1 fun hnone => hkeys (unwritable?_eq_none_iff.1 hnone)
    obtain ⟨entry, hentry, hkey⟩ : ∃ entry ∈ mapping, entry.1.isWritable = false := by
      simpa using hkeys
    have hquiet : level.tells .warning = false := by
      simpa [FailsToWarn, hkey] using h entry hentry
    rw [build, hbefore]
    simp only [hquiet, Bool.false_eq_true, if_false]
    rfl

/-- A catalog is built of a mapping unless a warning fails to name one of its keys. -/
theorem yieldsUnless_build (entries : List (Value × Value)) :
    YieldsUnless (fun _ => True) (∃ entry ∈ entries, FailsToWarn level entry.1)
      (build (described entries) level) := by
  intro earlier
  by_cases h : ∃ entry ∈ entries, FailsToWarn level entry.1
  · obtain ⟨⟨k, v⟩, hentry, hfails⟩ := h
    have hdescribed : (k, .value v) ∈ described entries := List.mem_map_of_mem hentry
    exact .inr ⟨⟨_, build_of_failsToWarn hdescribed hfails earlier, nofun⟩, _, hentry, hfails⟩
  · have hwarns : ∀ entry ∈ described entries, ¬ FailsToWarn level entry.1 := by
      rw [described, List.forall_mem_map]
      exact fun entry hentry hfails => h ⟨entry, hentry, hfails⟩
    exact .inl ⟨_, _, build_of_warns hwarns earlier, trivial, h⟩

/-- A document that a catalog can be kept in. -/
def IsListing : Value → Prop
  | .null | .list _ | .map _ => True
  | _ => False

/-- A document that ends the building of its catalog: a name has no text, a warning fails to name a
key, or an item of its list of tables ends it. -/
inductive DocumentEscapes (level : LogLevel) : Value → Prop where
  | name {items : List Value} {item : Value} (h : item ∈ items)
      (hwritable : item.isWritable = false) : DocumentEscapes level (.list items)
  | listed {entries : List (Value × Value)} {items : List Value} {item : Value}
      (htables : Table.optional entries "tables" = .list items) (h : item ∈ items)
      (hescapes : ItemEscapes level item) : DocumentEscapes level (.map entries)
  | key {entries : List (Value × Value)} {entry : Value × Value}
      (htables : ∀ items, Table.optional entries "tables" ≠ .list items) (h : entry ∈ entries)
      (hfails : FailsToWarn level entry.1) : DocumentEscapes level (.map entries)

theorem documentEscapes_list_iff {items : List Value} :
    DocumentEscapes level (.list items) ↔ ∃ item ∈ items, item.isWritable = false := by
  constructor
  · rintro ⟨h, hwritable⟩
    exact ⟨_, h, hwritable⟩
  · rintro ⟨item, h, hwritable⟩
    exact .name h hwritable

theorem documentEscapes_tables_iff {entries : List (Value × Value)} {items : List Value}
    (htables : Table.optional entries "tables" = .list items) :
    DocumentEscapes level (.map entries) ↔ ∃ item ∈ items, ItemEscapes level item := by
  constructor
  · rintro (_ | ⟨htables', h, hescapes⟩ | ⟨hnone, -, -⟩)
    · cases htables.symm.trans htables'
      exact ⟨_, h, hescapes⟩
    · exact absurd htables (hnone items)
  · rintro ⟨item, h, hescapes⟩
    exact .listed htables h hescapes

theorem documentEscapes_keys_iff {entries : List (Value × Value)}
    (hnone : ∀ items, Table.optional entries "tables" ≠ .list items) :
    DocumentEscapes level (.map entries) ↔ ∃ entry ∈ entries, FailsToWarn level entry.1 := by
  constructor
  · rintro (_ | ⟨htables, -, -⟩ | ⟨-, h, hfails⟩)
    · exact absurd htables (hnone _)
    · exact ⟨_, h, hfails⟩
  · rintro ⟨entry, h, hfails⟩
    exact .key hnone h hfails

/-- A list of names is a catalog unless one of them has no text. -/
theorem yieldsUnless_ofDocument_list (path : String) (items : List Value) :
    YieldsUnless (fun _ => True) (DocumentEscapes level (.list items))
      (ofDocument path (.list items) level) := by
  rw [ofDocument, documentEscapes_list_iff]
  by_cases hall : items.all Value.isWritable = true
  · rw [if_pos hall]
    exact yieldsUnless_pure trivial (by simpa using hall)
  · rw [if_neg hall]
    exact yieldsUnless_fail nofun (by simpa using hall)

/-- A mapping is a catalog unless its list of tables or, if it has none, one of its keys ends the
building. -/
theorem yieldsUnless_ofDocument_map (path : String) (entries : List (Value × Value)) :
    YieldsUnless (fun _ => True) (DocumentEscapes level (.map entries))
      (ofDocument path (.map entries) level) := by
  by_cases hlist : ∃ items, Table.optional entries "tables" = .list items
  · obtain ⟨items, htables⟩ := hlist
    have hdocument : ofDocument path (.map entries) level =
        items.foldlM (addListed level) [] >>= fun mapping => build (described mapping) level := by
      rw [← tablesSection_eq]
      simp only [ofDocument, htables]
    rw [hdocument, documentEscapes_tables_iff htables]
    have hempty : KeyedByTexts [] := nofun
    -- The keys of the mapping are the names of its tables, so all of them have texts.
    have hbuild : ∀ mapping, KeyedByTexts mapping →
        YieldsUnless (fun _ => True) False (build (described mapping) level) := by
      refine fun mapping hkeyed => (yieldsUnless_build mapping).of_iff (iff_false_intro ?_)
      rintro ⟨entry, hentry, hfails⟩
      obtain ⟨s, hs⟩ := hkeyed entry hentry
      exact not_failsToWarn (hs ▸ rfl) hfails
    exact ((yieldsUnless_foldlM_addListed items hempty).bind hbuild).of_iff (or_iff_left id)
  · have hnone : ∀ items, Table.optional entries "tables" ≠ .list items :=
      fun items h => hlist ⟨items, h⟩
    have hdocument : ofDocument path (.map entries) level = build (described entries) level := by
      simp only [ofDocument]
    rw [hdocument, documentEscapes_keys_iff hnone]
    exact yieldsUnless_build entries

/-- A document in which a catalog can be kept has one, unless it ends the building. -/
theorem yieldsUnless_ofDocument (path : String) {document : Value} (h : IsListing document) :
    YieldsUnless (fun _ => True) (DocumentEscapes level document)
      (ofDocument path document level) := by
  cases document with
  | null => exact yieldsUnless_pure trivial nofun
  | list items => exact yieldsUnless_ofDocument_list path items
  | map entries => exact yieldsUnless_ofDocument_map path entries
  | _ => exact h.elim

theorem ofDocument_of_not_listing (path : String) {document : Value} (h : ¬ IsListing document) :
    ofDocument path document level = Noted.fail (.catalog (.notListing path)) := by
  cases document with
  | null | list | map => exact absurd trivial h
  | _ => rfl

theorem DocumentEscapes.isListing {document : Value} (h : DocumentEscapes level document) :
    IsListing document := by
  cases h <;> trivial

/-! ## Files -/

section Files

variable [Text.Repertoire] {t : Tree} {p : Path}

/-- The document in a text, in the format that a path says. -/
def documentOf (p : Path) (text : String) : Except ReadError Value :=
  if isJsonPath p then Document.Json.read text else Document.Yaml.read text

/-- The catalog errors on loading a catalog: the file cannot be read, its text is not of its format,
or its document is none that a catalog can be kept in. -/
inductive Rejects (t : Tree) (p : Path) : CatalogError → Prop where
  | unreadable {error : FileError} (hread : Files.readBytes t p = .error (.file error)) :
      Rejects t p (.unreadable p.text error)
  | unparsable {bytes : List UInt8} {text : String} (hbytes : Files.readBytes t p = .ok bytes)
      (htext : Files.documentText bytes = .ok text)
      (hparse : documentOf p text = .error .malformed) : Rejects t p (.unparsable p.text)
  | notListing {bytes : List UInt8} {text : String} {document : Value}
      (hbytes : Files.readBytes t p = .ok bytes) (htext : Files.documentText bytes = .ok text)
      (hparse : documentOf p text = .ok document) (hlisting : ¬ IsListing document) :
      Rejects t p (.notListing p.text)

/-- What else ends the loading of a catalog: no file can have the path, its bytes are not UTF-8, its
text has a part that is well-formed but that the reader makes no value of, or its document ends the
building of the catalog. -/
inductive Escapes (level : LogLevel) (t : Tree) (p : Path) : Prop where
  | path {fault : RangeFault} (h : p.rangeFault? = some fault)
  | bytes {bytes : List UInt8} {fault : Bytes.DecodeError}
      (hbytes : Files.readBytes t p = .ok bytes)
      (htext : Bytes.Utf8.decoder.decode bytes = .error fault)
  | reader {bytes : List UInt8} {text : String} {fault : ReadError}
      (hbytes : Files.readBytes t p = .ok bytes) (htext : Files.documentText bytes = .ok text)
      (hparse : documentOf p text = .error fault) (hfault : fault ≠ .malformed)
  | document {bytes : List UInt8} {text : String} {document : Value}
      (hbytes : Files.readBytes t p = .ok bytes) (htext : Files.documentText bytes = .ok text)
      (hparse : documentOf p text = .ok document) (hescapes : DocumentEscapes level document)

theorem readDocument_eq (t : Tree) (p : Path) :
    readDocument t p = (Files.readBytes t p).mapError (readFailure p) >>= fun bytes =>
      Files.documentText bytes >>= fun text =>
        (documentOf p text).mapError (documentFailure p) := rfl

theorem load_of_readDocument_error {failure : Failure} (h : readDocument t p = .error failure) :
    (load t p level).outcome.1 = .error failure := by
  rw [load, h]
  rfl

theorem readDocument_of_text {bytes : List UInt8} {text : String}
    (hbytes : Files.readBytes t p = .ok bytes) (htext : Files.documentText bytes = .ok text) :
    readDocument t p = (documentOf p text).mapError (documentFailure p) := by
  rw [readDocument_eq, hbytes, Except.mapError, Outcome.ok_bind, htext, Outcome.ok_bind]

theorem load_of_fault {bytes : List UInt8} {text : String} {fault : ReadError}
    (hbytes : Files.readBytes t p = .ok bytes) (htext : Files.documentText bytes = .ok text)
    (hparse : documentOf p text = .error fault) :
    (load t p level).outcome.1 = .error (documentFailure p fault) := by
  refine load_of_readDocument_error ?_
  rw [readDocument_of_text hbytes htext, hparse, Except.mapError]

theorem load_of_document {bytes : List UInt8} {text : String} {document : Value}
    (hbytes : Files.readBytes t p = .ok bytes) (htext : Files.documentText bytes = .ok text)
    (hparse : documentOf p text = .ok document) :
    (load t p level).outcome.1 = (ofDocument p.text document level []).1 := by
  have hdocument : readDocument t p = .ok document := by
    rw [readDocument_of_text hbytes htext, hparse, Except.mapError]
  rw [load, hdocument, Noted.outcome_apply]

theorem load_of_bytes_error {failure : Failure} (h : Files.readBytes t p = .error failure) :
    (load t p level).outcome.1 = .error (readFailure p failure) := by
  refine load_of_readDocument_error ?_
  rw [readDocument_eq, h, Except.mapError, Outcome.error_bind]

theorem load_of_rejects {e : CatalogError} (h : Rejects t p e) :
    (load t p level).outcome.1 = .error (.catalog e) := by
  cases h with
  | unreadable hread => exact load_of_bytes_error hread
  | unparsable hbytes htext hparse => exact load_of_fault hbytes htext hparse
  | @notListing bytes text document hbytes htext hparse hlisting =>
    rw [load_of_document hbytes htext hparse, ofDocument_of_not_listing p.text hlisting]
    rfl

theorem load_of_escapes (h : Escapes level t p) : Escaped (load t p level).outcome.1 := by
  cases h with
  | path h =>
    exact ⟨_, load_of_bytes_error (Files.readBytes_of_rangeFault h), by simp [readFailure]⟩
  | @bytes bytes fault hbytes htext =>
    have htext' : Files.documentText bytes = .error (.undecodable fault) := by
      rw [Files.documentText, htext]
    refine ⟨.undecodable fault, load_of_readDocument_error ?_, by simp⟩
    rw [readDocument_eq, hbytes, Except.mapError, Outcome.ok_bind, htext', Outcome.error_bind]
  | @reader bytes text fault hbytes htext hparse hfault =>
    refine ⟨_, load_of_fault hbytes htext hparse, ?_⟩
    cases fault with
    | malformed => exact absurd rfl hfault
    | _ => simp [documentFailure]
  | @document bytes text document hbytes htext hparse hescapes =>
    rw [load_of_document hbytes htext hparse]
    rcases yieldsUnless_ofDocument p.text hescapes.isListing [] with
      ⟨catalog, later, -, -, hnot⟩ | ⟨hescaped, -⟩
    · exact absurd hescapes hnot
    · exact hescaped

/-- A catalog is loaded, rejected, or its loading escapes. -/
theorem load_cases (level : LogLevel) (t : Tree) (p : Path) :
    (∃ catalog, (load t p level).outcome.1 = .ok catalog) ∨ (∃ e, Rejects t p e) ∨
      Escapes level t p := by
  cases hbytes : Files.readBytes t p with
  | error failure =>
    rcases Files.readBytes_error hbytes with ⟨fault, hfault, -⟩ | ⟨error, rfl⟩
    · exact .inr (.inr (.path hfault))
    · exact .inr (.inl ⟨_, .unreadable hbytes⟩)
  | ok bytes =>
    cases hdecode : Bytes.Utf8.decoder.decode bytes with
    | error fault => exact .inr (.inr (.bytes hbytes hdecode))
    | ok chars =>
      have htext : Files.documentText bytes = .ok (String.ofList (Text.unifyNewlines chars)) := by
        rw [Files.documentText, hdecode]
      cases hparse : documentOf p (String.ofList (Text.unifyNewlines chars)) with
      | error fault =>
        by_cases hfault : fault = .malformed
        · exact .inr (.inl ⟨_, .unparsable hbytes htext (hfault ▸ hparse)⟩)
        · exact .inr (.inr (.reader hbytes htext hparse hfault))
      | ok document =>
        by_cases hlisting : IsListing document
        · rcases yieldsUnless_ofDocument p.text hlisting [] with
            ⟨catalog, later, hok, -, -⟩ | ⟨-, hescapes⟩
          · refine .inl ⟨catalog, ?_⟩
            rw [load_of_document hbytes htext hparse, hok]
          · exact .inr (.inr (.document hbytes htext hparse hescapes))
        · exact .inr (.inl ⟨_, .notListing hbytes htext hparse hlisting⟩)

theorem load_eq_catalog_error_iff {e : CatalogError} :
    (load t p level).outcome.1 = .error (.catalog e) ↔ Rejects t p e := by
  refine ⟨fun h => ?_, load_of_rejects⟩
  rcases load_cases level t p with ⟨catalog, hok⟩ | ⟨e', hrejects⟩ | hescapes
  · cases h.symm.trans hok
  · cases h.symm.trans (load_of_rejects hrejects)
    exact hrejects
  · obtain ⟨failure, hfails, hfailure⟩ := load_of_escapes hescapes
    cases h.symm.trans hfails
    exact absurd rfl (hfailure e)

theorem escaped_load_iff : Escaped (load t p level).outcome.1 ↔ Escapes level t p := by
  refine ⟨fun ⟨failure, hfails, hfailure⟩ => ?_, load_of_escapes⟩
  rcases load_cases level t p with ⟨catalog, hok⟩ | ⟨e, hrejects⟩ | hescapes
  · cases hfails.symm.trans hok
  · cases hfails.symm.trans (load_of_rejects hrejects)
    exact absurd rfl (hfailure e)
  · exact hescapes

theorem exists_load_iff : (∃ catalog, (load t p level).outcome.1 = .ok catalog) ↔
    (∀ e, ¬ Rejects t p e) ∧ ¬ Escapes level t p := by
  constructor
  · rintro ⟨catalog, hok⟩
    refine ⟨fun e hrejects => ?_, fun hescapes => ?_⟩
    · cases hok.symm.trans (load_of_rejects hrejects)
    · obtain ⟨failure, hfails, -⟩ := load_of_escapes hescapes
      cases hok.symm.trans hfails
  · rintro ⟨hrejects, hescapes⟩
    rcases load_cases level t p with hok | ⟨e, h⟩ | h
    · exact hok
    · exact absurd h (hrejects e)
    · exact absurd h hescapes

end Files

end SqlTables.Catalog
