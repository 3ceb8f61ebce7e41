import Mathlib.Data.List.Nodup
import SqlTables.Proofs.FirstOccurrences
import SqlTables.Proofs.Letters
import SqlTables.Proofs.Outcomes
import SqlTables.Report.Keywords

/-!
# Keywords of dialects

A dialect goes under many spellings, and presets add keywords to it under any of them.  Two places
read spellings: the one for names of dialects drops outer blanks first, the one for keys of presets
does not.  They differ on keys with outer blanks only (`Dialect.ofSpelling?_eq_some_iff`), so the
keywords of a dialect depend on the dialect alone, and hold what every other preset of it lists.
-/

set_option autoImplicit false

/-! ## Case and outer blanks -/

namespace SqlTables.Text

/-- A blank has no case. -/
theorem lowerChar_of_isBlank {c : Char} (h : isBlank c = true) : lowerChar c = [c] := by
  have hcode := isBlank_iff.1 h
  have hself : lowerCode c.toNat = c.toNat := by
    have hcaseless := isCaseless_blank _ hcode
    simp only [isCaseless, Bool.and_eq_true, beq_iff_eq] at hcaseless
    exact hcaseless.1.1.1.2
  have hdotted : c.toNat ≠ 0x130 := fun hc => by
    rw [hc] at hcode
    exact absurd hcode (by decide)
  simp [lowerChar, hdotted, hself]

/-- Lower case keeps blanks. -/
theorem isSolid_of_lower {s : List Char} (h : IsSolid (lower s)) : IsSolid s := by
  intro c hc
  by_contra hb
  have hblank : isBlank c = true := by simpa using hb
  have hmem : c ∈ lower s := List.mem_flatMap.2 ⟨c, hc, by simp [lowerChar_of_isBlank hblank]⟩
  exact hb (h c hmem)

theorem isSolid_of_all {s : List Char} (h : s.all (!isBlank ·) = true) : IsSolid s :=
  fun c hc => by simpa using List.all_eq_true.1 h c hc

/-- A text without blanks is trimmed. -/
theorem trim_of_isSolid {s : List Char} (h : IsSolid s) : trim s = s := by
  have hkeeps {w : List Char} (hw : IsSolid w) : w.dropWhile isBlank = w := by
    cases w with
    | nil => rfl
    | cons c w => simp [hw c (by simp)]
  have hreverse : IsSolid s.reverse := fun c hc => h c (List.mem_reverse.1 hc)
  rw [trim, trimRight, hkeeps h, hkeeps hreverse, List.reverse_reverse]

end SqlTables.Text

/-! ## Values that list texts -/

namespace SqlTables.Document.Value

/-- A value lists texts: it is null, or a list of texts, where what is not given is blank. -/
inductive Lists : Value → List String → Prop where
  | nothing : Lists .null []
  | list {items : List Value} {texts : List String} (h : phrases items = .ok texts) :
      Lists (.list items) texts

/-- A value lists presets: it is null, or a mapping of texts to values that list texts. -/
inductive ListsPresets : Value → List (String × List String) → Prop where
  | nothing : ListsPresets .null []
  | map {entries : List (Value × Value)} {presets : List (String × List String)}
      (h : List.Forall₂ (fun e p => e.1 = .text p.1 ∧ e.2.Lists p.2) entries presets) :
      ListsPresets (.map entries) presets

variable {v : Value} {texts : List String} {presets : List (String × List String)}

theorem lists_ofTexts (texts : List String) : (ofTexts texts).Lists texts :=
  .list (phrases_texts texts)

theorem listsPresets_ofTexts (presets : List (String × List String)) :
    (Value.map (presets.map fun p => (.text p.1, ofTexts p.2))).ListsPresets presets := by
  refine .map ?_
  rw [List.forall₂_map_left_iff]
  exact List.forall₂_same.2 fun p _ => ⟨rfl, lists_ofTexts p.2⟩

theorem phrases_nil : phrases [] = .ok [] := rfl

theorem phrases_append {items items' : List Value} {texts texts' : List String}
    (h : phrases items = .ok texts) (h' : phrases items' = .ok texts') :
    phrases (items ++ items') = .ok (texts ++ texts') := by
  unfold phrases at h h' ⊢
  rw [List.mapM_append, h, h']
  rfl

theorem Lists.givenItems (h : v.Lists texts) :
    ∃ items, v.givenItems = .ok items ∧ phrases items = .ok texts := by
  cases h with
  | nothing => exact ⟨[], rfl, rfl⟩
  | @list items texts h =>
    cases items with
    | nil => exact ⟨[], rfl, h⟩
    | cons item items => exact ⟨item :: items, rfl, h⟩

/-- The entries of a value that lists presets, and their keys as its items. -/
theorem ListsPresets.givenEntries (h : v.ListsPresets presets) :
    ∃ entries, v.givenEntries = .ok entries ∧ v.givenItems = .ok (entries.map (·.1)) ∧
      List.Forall₂ (fun e p => e.1 = .text p.1 ∧ e.2.Lists p.2) entries presets := by
  cases h with
  | nothing => exact ⟨[], rfl, rfl, .nil⟩
  | @map entries presets h =>
    cases entries with
    | nil => exact ⟨[], rfl, rfl, h⟩
    | cons entry entries => exact ⟨entry :: entries, rfl, rfl, h⟩

end SqlTables.Document.Value

namespace SqlTables.Sql

open Document (Value)
open SqlTables.Text (IsSolid)

/-! ## Spellings -/

namespace Dialect

theorem isSolid_name (d : Dialect) : IsSolid d.name.toList := by
  refine Text.isSolid_of_all ?_
  cases d <;> decide

theorem isSolid_aliases : ∀ p ∈ aliases, IsSolid p.1.toList := by
  have hall : aliases.all (fun p => p.1.toList.all (!Text.isBlank ·)) = true := by decide
  exact fun p hp => Text.isSolid_of_all (List.all_eq_true.1 hall p hp)

theorem name_injective : Function.Injective name := fun d e h => by
  have hname := ofName?_name d
  rw [h, ofName?_name] at hname
  exact (Option.some.inj hname).symm

/-- Nothing with a blank in it is the name or an alias of a dialect. -/
theorem isSolid_of_ofName? {key : String} {d : Dialect} (h : ofName? key = some d) :
    IsSolid key.toList := by
  unfold ofName? at h
  split at h
  · rename_i e halias
    obtain ⟨before, after, heq, _⟩ := List.lookup_eq_some_iff.1 halias
    exact isSolid_aliases (key, e) (by simp [heq])
  · have hname := List.find?_some h
    rw [← of_decide_eq_true hname]
    exact isSolid_name d

/-- A key of a preset spells a dialect exactly if it is a name for it without outer blanks. -/
theorem ofSpelling?_eq_some_iff {s : String} {d : Dialect} :
    ofSpelling? s = some d ↔ parse? s = some d ∧ Text.trimmed s = s := by
  constructor
  · intro h
    have hsolid : IsSolid s.toList := by
      have hlowered := isSolid_of_ofName? h
      rw [Text.lowered, String.toList_ofList] at hlowered
      exact Text.isSolid_of_lower hlowered
    have htrimmed : Text.trimmed s = s := by
      rw [Text.trimmed, Text.trim_of_isSolid hsolid, String.ofList_toList]
    exact ⟨by rw [parse?, htrimmed, h], htrimmed⟩
  · rintro ⟨h, htrimmed⟩
    rwa [parse?, htrimmed] at h

theorem ne_empty_of_parse? {s : String} {d : Dialect} (h : parse? s = some d) : s ≠ "" := by
  rintro rfl
  have hnone : parse? "" = none := by decide
  rw [hnone] at h
  cases h

theorem ofValue_text (s : String) : ofValue (.text s) =
    match parse? s with
    | some d => .ok d
    | none => .error (.unknownDialect s) := by
  cases h : parse? s with
  | some d => simp [ofValue, Value.phrase_text, h]
  | none => simp [ofValue, Value.phrase_text, h, Value.display]

end Dialect

/-! ## Keywords of a dialect -/

section Presets

variable {v : Value} {presets : List (String × List String)}

/-- The phrases that presets add are those of the presets whose keys are names of the dialect
without outer blanks. -/
theorem presetPhrases_eq (d : Dialect) (presets : List (String × List String)) :
    presetPhrases d presets = (presets.filter fun p =>
      Dialect.parse? p.1 = some d ∧ Text.trimmed p.1 = p.1).flatMap (·.2) := by
  unfold presetPhrases
  simp only [Dialect.ofSpelling?_eq_some_iff]

theorem presetItems_eq (d : Dialect) {entries : List (Value × Value)}
    (h : List.Forall₂ (fun e p => e.1 = .text p.1 ∧ e.2.Lists p.2) entries presets) :
    ∃ items, presetItems d entries = .ok items ∧
      Value.phrases items = .ok (presetPhrases d presets) := by
  induction h with
  | nil => exact ⟨[], rfl, rfl⟩
  | @cons entry preset entries presets hentry _ ih =>
    obtain ⟨key, value⟩ := entry
    obtain ⟨rfl, hvalue⟩ := hentry
    obtain ⟨own, hown, hphrases⟩ := hvalue.givenItems
    obtain ⟨items, hitems, hrest⟩ := ih
    rw [presetItems, hitems, presetPhrases, List.filter_cons]
    by_cases hkey : Dialect.ofSpelling? preset.1 = some d
    · refine ⟨own ++ items, ?_, ?_⟩
      · rw [if_pos hkey, hown]
        rfl
      · rw [if_pos (by simpa using hkey), List.flatMap_cons]
        exact Value.phrases_append hphrases hrest
    · refine ⟨items, ?_, ?_⟩
      · rw [if_neg hkey]
        rfl
      · rw [if_neg (by simpa using hkey)]
        exact hrest

/-- The keywords of a dialect are found whenever the presets are of the kind they should be. -/
theorem keywordsOf_apply (hv : v.ListsPresets presets) (d : Dialect) (earlier : List Notice) :
    ∃ told, keywordsOf d v earlier = (.ok (d.allKeywords presets), told) := by
  obtain ⟨entries, hentries, -, h⟩ := hv.givenEntries
  obtain ⟨items, hitems, hphrases⟩ := presetItems_eq d h
  unfold keywordsOf
  rw [hentries, Noted.ofKind_ok_bind, hitems, Noted.ofKind_ok_bind, hphrases]
  by_cases hnone : d.keywords = [] ∧ items.isEmpty = true
  · rw [if_pos hnone]
    exact ⟨_, rfl⟩
  · rw [if_neg hnone]
    exact ⟨_, rfl⟩

theorem keywordsForDialect_apply (hv : v.ListsPresets presets) {s : String} {d : Dialect}
    (hs : Dialect.parse? s = some d) (earlier : List Notice) :
    ∃ told, keywordsForDialect (.text s) v earlier = (.ok (d.allKeywords presets), told) := by
  have hgiven : (Value.text s).isGiven = true := by
    simpa [Value.isGiven] using Dialect.ne_empty_of_parse? hs
  obtain ⟨told, htold⟩ := keywordsOf_apply hv d earlier
  refine ⟨told, ?_⟩
  rw [keywordsForDialect, if_pos hgiven, Dialect.ofValue_text, hs]
  exact htold

theorem keywordsForDialect_unknown {s : String} (hne : s ≠ "") (hs : Dialect.parse? s = none)
    (v : Value) (earlier : List Notice) :
    keywordsForDialect (.text s) v earlier = (.error (.unknownDialect s), earlier) := by
  have hgiven : (Value.text s).isGiven = true := by simpa [Value.isGiven] using hne
  rw [keywordsForDialect, if_pos hgiven, Dialect.ofValue_text, hs]
  rfl

end Presets

/-! ## Normal forms -/

namespace Keyword

theorem nodup_normalize (phrases : List String) : (normalize phrases).Nodup := nodup_eraseDups _

/-- The normal form of the first phrases comes first. -/
theorem normalize_isPrefix_append (phrases more : List String) :
    normalize phrases <+: normalize (phrases ++ more) := by
  simp only [normalize, List.map_append, List.filter_append, List.eraseDups_append]
  exact List.prefix_append _ _

theorem normalize_subset {phrases more : List String} (h : phrases ⊆ more) :
    normalize phrases ⊆ normalize more := by
  intro k hk
  rw [normalize, List.mem_eraseDups] at hk ⊢
  exact List.filter_subset _ (List.map_subset _ h) hk

end Keyword

end SqlTables.Sql

/-! ## The report on keywords -/

namespace SqlTables.Report

open Document (Value)
open SqlTables.Sql

variable {v : Value} {presets : List (String × List String)}

/-- A dialect with its keywords, as it is listed in a report. -/
def listedDialect (presets : List (String × List String)) (d : Dialect) : String × List String :=
  (d.name, d.allKeywords presets)

theorem mapM_keywordsOf (hv : v.ListsPresets presets) (ds : List Dialect)
    (earlier : List Notice) :
    ∃ told, (ds.mapM fun d => do return (d.name, ← keywordsOf d v) :
      Noted (List (String × List String))) earlier =
        (.ok (ds.map (listedDialect presets)), told) := by
  induction ds generalizing earlier with
  | nil => exact ⟨earlier, rfl⟩
  | cons d ds ih =>
    obtain ⟨mid, hmid⟩ := keywordsOf_apply hv d earlier
    obtain ⟨told, htold⟩ := ih mid
    refine ⟨told, ?_⟩
    rw [List.mapM_cons, bind_assoc, bind_of_ok hmid, pure_bind, bind_of_ok htold]
    rfl

theorem any_listedDialect {ds : List Dialect} {d : Dialect} :
    ((ds.map (listedDialect presets)).any fun e => e.1 = d.name) = true ↔ d ∈ ds := by
  rw [List.any_map, List.any_eq_true]
  constructor
  · rintro ⟨e, he, heq⟩
    rwa [← Dialect.name_injective (of_decide_eq_true heq)]
  · exact fun hd => ⟨d, hd, decide_eq_true rfl⟩

/-- A key that names a dialect adds it to the report if it is new there. -/
theorem addDialect_apply (hv : v.ListsPresets presets) {key : String} {d : Dialect}
    (hkey : Dialect.parse? key = some d) (ds : List Dialect) (earlier : List Notice) :
    ∃ told, addDialect v (ds.eraseDups.map (listedDialect presets)) (.text key) earlier =
      (.ok ((ds ++ [d]).eraseDups.map (listedDialect presets)), told) := by
  obtain ⟨told, htold⟩ := keywordsOf_apply hv d earlier
  refine ⟨told, ?_⟩
  rw [addDialect, Dialect.ofValue_text, hkey]
  simp only [bind_of_ok htold]
  by_cases hd : d ∈ ds
  · rw [if_pos (any_listedDialect.2 (List.mem_eraseDups.2 hd)), eraseDups_concat_of_mem hd]
    rfl
  · have hnew : ¬ ((ds.eraseDups.map (listedDialect presets)).any fun e => e.1 = d.name) = true :=
      fun h => hd (List.mem_eraseDups.1 (any_listedDialect.1 h))
    rw [if_neg hnew, eraseDups_concat_of_not_mem hd, List.map_append]
    rfl

/-- The report grows by the dialects of the keys, of which each is added when it is first met. -/
theorem foldlM_addDialect (hv : v.ListsPresets presets) {keys : List String}
    (hkeys : ∀ key ∈ keys, (Dialect.parse? key).isSome) (ds : List Dialect)
    (earlier : List Notice) :
    ∃ told, (keys.map Value.text).foldlM (addDialect v) (ds.eraseDups.map (listedDialect presets))
      earlier = (.ok ((ds ++ keys.filterMap Dialect.parse?).eraseDups.map (listedDialect presets)),
        told) := by
  induction keys generalizing ds earlier with
  | nil => exact ⟨earlier, by rw [List.filterMap_nil, List.append_nil]; rfl⟩
  | cons key keys ih =>
    obtain ⟨hkey, hkeys⟩ := List.forall_mem_cons.1 hkeys
    obtain ⟨d, hd⟩ := Option.isSome_iff_exists.1 hkey
    obtain ⟨mid, hmid⟩ := addDialect_apply hv hd ds earlier
    obtain ⟨told, htold⟩ := ih hkeys (ds ++ [d]) mid
    refine ⟨told, ?_⟩
    rw [List.map_cons, List.foldlM_cons, bind_of_ok hmid, htold, List.filterMap_cons_some hd,
      List.append_assoc, List.singleton_append]

/-- With presets under names of dialects, the report lists the dialects that have keywords of their
own and then those of the presets, each once and with all its keywords. -/
theorem keywords_outcome {c : Config} (hv : (c.get .keywordPresets).ListsPresets presets)
    (hkeys : ∀ p ∈ presets, (Dialect.parse? p.1).isSome) :
    ∃ report, (keywords c).outcome.1 = .ok report ∧
      report.dialects = (Dialect.withPresets ++ (presets.map (·.1)).filterMap
        Dialect.parse?).eraseDups.map (listedDialect presets) := by
  obtain ⟨entries, -, hitems, hentries⟩ := hv.givenEntries
  have htexts : entries.map (·.1) = (presets.map (·.1)).map Value.text := by
    rw [List.map_map, ← List.forall₂_eq_eq_eq, List.forall₂_map_left_iff,
      List.forall₂_map_right_iff]
    exact hentries.imp fun _ _ h => h.1
  obtain ⟨mid, hmid⟩ := mapM_keywordsOf hv Dialect.withPresets []
  have hnodup : Dialect.withPresets.eraseDups = Dialect.withPresets := by decide
  have hnames : ∀ key ∈ presets.map (·.1), (Dialect.parse? key).isSome := by simpa using hkeys
  obtain ⟨told, htold⟩ := foldlM_addDialect hv hnames Dialect.withPresets mid
  rw [hnodup] at htold
  refine ⟨⟨Keyword.standard, _, KeywordSets.builtin.all⟩, ?_, rfl⟩
  rw [Noted.outcome_apply, keywords, presetDialects, bind_of_ok hmid, hitems,
    Noted.ofKind_ok_bind, htexts, bind_of_ok htold]
  rfl

/-- Presets attach to their dialect under every spelling without outer blanks.  Under whatever name
a dialect is asked for, its keywords are the standard ones, its own, and those of all presets whose
keys are names of it without outer blanks, in the order of the presets.  If all keys are names of
dialects, the report on keywords lists the keywords of each such preset under its dialect. -/
theorem presets_attach_by_spelling (hv : v.ListsPresets presets) :
    (∀ d : Dialect,
      let values := (presets.filter fun p =>
        Dialect.parse? p.1 = some d ∧ Text.trimmed p.1 = p.1).flatMap (·.2)
      let keywords := Keyword.normalize (Keyword.standard ++ (d.keywords ++ values))
      (∀ s, Dialect.parse? s = some d →
        (keywordsForDialect (.text s) v).outcome.1 = .ok keywords) ∧
      Keyword.standard <+: keywords ∧ keywords.Nodup) ∧
    ∀ c : Config, c.get .keywordPresets = v → (∀ p ∈ presets, (Dialect.parse? p.1).isSome) →
      ∃ report, (keywords c).outcome.1 = .ok report ∧ (report.dialects.map (·.1)).Nodup ∧
        ∀ p ∈ presets, Text.trimmed p.1 = p.1 → ∀ d, Dialect.parse? p.1 = some d →
          ∃ listed, (d.name, listed) ∈ report.dialects ∧
            (keywordsForDialect (.text p.1) v).outcome.1 = .ok listed ∧
            ∀ k ∈ Keyword.normalize p.2, k ∈ listed := by
  have hspelled (s : String) (d : Dialect) (hs : Dialect.parse? s = some d) :
      (keywordsForDialect (.text s) v).outcome.1 = .ok (d.allKeywords presets) := by
    obtain ⟨told, htold⟩ := keywordsForDialect_apply hv hs []
    rw [Noted.outcome_apply, htold]
  refine ⟨?_, ?_⟩
  · intro d values all
    have hall : d.allKeywords presets = all := by
      rw [Dialect.allKeywords, presetPhrases_eq]
    refine ⟨fun s hs => hall ▸ hspelled s d hs, ?_, Keyword.nodup_normalize _⟩
    have hprefix := Keyword.normalize_isPrefix_append Keyword.standard (d.keywords ++ values)
    rwa [Keyword.normalize_standard] at hprefix
  · rintro c rfl hkeys
    obtain ⟨report, hok, hdialects⟩ := keywords_outcome hv hkeys
    refine ⟨report, hok, ?_, fun p hp htrimmed d hd => ?_⟩
    · have hnames : Prod.fst ∘ listedDialect presets = Dialect.name := rfl
      rw [hdialects, List.map_map, hnames]
      exact List.Nodup.map Dialect.name_injective (nodup_eraseDups _)
    · refine ⟨d.allKeywords presets, ?_, hspelled p.1 d hd, ?_⟩
      · have hmem : d ∈ (presets.map (·.1)).filterMap Dialect.parse? :=
          List.mem_filterMap.2 ⟨p.1, List.mem_map_of_mem hp, hd⟩
        rw [hdialects]
        exact List.mem_map_of_mem (List.mem_eraseDups.2 (List.mem_append_right _ hmem))
      · refine Keyword.normalize_subset fun k hk => ?_
        have hvalue : k ∈ presetPhrases d presets := by
          rw [presetPhrases_eq]
          exact List.mem_flatMap.2 ⟨p, List.mem_filter.2 ⟨hp, by simp [hd, htrimmed]⟩, hk⟩
        exact List.mem_append_right _ (List.mem_append_right _ hvalue)

/-- Presets under an alias in capitals, and under a name between blanks. -/
def spelledPresets : List (String × List String) :=
  [("MSSQL", ["bulk  insert", "", "OUTPUT"]), (" duckdb ", ["PIVOT"])]

/-- The first preset is found under another alias, the second is not. -/
theorem presets_attach_by_spelling_alias :
    let v := Value.map (spelledPresets.map fun p => (.text p.1, Value.ofTexts p.2))
    let tsql := Keyword.standard ++ Dialect.tsql.keywords ++ ["bulk insert"]
    v.ListsPresets spelledPresets ∧ Dialect.parse? "\tSqlServer" = some .tsql ∧
      (keywordsForDialect (.text "\tSqlServer") v).outcome.1 = .ok tsql ∧
      Dialect.parse? " duckdb " = some .duckdb ∧
      (keywordsForDialect (.text " duckdb ") v).outcome.1 = .ok Keyword.standard ∧
      ∃ report, (keywords (Config.initial.set .keywordPresets v)).outcome.1 = .ok report ∧
        ∃ listed, ("tsql", listed) ∈ report.dialects ∧
          ∀ k ∈ ["bulk insert", "OUTPUT"], k ∈ listed := by
  intro v tsql
  have hv : v.ListsPresets spelledPresets := Value.listsPresets_ofTexts spelledPresets
  obtain ⟨hdialects, hreport⟩ := presets_attach_by_spelling hv
  have hserver : Dialect.parse? "\tSqlServer" = some .tsql := by decide +kernel
  have hduck : Dialect.parse? " duckdb " = some .duckdb := by decide +kernel
  refine ⟨hv, hserver, ?_, hduck, ?_, ?_⟩
  · rw [(hdialects .tsql).1 _ hserver]
    exact congrArg Except.ok (by decide +kernel)
  · rw [(hdialects .duckdb).1 _ hduck]
    exact congrArg Except.ok (by decide +kernel)
  · obtain ⟨report, hok, -, hlisted⟩ := hreport (Config.initial.set .keywordPresets v)
      (Config.get_set_self _ _ _) (by decide +kernel)
    obtain ⟨listed, hmem, -, hkeywords⟩ := hlisted ("MSSQL", ["bulk  insert", "", "OUTPUT"])
      (by simp [spelledPresets]) (by decide +kernel) .tsql (by decide +kernel)
    have hnormal : Keyword.normalize ["bulk  insert", "", "OUTPUT"] =
        ["bulk insert", "OUTPUT"] := by decide +kernel
    exact ⟨report, hok, listed, hmem, hnormal ▸ hkeywords⟩

end SqlTables.Report
