import SqlTables.Proofs.DocumentKeys
import SqlTables.Proofs.IgnoreFile

/-!
# Settings and the keys that give them

An entry of a settings file gives the setting of its key and leaves the others alone; entries under
other names have no effect (`settings_stand_by_name`).  The exceptions are three names that belong
to every configuration and are no settings: entries under them are not left out but end the loading,
or replace the whole configuration.
-/

set_option autoImplicit false

namespace SqlTables

open Catalog (KeyedByTexts)
open Document (Value WrongKind)
open Files (Tree Path)

/-! ## Names of settings -/

namespace Setting

theorem ofName?_eq_some_iff {name : String} {s : Setting} :
    ofName? name = some s ↔ s.name = name := by
  constructor
  · intro h
    simpa using List.find?_some h
  · rintro rfl
    exact ofName?_name s

theorem name_injective {s t : Setting} (h : s.name = t.name) : s = t :=
  Option.some.inj ((ofName?_name s).symm.trans (h ▸ ofName?_name t))

end Setting

namespace Config

variable {tree : Tree} {path : Option Path}

/-! ## Entries -/

/-- The names of parts of every configuration that an entry replaces although they are no
settings. -/
def reservedNames : List String := ["__class__", "__weakref__", "__dict__"]

/-- Every key is a text and none of these names. -/
def HasPlainKeys (entries : List (Value × Value)) : Prop :=
  ∀ entry ∈ entries, ∃ name, entry.1 = .text name ∧ name ∉ reservedNames

theorem HasPlainKeys.keyedByTexts {entries : List (Value × Value)} (h : HasPlainKeys entries) :
    KeyedByTexts entries := by
  intro entry hentry
  obtain ⟨name, hname, -⟩ := h entry hentry
  exact ⟨name, hname⟩

namespace Draft

variable {name : String} {v : Value}

theorem apply_setting (d : Draft) (s : Setting) (v : Value) :
    d.apply (.text s.name) v =
      if s ∈ d.lost then (do
        Noted.tell [.settingIgnored s.name]
        return d)
      else pure { d with config := d.config.set s v } := by
  simp only [apply, Setting.ofName?_name, List.contains_iff_mem]

theorem apply_of_not_setting (hsetting : ∀ s : Setting, s.name ≠ name)
    (hname : name ∉ reservedNames) (d : Draft) (v : Value) :
    d.apply (.text name) v = (do
      if !inertNames.contains name then Noted.tell [.settingIgnored name]
      return d) := by
  have hnone : Setting.ofName? name = none :=
    Option.eq_none_iff_forall_ne_some.2 fun s hs => hsetting s (Setting.ofName?_eq_some_iff.1 hs)
  simp only [reservedNames, List.mem_cons, List.not_mem_nil, or_false, not_or] at hname
  simp only [apply, hnone, if_neg hname.1, if_neg hname.2.1, if_neg hname.2.2]

/-- An entry under a plain name gives the setting of that name, if there is one, and leaves the
others alone. -/
theorem apply_of_not_reserved (hname : name ∉ reservedNames) (d : Draft) (v : Value)
    (earlier : List Notice) :
    ∃ c later, d.apply (.text name) v earlier = (.ok ⟨c, d.lost⟩, later) ∧
      ∀ s ∉ d.lost, c.get s = if s.name = name then v else d.config.get s := by
  by_cases hsetting : ∃ s : Setting, s.name = name
  · obtain ⟨s, rfl⟩ := hsetting
    rw [apply_setting]
    by_cases hlost : s ∈ d.lost
    · rw [if_pos hlost]
      refine ⟨d.config, _, rfl, fun t ht => ?_⟩
      have hne : s.name ≠ t.name := fun h => ht ((Setting.name_injective h).symm ▸ hlost)
      rw [if_neg hne.symm]
    · rw [if_neg hlost]
      refine ⟨d.config.set s v, _, rfl, fun t _ => ?_⟩
      by_cases hts : t = s
      · rw [hts, get_set_self, if_pos rfl]
      · rw [get_set_of_ne hts, if_neg fun h => hts (Setting.name_injective h)]
  · rw [apply_of_not_setting (not_exists.1 hsetting) hname]
    have hget (s : Setting) (_ : s ∉ d.lost) :
        d.config.get s = if s.name = name then v else d.config.get s :=
      (if_neg fun h => hsetting ⟨s, h⟩).symm
    split <;> exact ⟨d.config, _, rfl, hget⟩

/-- The draft after the entries of a document. -/
def extend (d : Draft) (entries : List (Value × Value)) : Noted Draft :=
  entries.foldlM (fun d (k, v) => d.apply k v) d

theorem extend_cons (d : Draft) (k v : Value) (entries : List (Value × Value)) :
    d.extend ((k, v) :: entries) = d.apply k v >>= fun d => d.extend entries := List.foldlM_cons ..

theorem extend_append (d : Draft) (entries entries' : List (Value × Value)) :
    d.extend (entries ++ entries') = d.extend entries >>= fun d => d.extend entries' :=
  List.foldlM_append ..

/-- Entries under plain names give the settings of their names and leave the others alone. -/
theorem extend_of_hasPlainKeys {entries : List (Value × Value)} (hplain : HasPlainKeys entries)
    (hnodup : (entries.map (·.1)).Nodup) (d : Draft) (earlier : List Notice) :
    ∃ c later, d.extend entries earlier = (.ok ⟨c, d.lost⟩, later) ∧
      ∀ s ∉ d.lost, c.get s = (Value.lookup (.text s.name) entries).getD (d.config.get s) := by
  induction entries generalizing d earlier with
  | nil => exact ⟨d.config, earlier, rfl, fun _ _ => rfl⟩
  | cons entry entries ih =>
    obtain ⟨key, v⟩ := entry
    obtain ⟨⟨name, rfl, hname⟩, hrest⟩ := List.forall_mem_cons.1 hplain
    obtain ⟨hkey, hnodup⟩ := List.nodup_cons.1 hnodup
    obtain ⟨c, mid, hstep, hc⟩ := apply_of_not_reserved hname d v earlier
    obtain ⟨c', later, hrun, hc'⟩ := ih hrest hnodup ⟨c, d.lost⟩ mid
    refine ⟨c', later, ?_, fun s hs => ?_⟩
    · rw [extend_cons, bind_of_ok hstep, hrun]
    · rw [hc' s hs, hc s hs]
      by_cases hsame : s.name = name
      · subst hsame
        rw [Value.lookup_text_cons_self, Value.lookup_text_eq_none_of_not_mem hkey, if_pos rfl]
        rfl
      · have hne : (Value.text name, v).1 ≠ .text s.name := fun h => hsame (Value.text.inj h).symm
        rw [Value.lookup_text_cons_of_ne hne, if_neg hsame]

theorem apply_class (d : Draft) (v : Value) :
    d.apply (.text "__class__") v = Noted.fail (.wrongKind .notReplaceable) := by
  have hnone : Setting.ofName? "__class__" = none := by decide
  simp only [apply, hnone, if_true]

theorem apply_weakref (d : Draft) (v : Value) :
    d.apply (.text "__weakref__") v = Noted.fail (.wrongKind .notWritable) := by
  have hnone : Setting.ofName? "__weakref__" = none := by decide
  have hother : "__weakref__" ≠ "__class__" := by decide
  simp only [apply, hnone, if_neg hother, if_true]

theorem ofName?_dict : Setting.ofName? "__dict__" = none := by decide

theorem apply_dict_map (d : Draft) (entries : List (Value × Value)) :
    d.apply (.text "__dict__") (.map entries) = pure (replaced entries) := by
  have hclass : "__dict__" ≠ "__class__" := by decide
  have hweakref : "__dict__" ≠ "__weakref__" := by decide
  simp only [apply, ofName?_dict, if_neg hclass, if_neg hweakref, if_true]

theorem apply_dict_of_ne_map (hmap : ∀ entries, v ≠ .map entries) (d : Draft) :
    d.apply (.text "__dict__") v = Noted.fail (.wrongKind .notReplaceable) := by
  have hclass : "__dict__" ≠ "__class__" := by decide
  have hweakref : "__dict__" ≠ "__weakref__" := by decide
  simp only [apply, ofName?_dict, if_neg hclass, if_neg hweakref, if_true]

/-- An entry of which the key is a text changes the draft or is of the wrong kind; settings are lost
by a new dictionary only. -/
theorem apply_text_cases (d : Draft) (name : String) (v : Value) (earlier : List Notice) :
    (∃ d' later, d.apply (.text name) v earlier = (.ok d', later) ∧
      (name ≠ "__dict__" → d'.lost = d.lost)) ∨
    ∃ kind later, d.apply (.text name) v earlier = (.error (.wrongKind kind), later) := by
  by_cases hname : name ∈ reservedNames
  · simp only [reservedNames, List.mem_cons, List.not_mem_nil, or_false] at hname
    rcases hname with rfl | rfl | rfl
    · exact .inr ⟨_, _, by rw [apply_class]; rfl⟩
    · exact .inr ⟨_, _, by rw [apply_weakref]; rfl⟩
    · by_cases hmap : ∃ entries, v = .map entries
      · obtain ⟨entries, rfl⟩ := hmap
        exact .inl ⟨_, _, by rw [apply_dict_map]; rfl, fun h => absurd rfl h⟩
      · exact .inr ⟨_, _, by rw [apply_dict_of_ne_map (not_exists.1 hmap)]; rfl⟩
  · obtain ⟨c, later, hstep, -⟩ := apply_of_not_reserved hname d v earlier
    exact .inl ⟨_, later, hstep, fun _ => rfl⟩

theorem extend_cases {entries : List (Value × Value)} (hkeyed : KeyedByTexts entries) (d : Draft)
    (earlier : List Notice) :
    (∃ d' later, d.extend entries earlier = (.ok d', later) ∧
      ((∀ entry ∈ entries, entry.1 ≠ .text "__dict__") → d'.lost = d.lost)) ∨
    ∃ kind later, d.extend entries earlier = (.error (.wrongKind kind), later) := by
  induction entries generalizing d earlier with
  | nil => exact .inl ⟨d, earlier, rfl, fun _ => rfl⟩
  | cons entry entries ih =>
    obtain ⟨key, v⟩ := entry
    obtain ⟨⟨name, hname⟩, hrest⟩ := List.forall_mem_cons.1 hkeyed
    obtain rfl : key = .text name := hname
    rw [extend_cons]
    rcases apply_text_cases d name v earlier with ⟨d₁, mid, hstep, hlost₁⟩ | ⟨kind, mid, hstep⟩
    · rw [bind_of_ok hstep]
      refine (ih hrest d₁ mid).imp_left ?_
      rintro ⟨d₂, later, hrun, hlost₂⟩
      refine ⟨d₂, later, hrun, fun hother => ?_⟩
      obtain ⟨hhead, htail⟩ := List.forall_mem_cons.1 hother
      rw [hlost₂ htail, hlost₁ fun h => hhead (congrArg Value.text h)]
    · exact .inr ⟨kind, mid, bind_of_error hstep⟩

end Draft

/-- An entry that ends the loading: one for the class or the references of the configuration, or one
for its dictionary that is no mapping or lacks the names to leave out. -/
inductive EndsLoading : Value × Value → Prop where
  | ofClass (v : Value) : EndsLoading (.text "__class__", v)
  | ofReferences (v : Value) : EndsLoading (.text "__weakref__", v)
  | notMapping {v : Value} : (∀ entries, v ≠ .map entries) → (∀ isMap, v ≠ .again isMap) →
      EndsLoading (.text "__dict__", v)
  | withoutIgnored {entries : List (Value × Value)} :
      Value.lookup (.text "ignore") entries = none → EndsLoading (.text "__dict__", .map entries)

theorem Draft.mem_lost_replaced_iff {entries : List (Value × Value)} {s : Setting} :
    s ∈ (replaced entries).lost ↔
      s.isOwn = true ∧ Value.lookup (.text s.name) entries = none := by
  simp [replaced, Setting.mem_all]

theorem Draft.extend_of_endsLoading {before after : List (Value × Value)} {entry : Value × Value}
    (hkeyed : KeyedByTexts (before ++ entry :: after))
    (hnodup : ((before ++ entry :: after).map (·.1)).Nodup) (hends : EndsLoading entry) (d : Draft)
    (earlier : List Notice) :
    (∃ d' later, d.extend (before ++ entry :: after) earlier = (.ok d', later) ∧
      Setting.ignore ∈ d'.lost) ∨
    ∃ kind later,
      d.extend (before ++ entry :: after) earlier = (.error (.wrongKind kind), later) := by
  have hbefore : KeyedByTexts before := fun e he => hkeyed e (List.mem_append_left _ he)
  have hafter : KeyedByTexts after := fun e he => hkeyed e (by simp [he])
  rw [extend_append]
  rcases extend_cases hbefore d earlier with ⟨d₁, mid, hrun, -⟩ | ⟨kind, later, hrun⟩
  · rw [bind_of_ok hrun, extend_cons]
    cases hends with
    | ofClass v => exact .inr ⟨_, _, by rw [apply_class]; rfl⟩
    | ofReferences v => exact .inr ⟨_, _, by rw [apply_weakref]; rfl⟩
    | notMapping hmap _ => exact .inr ⟨_, _, by rw [apply_dict_of_ne_map hmap]; rfl⟩
    | @withoutIgnored inner hignored =>
      rw [apply_dict_map, pure_bind]
      refine (extend_cases hafter (Draft.replaced inner) mid).imp_left ?_
      rintro ⟨d₂, later, hrun, hlost⟩
      -- keys are different, so no later entry gives the configuration another dictionary
      have hother : ∀ e ∈ after, e.1 ≠ .text "__dict__" := by
        intro e he heq
        rw [List.map_append, List.map_cons, List.nodup_append] at hnodup
        exact (List.nodup_cons.1 hnodup.2.1).1 (List.mem_map.2 ⟨e, he, heq⟩)
      exact ⟨d₂, later, hrun, hlost hother ▸ mem_lost_replaced_iff.2 ⟨rfl, hignored⟩⟩
  · exact .inr ⟨kind, later, bind_of_error hrun⟩

/-! ## Loading -/

/-- The configuration with the patterns of the ignore file after its own. -/
def finished (tree : Tree) (c : Config) : Except Failure Config := do
  let own ← (c.get .ignore).givenItems.mapError .wrongKind
  let patterns ← patternsRead tree
  return c.set .ignore (.list (own ++ patterns.map .text))

/-- What the settings file says of the names to leave out: nothing, or a list of them. -/
inductive ListsIgnored : Option Value → List Value → Prop where
  | absent : ListsIgnored none []
  | null : ListsIgnored (some .null) []
  | list (own : List Value) : ListsIgnored (some (.list own)) own

theorem ListsIgnored.givenItems {v : Option Value} {own : List Value} (h : ListsIgnored v own) :
    (v.getD Setting.ignore.initial).givenItems = .ok own := by
  cases h with
  | absent => rfl
  | null => rfl
  | list own => cases own <;> rfl

/-- A configuration holds what is given of its settings and the defaults for the others; the
patterns of the ignore file follow the names to leave out. -/
structure Holds (tree : Tree) (given : Setting → Option Value) (own : List Value) (c : Config) :
    Prop where
  values : ∀ s ≠ .ignore, c.get s = (given s).getD s.initial
  ignored : ∃ patterns, IgnoreFileGives tree patterns ∧
    c.get .ignore = .list (own ++ patterns.map .text)

/-- What is given of the settings is held in the end. -/
theorem holds_of_finished {given : Setting → Option Value} {own : List Value} {c : Config}
    (hc : ∀ s, c.get s = (given s).getD s.initial) (hown : ListsIgnored (given .ignore) own)
    (hfault : ¬ HasFaultyIgnoreFile tree) :
    ∃ c', finished tree c = .ok c' ∧ Holds tree given own c' := by
  obtain ⟨patterns, hgives, hread⟩ := patternsRead_of_not_faulty hfault
  have hitems : (c.get .ignore).givenItems = .ok own := by rw [hc, hown.givenItems]
  refine ⟨c.set .ignore (.list (own ++ patterns.map .text)), ?_, ?_, patterns, hgives, ?_⟩
  · simp only [finished, hitems, hread]
    rfl
  · exact fun s hs => (get_set_of_ne hs c _).trans (hc s)
  · exact get_set_self c _ _

/-- Whether an entry gives a setting. -/
def givesSetting (entry : Value × Value) : Bool :=
  match entry.1 with
  | .text name => (Setting.ofName? name).isSome
  | _ => false

/-- Settings are given by entries under their names. -/
theorem lookup_filter_givesSetting (s : Setting) (entries : List (Value × Value)) :
    Value.lookup (.text s.name) (entries.filter givesSetting) =
      Value.lookup (.text s.name) entries := by
  rw [Value.lookup, Value.lookup, List.find?_filter]
  congr 2
  funext entry
  by_cases hsame : Value.sameKey (.text s.name) entry.1 = true
  · have hgives : givesSetting entry = true := by
      rw [givesSetting, Value.sameKey_text_iff.1 hsame]
      simp [Setting.ofName?_name]
    simp [hgives, hsame]
  · simp [hsame]

section Load

variable [Text.Repertoire] {entries : List (Value × Value)} {d : Draft} {later : List Notice}

/-- A mapping of settings has different keys if they are texts. -/
theorem nodup_keys_of_documentEntries (h : documentEntries tree path = .ok entries)
    (hkeyed : KeyedByTexts entries) : (entries.map (·.1)).Nodup := by
  obtain ⟨found, -, h⟩ := Outcome.bind_eq_ok_iff.1 h
  split at h
  · rw [readEntries] at h
    obtain ⟨bytes, -, h⟩ := Outcome.bind_eq_ok_iff.1 h
    obtain ⟨text, -, h⟩ := Outcome.bind_eq_ok_iff.1 h
    obtain ⟨v, hread, h⟩ := Outcome.bind_eq_ok_iff.1 h
    cases hv : Document.Yaml.read text with
    | error e =>
      rw [hv] at hread
      cases hread
    | ok v' =>
      rw [hv] at hread
      cases hread
      split at h
      · cases h
        exact Document.Yaml.nodup_keys_of_read hv hkeyed
      · split at h
        · cases h
        · cases h
          exact List.nodup_nil
  · cases h
    exact List.nodup_nil

/-- The entries of a settings file that is a text. -/
theorem documentEntries_of_text {p : Path} {s : List Char}
    (hbytes : Files.readBytes tree p = .ok (s.flatMap String.utf8EncodeChar))
    (hread : Document.Yaml.read (String.ofList (Text.unifyNewlines s)) = .ok (.map entries)) :
    documentEntries tree (some p) = .ok entries := by
  rw [documentEntries, Option.getD_some, Files.Tree.lookFor_of_readBytes hbytes]
  show readEntries tree p = _
  rw [readEntries, hbytes, Outcome.ok_bind, Files.documentText_of_text, Outcome.ok_bind, hread]
  rfl

theorem load_of_error {failure : Failure} (h : documentEntries tree path = .ok entries)
    (hrun : (⟨initial, []⟩ : Draft).extend entries [] = (.error failure, later)) :
    (load tree path).outcome.1 = .error failure := by
  have hload : load tree path [] = (.error failure, later) := by
    simp only [load, h, pure_bind]
    exact bind_of_error hrun
  rw [Noted.outcome_apply, hload]

theorem load_of_lost (h : documentEntries tree path = .ok entries)
    (hrun : (⟨initial, []⟩ : Draft).extend entries [] = (.ok d, later))
    (hlost : Setting.ignore ∈ d.lost) :
    (load tree path).outcome.1 = .error (.wrongKind .notPresent) := by
  have hload : load tree path [] = (.error (.wrongKind .notPresent), later) := by
    simp only [load, h, pure_bind]
    refine (bind_of_ok hrun).trans ?_
    rw [if_pos (List.contains_iff_mem.2 hlost)]
    rfl
  rw [Noted.outcome_apply, hload]

theorem load_of_draft (h : documentEntries tree path = .ok entries)
    (hrun : (⟨initial, []⟩ : Draft).extend entries [] = (.ok d, later)) (hlost : d.lost = []) :
    (load tree path).outcome.1 = finished tree d.config := by
  simp only [Noted.outcome_apply, load, h, pure_bind]
  refine (congrArg Prod.fst (bind_of_ok hrun)).trans ?_
  obtain ⟨last, hignore⟩ := readIgnoreFile_apply tree later
  rw [hlost]
  cases hown : (d.config.get .ignore).givenItems with
  | error kind =>
    simp only [finished, hown]
    rfl
  | ok own =>
    show ((readIgnoreFile tree >>= fun further =>
      (pure (d.config.set .ignore (.list (own ++ further.map .text))) : Noted Config)) later).1 = _
    rw [bind_apply, hignore]
    simp only [finished, hown]
    cases patternsRead tree <;> rfl

/-- A document of plain keys gives the settings that it names. -/
theorem exists_load_eq_finished {entries : List (Value × Value)}
    (h : documentEntries tree path = .ok entries) (hplain : HasPlainKeys entries) :
    ∃ c, (load tree path).outcome.1 = finished tree c ∧
      ∀ s, c.get s = (Value.lookup (.text s.name) entries).getD s.initial := by
  have hnodup := nodup_keys_of_documentEntries h hplain.keyedByTexts
  obtain ⟨c, later, hrun, hc⟩ := Draft.extend_of_hasPlainKeys hplain hnodup ⟨initial, []⟩ []
  exact ⟨c, load_of_draft h hrun rfl, fun s => hc s List.not_mem_nil⟩

/-- Documents of plain keys that give the same settings are loaded alike. -/
theorem load_eq_of_perm {path' : Option Path} {entries entries' : List (Value × Value)}
    (h : documentEntries tree path = .ok entries) (hplain : HasPlainKeys entries)
    (h' : documentEntries tree path' = .ok entries') (hplain' : HasPlainKeys entries')
    (hperm : (entries.filter givesSetting).Perm (entries'.filter givesSetting)) :
    (load tree path).outcome.1 = (load tree path').outcome.1 := by
  obtain ⟨c, hload, hc⟩ := exists_load_eq_finished h hplain
  obtain ⟨c', hload', hc'⟩ := exists_load_eq_finished h' hplain'
  have hnodup : ((entries.filter givesSetting).map (·.1)).Nodup :=
    (nodup_keys_of_documentEntries h hplain.keyedByTexts).sublist (List.filter_sublist.map _)
  have hget : c.get = c'.get := by
    funext s
    rw [hc, hc', ← lookup_filter_givesSetting, Value.lookup_text_of_perm hnodup hperm,
      lookup_filter_givesSetting]
  rw [hload, hload', show c = c' from congrArg Config.mk hget]

/-- A dictionary with all settings of a configuration's own replaces what came before it. -/
theorem load_of_dictionary {before inner after : List (Value × Value)}
    (h : documentEntries tree path = .ok (before ++ (.text "__dict__", .map inner) :: after))
    (hbefore : HasPlainKeys before) (hafter : HasPlainKeys after)
    (hinner : ∀ s : Setting, s.isOwn = true → Value.lookup (.text s.name) inner ≠ none) :
    ∃ c, (load tree path).outcome.1 = finished tree c ∧
      ∀ s : Setting, c.get s = ((Value.lookup (.text s.name) after).or
        (Value.lookup (.text s.name) inner)).getD s.initial := by
  have hkeyed : KeyedByTexts (before ++ (.text "__dict__", .map inner) :: after) := by
    intro entry hentry
    rcases List.mem_append.1 hentry with hentry | hentry
    · exact hbefore.keyedByTexts entry hentry
    · rcases List.mem_cons.1 hentry with rfl | hentry
      · exact ⟨"__dict__", rfl⟩
      · exact hafter.keyedByTexts entry hentry
  have hnodup := nodup_keys_of_documentEntries h hkeyed
  rw [List.map_append, List.map_cons, List.nodup_append] at hnodup
  have hlost : (Draft.replaced inner).lost = [] := by
    refine List.eq_nil_iff_forall_not_mem.2 fun s hs => ?_
    obtain ⟨hown, hnone⟩ := Draft.mem_lost_replaced_iff.1 hs
    exact hinner s hown hnone
  obtain ⟨c₁, mid, hrun₁, -⟩ := Draft.extend_of_hasPlainKeys hbefore hnodup.1 ⟨initial, []⟩ []
  obtain ⟨c, later, hrun, hc⟩ := Draft.extend_of_hasPlainKeys hafter
    (List.nodup_cons.1 hnodup.2.1).2 (Draft.replaced inner) mid
  have hextend : (⟨initial, []⟩ : Draft).extend (before ++ (.text "__dict__", .map inner) :: after)
      [] = (.ok ⟨c, (Draft.replaced inner).lost⟩, later) := by
    rw [Draft.extend_append, bind_of_ok hrun₁, Draft.extend_cons, Draft.apply_dict_map, pure_bind,
      hrun]
  refine ⟨c, load_of_draft h hextend hlost, fun s => ?_⟩
  rw [hc s (hlost ▸ List.not_mem_nil)]
  cases Value.lookup (.text s.name) after <;> rfl

end Load

/-- A settings file gives the settings that it names, and the others have their defaults; the names
to leave out are its own and then those of the ignore file, which is a fault only if it is no text.
Other keys and the order of keys have no effect, but for three names that are no settings: an entry
for the class or the references of the configuration ends the loading, and one for its dictionary
ends it or, if it has every setting of a configuration's own, replaces all that was given before. -/
theorem settings_stand_by_name [Text.Repertoire] (tree : Tree) (path : Option Path)
    (entries : List (Value × Value)) (h : documentEntries tree path = .ok entries) :
    (HasPlainKeys entries →
      (∀ own, ListsIgnored (Value.lookup (.text "ignore") entries) own →
        (¬ HasFaultyIgnoreFile tree → ∃ c, (load tree path).outcome.1 = .ok c ∧
          Holds tree (fun s => Value.lookup (.text s.name) entries) own c) ∧
        (HasFaultyIgnoreFile tree → ∃ fault,
          (load tree path).outcome.1 = .error (.undecodable fault))) ∧
      ∀ path' entries', documentEntries tree path' = .ok entries' → HasPlainKeys entries' →
        (entries.filter givesSetting).Perm (entries'.filter givesSetting) →
          (load tree path).outcome.1 = (load tree path').outcome.1) ∧
    (KeyedByTexts entries → (∃ entry ∈ entries, EndsLoading entry) →
      ∃ kind, (load tree path).outcome.1 = .error (.wrongKind kind)) ∧
    ∀ before inner after own, entries = before ++ (.text "__dict__", .map inner) :: after →
      HasPlainKeys before → HasPlainKeys after →
      (∀ s : Setting, s.isOwn = true → Value.lookup (.text s.name) inner ≠ none) →
      ListsIgnored ((Value.lookup (.text "ignore") after).or
        (Value.lookup (.text "ignore") inner)) own →
      ¬ HasFaultyIgnoreFile tree → ∃ c, (load tree path).outcome.1 = .ok c ∧
        Holds tree (fun s => (Value.lookup (.text s.name) after).or
          (Value.lookup (.text s.name) inner)) own c := by
  refine ⟨fun hplain => ⟨fun own hown => ?_, fun path' entries' h' hplain' hperm =>
    load_eq_of_perm h hplain h' hplain' hperm⟩, fun hkeyed hends => ?_, ?_⟩
  · obtain ⟨c, hload, hc⟩ := exists_load_eq_finished h hplain
    rw [hload]
    refine ⟨holds_of_finished hc hown, fun hfault => ?_⟩
    obtain ⟨fault, hread⟩ := patternsRead_of_faulty hfault
    have hitems : (c.get .ignore).givenItems = .ok own := by
      rw [hc, ← hown.givenItems]
      rfl
    refine ⟨fault, ?_⟩
    simp only [finished, hitems, hread]
    rfl
  · obtain ⟨entry, hentry, hends⟩ := hends
    have hnodup := nodup_keys_of_documentEntries h hkeyed
    obtain ⟨before, after, rfl⟩ := List.append_of_mem hentry
    rcases Draft.extend_of_endsLoading hkeyed hnodup hends ⟨initial, []⟩ [] with
      ⟨d, later, hrun, hlost⟩ | ⟨kind, later, hrun⟩
    · exact ⟨_, load_of_lost h hrun hlost⟩
    · exact ⟨kind, load_of_error h hrun⟩
  · rintro before inner after own rfl hbefore hafter hinner hown hfault
    obtain ⟨c, hload, hc⟩ := load_of_dictionary h hbefore hafter hinner
    rw [hload]
    exact holds_of_finished hc hown hfault

/-- Files with settings: two documents that give the same, one of them with another key; one for the
class of the configuration, one for its dictionary; and an ignore file. -/
def sampleFiles : Tree where
  nodes :=
    let text (s : String) : Files.Node := .file (s.toList.flatMap String.utf8EncodeChar)
    [(["a.yml"], text "ignore: [x]\nn: 1\nencoding: u\n"),
      (["b.yml"], text "encoding: u\nignore: [x]\n"),
      (["c.yml"], text "__class__: 1\n"),
      (["d.yml"], text ("__dict__: \x7bcustom_keywords, keyword_presets, include, exclude, " ++
        "ignore\x7d\nencoding: u\n")),
      ([".tabletrackerignore"], text "# y\n z \n")]

/-- The entries of the first file: two settings and a key that is none. -/
def ownEntries : List (Value × Value) :=
  [(.text "ignore", .list [.text "x"]), (.text "n", .int 1), (.text "encoding", .text "u")]

/-- The entries of the second file: the same settings in another order. -/
def swappedEntries : List (Value × Value) :=
  [(.text "encoding", .text "u"), (.text "ignore", .list [.text "x"])]

/-- The entry of the third file. -/
def classEntries : List (Value × Value) := [(.text "__class__", .int 1)]

/-- The dictionary of the fourth file, with all settings of a configuration's own. -/
def dictionaryEntries : List (Value × Value) :=
  [(.text "custom_keywords", .null), (.text "keyword_presets", .null), (.text "include", .null),
    (.text "exclude", .null), (.text "ignore", .null)]

theorem documentEntries_own :
    documentEntries sampleFiles (some ⟨"", ["a.yml"]⟩) = .ok ownEntries :=
  documentEntries_of_text (s := "ignore: [x]\nn: 1\nencoding: u\n".toList) rfl
    (Value.eq_ok_of_isEqual (by decide +kernel))

theorem documentEntries_swapped :
    documentEntries sampleFiles (some ⟨"", ["b.yml"]⟩) = .ok swappedEntries :=
  documentEntries_of_text (s := "encoding: u\nignore: [x]\n".toList) rfl
    (Value.eq_ok_of_isEqual (by decide +kernel))

theorem documentEntries_class :
    documentEntries sampleFiles (some ⟨"", ["c.yml"]⟩) = .ok classEntries :=
  documentEntries_of_text (s := "__class__: 1\n".toList) rfl
    (Value.eq_ok_of_isEqual (by decide +kernel))

theorem documentEntries_dictionary :
    documentEntries sampleFiles (some ⟨"", ["d.yml"]⟩) = .ok
      ([] ++ (.text "__dict__", .map dictionaryEntries) :: [(.text "encoding", .text "u")]) :=
  documentEntries_of_text (s := ("__dict__: \x7bcustom_keywords, keyword_presets, include, " ++
    "exclude, ignore\x7d\nencoding: u\n").toList) rfl
    (Value.eq_ok_of_isEqual (by decide +kernel))

theorem hasPlainKeys_own : HasPlainKeys ownEntries := by
  simp [HasPlainKeys, reservedNames, ownEntries]

theorem hasPlainKeys_swapped : HasPlainKeys swappedEntries := by
  simp [HasPlainKeys, reservedNames, swappedEntries]

theorem dictionaryEntries_ne_none (s : Setting) (h : s.isOwn = true) :
    Value.lookup (.text s.name) dictionaryEntries ≠ none := by
  cases s <;> first | (cases h; done) | (intro hnone; cases hnone)

theorem parse_ignoreFile : Path.parse ignoreFile = ⟨"", [".tabletrackerignore"]⟩ := by
  rw [Files.Path.parse_eq]
  decide +kernel

theorem not_hasFaultyIgnoreFile_sampleFiles : ¬ HasFaultyIgnoreFile sampleFiles := by
  rintro ⟨bytes, hbytes, hnone⟩
  have htext : sampleFiles.read (.parse ignoreFile) =
      .ok ("# y\n z \n".toList.flatMap String.utf8EncodeChar) := by
    rw [parse_ignoreFile]
    rfl
  exact hnone _ (Except.ok.inj (hbytes.symm.trans htext))

theorem hasFaultyIgnoreFile_of_lone_byte :
    HasFaultyIgnoreFile ⟨[([".tabletrackerignore"], .file [0xFF])]⟩ := by
  refine ⟨[0xFF], by rw [parse_ignoreFile]; rfl, fun s hs => ?_⟩
  rw [← Bytes.Utf8.encode_eq] at hs
  have hdecode := Bytes.Utf8.decode_eq_ok_iff.2 hs
  rw [Bytes.Decoder.decode, Bytes.Utf8.decoder, Bytes.Decoder.decodeFrom_plain_cons] at hdecode
  cases hdecode

/-- Each part of the theorem on one of these files. -/
theorem settings_stand_by_name_sample :
    ¬ HasFaultyIgnoreFile sampleFiles ∧
    HasFaultyIgnoreFile ⟨[([".tabletrackerignore"], .file [0xFF])]⟩ ∧
    (∃ fault, (load ⟨[([".tabletrackerignore"], .file [0xFF])]⟩ (some ⟨"", ["e.yml"]⟩)).outcome.1 =
      .error (.undecodable fault)) ∧
    ∃ a b c inner after : List (Value × Value),
      documentEntries sampleFiles (some ⟨"", ["a.yml"]⟩) = .ok a ∧ HasPlainKeys a ∧
      ListsIgnored (Value.lookup (.text "ignore") a) [.text "x"] ∧
      (∃ cfg, (load sampleFiles (some ⟨"", ["a.yml"]⟩)).outcome.1 = .ok cfg ∧
        Holds sampleFiles (fun s => Value.lookup (.text s.name) a) [.text "x"] cfg) ∧
      documentEntries sampleFiles (some ⟨"", ["b.yml"]⟩) = .ok b ∧ HasPlainKeys b ∧
      (a.filter givesSetting).Perm (b.filter givesSetting) ∧
      (load sampleFiles (some ⟨"", ["a.yml"]⟩)).outcome.1 =
        (load sampleFiles (some ⟨"", ["b.yml"]⟩)).outcome.1 ∧
      documentEntries sampleFiles (some ⟨"", ["c.yml"]⟩) = .ok c ∧ KeyedByTexts c ∧
      (∃ entry ∈ c, EndsLoading entry) ∧
      (∃ kind, (load sampleFiles (some ⟨"", ["c.yml"]⟩)).outcome.1 = .error (.wrongKind kind)) ∧
      documentEntries sampleFiles (some ⟨"", ["d.yml"]⟩) =
        .ok ([] ++ (.text "__dict__", .map inner) :: after) ∧ HasPlainKeys [] ∧
      HasPlainKeys after ∧
      (∀ s : Setting, s.isOwn = true → Value.lookup (.text s.name) inner ≠ none) ∧
      ListsIgnored ((Value.lookup (.text "ignore") after).or
        (Value.lookup (.text "ignore") inner)) [] ∧
      ∃ cfg, (load sampleFiles (some ⟨"", ["d.yml"]⟩)).outcome.1 = .ok cfg ∧
        Holds sampleFiles (fun s => (Value.lookup (.text s.name) after).or
          (Value.lookup (.text s.name) inner)) [] cfg := by
  have hplainNil : HasPlainKeys [] := by simp [HasPlainKeys]
  have hplainAfter : HasPlainKeys [(.text "encoding", .text "u")] := by
    simp [HasPlainKeys, reservedNames]
  have hperm : (ownEntries.filter givesSetting).Perm (swappedEntries.filter givesSetting) :=
    List.Perm.swap ..
  have hkeyed : KeyedByTexts classEntries := by simp [KeyedByTexts, classEntries]
  have hends : ∃ entry ∈ classEntries, EndsLoading entry :=
    ⟨_, List.mem_singleton_self _, .ofClass _⟩
  have hsound := not_hasFaultyIgnoreFile_sampleFiles
  have hfaulty := hasFaultyIgnoreFile_of_lone_byte
  have hfails := ((settings_stand_by_name ⟨[([".tabletrackerignore"], .file [0xFF])]⟩
    (some ⟨"", ["e.yml"]⟩) [] rfl).1 hplainNil).1 [] .absent |>.2 hfaulty
  obtain ⟨hloads, hsame⟩ :=
    (settings_stand_by_name _ _ _ documentEntries_own).1 hasPlainKeys_own
  have hended := (settings_stand_by_name _ _ _ documentEntries_class).2.1 hkeyed hends
  have hreplaced := (settings_stand_by_name _ _ _ documentEntries_dictionary).2.2 _ _ _ _ rfl
    hplainNil hplainAfter dictionaryEntries_ne_none .null hsound
  exact ⟨hsound, hfaulty, hfails, _, _, _, _, _,
    documentEntries_own, hasPlainKeys_own, .list _, (hloads _ (.list _)).1 hsound,
    documentEntries_swapped, hasPlainKeys_swapped, hperm,
    hsame _ _ documentEntries_swapped hasPlainKeys_swapped hperm,
    documentEntries_class, hkeyed, hends, hended,
    documentEntries_dictionary, hplainNil, hplainAfter, dictionaryEntries_ne_none, .null,
    hreplaced⟩

end Config

end SqlTables
