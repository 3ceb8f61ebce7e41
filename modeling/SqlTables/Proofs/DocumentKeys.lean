import SqlTables.Proofs.ListedTables

/-!
# Keys of mappings in a document

Two entries of a mapping that is read from a text never have the same text as their key: a key that
is written again gives its value to the entry that is there, also where entries are taken over from
other mappings (`nodup_keys_of_read`).  So the value under a text does not depend on the order of
the entries (`Value.lookup_text_of_perm`).
-/

set_option autoImplicit false

namespace SqlTables.Document

open Catalog (KeyedByTexts)

/-! ## Values under texts -/

namespace Value

variable {entries entries' : List (Value × Value)} {s : String} {v : Value}

theorem lookup_text_cons_self (s : String) (v : Value) (entries : List (Value × Value)) :
    lookup (text s) ((text s, v) :: entries) = some v := by
  have hsame : sameKey (text s) (text s) = true := sameKey_text_iff.2 rfl
  simp only [lookup, List.find?_cons, hsame]
  rfl

theorem lookup_text_cons_of_ne {e : Value × Value} (h : e.1 ≠ text s)
    (entries : List (Value × Value)) :
    lookup (text s) (e :: entries) = lookup (text s) entries := by
  have hother : sameKey (text s) e.1 = false :=
    Bool.eq_false_iff.2 fun hsame => h (sameKey_text_iff.1 hsame)
  simp only [lookup, List.find?_cons, hother]

theorem mem_of_lookup_text (h : lookup (text s) entries = some v) : (text s, v) ∈ entries := by
  obtain ⟨⟨k, w⟩, hfind, rfl⟩ := Option.map_eq_some_iff.1 h
  have hsame : sameKey (text s) k = true := by
    simpa using List.find?_some hfind
  obtain rfl := sameKey_text_iff.1 hsame
  exact List.mem_of_find?_eq_some hfind

/-- Where keys are different, a text has the value of its entry. -/
theorem lookup_text_eq_some_iff (hnodup : (entries.map (·.1)).Nodup) :
    lookup (text s) entries = some v ↔ (text s, v) ∈ entries := by
  refine ⟨mem_of_lookup_text, fun h => ?_⟩
  induction entries with
  | nil => cases h
  | cons e entries ih =>
    obtain ⟨hkey, hrest⟩ := List.nodup_cons.1 hnodup
    rcases List.mem_cons.1 h with rfl | h
    · exact lookup_text_cons_self s v entries
    · have hne : e.1 ≠ text s := fun hsame =>
        hkey (List.mem_map.2 ⟨(text s, v), h, hsame.symm⟩)
      rw [lookup_text_cons_of_ne hne, ih hrest h]

theorem lookup_text_eq_none_of_not_mem (h : text s ∉ entries.map (·.1)) :
    lookup (text s) entries = none := by
  refine Option.eq_none_iff_forall_ne_some.2 fun v hv => h ?_
  exact List.mem_map_of_mem (f := (·.1)) (mem_of_lookup_text hv)

/-- The order of entries under different keys does not matter. -/
theorem lookup_text_of_perm (hnodup : (entries.map (·.1)).Nodup) (h : entries.Perm entries')
    (s : String) : lookup (text s) entries = lookup (text s) entries' := by
  have hnodup' : (entries'.map (·.1)).Nodup := (h.map (·.1)).nodup_iff.1 hnodup
  refine Option.ext fun v => ?_
  rw [lookup_text_eq_some_iff hnodup, lookup_text_eq_some_iff hnodup', h.mem_iff]

end Value

namespace Yaml

/-! ## Entries -/

/-- Two entries do not have the same text as their key. -/
def DifferentTexts (a b : Value × Value) : Prop := ∀ s, a.1 = .text s → b.1 ≠ .text s

/-- A part that is a text can be the same key as others. -/
def Part.IsComparable (p : Part) : Prop := ∀ s, p.value = .text s → p.isLone = false

/-- The pair of values that an entry is. -/
def Entry.pair (e : Entry) : Value × Value := (e.key.value, e.value.value)

theorem Entry.sameKey_of_text {a b : Entry} {s : String} (ha : a.key.value = .text s)
    (hb : b.key.value = .text s) (hca : a.key.IsComparable) (hcb : b.key.IsComparable) :
    sameKey a b = true := by
  rw [sameKey, hca s ha, hcb s hb, ha, hb, Value.sameKey_text_iff.2 rfl]
  rfl

/-- After one more entry each has the key of the new one or of an old one. -/
theorem Entry.exists_key_of_mem_insert {e f : Entry} {entries : List Entry}
    (h : f ∈ insert e entries) : f.key = e.key ∨ ∃ g ∈ entries, f.key = g.key := by
  induction entries with
  | nil =>
    rw [insert, List.mem_singleton] at h
    exact .inl (congrArg Entry.key h)
  | cons g entries ih =>
    rw [insert] at h
    split at h
    · rcases List.mem_cons.1 h with rfl | hmem
      · exact .inr ⟨g, by simp, rfl⟩
      · exact .inr ⟨f, by simp [hmem], rfl⟩
    · rcases List.mem_cons.1 h with rfl | hmem
      · exact .inr ⟨f, by simp, rfl⟩
      · rcases ih hmem with he | ⟨g', hg', hkey⟩
        · exact .inl he
        · exact .inr ⟨g', by simp [hg'], hkey⟩

theorem Entry.pairwise_insert {e : Entry} {entries : List Entry} (he : e.key.IsComparable)
    (hentries : ∀ f ∈ entries, f.key.IsComparable)
    (h : (entries.map pair).Pairwise DifferentTexts) :
    ((insert e entries).map pair).Pairwise DifferentTexts := by
  induction entries with
  | nil => exact List.pairwise_singleton _ _
  | cons f entries ih =>
    obtain ⟨hf, hrest⟩ := List.forall_mem_cons.1 hentries
    obtain ⟨hhead, htail⟩ := List.pairwise_cons.1 h
    rw [insert]
    split
    · exact List.pairwise_cons.2 ⟨hhead, htail⟩
    · rename_i hdifferent
      refine List.pairwise_cons.2 ⟨fun p hp => ?_, ih hrest htail⟩
      obtain ⟨g, hg, rfl⟩ := List.mem_map.1 hp
      intro s hfs hgs
      rcases exists_key_of_mem_insert hg with hkey | ⟨g', hg', hkey⟩
      · exact hdifferent (sameKey_of_text (hkey ▸ hgs) hfs he hf)
      · exact hhead g'.pair (List.mem_map_of_mem hg') s hfs
          (show g'.key.value = _ from hkey ▸ hgs)

/-- The entries of a mapping do not share a text as their key. -/
theorem Entry.pairwise_collect {entries : List Entry}
    (hentries : ∀ e ∈ entries, e.key.IsComparable) :
    (collect entries).Pairwise DifferentTexts := by
  -- the invariant holds of the entries collected so far, whose keys are of those that are written
  suffices hfold : ∀ earlier : List Entry, (∀ e ∈ earlier, e.key.IsComparable) →
      (earlier.map pair).Pairwise DifferentTexts →
      ((entries.foldl (fun earlier e => insert e earlier) earlier).map pair).Pairwise
        DifferentTexts from hfold [] nofun .nil
  induction entries with
  | nil => exact fun _ _ h => h
  | cons e entries ih =>
    obtain ⟨he, hrest⟩ := List.forall_mem_cons.1 hentries
    intro earlier hearlier h
    refine ih hrest (insert e earlier) (fun f hf => ?_) (pairwise_insert he hearlier h)
    rcases exists_key_of_mem_insert hf with hkey | ⟨g, hg, hkey⟩
    · exact hkey ▸ he
    · exact hkey ▸ hearlier g hg

/-! ## Scalars -/

theorem Stamp.toValue_ne_map {s : Stamp} {es : List (Value × Value)} :
    s.toValue ≠ .ok (.map es) := by
  intro h
  simp only [Stamp.toValue, Outcome.bind_eq_ok_iff] at h
  obtain ⟨offset, -, date, -, h⟩ := h
  split at h
  · cases h
  · repeat' split at h
    all_goals cases h

/-- A scalar is no mapping. -/
theorem scalarValue_ne_map {kind text : String} {es : List (Value × Value)} :
    scalarValue kind text ≠ .ok (.map es) := by
  intro h
  unfold scalarValue at h
  split at h
  · cases h
  · dsimp only at h
    split at h
    · cases h
    · split at h <;> cases h
  · obtain ⟨_, -, h⟩ := Outcome.map_eq_ok_iff.1 h
    cases h
  · obtain ⟨_, -, h⟩ := Outcome.map_eq_ok_iff.1 h
    cases h
  · split at h
    · obtain ⟨_, -, h⟩ := Outcome.map_eq_ok_iff.1 h
      cases h
    · cases h
  · split at h
    · rename_i s _
      cases hs : s.toValue with
      | ok v =>
        rw [hs] at h
        cases h
        exact Stamp.toValue_ne_map hs
      | error e =>
        rw [hs] at h
        cases h
    · cases h
  · cases h
  · cases h

/-! ## Parts -/

/-- A part as it should be: a text can be the same key as others, and a mapping has each text once
as a key. -/
structure Part.Sound (p : Part) : Prop where
  text : p.IsComparable
  map : ∀ entries, p.value = .map entries → entries.Pairwise DifferentTexts

namespace Part

/-- A part that is no mapping and is not set apart from others. -/
theorem sound_of_ne_map {p : Part} (hlone : p.isLone = false) (hmap : ∀ es, p.value ≠ .map es) :
    p.Sound :=
  ⟨fun _ _ => hlone, fun es hes => absurd hes (hmap es)⟩

theorem sound_ofFault (e : ReadError) : (ofFault e).Sound := sound_of_ne_map rfl (by simp [ofFault])

/-- The empty collections have no keys. -/
theorem sound_of_emptyCollection? {kind : String} {v : Value} (h : emptyCollection? kind = some v)
    {p : Part} (hlone : p.isLone = false) (hvalue : p.value = v) : p.Sound := by
  refine ⟨fun _ _ => hlone, fun es hes => ?_⟩
  rw [hvalue] at hes
  subst hes
  unfold emptyCollection? at h
  split at h <;> simp_all

theorem sound_ofText (kind text : String) : (ofText kind text).Sound := by
  unfold ofText
  split
  · rename_i v hv
    exact sound_of_emptyCollection? hv rfl rfl
  · unfold ofScalar
    split
    · exact ⟨nofun, nofun⟩
    · rename_i v _ hv
      refine sound_of_ne_map rfl ?_
      rintro es rfl
      exact scalarValue_ne_map hv
    · exact sound_ofFault _

end Part

/-! ## Nodes -/

theorem exists_of_mem_mapM {α β : Type} {f : α → Option β} {xs : List α} {ys : List β} {y : β}
    (h : xs.mapM f = some ys) (hy : y ∈ ys) : ∃ x ∈ xs, f x = some y := by
  induction xs generalizing ys with
  | nil =>
    cases h
    cases hy
  | cons x xs ih =>
    rw [List.mapM_cons] at h
    obtain ⟨z, hz, h⟩ := Option.bind_eq_some_iff.1 h
    obtain ⟨zs, hzs, h⟩ := Option.bind_eq_some_iff.1 h
    cases h
    rcases List.mem_cons.1 hy with rfl | hy
    · exact ⟨x, by simp, hz⟩
    · obtain ⟨x', hx', hfx⟩ := ih hzs hy
      exact ⟨x', by simp [hx'], hfx⟩

/-- What a node gives is as it should be, and so are the keys that it lends to mappings. -/
structure Built.Sound (b : Built) : Prop where
  part : b.part.Sound
  entries : ∀ es ∈ b.entries, ∀ e ∈ es, e.key.IsComparable
  itemEntries : ∀ items ∈ b.itemEntries, ∀ es ∈ items, ∀ e ∈ es, e.key.IsComparable

namespace Built

theorem Sound.lent {b : Built} (h : b.Sound) :
    ∀ es ∈ b.lent, ∀ e ∈ es, e.key.IsComparable := by
  intro es hes e he
  rcases Option.or_eq_some_iff.1 hes with hown | ⟨-, hitems⟩
  · exact h.entries es hown e he
  · obtain ⟨items, hsome, rfl⟩ := Option.map_eq_some_iff.1 hitems
    obtain ⟨own, hown, he⟩ := List.mem_flatten.1 he
    exact h.itemEntries items hsome own (List.mem_reverse.1 hown) e he

/-- A collection that is a list, or empty. -/
theorem sound_ofItems {kind : String} {items : List Built} (h : ∀ b ∈ items, b.Sound) :
    (ofItems kind items).Sound := by
  refine ⟨?_, nofun, fun entries hentries es hes e he => ?_⟩
  · unfold ofItems
    simp only
    split
    · exact Part.sound_of_ne_map rfl nofun
    · exact Part.sound_of_ne_map rfl nofun
    · exact Part.sound_of_ne_map rfl nofun
    · split
      · rename_i v hv
        exact Part.sound_of_emptyCollection? hv rfl rfl
      · exact Part.sound_ofFault _
  · obtain ⟨b, hb, hbe⟩ := exists_of_mem_mapM hentries hes
    exact (h b hb).entries es hbe e he

theorem sound_mappingPart (kind : String) {entries : List Entry}
    (h : ∀ e ∈ entries, e.key.IsComparable) : (mappingPart kind entries).Sound := by
  unfold mappingPart
  dsimp only
  split
  · refine ⟨fun _ _ => rfl, fun es hes => ?_⟩
    cases hes
    exact Entry.pairwise_collect h
  · exact Part.sound_of_ne_map rfl nofun
  · split
    · rename_i v hv
      exact Part.sound_of_emptyCollection? hv rfl rfl
    · exact Part.sound_ofFault _

end Built

/-- What an entry of a mapping gives is as it should be. -/
structure WrittenEntry.Sound (w : WrittenEntry) : Prop where
  key : w.key.Sound
  value : w.value.Sound

namespace WrittenEntry

variable {ws : List WrittenEntry}

theorem isComparable_merged (h : ∀ w ∈ ws, w.Sound) :
    ∀ es ∈ merged ws, ∀ e ∈ es, e.key.IsComparable := by
  intro es hes e he
  obtain ⟨lists, hlists, rfl⟩ := Option.map_eq_some_iff.1 hes
  obtain ⟨lent, hlent, he⟩ := List.mem_flatten.1 he
  obtain ⟨w, hw, hwlent⟩ := exists_of_mem_mapM hlists hlent
  exact (h w (List.mem_filter.1 hw).1).value.lent lent hwlent e he

theorem isComparable_own (h : ∀ w ∈ ws, w.Sound) : ∀ e ∈ own ws, e.key.IsComparable := by
  intro e he
  obtain ⟨w, hw, rfl⟩ := List.mem_map.1 he
  split
  · unfold asText
    split
    · exact fun _ _ => rfl
    · exact (Part.sound_ofFault _).text
  · exact (h w (List.mem_filter.1 hw).1).key.part.text

theorem sound_mapping (kind : String) (h : ∀ w ∈ ws, w.Sound) : (mapping kind ws).Sound := by
  have hentries : ∀ es ∈ (merged ws).map (· ++ own ws), ∀ e ∈ es, e.key.IsComparable := by
    intro es hes e he
    obtain ⟨taken, htaken, rfl⟩ := Option.map_eq_some_iff.1 hes
    rcases List.mem_append.1 he with he | he
    · exact isComparable_merged h taken htaken e he
    · exact isComparable_own h e he
  refine ⟨?_, hentries, nofun⟩
  unfold mapping
  dsimp only
  split
  · exact Part.sound_ofText _ _
  · rename_i es hes _
    exact Built.sound_mappingPart kind (hentries es hes)
  · rename_i v hv _
    exact Part.sound_of_emptyCollection? hv rfl rfl
  · exact Part.sound_ofFault _

end WrittenEntry

namespace Node

mutual

/-- What a node gives is as it should be. -/
theorem sound_build : ∀ node : Node, (build node).Sound
  | .scalar tag text => ⟨Part.sound_ofText _ _, nofun, nofun⟩
  | .sequence tag items => Built.sound_ofItems (sound_buildItems items)
  | .mapping tag entries => WrittenEntry.sound_mapping _ (sound_buildEntries entries)
  | .again isMapping => by
    refine ⟨Part.sound_of_ne_map rfl nofun, ?_, ?_⟩ <;> cases isMapping <;> simp [build]

theorem sound_buildItems : ∀ items : List Node, ∀ b ∈ build.buildItems items, b.Sound
  | [], b, hb => nomatch hb
  | node :: items, b, hb => by
    rcases List.mem_cons.1 hb with rfl | hb
    · exact sound_build node
    · exact sound_buildItems items b hb

theorem sound_buildEntries : ∀ entries : List (Node × Node),
    ∀ w ∈ build.buildEntries entries, w.Sound
  | [], w, hw => nomatch hw
  | (key, value) :: entries, w, hw => by
    rcases List.mem_cons.1 hw with rfl | hw
    · exact ⟨sound_build key, sound_build value⟩
    · exact sound_buildEntries entries w hw

end

end Node

/-! ## Documents -/

variable [Text.Repertoire]

theorem pairwise_of_read {text : String} {entries : List (Value × Value)}
    (h : read text = .ok (.map entries)) : entries.Pairwise DifferentTexts := by
  obtain ⟨node, -, h⟩ := Outcome.bind_eq_ok_iff.1 h
  cases node with
  | none => cases h
  | some node =>
    simp only [Part.whole] at h
    split at h
    · exact (Node.sound_build node).part.map entries (Except.ok.inj h)
    · cases h

/-- A mapping that is read from a text and has only texts as keys has each key once. -/
theorem nodup_keys_of_read {text : String} {entries : List (Value × Value)}
    (h : read text = .ok (.map entries)) (hkeyed : KeyedByTexts entries) :
    (entries.map (·.1)).Nodup := by
  rw [List.Nodup, List.pairwise_map]
  refine (pairwise_of_read h).imp_of_mem fun {a b} ha _ hab heq => ?_
  obtain ⟨s, hs⟩ := hkeyed a ha
  exact hab s hs (heq ▸ hs)

end Yaml

end SqlTables.Document
