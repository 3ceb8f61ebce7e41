import SqlTables.Proofs.Scanning

/-!
# Lists of keywords

The order of the keywords, their repeats and the case of their letters make no difference to what
is found, and neither does a keyword that does not occur in the text.  All this has one reason.  The
captures of a text are its greedy selection, and the conditions for one say nothing of the keywords
but which mentions stand at which place (`IsSelection.congr`).  So two lists give the same captures
if they agree on the keywords that occur in the text (`captures_congr`).
-/

set_option autoImplicit false

namespace SqlTables.Text

/-- Putting a letter of ASCII in lower case does not change its lower-case form. -/
theorem lowerCode_toLower (c : Char) : lowerCode c.toLower.toNat = lowerCode c.toNat := by
  unfold Char.toLower
  split
  · rename_i hupper
    obtain ⟨hfirst, hlast⟩ := hupper
    have hfirst : 0x41 ≤ c.toNat := UInt32.le_iff_toNat_le.1 hfirst
    have hlast : c.toNat ≤ 0x5A := UInt32.le_iff_toNat_le.1 hlast
    have hcode : ∀ h, (Char.mk (c.val + ('a'.val - 'A'.val)) h).toNat = c.toNat + 0x20 := by
      intro _
      change (c.val.toNat + 0x20) % 2 ^ 32 = c.val.toNat + 0x20
      have : c.val.toNat ≤ 0x5A := hlast
      omega
    have hcapital : lowerCode c.toNat = c.toNat + 0x20 := by
      have hascii : c.toNat < 0x80 := by omega
      simp [lowerCode, hascii, hfirst, hlast]
    have hsmall : lowerCode (c.toNat + 0x20) = c.toNat + 0x20 := by
      have hascii : c.toNat + 0x20 < 0x80 := by omega
      have hpast : ¬ c.toNat + 0x20 ≤ 0x5A := by omega
      simp [lowerCode, hascii, hpast]
    rw [hcode, hcapital, hsmall]
  · rfl

end SqlTables.Text

namespace SqlTables.Sql

open SqlTables.Text

/-! ## The case of the letters of a keyword -/

theorem sameText_map_toLower {w m : List Char} :
    SameText (w.map Char.toLower) m ↔ SameText w m := by
  have hletter (a b : Char) : sameLetter a.toLower b = sameLetter a b := by
    simp only [sameLetter, lowerCode_toLower]
  simp only [SameText, List.forall₂_map_left_iff, hletter]

theorem SameText.of_toLower_eq {k j : String} {m : List Char} (h : SameText k.toList m)
    (heq : k.toLower = j.toLower) : SameText j.toList m := by
  have hchars (s : String) : s.toLower.toList = s.toList.map Char.toLower := String.toList_map
  rw [← sameText_map_toLower, ← hchars, ← heq, hchars]
  exact sameText_map_toLower.2 h

/-- A mention of a keyword is one of every keyword that differs from it in case only. -/
theorem Mention.Spells.of_toLower_eq {k j : String} {x : Mention} (h : x.Spells k)
    (heq : k.toLower = j.toLower) : x.Spells j where
  same := h.same.of_toLower_eq heq
  gap_ne_nil := h.gap_ne_nil
  gap_blank := h.gap_blank
  wellFormed := h.wellFormed

/-! ## Keywords that occur -/

/-- The keyword stands somewhere in the text, in whatever case, with no name character right before
it or right after it. -/
def OccursAtBoundary (k : String) (text : List Char) : Prop :=
  ∃ u m v, u ++ m ++ v = text ∧ SameText k.toList m ∧ (∀ c ∈ u.getLast?, isNameChar c = false) ∧
    ∀ c ∈ v.head?, isNameChar c = false

theorem OccursAtBoundary.of_toLower_eq {k j : String} {text : List Char}
    (h : OccursAtBoundary k text) (heq : k.toLower = j.toLower) : OccursAtBoundary j text := by
  obtain ⟨u, m, v, htext, hm, hbefore, hafter⟩ := h
  exact ⟨u, m, v, htext, hm.of_toLower_eq heq, hbefore, hafter⟩

/-- Whether a keyword occurs in a text, found out by trying it at each place. -/
def occursAtBoundary (k : String) (text : List Char) : Bool :=
  (List.range (text.length + 1)).any fun p =>
    Capture.isBoundary (text.take p).getLast? &&
      (Capture.takeWord k.toList (text.drop p)).any fun found =>
        Capture.isBoundary found.2.head?

theorem occursAtBoundary_iff {k : String} {text : List Char} :
    occursAtBoundary k text = true ↔ OccursAtBoundary k text := by
  simp only [occursAtBoundary, List.any_eq_true, List.mem_range, Bool.and_eq_true, isBoundary_iff,
    Option.any_eq_true, Prod.exists, Capture.takeWord_eq_some_iff]
  constructor
  · rintro ⟨p, _, hbefore, m, v, ⟨hm, htext⟩, hafter⟩
    refine ⟨text.take p, m, v, ?_, hm, hbefore, hafter⟩
    rw [List.append_assoc, htext, List.take_append_drop]
  · rintro ⟨u, m, v, rfl, hm, hbefore, hafter⟩
    refine ⟨u.length, by simp only [List.length_append]; omega, ?_, m, v, ⟨hm, ?_⟩, hafter⟩
    · rwa [List.append_assoc, List.take_left]
    · rw [List.append_assoc, List.drop_left]

instance (k : String) (text : List Char) : Decidable (OccursAtBoundary k text) :=
  decidable_of_iff _ occursAtBoundary_iff

/-- The keyword of a mention that may begin where it stands occurs there. -/
theorem Mention.Spells.occursAtBoundary {k : String} {x : Mention} (hx : x.Spells k)
    {text : List Char} {p : Nat} (hfree : ∀ c ∈ (text.take p).getLast?, isNameChar c = false)
    (hstands : x.text <+: text.drop p) : OccursAtBoundary k text := by
  obtain ⟨rest, hrest⟩ := hstands
  refine ⟨text.take p, x.keyword, x.gap ++ (x.identifier.text ++ rest), ?_, hx.same, hfree, ?_⟩
  · conv_rhs => rw [← List.take_append_drop p text, ← hrest]
    simp [Mention.text]
  · obtain ⟨b, gap, hgap⟩ := List.exists_cons_of_ne_nil hx.gap_ne_nil
    have hb : isBlank b = true := hx.gap_blank b (by simp [hgap])
    rw [hgap]
    intro c hc
    obtain rfl : b = c := by simpa using hc
    exact isNameChar_of_isBlank hb

/-- Two lists hold the same keywords, the case of ASCII letters aside. -/
def SameKeywords (keywords others : List String) : Prop :=
  ∀ k, k ∈ keywords.map String.toLower ↔ k ∈ others.map String.toLower

/-- Of the keywords that occur in a text, two lists hold the same ones, the case of ASCII letters
aside. -/
def AgreeOn (text : List Char) (keywords others : List String) : Prop :=
  ∀ k, OccursAtBoundary k text →
    (k.toLower ∈ keywords.map String.toLower ↔ k.toLower ∈ others.map String.toLower)

theorem SameKeywords.agreeOn {keywords others : List String} (h : SameKeywords keywords others)
    (text : List Char) : AgreeOn text keywords others := fun k _ => h k.toLower

section

variable {keywords others : List String} {text : List Char}

theorem AgreeOn.symm (h : AgreeOn text keywords others) : AgreeOn text others keywords :=
  fun k hk => (h k hk).symm

/-- A mention of a keyword of one list, where it may begin, is one of a keyword of the other. -/
theorem AgreeOn.exists_spells (h : AgreeOn text keywords others) {x : Mention} {p : Nat}
    (hfree : ∀ c ∈ (text.take p).getLast?, isNameChar c = false) (hstands : x.text <+: text.drop p)
    (hx : ∃ k ∈ keywords, x.Spells k) : ∃ j ∈ others, x.Spells j := by
  obtain ⟨k, hk, hspells⟩ := hx
  have hlower := (h k (hspells.occursAtBoundary hfree hstands)).1 (List.mem_map_of_mem hk)
  obtain ⟨j, hj, heq⟩ := List.mem_map.1 hlower
  exact ⟨j, hj, hspells.of_toLower_eq heq.symm⟩

/-- A keyword that does not occur in a text can be added to a list. -/
theorem agreeOn_of_perm_cons {phrases more : List String} {k : String}
    (hmore : more.Perm (k :: phrases)) (hno : ¬ OccursAtBoundary (collapsed k) text) :
    AgreeOn text (Keyword.normalize phrases) (Keyword.normalize more) := by
  intro j hj
  simp only [List.mem_map, mem_normalize_iff, hmore.mem_iff, List.mem_cons]
  constructor
  · rintro ⟨_, ⟨q, hq, rfl, hne⟩, hlower⟩
    exact ⟨_, ⟨q, .inr hq, rfl, hne⟩, hlower⟩
  · rintro ⟨_, ⟨q, rfl | hq, rfl, hne⟩, hlower⟩
    · exact absurd (hj.of_toLower_eq hlower.symm) hno
    · exact ⟨_, ⟨q, hq, rfl, hne⟩, hlower⟩

/-! ## The selection -/

theorem AgreeOn.mayBegin (h : AgreeOn text keywords others) {p : Nat}
    (hp : MayBegin keywords text p) : MayBegin others text p := by
  obtain ⟨hfree, k, hk, x, hx, hstands⟩ := hp
  obtain ⟨j, hj, hxj⟩ := h.exists_spells hfree hstands ⟨k, hk, hx⟩
  exact ⟨hfree, j, hj, x, hxj, hstands⟩

theorem AgreeOn.mayBegin_iff (h : AgreeOn text keywords others) {p : Nat} :
    MayBegin keywords text p ↔ MayBegin others text p :=
  ⟨h.mayBegin, h.symm.mayBegin⟩

/-- The greedy selection for one list of keywords is that for every list that agrees with it. -/
theorem IsSelection.congr (h : AgreeOn text keywords others) {n : Nat} {sites : List Site}
    (hsel : IsSelection keywords text n sites) : IsSelection others text n sites where
  from_start := hsel.from_start
  apart := hsel.apart
  begins_iff p hp := by rw [← h.mayBegin_iff]; exact hsel.begins_iff p hp
  chosen x hx := by
    have hchosen := hsel.chosen x hx
    have hfree := ((hsel.begins_iff x.start (hsel.from_start x hx)).1 ⟨x, hx, rfl⟩).2.1
    refine ⟨h.exists_spells hfree hchosen.stands hchosen.spells, hchosen.stands, ?_, hchosen.ends⟩
    intro j hj y hy hstands
    obtain ⟨k, hk, hyk⟩ := h.symm.exists_spells hfree hstands ⟨j, hj, hy⟩
    exact hchosen.longest k hk y hyk hstands

/-- Lists that agree on the keywords that occur in a text give the same captures in it. -/
theorem captures_congr (hks : ∀ k ∈ keywords, IsPhrase k) (hos : ∀ k ∈ others, IsPhrase k)
    (htext : SingleSpaced text) (h : AgreeOn text keywords others) :
    captures keywords text = captures others text := by
  obtain ⟨sites, hsel, hcaptures⟩ := exists_selection hks htext 0
  obtain ⟨sites', hsel', hcaptures'⟩ := exists_selection hos htext 0
  obtain rfl : sites = sites' := (hsel.congr h).unique hsel'
  exact hcaptures.trans hcaptures'.symm

end

end SqlTables.Sql

namespace SqlTables

open SqlTables.Sql
open Document (Value)

/-! ## Extraction -/

theorem Noted.outcome_bind_of_ok {α β : Type} {x : Noted α} {a : α} (h : x.outcome.1 = .ok a)
    (f : α → Noted β) : (x >>= f).outcome.1 = ((f a).run.run x.outcome.2).1 := by
  have hbind : (x >>= f).outcome = (ExceptT.bindCont f x.outcome.1).run x.outcome.2 := rfl
  rw [hbind, h]
  rfl

/-- Extractors that differ only in keywords that do not occur in a query find the same in it. -/
theorem Extractor.extract_of_agreeOn (catalog : Option Catalog) (filters : Bool)
    {phrases others : List String} {sql : String}
    (h : AgreeOn (scrub sql.toList) (Keyword.normalize phrases) (Keyword.normalize others)) :
    (⟨catalog, filters, Keyword.normalize phrases⟩ : Extractor).extract sql =
      (⟨catalog, filters, Keyword.normalize others⟩ : Extractor).extract sql := by
  have hcaptures : captures (Keyword.normalize phrases) (scrub sql.toList) =
      captures (Keyword.normalize others) (scrub sql.toList) :=
    captures_congr (fun _ => isPhrase_of_mem_normalize) (fun _ => isPhrase_of_mem_normalize)
      (Text.isCollapsed_collapse _).toSingleSpaced h
  unfold extract namesIn capturesIn
  rw [hcaptures]
  rfl

namespace ExtractionOptions

/-- The phrases that are asked for, the custom ones last, as they are given. -/
def phrases (o : ExtractionOptions) : Noted (List String) := do
  let base ← o.baseItems
  let custom ← Noted.ofKind o.customKeywords.givenItems
  Noted.ofKind (Value.phrases (base ++ custom))

/-- What is found in a query by the extractor that is asked for. -/
def extraction (o : ExtractionOptions) (sql : String) : Except Failure Extraction :=
  (o.build >>= (·.extractNoted sql)).outcome.1

/-- What is found depends on the phrases that are asked for through their normal forms alone. -/
theorem extraction_of_phrases {o : ExtractionOptions} {phrases : List String}
    (h : o.phrases.outcome.1 = .ok phrases) (sql : String) :
    o.extraction sql =
      .ok ((⟨o.catalog, o.filtersCtes, Keyword.normalize phrases⟩ : Extractor).extract sql) := by
  have hbuild : o.build = o.phrases >>= fun phrases => do
      Noted.tell [.keywordsInEffect (Keyword.normalize phrases)]
      return ⟨o.catalog, o.filtersCtes, Keyword.normalize phrases⟩ := by
    simp only [build, ExtractionOptions.phrases, bind_assoc]
  rw [extraction, hbuild, bind_assoc]
  exact Noted.outcome_bind_of_ok h _

/-- Texts that are given as keywords are the phrases asked for, those given as custom ones last. -/
theorem phrases_of_texts {o : ExtractionOptions} {explicit custom : List String}
    (hexplicit : o.keywords = .ofTexts explicit) (hcustom : o.customKeywords = .ofTexts custom) :
    o.phrases.outcome.1 = .ok (explicit ++ custom) := by
  have hbase : o.baseItems = Noted.ofKind (.ok (explicit.map .text)) := by
    rw [baseItems, hexplicit]
    rfl
  rw [phrases, hbase, hcustom, Value.givenItems_ofTexts]
  change (Value.phrases (explicit.map .text ++ custom.map .text)).mapError _ = _
  rw [← List.map_append, Value.phrases_texts]
  rfl

/-- Only the set of keywords counts.  Two requests over the same catalog find the same in a query if
the phrases they ask for are the same keywords once brought into normal form, whatever their order,
their repeats and the case of their letters; and one more phrase changes nothing if it does not
occur in the scrubbed query at a boundary. -/
theorem extraction_of_keyword_set {o o' : ExtractionOptions} (hcatalog : o.catalog = o'.catalog)
    (hfilters : o.filtersCtes = o'.filtersCtes) {phrases others : List String}
    (hphrases : o.phrases.outcome.1 = .ok phrases) (hothers : o'.phrases.outcome.1 = .ok others)
    (sql : String) :
    (SameKeywords (Keyword.normalize phrases) (Keyword.normalize others) →
      ∃ e, o.extraction sql = .ok e ∧ o'.extraction sql = .ok e) ∧
    ∀ k, others.Perm (k :: phrases) → ¬ OccursAtBoundary (Text.collapsed k) (scrub sql.toList) →
      ∃ e, o.extraction sql = .ok e ∧ o'.extraction sql = .ok e := by
  have hsame (h : AgreeOn (scrub sql.toList) (Keyword.normalize phrases)
      (Keyword.normalize others)) : ∃ e, o.extraction sql = .ok e ∧ o'.extraction sql = .ok e := by
    refine ⟨_, extraction_of_phrases hphrases sql, ?_⟩
    rw [extraction_of_phrases hothers sql, hcatalog, hfilters, Extractor.extract_of_agreeOn _ _ h]
  exact ⟨fun h => hsame (h.agreeOn _), fun k hperm hno => hsame (agreeOn_of_perm_cons hperm hno)⟩

/-- Repeats, other cases and other gaps make no difference, nor does a keyword of which the text has
a longer word only. -/
theorem extraction_of_keyword_set_from :
    let sql := "SELECT upleft join, left join_date FROM t"
    let plain : ExtractionOptions := { keywords := .ofTexts ["from"] }
    let respelled : ExtractionOptions :=
      { keywords := .ofTexts ["FROM"], customKeywords := .ofTexts ["  From ", "", "from"] }
    let larger : ExtractionOptions :=
      { keywords := .ofTexts ["left  join"], customKeywords := .ofTexts ["from"] }
    SameKeywords (Keyword.normalize ["from"])
        (Keyword.normalize ["FROM", "  From ", "", "from"]) ∧
      ¬ OccursAtBoundary (Text.collapsed "left  join") (scrub sql.toList) ∧
      plain.extraction sql = .ok ⟨["t"], ["t"], []⟩ ∧
      respelled.extraction sql = .ok ⟨["t"], ["t"], []⟩ ∧
      larger.extraction sql = .ok ⟨["t"], ["t"], []⟩ := by
  intro sql plain respelled larger
  have hplain : plain.phrases.outcome.1 = .ok ["from"] := rfl
  have hrespelled : respelled.phrases.outcome.1 = .ok (["FROM"] ++ ["  From ", "", "from"]) :=
    phrases_of_texts rfl rfl
  have hlarger : larger.phrases.outcome.1 = .ok (["left  join"] ++ ["from"]) :=
    phrases_of_texts rfl rfl
  have hfound : plain.extraction sql = .ok ⟨["t"], ["t"], []⟩ := by
    rw [extraction_of_phrases hplain]
    exact congrArg Except.ok (by decide +kernel)
  have hset : SameKeywords (Keyword.normalize ["from"])
      (Keyword.normalize ["FROM", "  From ", "", "from"]) := by
    have hfolded : (Keyword.normalize ["FROM", "  From ", "", "from"]).map String.toLower =
        ["from", "from", "from"] := by decide +kernel
    have hfrom : (Keyword.normalize ["from"]).map String.toLower = ["from"] := by decide +kernel
    intro k
    simp [hfolded, hfrom]
  have hno : ¬ OccursAtBoundary (Text.collapsed "left  join") (scrub sql.toList) := by
    decide +kernel
  obtain ⟨e, he, hsame⟩ := (extraction_of_keyword_set
    (show plain.catalog = respelled.catalog from rfl) rfl hplain hrespelled sql).1 hset
  obtain ⟨e', he', hmore⟩ := (extraction_of_keyword_set
    (show plain.catalog = larger.catalog from rfl) rfl hplain hlarger sql).2 "left  join"
      (.refl _) hno
  rw [hfound] at he he'
  cases he
  cases he'
  exact ⟨hset, hno, hfound, hsame, hmore⟩

end ExtractionOptions

end SqlTables
