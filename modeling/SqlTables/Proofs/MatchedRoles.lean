import SqlTables.Proofs.Scanning
import SqlTables.Proofs.UpperCase

/-!
# Roles of matched keywords

A capture has its keyword as it stands in the text, and its role is told from that: from the
upper-case form of the text, not from the keyword that it matches.  Where the letters of a text have
the upper-case forms of those of a keyword or strange ones (`UpperWithin`), the text reads tables
only if the keyword does: what is a keyword in its upper-case form, or has a `JOIN` in it, comes
from the keyword (`upper_eq_of_within`, `infix_upper_of_within`).  So a match has the role of its
keyword unless a dotted capital I stands for another i in one of them.
-/

set_option autoImplicit false

namespace SqlTables.Text

variable {k m s t : List Char}

/-! ## Texts with upper-case forms that are alike -/

theorem not_isPrefix_of_isStrange (hs : IsStrange s) (ht : t ⊆ sourceLetters)
    (hdouble : ¬ ['S', 'S'] <:+: t) : ¬ s <+: t := by
  intro hst
  obtain ⟨hne, hnone | rfl⟩ := hs
  · obtain ⟨c, s, rfl⟩ := List.exists_cons_of_ne_nil hne
    exact hnone c (by simp) (ht (hst.subset (by simp)))
  · exact hdouble hst.isInfix

/-- A text of letters of the keywords that read tables, with no double S, is the upper-case form of
the one text if it is that of the other. -/
theorem upper_eq_of_within (h : List.Forall₂ UpperWithin k m) (ht : t ⊆ sourceLetters)
    (hdouble : ¬ ['S', 'S'] <:+: t) (hm : upper m = t) : upper k = t := by
  induction h generalizing t with
  | nil => exact hm
  | @cons a b k m hab _ ih =>
    rw [upper_cons] at hm ⊢
    rcases hab with heq | hb
    · -- The texts behind the first letters have one form: what is left of `t`.
      have hrest : upper k = upper m := by
        subst hm
        refine ih (fun c hc => ht (by simp [hc])) (fun hs => hdouble ?_) rfl
        exact hs.trans (List.suffix_append _ _).isInfix
      rw [hrest, ← heq, hm]
    · exact absurd (hm ▸ List.prefix_append _ _) (not_isPrefix_of_isStrange hb ht hdouble)

/-- A text at the head of two, one after the other, ends in the first or goes on in the second. -/
theorem prefix_append_iff {r : List Char} :
    t <+: s ++ r ↔ t <+: s ∨ ∃ t', t = s ++ t' ∧ t' <+: r := by
  constructor
  · intro h
    rcases List.prefix_or_prefix_of_prefix h (List.prefix_append s r) with h' | ⟨t', rfl⟩
    · exact .inl h'
    · exact .inr ⟨t', rfl, (List.prefix_append_right_inj s).1 h⟩
  · rintro (h | ⟨t', rfl, h⟩)
    · exact h.trans (List.prefix_append s r)
    · exact (List.prefix_append_right_inj s).2 h

/-- A text of letters that do not occur in another one cannot begin in it. -/
theorem eq_nil_of_prefix_append {r : List Char} (hne : s ≠ []) (hs : ∀ c ∈ s, c ∉ t)
    (h : t <+: s ++ r) : t = [] := by
  obtain ⟨c, s, rfl⟩ := List.exists_cons_of_ne_nil hne
  cases t with
  | nil => rfl
  | cons d t =>
    obtain ⟨rfl, -⟩ := List.cons_prefix_cons.1 h
    exact absurd (by simp) (hs d (by simp))

theorem IsStrange.not_mem (hs : IsStrange s) (ht : t ⊆ "JOIN".toList) :
    ∀ c ∈ s, c ∉ t := by
  intro c hc hct
  obtain ⟨-, hnone | rfl⟩ := hs
  · have hletters : "JOIN".toList ⊆ sourceLetters := by decide
    exact hnone c hc (hletters (ht hct))
  · obtain rfl : c = 'S' := by simpa using hc
    exact absurd (ht hct) (by decide)

theorem prefix_upper_of_within (h : List.Forall₂ UpperWithin k m)
    (ht : t ⊆ "JOIN".toList) (hm : t <+: upper m) : t <+: upper k := by
  induction h generalizing t with
  | nil => exact hm
  | @cons a b k m hab _ ih =>
    rw [upper_cons] at hm ⊢
    rcases hab with heq | hb
    · rw [heq, prefix_append_iff] at hm
      refine prefix_append_iff.2 (hm.imp_right fun ⟨t', heq', hm⟩ => ⟨t', heq', ih ?_ hm⟩)
      exact fun c hc => ht (by simp [heq', hc])
    · simp [eq_nil_of_prefix_append hb.1 (hb.not_mem ht) hm]

/-- Where a text occurs in two, one after the other, only its parts at the head of the second one
and its occurrences there count. -/
theorem infix_append_mono {r r' : List Char} (hheads : ∀ t', t' <:+ t → t' <+: r → t' <+: r')
    (hrest : t <:+: r → t <:+: r') (s : List Char) (h : t <:+: s ++ r) : t <:+: s ++ r' := by
  induction s with
  | nil => exact hrest h
  | cons c s ih =>
    rw [List.cons_append, List.infix_cons_iff] at h ⊢
    refine h.imp (fun hhead => ?_) ih
    rw [← List.cons_append, prefix_append_iff] at hhead ⊢
    exact hhead.imp_right fun ⟨t', heq, ht'⟩ => ⟨t', heq, hheads t' ⟨c :: s, heq.symm⟩ ht'⟩

theorem infix_of_infix_append {r : List Char} (ht : t ≠ []) (hs : ∀ c ∈ s, c ∉ t)
    (h : t <:+: s ++ r) : t <:+: r := by
  induction s with
  | nil => exact h
  | cons c s ih =>
    rw [List.cons_append, List.infix_cons_iff] at h
    rcases h with hhead | hrest
    · refine absurd (eq_nil_of_prefix_append (s := [c]) (by simp) (fun d hd => ?_) hhead) ht
      exact hs d (by simp_all)
    · exact ih (fun d hd => hs d (by simp [hd])) hrest

/-- A text of letters of `JOIN` is in the upper-case form of the one text if it is in that of the
other. -/
theorem infix_upper_of_within (h : List.Forall₂ UpperWithin k m) (hne : t ≠ [])
    (ht : t ⊆ "JOIN".toList) (hm : t <:+: upper m) : t <:+: upper k := by
  induction h with
  | nil => exact hm
  | @cons a b k m hab hkm ih =>
    rw [upper_cons] at hm ⊢
    rcases hab with heq | hb
    · rw [heq] at hm
      refine infix_append_mono (fun t' ht' => prefix_upper_of_within hkm ?_) ih _ hm
      exact List.Subset.trans ht'.subset ht
    · -- A strange form has no letter of `t`, so `t` stands behind it.
      have hrest := ih (infix_of_infix_append hne (hb.not_mem ht) hm)
      exact hrest.trans (List.suffix_append _ _).isInfix

end SqlTables.Text

namespace SqlTables.Sql

open SqlTables.Text

variable {k m : List Char}

/-! ## Roles of alike texts -/

theorem Role.occursIn_iff {needle s : List Char} : occursIn needle s = true ↔ needle <:+: s := by
  induction s with
  | nil => simp [occursIn]
  | cons c s ih =>
    rw [occursIn, Bool.or_eq_true, ih, List.isPrefixOf_iff_prefix, List.infix_cons_iff]

/-- What a collapsed text must be to read tables. -/
theorem Role.ofKeyword_eq_source_iff (hk : IsCollapsed k) :
    Role.ofKeyword k = .source ↔ upper k = "FROM".toList ∨ "JOIN".toList <:+: upper k ∨
      upper k = "USING".toList := by
  simp only [Role.ofKeyword, collapse_of_isCollapsed (isCollapsed_upper hk), occursIn_iff,
    ite_eq_left_iff, reduceCtorEq, imp_false, not_not]

/-- A text that has the upper-case forms of another one reads tables only if that does. -/
theorem Role.source_of_within (hk : IsCollapsed k) (hm : IsCollapsed m)
    (h : List.Forall₂ UpperWithin k m) (hread : Role.ofKeyword m = .source) :
    Role.ofKeyword k = .source := by
  rw [Role.ofKeyword_eq_source_iff hm] at hread
  rw [Role.ofKeyword_eq_source_iff hk]
  rcases hread with hfrom | hjoin | husing
  · exact .inl (upper_eq_of_within h (by decide) (by decide) hfrom)
  · exact .inr (.inl (infix_upper_of_within h (by decide) (List.Subset.refl _) hjoin))
  · exact .inr (.inr (upper_eq_of_within h (by decide) (by decide) husing))

/-! ## Texts that agree -/

/-- Where the first text has a dotted capital I, the second one has it too. -/
def DotsWithin (k m : List Char) : Prop := List.Forall₂ (fun a b => a = dottedI → b = dottedI) k m

instance (k m : List Char) : Decidable (DotsWithin k m) :=
  inferInstanceAs (Decidable (List.Forall₂ _ _ _))

instance (k m : List Char) : Decidable (SameText k m) :=
  inferInstanceAs (Decidable (List.Forall₂ _ _ _))

theorem SameText.forall₂_upperWithin (h : SameText k m) (hdots : DotsWithin k m) :
    List.Forall₂ UpperWithin k m := by
  induction h with
  | nil => exact .nil
  | cons hab _ ih =>
    cases hdots with
    | cons hdot hdots => exact .cons (upperWithin_of_sameLetter hab hdot) (ih hdots)

theorem SameText.symm (h : SameText k m) : SameText m k :=
  (h.imp fun _ _ => sameLetter_symm).flip

theorem SameText.dotsWithin (h : SameText k m) (hk : dottedI ∉ k) : DotsWithin k m := by
  induction h with
  | nil => exact .nil
  | cons _ _ ih =>
    rw [List.mem_cons, not_or] at hk
    exact .cons (fun ha => absurd ha.symm hk.1) (ih hk.2)

/-- Texts that agree have the same blanks in the same places. -/
theorem SameText.map_guard (h : SameText k m) :
    k.map (Option.guard isBlank) = m.map (Option.guard isBlank) := by
  induction h with
  | nil => rfl
  | @cons a b k m hab _ ih =>
    have hhead : Option.guard isBlank a = Option.guard isBlank b := by
      by_cases hblank : isBlank b = true
      · rw [eq_of_sameLetter_blank hab hblank]
      · have ha : ¬ isBlank a = true := fun ha => hblank (eq_of_blank_sameLetter hab ha ▸ ha)
        rw [Option.guard_eq_none_iff.2 (by simpa using ha),
          Option.guard_eq_none_iff.2 (by simpa using hblank)]
    rw [List.map_cons, List.map_cons, hhead, ih]

theorem SameText.map_isBlank (h : SameText k m) : k.map isBlank = m.map isBlank := by
  have hsome : Option.isSome ∘ Option.guard isBlank = isBlank := by
    funext c
    simp
  rw [← hsome, ← List.map_map, h.map_guard, List.map_map]

theorem solid_of_map_isBlank {o o' : Option Char} (h : o.map isBlank = o'.map isBlank)
    (ho : ∀ c ∈ o, isBlank c = false) : ∀ c ∈ o', isBlank c = false := by
  intro c hc
  have hmem : isBlank c ∈ o.map isBlank := h ▸ Option.mem_map_of_mem isBlank hc
  obtain ⟨a, ha, hac⟩ := Option.map_eq_some_iff.1 hmem
  rw [← hac, ho a ha]

/-- What agrees with a collapsed text is collapsed. -/
theorem SameText.isCollapsed (h : SameText k m) (hk : IsCollapsed k) : IsCollapsed m where
  eq_space c hc hblank := by
    have hmem : some c ∈ k.map (Option.guard isBlank) := by
      rw [h.map_guard]
      exact List.mem_map.2 ⟨c, hc, Option.guard_eq_some_iff.2 ⟨rfl, hblank⟩⟩
    obtain ⟨a, ha, hac⟩ := List.mem_map.1 hmem
    obtain ⟨rfl, -⟩ := Option.guard_eq_some_iff.1 hac
    exact hk.eq_space a ha hblank
  apart := by
    have hchain : (k.map isBlank).IsChain fun x y => ¬ (x = true ∧ y = true) :=
      (List.isChain_map isBlank).2 hk.apart
    rw [h.map_isBlank] at hchain
    exact (List.isChain_map isBlank).1 hchain
  head_solid := by
    have hhead := congrArg List.head? h.map_isBlank
    rw [List.head?_map, List.head?_map] at hhead
    exact solid_of_map_isBlank hhead hk.head_solid
  last_solid := by
    have hlast := congrArg List.getLast? h.map_isBlank
    rw [List.getLast?_map, List.getLast?_map] at hlast
    exact solid_of_map_isBlank hlast hk.last_solid

/-! ## Roles of captures -/

/-- The text of a captured keyword agrees with one of the keywords. -/
theorem exists_sameText_of_mem_captures {keywords : List String} {s : List Char}
    (hks : ∀ k ∈ keywords, IsPhrase k) (hs : SingleSpaced s) {c : Capture}
    (h : c ∈ captures keywords s) : ∃ k ∈ keywords, SameText k.toList c.keyword := by
  obtain ⟨sites, hsel, hcaptures⟩ := exists_selection hks hs 0
  have hcaptured : captures keywords s = sites.map (Site.captureIn s) := hcaptures
  rw [hcaptured] at h
  obtain ⟨x, hx, rfl⟩ := List.mem_map.1 h
  obtain ⟨k, hk, hspells⟩ := (hsel.chosen x hx).spells
  exact ⟨k, hk, hspells.same⟩

theorem Role.source_of_sameText (h : SameText k m) (hdots : DotsWithin k m) (hk : IsCollapsed k)
    (hread : Role.ofKeyword m = .source) : Role.ofKeyword k = .source :=
  source_of_within hk (h.isCollapsed hk) (h.forall₂_upperWithin hdots) hread

theorem Role.eq_of_source_iff {r r' : Role} (h : r = .source ↔ r' = .source) : r = r' := by
  cases r <;> cases r' <;> simp_all

/-- A capture has the role of its keyword, and is a function call exactly if that is one that reads
and a parenthesis follows.  This is so for any spelling in the text of a keyword that writes and has
no dotted capital I, and for any spelling of another one that has its dotted capital I's, and no
others. -/
theorem captures_role_of_keyword (phrases : List String) (sql : String) {c : Capture}
    (h : c ∈ captures (Keyword.normalize phrases) (scrub sql.toList)) :
    (∃ k ∈ Keyword.normalize phrases, SameText k.toList c.keyword) ∧
    ∀ k ∈ Keyword.normalize phrases, SameText k.toList c.keyword →
      (Role.ofKeyword k.toList = .target ∧ dottedI ∉ k.toList ∨
        DotsWithin k.toList c.keyword ∧ DotsWithin c.keyword k.toList) →
      Role.ofKeyword c.keyword = Role.ofKeyword k.toList ∧
      c.isCall = (c.called && Role.ofKeyword k.toList == .source) := by
  constructor
  · have hcollapsed := isCollapsed_collapse (keep none (Lexeme.cut sql.toList))
    exact exists_sameText_of_mem_captures (fun _ => isPhrase_of_mem_normalize)
      hcollapsed.toSingleSpaced h
  · intro k hk hsame hspelled
    have hcollapsed : IsCollapsed k.toList := (isPhrase_of_mem_normalize hk).1
    have hrole : Role.ofKeyword c.keyword = Role.ofKeyword k.toList := by
      refine Role.eq_of_source_iff ⟨fun hread => ?_, fun hread => ?_⟩
      · refine Role.source_of_sameText hsame ?_ hcollapsed hread
        exact hspelled.elim (fun hwrites => hsame.dotsWithin hwrites.2) (·.1)
      · rcases hspelled with ⟨hwrites, -⟩ | ⟨-, hdots⟩
        · rw [hwrites] at hread
          cases hread
        · exact Role.source_of_sameText hsame.symm hdots (hsame.isCollapsed hcollapsed) hread
    exact ⟨hrole, by rw [Capture.isCall, hrole]⟩

/-- What is captured of `İNTO b(x)`. -/
def dottedInto : Capture := ⟨"İNTO".toList, ⟨.plain ['b'], []⟩, true⟩

/-- What is captured of `inner Join f(x)`. -/
def mixedJoin : Capture := ⟨"inner Join".toList, ⟨.plain ['f'], []⟩, true⟩

theorem captures_role_of_keyword_spelled : dottedInto.isCall = false ∧ mixedJoin.isCall = true := by
  have hnormal : Keyword.normalize ["inner join", "into"] = ["inner join", "into"] := by
    decide +kernel
  have horder : Keyword.byLength ["inner join", "into"] = ["inner join", "into"] :=
    List.mergeSort_of_pairwise (by decide +kernel)
  have hcaptures : captures (Keyword.normalize ["inner join", "into"])
      (scrub "İNTO b(x) inner Join f(x)".toList) = [dottedInto, mixedJoin] := by
    rw [captures, hnormal, horder]
    decide +kernel
  have hinto := (captures_role_of_keyword ["inner join", "into"] "İNTO b(x) inner Join f(x)"
    (c := dottedInto) (by rw [hcaptures]; simp)).2 "into" (by decide +kernel) (by decide +kernel)
    (.inl (by decide +kernel))
  have hjoin := (captures_role_of_keyword ["inner join", "into"] "İNTO b(x) inner Join f(x)"
    (c := mixedJoin) (by rw [hcaptures]; simp)).2 "inner join" (by decide +kernel)
    (by decide +kernel) (.inr (by decide +kernel))
  exact ⟨hinto.2.trans (by decide +kernel), hjoin.2.trans (by decide +kernel)⟩

/-- A dotted capital I is no `I` in upper case, so a text with one in place of it writes where its
keyword reads. -/
example : SameText "join".toList "joİn".toList ∧
    Role.ofKeyword "join".toList = .source ∧ Role.ofKeyword "joİn".toList = .target := by
  decide +kernel

end SqlTables.Sql
