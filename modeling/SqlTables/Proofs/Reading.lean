import SqlTables.Proofs.Scanning

/-!
# Reading a text piece by piece

Where a text is known piece by piece, so are its captures.  A quiet piece is one in which every
keyword clashes with the text wherever it might begin, so it is passed over whatever follows it
(`capturesAfter_quiet_append`); a piece may also be passed over because no mention begins in it in
that very text (`capturesAfter_append_of_not_mayBegin`).  A mention that is chosen becomes one
capture (`capturesAfter_mention_append`).
-/

set_option autoImplicit false

namespace SqlTables.Sql

open SqlTables.Text

/-! ## Keywords that do not fit -/

/-- Two texts have different letters at one place before either ends. -/
def clashes : List Char → List Char → Bool
  | a :: k, c :: s => !sameLetter a c || clashes k s
  | _, _ => false

/-- A keyword that clashes with a text does not stand at the head of any longer one. -/
theorem not_isPrefix_of_clashes {k w m : List Char} (h : clashes k w = true) (hm : SameText k m)
    (rest : List Char) : ¬ m <+: w ++ rest := by
  induction hm generalizing w with
  | nil => simp [clashes] at h
  | @cons a b k m hab _ ih =>
    cases w with
    | nil => simp [clashes] at h
    | cons c w =>
      intro hpre
      obtain ⟨rfl, htail⟩ := List.cons_prefix_cons.1 hpre
      refine ih ?_ htail
      simpa [clashes, hab] using h

/-- No keyword fits anywhere in a text, whatever follows it. -/
def isQuiet (keywords : List String) : List Char → Bool
  | [] => true
  | c :: s => keywords.all (fun k => clashes k.toList (c :: s)) && isQuiet keywords s

/-! ## Mentions that are chosen -/

/-- An identifier ends before a blank and at the end of a text. -/
theorem Identifier.endsBefore_of_blank (i : Identifier) {rest : List Char}
    (h : ∀ c ∈ rest.head?, isBlank c = true) : i.EndsBefore rest := by
  constructor
  · intro g _
    cases g with
    | plain body =>
      intro c hc
      exact isNameChar_of_isBlank (h c hc)
    | quoted q body => exact trivial
  · rintro g left _ rfl
    exact absurd (h '.' (by simp)) (by decide)

theorem Capture.opensParenthesis_space_cons {c : Char} (hc : isBlank c = false) (s : List Char) :
    opensParenthesis (' ' :: c :: s) = (c == '(') := by
  simp [opensParenthesis, hc]

section

variable {keywords : List String} {rest : List Char}

/-- A keyword with a space and an identifier after it is chosen if the identifier ends there and
every longer keyword clashes with it. -/
theorem Mention.chosen_of_clashes {k : String} (hk : k ∈ keywords)
    (hlonger : ∀ j ∈ keywords, k.length < j.length → clashes j.toList (k.toList ++ [' ']) = true)
    {i : Identifier} (hi : i.WellFormed) (hend : i.EndsBefore rest) :
    Mention.Chosen keywords (k.toList ++ ' ' :: (i.text ++ rest)) ⟨k.toList, [' '], i⟩ where
  spells := by
    refine ⟨k, hk, ?_, by simp, by simp [IsGap], hi⟩
    exact List.forall₂_same.2 fun c _ => sameLetter_self c
  stands := ⟨rest, by simp [Mention.text]⟩
  longest j hj y hy hstands := by
    by_contra hlt
    have hlen : k.length < j.length := by
      rw [hy.same.length_eq, String.length_toList, String.length_toList] at hlt
      omega
    refine not_isPrefix_of_clashes (hlonger j hj hlen) hy.same (i.text ++ rest) ?_
    simpa using Mention.keyword_isPrefix hstands
  ends := by
    have htext : k.toList ++ ' ' :: (i.text ++ rest) =
        Mention.text ⟨k.toList, [' '], i⟩ ++ rest := by simp [Mention.text]
    rw [htext, List.drop_left]
    exact hend

/-! ## Steps -/

theorem capturesAfter_cons_of_none {phrases : List (List (List Char))} {c : Char} {s : List Char}
    (h : Capture.take? phrases (c :: s) = none) (before : Option Char) :
    capturesAfter phrases before (c :: s) = capturesAfter phrases (some c) s := by
  rw [capturesAfter]
  split
  · split
    · rename_i hsome
      rw [h] at hsome
      cases hsome
    · rfl
  · rfl

theorem capturesAfter_cons_of_some {phrases : List (List (List Char))} {c : Char}
    {s left : List Char} {capture : Capture} {before : Option Char}
    (hbefore : Capture.isBoundary before = true)
    (h : Capture.take? phrases (c :: s) = some (capture, left)) :
    capturesAfter phrases before (c :: s) =
      capture :: capturesAfter phrases capture.identifier.text.getLast? left := by
  rw [capturesAfter, if_pos hbefore]
  split
  · rename_i hsome
    rw [h] at hsome
    cases hsome
    rfl
  · rename_i hnone
    rw [h] at hnone
    cases hnone

/-- A quiet text is passed over. -/
theorem capturesAfter_quiet_append (hks : ∀ k ∈ keywords, IsPhrase k) {w : List Char}
    (hs : SingleSpaced (w ++ rest)) (hw : isQuiet keywords w = true) (before : Option Char) :
    capturesAfter ((Keyword.byLength keywords).map Keyword.wordsOf) before (w ++ rest) =
      capturesAfter ((Keyword.byLength keywords).map Keyword.wordsOf) (w.getLast?.or before)
        rest := by
  induction w generalizing before with
  | nil => rfl
  | cons c w ih =>
    simp only [isQuiet, Bool.and_eq_true, List.all_eq_true] at hw
    obtain ⟨hclash, hw⟩ := hw
    have hnone : Capture.take? ((Keyword.byLength keywords).map Keyword.wordsOf)
        (c :: (w ++ rest)) = none := by
      refine (Capture.take?_eq_none_iff hks hs).2 fun k hk x hx hstands => ?_
      exact not_isPrefix_of_clashes (hclash k hk) hx.same rest (Mention.keyword_isPrefix hstands)
    have ih := ih hs.of_cons hw (some c)
    rw [List.cons_append, capturesAfter_cons_of_none hnone, ih, List.getLast?_cons]
    cases w.getLast? <;> rfl

/-- A character at which no mention may begin is passed over. -/
theorem capturesAfter_cons_of_not_mayBegin (hks : ∀ k ∈ keywords, IsPhrase k) {u : List Char}
    {c : Char} (hs : SingleSpaced (c :: rest))
    (hno : ¬ MayBegin keywords (u ++ c :: rest) u.length) :
    capturesAfter ((Keyword.byLength keywords).map Keyword.wordsOf) u.getLast? (c :: rest) =
      capturesAfter ((Keyword.byLength keywords).map Keyword.wordsOf) (some c) rest := by
  rw [MayBegin, List.take_left, List.drop_left, not_and_or] at hno
  rcases hno with hboundary | hnone
  · rw [← isBoundary_iff] at hboundary
    rw [capturesAfter, if_neg hboundary]
  · refine capturesAfter_cons_of_none ((Capture.take?_eq_none_iff hks hs).2 ?_) _
    intro k hk x hx hstands
    exact hnone ⟨k, hk, x, hx, hstands⟩

/-- A piece of a text in which no mention may begin is passed over. -/
theorem capturesAfter_append_of_not_mayBegin (hks : ∀ k ∈ keywords, IsPhrase k) {u w : List Char}
    (hs : SingleSpaced (w ++ rest))
    (hno : ∀ p, u.length ≤ p → p < (u ++ w).length → ¬ MayBegin keywords (u ++ (w ++ rest)) p) :
    capturesAfter ((Keyword.byLength keywords).map Keyword.wordsOf) u.getLast? (w ++ rest) =
      capturesAfter ((Keyword.byLength keywords).map Keyword.wordsOf) (u ++ w).getLast? rest := by
  induction w generalizing u with
  | nil => rw [List.append_nil, List.nil_append]
  | cons c w ih =>
    have hfirst := hno u.length (Nat.le_refl _) (by simp)
    have hregroup : u ++ [c] ++ (w ++ rest) = u ++ (c :: w ++ rest) := by simp
    have hlater : ∀ p, (u ++ [c]).length ≤ p → p < (u ++ [c] ++ w).length →
        ¬ MayBegin keywords (u ++ [c] ++ (w ++ rest)) p := by
      intro p hle hlt
      rw [hregroup]
      simp only [List.length_append, List.length_cons, List.length_nil] at hle hlt
      exact hno p (by omega) (by simp only [List.length_append, List.length_cons]; omega)
    have ih := ih hs.of_cons hlater
    rw [List.getLast?_concat, List.append_assoc u, List.singleton_append] at ih
    rw [← ih]
    exact capturesAfter_cons_of_not_mayBegin hks hs hfirst

/-- Where a mention may begin can be found out by trying each keyword. -/
theorem mayBegin_iff {text : List Char} (hks : ∀ k ∈ keywords, IsPhrase k)
    (htext : SingleSpaced text) {p : Nat} : MayBegin keywords text p ↔
      Capture.isBoundary (text.take p).getLast? = true ∧
        ∃ k ∈ keywords, (Capture.withPhrase? (Keyword.wordsOf k) (text.drop p)).isSome = true := by
  have hdrop : SingleSpaced (text.drop p) := htext.of_suffix (List.drop_suffix p text)
  rw [MayBegin, isBoundary_iff]
  refine and_congr_right fun _ => exists_congr fun k => and_congr_right fun hk => ?_
  exact (Capture.withPhrase?_isSome_iff (hks k hk) hdrop).symm

/-- A mention that is chosen is read as one capture. -/
theorem capturesAfter_mention_append (hks : ∀ k ∈ keywords, IsPhrase k) {x : Mention}
    (hs : SingleSpaced (x.text ++ rest)) (hx : x.Chosen keywords (x.text ++ rest))
    {before : Option Char} (hbefore : Capture.isBoundary before = true) :
    capturesAfter ((Keyword.byLength keywords).map Keyword.wordsOf) before (x.text ++ rest) =
      x.capture rest :: capturesAfter ((Keyword.byLength keywords).map Keyword.wordsOf)
        x.identifier.text.getLast? rest := by
  have hread : Capture.take? ((Keyword.byLength keywords).map Keyword.wordsOf)
      (x.text ++ rest) = some (x.capture rest, rest) := by
    obtain ⟨k, hk, hxk⟩ := hx.spells
    cases htake : Capture.take? ((Keyword.byLength keywords).map Keyword.wordsOf)
        (x.text ++ rest) with
    | none => exact absurd hx.stands ((Capture.take?_eq_none_iff hks hs).1 htake k hk x hxk)
    | some found =>
      obtain ⟨y, hy, heq, hcapture⟩ := Capture.exists_chosen_of_take? hks hs htake
      obtain rfl := hy.unique hx
      have hrest : found.2 = rest := List.append_cancel_left heq
      rw [← hrest, ← hcapture]
  obtain ⟨k, _, hxk⟩ := hx.spells
  obtain ⟨c, s, hcs⟩ := List.exists_cons_of_ne_nil (l := x.text ++ rest)
    (List.append_ne_nil_of_left_ne_nil hxk.text_ne_nil rest)
  rw [hcs] at hread ⊢
  exact capturesAfter_cons_of_some hbefore hread

end

end SqlTables.Sql
