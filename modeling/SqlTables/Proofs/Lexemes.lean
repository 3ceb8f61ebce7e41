import SqlTables.Proofs.Blanks
import SqlTables.Sql.Scrub

/-!
# The lexical grammar of SQL text

`IsLexeme l rest` says, without any reader, that the lexeme `l` may stand in front of `rest`: where
a comment, a literal or a quoted span ends, and when a character stands alone.  `next_eq_some_iff`
says that cutting a lexeme off follows this grammar exactly, so what is known of a text that was cut
carries over to a longer one by the grammar alone.
-/

set_option autoImplicit false

namespace SqlTables.Sql

/-- A comment's body does not end the comment. -/
def NoCommentEnd (body : List Char) : Prop := ¬ ['*', '/'] <:+: body

/-- A body with each single quote written twice. -/
def doubled (body : List Char) : List Char :=
  body.flatMap fun c => if c = '\'' then ['\'', '\''] else [c]

namespace Lexeme

/-- The lexeme `l` may be cut off in front of `rest`.  What is never closed has nothing after it. -/
inductive IsLexeme : Lexeme → List Char → Prop where
  | lineComment {body rest : List Char} : '\n' ∉ body → (∀ c ∈ rest.head?, c = '\n') →
      IsLexeme (lineComment ('-' :: '-' :: body)) rest
  | blockComment {body rest : List Char} : NoCommentEnd body →
      IsLexeme (blockComment ('/' :: '*' :: (body ++ ['*', '/']))) rest
  | openComment {body : List Char} : NoCommentEnd body →
      IsLexeme (blockComment ('/' :: '*' :: body)) []
  | literal {body rest : List Char} : (∀ c ∈ rest.head?, c ≠ '\'') →
      IsLexeme (literal ('\'' :: (doubled body ++ ['\'']))) rest
  | openLiteral {body : List Char} : IsLexeme (literal ('\'' :: doubled body)) []
  | quoted {body rest : List Char} : '"' ∉ body → IsLexeme (quoted ('"' :: (body ++ ['"']))) rest
  | openQuoted {body : List Char} : '"' ∉ body → IsLexeme (quoted ('"' :: body)) []
  | other {c : Char} {rest : List Char} : c ≠ '\'' → c ≠ '"' →
      (c = '-' → ∀ d ∈ rest.head?, d ≠ '-') → (c = '/' → ∀ d ∈ rest.head?, d ≠ '*') →
      IsLexeme (other c) rest

/-! ## Reading to a closing mark -/

theorem pair_infix_cons_iff {a b c : Char} {s : List Char} :
    [a, b] <:+: c :: s ↔ (c = a ∧ s.head? = some b) ∨ [a, b] <:+: s := by
  have hprefix : [a, b] <+: c :: s ↔ c = a ∧ s.head? = some b := by
    cases s <;> simp [eq_comm]
  rw [List.infix_cons_iff, hprefix]

theorem noCommentEnd_cons {c : Char} {s : List Char} :
    NoCommentEnd (c :: s) ↔ ¬ (c = '*' ∧ s.head? = some '/') ∧ NoCommentEnd s := by
  rw [NoCommentEnd, NoCommentEnd, pair_infix_cons_iff, not_or]

theorem throughCommentEnd_closed {body : List Char} (h : NoCommentEnd body) (rest : List Char) :
    throughCommentEnd (body ++ '*' :: '/' :: rest) = (body ++ ['*', '/'], rest) := by
  induction body with
  | nil => rfl
  | cons c body ih =>
    obtain ⟨hc, hbody⟩ := noCommentEnd_cons.1 h
    have ih := ih hbody
    rw [List.cons_append, throughCommentEnd, ih]
    · rfl
    · rintro r rfl heq
      cases body with
      | nil => simp at heq
      | cons d body =>
        obtain ⟨rfl, _⟩ := List.cons.inj heq
        exact hc ⟨rfl, rfl⟩

theorem throughCommentEnd_open {s : List Char} (h : NoCommentEnd s) :
    throughCommentEnd s = (s, []) := by
  induction s with
  | nil => rfl
  | cons c s ih =>
    obtain ⟨hc, hs⟩ := noCommentEnd_cons.1 h
    rw [throughCommentEnd, ih hs]
    rintro r rfl rfl
    exact hc ⟨rfl, rfl⟩

/-- A comment's text either ends or goes on for ever. -/
theorem closed_or_noCommentEnd (s : List Char) :
    (∃ body rest, NoCommentEnd body ∧ s = body ++ '*' :: '/' :: rest) ∨ NoCommentEnd s := by
  induction s with
  | nil => exact .inr (by simp [NoCommentEnd])
  | cons c s ih =>
    by_cases hc : c = '*' ∧ s.head? = some '/'
    · obtain ⟨rfl, hs⟩ := hc
      obtain ⟨r, rfl⟩ := List.head?_eq_some_iff.1 hs
      exact .inl ⟨[], r, by simp [NoCommentEnd], rfl⟩
    · rcases ih with ⟨body, rest, hbody, rfl⟩ | hs
      · refine .inl ⟨c :: body, rest, noCommentEnd_cons.2 ⟨?_, hbody⟩, rfl⟩
        rintro ⟨rfl, hhead⟩
        refine hc ⟨rfl, ?_⟩
        cases body with
        | nil => simp at hhead
        | cons d body => simpa using hhead
      · exact .inr (noCommentEnd_cons.2 ⟨hc, hs⟩)

theorem doubled_quote (body : List Char) :
    doubled ('\'' :: body) = '\'' :: '\'' :: doubled body := by
  simp [doubled]

theorem doubled_cons {c : Char} (hc : c ≠ '\'') (body : List Char) :
    doubled (c :: body) = c :: doubled body := by
  simp [doubled, hc]

theorem doubled_append (s t : List Char) : doubled (s ++ t) = doubled s ++ doubled t :=
  List.flatMap_append

theorem throughLoneQuote_closed (body : List Char) {rest : List Char}
    (h : ∀ c ∈ rest.head?, c ≠ '\'') :
    throughLoneQuote (doubled body ++ '\'' :: rest) = (doubled body ++ ['\''], rest) := by
  induction body with
  | nil =>
    cases rest with
    | nil => rfl
    | cons c rest =>
      have hc : c ≠ '\'' := h c (by simp)
      rw [show doubled [] = [] from rfl, List.nil_append, throughLoneQuote]
      · rfl
      · rintro r heq
        exact hc (List.cons.inj heq).1
  | cons c body ih =>
    by_cases hc : c = '\''
    · subst hc
      simp [doubled_quote, throughLoneQuote, ih]
    · rw [doubled_cons hc, List.cons_append, throughLoneQuote, ih]
      · rfl
      · exact fun _ heq => absurd heq hc
      · exact fun heq => absurd heq hc

theorem throughLoneQuote_open (body : List Char) :
    throughLoneQuote (doubled body) = (doubled body, []) := by
  induction body with
  | nil => rfl
  | cons c body ih =>
    by_cases hc : c = '\''
    · subst hc
      simp [doubled_quote, throughLoneQuote, ih]
    · rw [doubled_cons hc, throughLoneQuote, ih]
      · exact fun _ heq => absurd heq hc
      · exact fun heq => absurd heq hc

/-- A text after a single quote either closes the literal or holds only pairs of quotes. -/
theorem closed_or_doubled (s : List Char) :
    (∃ body rest, (∀ c ∈ rest.head?, c ≠ '\'') ∧ s = doubled body ++ '\'' :: rest) ∨
      ∃ body, s = doubled body := by
  fun_induction throughLoneQuote s with
  | case1 => exact .inr ⟨[], rfl⟩
  | case2 rest _ _ _ ih =>
    rcases ih with ⟨body, left, hleft, rfl⟩ | ⟨body, rfl⟩
    · exact .inl ⟨'\'' :: body, left, hleft, by simp [doubled_quote]⟩
    · exact .inr ⟨'\'' :: body, by simp [doubled_quote]⟩
  | case3 rest hrest =>
    refine .inl ⟨[], rest, ?_, rfl⟩
    rintro c hc rfl
    obtain ⟨r, rfl⟩ := List.head?_eq_some_iff.1 hc
    exact hrest r rfl
  | case4 c rest _ hc _ _ _ ih =>
    have hc : c ≠ '\'' := hc
    rcases ih with ⟨body, left, hleft, rfl⟩ | ⟨body, rfl⟩
    · exact .inl ⟨c :: body, left, hleft, by rw [doubled_cons hc, List.cons_append]⟩
    · exact .inr ⟨c :: body, by rw [doubled_cons hc]⟩

theorem through_closed {stop : Char} {body : List Char} (h : stop ∉ body) (rest : List Char) :
    through stop (body ++ stop :: rest) = (body ++ [stop], rest) := by
  induction body with
  | nil => simp [through]
  | cons c body ih =>
    obtain ⟨hc, hbody⟩ := not_or.1 (List.mem_cons.not.1 h)
    simp [through, Ne.symm hc, ih hbody]

theorem through_open {stop : Char} {s : List Char} (h : stop ∉ s) : through stop s = (s, []) := by
  induction s with
  | nil => rfl
  | cons c s ih =>
    obtain ⟨hc, hs⟩ := not_or.1 (List.mem_cons.not.1 h)
    simp [through, Ne.symm hc, ih hs]

/-! ## One lexeme -/

/-- A lexeme that may stand in front of a text is cut off it. -/
theorem next_of_isLexeme {l : Lexeme} {rest : List Char} (h : IsLexeme l rest) :
    next (l.text ++ rest) = some (l, rest) := by
  cases h with
  | @lineComment body rest hbody hrest =>
    have hbody : ∀ c ∈ body, (c != '\n') = true := fun c hc => by
      simpa using fun heq : c = '\n' => hbody (heq ▸ hc)
    have hrest : ∀ c ∈ rest.head?, (c != '\n') = false := fun c hc => by simp [hrest c hc]
    simp only [text, List.cons_append, next, Text.takeWhile_run_append hbody hrest,
      Text.dropWhile_run_append hbody hrest]
  | @blockComment body rest hbody =>
    simp only [text, List.cons_append, List.append_assoc, List.nil_append, next,
      throughCommentEnd_closed hbody rest]
  | @openComment body hbody =>
    simp only [text, List.append_nil, next, throughCommentEnd_open hbody]
  | @literal body rest hrest =>
    simp only [text, List.cons_append, List.append_assoc, List.nil_append, next,
      throughLoneQuote_closed body hrest]
  | @openLiteral body =>
    simp only [text, List.append_nil, next, throughLoneQuote_open body]
  | @quoted body rest hbody =>
    simp only [text, List.cons_append, List.append_assoc, List.nil_append, next,
      through_closed hbody rest]
  | @openQuoted body hbody =>
    simp only [text, List.append_nil, next, through_open hbody]
  | @other c rest hquote hdouble hdash hslash =>
    rw [text, List.singleton_append, next]
    · rintro r rfl rfl
      exact hdash rfl '-' (by simp) rfl
    · rintro r rfl rfl
      exact hslash rfl '*' (by simp) rfl
    · exact hquote
    · exact hdouble

/-- Cutting a lexeme off a text follows the grammar. -/
theorem isLexeme_of_next {s rest : List Char} {l : Lexeme} (h : next s = some (l, rest)) :
    IsLexeme l rest := by
  unfold next at h
  split at h
  · simp at h
  · rename_i r
    cases h
    refine .lineComment (fun hmem => ?_) fun c hc => ?_
    · have := List.all_takeWhile (p := (· != '\n')) (l := r)
      rw [List.all_eq_true] at this
      exact absurd (this '\n' hmem) (by simp)
    · simpa using Text.head?_dropWhile_false (· != '\n') r c hc
  · rename_i r
    cases h
    rcases closed_or_noCommentEnd r with ⟨body, left, hbody, rfl⟩ | hr
    · rw [throughCommentEnd_closed hbody]
      exact .blockComment hbody
    · rw [throughCommentEnd_open hr]
      exact .openComment hr
  · rename_i r
    cases h
    rcases closed_or_doubled r with ⟨body, left, hleft, rfl⟩ | ⟨body, rfl⟩
    · rw [throughLoneQuote_closed body hleft]
      exact .literal hleft
    · rw [throughLoneQuote_open body]
      exact .openLiteral
  · rename_i r
    cases h
    by_cases hr : '"' ∈ r
    · obtain ⟨body, left, rfl, hbody⟩ := List.eq_append_cons_of_mem hr
      rw [through_closed hbody]
      exact .quoted hbody
    · rw [through_open hr]
      exact .openQuoted hr
  · rename_i c r hdash hslash hquote hdouble
    cases h
    refine .other hquote hdouble ?_ ?_
    · rintro rfl d hd rfl
      obtain ⟨left, rfl⟩ := List.head?_eq_some_iff.1 hd
      exact hdash left rfl rfl
    · rintro rfl d hd rfl
      obtain ⟨left, rfl⟩ := List.head?_eq_some_iff.1 hd
      exact hslash left rfl rfl

/-- What is cut off a text: a lexeme that stands at its head and may stand there. -/
theorem next_eq_some_iff {s rest : List Char} {l : Lexeme} :
    next s = some (l, rest) ↔ IsLexeme l rest ∧ l.text ++ rest = s := by
  constructor
  · intro h
    exact ⟨isLexeme_of_next h, next_text h⟩
  · rintro ⟨h, rfl⟩
    exact next_of_isLexeme h

theorem next_eq_none_iff {s : List Char} : next s = none ↔ s = [] := by
  unfold next
  split <;> simp_all

theorem cut_nil : cut [] = [] := by
  rw [cut]
  rfl

/-- A text is cut lexeme by lexeme. -/
theorem cut_text_append {l : Lexeme} {rest : List Char} (h : IsLexeme l rest) :
    cut (l.text ++ rest) = l :: cut rest := by
  rw [cut]
  split
  · rename_i hnext
    rw [next_of_isLexeme h] at hnext
    cases hnext
  · rename_i m r hnext
    rw [next_of_isLexeme h] at hnext
    cases hnext
    rfl

/-- Induction along the cutting of a text. -/
@[elab_as_elim]
theorem induction_on_cut {motive : List Char → Prop} (s : List Char) (nil : motive [])
    (cons : ∀ (l : Lexeme) (rest : List Char), IsLexeme l rest → motive rest →
      motive (l.text ++ rest)) : motive s := by
  fun_induction cut s with
  | case1 s h =>
    rw [next_eq_none_iff.1 h]
    exact nil
  | case2 s l rest h ih =>
    obtain ⟨hl, rfl⟩ := next_eq_some_iff.1 h
    exact cons l rest hl ih

theorem cut_eq_nil_iff {s : List Char} : cut s = [] ↔ s = [] := by
  constructor
  · intro h
    rw [← flatMap_text_cut s, h]
    rfl
  · rintro rfl
    exact cut_nil

/-! ## Texts cut one after the other -/

/-- A lexeme that is closed by its own last characters, or is one character. -/
inductive IsComplete : Lexeme → Prop where
  | blockComment {body : List Char} : NoCommentEnd body →
      IsComplete (blockComment ('/' :: '*' :: (body ++ ['*', '/'])))
  | literal {body : List Char} : IsComplete (literal ('\'' :: (doubled body ++ ['\''])))
  | quoted {body : List Char} : '"' ∉ body → IsComplete (quoted ('"' :: (body ++ ['"'])))
  | other {c : Char} : c ≠ '\'' → c ≠ '"' → IsComplete (other c)

/-- A complete lexeme would be cut otherwise in front of the character `d`. -/
def GoesOn (d : Char) : Lexeme → Prop
  | literal _ => d = '\''
  | other c => c = '-' ∧ d = '-' ∨ c = '/' ∧ d = '*'
  | _ => False

/-- No lexeme goes on into a character that is no quote and no second half of a comment mark. -/
theorem not_goesOn {d : Char} (hd : d ≠ '\'' ∧ d ≠ '-' ∧ d ≠ '*') (l : Lexeme) :
    ¬ l.GoesOn d := by
  intro hgoes
  obtain ⟨hquote, hdash, hstar⟩ := hd
  cases l with
  | literal s => exact hquote hgoes
  | other c =>
    rcases hgoes with ⟨_, hd⟩ | ⟨_, hd⟩
    · exact hdash hd
    · exact hstar hd
  | _ => exact hgoes

theorem IsComplete.isLexeme {l : Lexeme} {rest : List Char} (h : l.IsComplete)
    (hrest : ∀ d ∈ rest.head?, ¬ l.GoesOn d) : IsLexeme l rest := by
  cases h with
  | blockComment hbody => exact .blockComment hbody
  | literal => exact .literal hrest
  | quoted hbody => exact .quoted hbody
  | other hquote hdouble =>
    exact .other hquote hdouble (fun hc d hd hdd => hrest d hd (.inl ⟨hc, hdd⟩))
      fun hc d hd hdd => hrest d hd (.inr ⟨hc, hdd⟩)

/-- Text added behind the rest does not change the lexeme before it, unless the rest is empty and
the lexeme may not stand in front of that text. -/
theorem IsLexeme.append {l : Lexeme} {rest t : List Char} (h : IsLexeme l rest)
    (hend : rest = [] → IsLexeme l t) : IsLexeme l (rest ++ t) := by
  cases rest with
  | nil => exact hend rfl
  | cons c rest =>
    cases h with
    | lineComment hbody hrest => exact .lineComment hbody (by simpa using hrest)
    | blockComment hbody => exact .blockComment hbody
    | literal hrest => exact .literal (by simpa using hrest)
    | quoted hbody => exact .quoted hbody
    | other hquote hdouble hdash hslash =>
      exact .other hquote hdouble (by simpa using hdash) (by simpa using hslash)

/-- The last lexeme of a text has nothing after it. -/
theorem isLexeme_of_getLast? {a : List Char} {l : Lexeme} (h : l ∈ (cut a).getLast?) :
    IsLexeme l [] := by
  induction a using induction_on_cut with
  | nil => simp [cut_nil] at h
  | cons m rest hm ih =>
    rw [cut_text_append hm, List.getLast?_cons, Option.mem_some] at h
    cases hlast : (cut rest).getLast? with
    | none =>
      rw [List.getLast?_eq_none_iff, cut_eq_nil_iff] at hlast
      subst hlast
      rw [cut_nil] at h
      exact h ▸ hm
    | some k =>
      rw [hlast] at h
      exact ih (by rw [hlast, ← h]; rfl)

/-- A text is cut apart from what follows it if its last lexeme may stand in front of that. -/
theorem cut_append_of_isLexeme {a t : List Char} (h : ∀ l ∈ (cut a).getLast?, IsLexeme l t) :
    cut (a ++ t) = cut a ++ cut t := by
  induction a using induction_on_cut with
  | nil => rw [cut_nil, List.nil_append, List.nil_append]
  | cons l rest hl ih =>
    rw [cut_text_append hl] at h ⊢
    have hend : rest = [] → IsLexeme l t := by
      rintro rfl
      exact h l (by simp [cut_nil])
    have hrest : ∀ m ∈ (cut rest).getLast?, IsLexeme m t := fun m hm =>
      h m (by rw [List.getLast?_cons, Option.mem_def.1 hm]; rfl)
    rw [List.append_assoc, cut_text_append (hl.append hend), ih hrest, List.cons_append]

/-- Cutting a text ends outside comments, literals and quoted spans: its last lexeme, if it has
one, is complete. -/
def EndsAtTop (a : List Char) : Prop := ∀ l ∈ (cut a).getLast?, l.IsComplete

/-- A text ends where `t` begins: its last lexeme is complete and does not go on into `t`. -/
def StopsBefore (t a : List Char) : Prop :=
  ∀ l ∈ (cut a).getLast?, l.IsComplete ∧ ∀ d ∈ t.head?, ¬ l.GoesOn d

/-- A text followed by another where it stops is cut into the lexemes of both. -/
theorem cut_append {a t : List Char} (h : StopsBefore t a) : cut (a ++ t) = cut a ++ cut t :=
  cut_append_of_isLexeme fun l hl => (h l hl).1.isLexeme (h l hl).2

theorem endsAtTop_text_append {l : Lexeme} {rest : List Char} (h : IsLexeme l rest) :
    EndsAtTop (l.text ++ rest) ↔ (rest = [] → l.IsComplete) ∧ EndsAtTop rest := by
  rw [EndsAtTop, EndsAtTop, cut_text_append h, ← cut_eq_nil_iff]
  cases cut rest <;> simp

theorem EndsAtTop.stopsBefore {a t : List Char} (h : EndsAtTop a)
    (ht : ∀ d ∈ t.head?, d ≠ '\'' ∧ d ≠ '-' ∧ d ≠ '*') : StopsBefore t a :=
  fun l hl => ⟨h l hl, fun d hd => not_goesOn (ht d hd) l⟩

/-! ## Text without marks -/

/-- A text in which no comment, literal or quoted span begins. -/
structure Unmarked (w : List Char) : Prop where
  no_quote : '\'' ∉ w
  no_double_quote : '"' ∉ w
  no_line_comment : ¬ ['-', '-'] <:+: w
  no_block_comment : ¬ ['/', '*'] <:+: w

/-- Whether `a` stands right before `b` somewhere in a text. -/
def holdsPair (a b : Char) : List Char → Bool
  | [] => false
  | c :: s => (c == a && s.head? == some b) || holdsPair a b s

theorem holdsPair_iff {a b : Char} {s : List Char} : holdsPair a b s = true ↔ [a, b] <:+: s := by
  induction s with
  | nil => simp [holdsPair]
  | cons c s ih => simp [holdsPair, pair_infix_cons_iff, ih]

instance (w : List Char) : Decidable (Unmarked w) :=
  decidable_of_iff (w.contains '\'' = false ∧ w.contains '"' = false ∧
      holdsPair '-' '-' w = false ∧ holdsPair '/' '*' w = false) <| by
    simp only [← Bool.not_eq_true, List.contains_iff_mem, holdsPair_iff]
    exact ⟨fun ⟨h₁, h₂, h₃, h₄⟩ => ⟨h₁, h₂, h₃, h₄⟩, fun ⟨h₁, h₂, h₃, h₄⟩ => ⟨h₁, h₂, h₃, h₄⟩⟩

theorem Unmarked.of_infix {v w : List Char} (h : Unmarked w) (hv : v <:+: w) : Unmarked v where
  no_quote hmem := h.no_quote (hv.subset hmem)
  no_double_quote hmem := h.no_double_quote (hv.subset hmem)
  no_line_comment hsub := h.no_line_comment (hsub.trans hv)
  no_block_comment hsub := h.no_block_comment (hsub.trans hv)

/-- Whether a comment may begin with the last character of a text. -/
def mayOpenComment (w : List Char) : Bool := w.getLast?.any fun c => c == '-' || c == '/'

theorem mayOpenComment_eq_false_iff {w : List Char} :
    mayOpenComment w = false ↔ ∀ c ∈ w.getLast?, c ≠ '-' ∧ c ≠ '/' := by
  cases h : w.getLast? <;> simp [mayOpenComment, h]

/-- A text without marks is cut into its characters if its last one does not begin a comment. -/
theorem cut_unmarked_append {w : List Char} (hw : Unmarked w) (hlast : mayOpenComment w = false)
    (t : List Char) : cut (w ++ t) = w.map other ++ cut t := by
  rw [mayOpenComment_eq_false_iff] at hlast
  induction w with
  | nil => rfl
  | cons c w ih =>
    have hhead : ∀ m e : Char, ¬ [m, e] <:+: c :: w → (∀ d ∈ (c :: w).getLast?, d ≠ m) →
        c = m → ∀ d ∈ (w ++ t).head?, d ≠ e := by
      rintro m e hno hend rfl d hd rfl
      cases w with
      | nil => exact hend c (by simp) rfl
      | cons f w => exact hno (pair_infix_cons_iff.2 (.inl ⟨rfl, by simpa using hd⟩))
    have hl : IsLexeme (other c) (w ++ t) :=
      .other (fun hc => hw.no_quote (by simp [hc])) (fun hc => hw.no_double_quote (by simp [hc]))
        (hhead '-' '-' hw.no_line_comment fun d hd => (hlast d hd).1)
        (hhead '/' '*' hw.no_block_comment fun d hd => (hlast d hd).2)
    have htail : ∀ d ∈ w.getLast?, d ≠ '-' ∧ d ≠ '/' := fun d hd =>
      hlast d (by rw [List.getLast?_cons, Option.mem_def.1 hd]; rfl)
    have hcut : cut (c :: (w ++ t)) = other c :: cut (w ++ t) := cut_text_append hl
    rw [List.cons_append, hcut, ih (hw.of_infix ⟨[c], [], by simp⟩) htail, List.map_cons,
      List.cons_append]

/-- A text without marks ends outside comments, literals and quoted spans. -/
theorem Unmarked.endsAtTop {w : List Char} (hw : Unmarked w) (hlast : mayOpenComment w = false) :
    EndsAtTop w := by
  intro l hl
  have hcut := cut_unmarked_append hw hlast []
  rw [List.append_nil, cut_nil, List.append_nil] at hcut
  rw [hcut, List.getLast?_map, Option.mem_def, Option.map_eq_some_iff] at hl
  obtain ⟨c, hc, rfl⟩ := hl
  have hmem := List.mem_of_getLast? hc
  exact .other (fun h => hw.no_quote (h ▸ hmem)) fun h => hw.no_double_quote (h ▸ hmem)

end Lexeme

end SqlTables.Sql
