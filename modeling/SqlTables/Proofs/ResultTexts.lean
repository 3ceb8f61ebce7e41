import SqlTables.Report.Scan

/-!
# Texts of results

A text can be written unless there is half of a surrogate pair in it.  Documents keep such a half
as they keep every character outside ASCII, and all that they add is ASCII; so the text of a result
can be written exactly if each name in it can (`encodeError?_resultText_iff`).
-/

set_option autoImplicit false

namespace SqlTables

/-! ## Whole texts -/

namespace Text.Repertoire

variable [Repertoire] {s s' : String}

/-- A text without half of a surrogate pair. -/
def IsWhole (s : String) : Prop := ∀ c ∈ s.toList, isHalf c = false

theorem isWhole_of_ascii (h : s.toList.all (·.toNat < 0x80) = true) : IsWhole s := fun c hc => by
  rw [isHalf, half?_of_ascii (by simpa using List.all_eq_true.1 h c hc)]
  rfl

theorem isWhole_append_iff : IsWhole (s ++ s') ↔ IsWhole s ∧ IsWhole s' := by
  simp only [IsWhole, String.toList_append, List.forall_mem_append]

theorem isWhole_intercalate_iff (h : IsWhole s) {items : List String} :
    IsWhole (s.intercalate items) ↔ ∀ item ∈ items, IsWhole item := by
  induction items with
  | nil => exact iff_of_true (isWhole_of_ascii (by simp)) (by simp)
  | cons item items ih =>
    cases items with
    | nil => simp
    | cons next items =>
      rw [String.intercalate_cons_cons, isWhole_append_iff, isWhole_append_iff, ih,
        List.forall_mem_cons (a := item), and_iff_left h]

end Text.Repertoire

/-! ## Documents of texts -/

namespace Document.Json

open Text (Repertoire)
open Text.Repertoire (IsWhole isHalf isWhole_append_iff isWhole_intercalate_iff isWhole_of_ascii)

theorem escapedChar_ascii {c : Char} (h : c.toNat < 0x80) :
    ∀ d ∈ escapedChar c, d.toNat < 0x80 := by
  have hall : ((List.range 0x80).all fun n =>
      (escapedChar (Char.ofNat n)).all (·.toNat < 0x80)) = true := by decide +kernel
  have hc := List.all_eq_true.1 hall c.toNat (List.mem_range.2 h)
  simpa using hc

theorem escapedChar_of_beyond_ascii {c : Char} (h : 0x80 ≤ c.toNat) : escapedChar c = [c] := by
  have hne (d : Char) (hd : d.toNat < 0x80) : c ≠ d := by
    rintro rfl
    omega
  have hcontrol : ¬ c.toNat < 0x20 := by omega
  simp [escapedChar, hcontrol, hne]

variable [Repertoire] {margin : String}

theorem isWhole_quoted_iff {s : String} : IsWhole (quoted s) ↔ IsWhole s := by
  have hchar (c : Char) : (∀ d ∈ escapedChar c, isHalf d = false) ↔ isHalf c = false := by
    by_cases hascii : c.toNat < 0x80
    · refine iff_of_true (fun d hd => ?_) ?_
      · rw [isHalf, Text.Repertoire.half?_of_ascii (escapedChar_ascii hascii d hd)]
        rfl
      · rw [isHalf, Text.Repertoire.half?_of_ascii hascii]
        rfl
    · simp [escapedChar_of_beyond_ascii (by omega : 0x80 ≤ c.toNat)]
  have hquote : isHalf '"' = false := by
    rw [isHalf, Text.Repertoire.half?_of_ascii (by decide)]
    rfl
  simp only [IsWhole, quoted, String.toList_ofList, List.cons_append, List.forall_mem_cons,
    List.forall_mem_append, List.forall_mem_flatMap, hquote, hchar]
  simp

theorem isWhole_block_iff {opening closing : String} (hopening : IsWhole opening)
    (hclosing : IsWhole closing) (hmargin : IsWhole margin) {items : List String} :
    IsWhole (block opening closing margin items) ↔ ∀ item ∈ items, IsWhole item := by
  have hline : IsWhole "\n" := isWhole_of_ascii (by decide)
  have hcomma : IsWhole ",\n" := isWhole_of_ascii (by decide)
  have hdeeper : IsWhole "  " := isWhole_of_ascii (by decide)
  have hseparator : IsWhole (",\n" ++ (margin ++ "  ")) := by
    simp only [isWhole_append_iff, hcomma, hmargin, hdeeper, and_self]
  cases items with
  | nil => simp [block, isWhole_append_iff, hopening, hclosing]
  | cons item items =>
    simp only [block, isWhole_append_iff, isWhole_intercalate_iff hseparator, hopening, hclosing,
      hline, hmargin, hdeeper, true_and, and_true]

theorem isWhole_indented_ofTexts_iff (hmargin : IsWhole margin) {names : List String} :
    IsWhole (indented margin (Value.ofTexts names)) ↔ ∀ name ∈ names, IsWhole name := by
  have hitems : indented.indentedItems margin (names.map .text) = names.map quoted := by
    induction names with
    | nil => rfl
    | cons name names ih => simp only [List.map_cons, indented.indentedItems, ih]; rfl
  rw [Value.ofTexts, indented, isWhole_block_iff (isWhole_of_ascii (by decide))
    (isWhole_of_ascii (by decide)) hmargin, hitems, List.forall_mem_map]
  simp only [isWhole_quoted_iff]

end Document.Json

/-! ## Results -/

namespace Report

open Document.Json (isWhole_block_iff isWhole_indented_ofTexts_iff isWhole_quoted_iff)
open Text.Repertoire (IsWhole isWhole_append_iff isWhole_of_ascii)

variable [Text.Repertoire]

/-- A result of which each name is without half of a surrogate pair. -/
structure HasWholeNames (e : Extraction) : Prop where
  allTables : ∀ name ∈ e.allTables, IsWhole name
  realTables : ∀ name ∈ e.realTables, IsWhole name
  ctes : ∀ name ∈ e.ctes, IsWhole name

/-- A result can be written exactly if each of its names can. -/
theorem encodeError?_resultText_iff {e : Extraction} :
    Bytes.Utf8.encodeError? (resultText e).toList = none ↔ HasWholeNames e := by
  have hmargin : IsWhole ("" ++ "  ") := isWhole_of_ascii (by decide)
  have hentry {key : String} (hkey : key.toList.all (·.toNat < 0x80) = true) (names : List String) :
      IsWhole (Document.Json.quoted key ++ ": " ++
        Document.Json.indented ("" ++ "  ") (Document.Value.ofTexts names)) ↔
        ∀ name ∈ names, IsWhole name := by
    rw [isWhole_append_iff, isWhole_append_iff, isWhole_quoted_iff,
      isWhole_indented_ofTexts_iff hmargin, and_iff_right]
    exact ⟨isWhole_of_ascii hkey, isWhole_of_ascii (by decide)⟩
  rw [Bytes.Utf8.encodeError?_eq_none_iff]
  show IsWhole (resultText e) ↔ _
  simp only [resultText, Document.Json.pretty, extractionEntries, Document.Json.indented,
    Document.Json.indented.indentedEntries]
  rw [isWhole_block_iff (isWhole_of_ascii (by decide)) (isWhole_of_ascii (by decide))
    (isWhole_of_ascii (by decide))]
  simp only [List.forall_mem_cons, Document.Value.display]
  rw [hentry (by decide), hentry (by decide), hentry (by decide)]
  constructor
  · rintro ⟨hall, hreal, hctes, -⟩
    exact ⟨hall, hreal, hctes⟩
  · rintro ⟨hall, hreal, hctes⟩
    exact ⟨hall, hreal, hctes, nofun⟩

end Report

end SqlTables
