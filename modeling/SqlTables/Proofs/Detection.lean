import Mathlib.Algebra.Order.Field.Rat
import Mathlib.Tactic.NormNum
import SqlTables.Proofs.ScanFailures
import SqlTables.Proofs.Units

/-!
# Telling encodings from bytes

Bytes whose encoding is not said are read as the text that they spell, whichever of the usual ways
the text was written in (`readAuto_of_spelled`): a byte order mark is dropped once and tells the
encoding, bytes without zeros are never taken for UTF-16, and a code page is tried last.  UTF-16
without a mark is told in either order by the zeros that its units leave
(`readAuto_of_unmarked_utf16`).
-/

set_option autoImplicit false

namespace SqlTables

open Bytes Files

/-! ## Newlines -/

namespace Text

/-- The text `u` is `s` with a line feed for each carriage return that a line feed follows, the two
together, and for each that stands alone. -/
inductive LineFeeds : List Char → List Char → Prop where
  | nil : LineFeeds [] []
  | pair {s u : List Char} : LineFeeds s u → LineFeeds ('\r' :: '\n' :: s) ('\n' :: u)
  | alone {s u : List Char} : (∀ c ∈ s.head?, c ≠ '\n') → LineFeeds s u →
      LineFeeds ('\r' :: s) ('\n' :: u)
  | other {c : Char} {s u : List Char} : c ≠ '\r' → LineFeeds s u → LineFeeds (c :: s) (c :: u)

theorem lineFeeds_unifyNewlines (s : List Char) : LineFeeds s (unifyNewlines s) := by
  fun_induction unifyNewlines s with
  | case1 => exact .nil
  | case2 rest ih => exact .pair ih
  | case3 rest hrest ih =>
    refine .alone (fun c hc hline => ?_) ih
    obtain ⟨r, rfl⟩ := List.head?_eq_some_iff.1 hc
    exact hrest r (by rw [hline])
  | case4 c rest _ hc ih => exact .other hc ih

/-- A text that does not begin with a byte order mark has none to drop. -/
theorem dropMark_eq_self {s : List Char} (h : s.head? ≠ some '\uFEFF') : dropMark s = s := by
  unfold dropMark
  split
  · exact absurd rfl h
  · rfl

end Text

/-! ## Byte order marks -/

namespace Bytes

/-- Bytes that begin with the byte order mark of UTF-8 or of UTF-16 in one of its orders. -/
def HasMark (bytes : List UInt8) : Prop :=
  ∃ mark ∈ [Utf8.signature, Utf16.signature .little, Utf16.signature .big], mark <+: bytes

instance (bytes : List UInt8) : Decidable (HasMark bytes) :=
  inferInstanceAs (Decidable (∃ mark ∈ _, mark <+: bytes))

namespace Detected

theorem ofMark?_of_not_hasMark {bytes : List UInt8} (h : ¬ HasMark bytes) :
    ofMark? bytes = none := by
  simp only [HasMark, List.mem_cons, List.not_mem_nil, or_false, exists_eq_or_imp,
    exists_eq_left, not_or, ← List.isPrefixOf_iff_prefix] at h
  simp [ofMark?, h.1, h.2.1, h.2.2]

/-! ## Zeros -/

theorem zerosByPlace_of_not_mem {bytes : List UInt8} (h : 0 ∉ bytes) :
    zerosByPlace bytes = (0, 0) := by
  fun_induction zerosByPlace bytes with
  | case1 => rfl
  | case2 a =>
    have ha : a ≠ 0 := fun h0 => h (by simp [h0])
    simp [ha]
  | case3 a b rest even odd heq ih =>
    simp only [List.mem_cons, not_or] at h
    obtain ⟨rfl, rfl⟩ := Prod.mk.inj (heq.symm.trans (ih h.2.2))
    simp [Ne.symm h.1, Ne.symm h.2.1]

/-- Without zeros nothing is taken for UTF-16. -/
theorem guessOrder?_of_not_mem {bytes : List UInt8} (h : 0 ∉ bytes) : guessOrder? bytes = none := by
  unfold guessOrder?
  split
  · rfl
  · simp [zerosByPlace_of_not_mem h, isFrequent]

theorem ofBytes?_of_not_mem {bytes : List UInt8} (hmark : ¬ HasMark bytes) (hzero : 0 ∉ bytes) :
    ofBytes? bytes = none := by
  rw [ofBytes?, ofMark?_of_not_hasMark hmark, guessOrder?_of_not_mem hzero]
  rfl

end Detected

/-! ## Texts in UTF-8 -/

theorem not_mem_encode {s : List Char} (h : '\x00' ∉ s) : 0 ∉ Utf8.encode s := by
  intro h0
  obtain ⟨c, hc, hzero⟩ := List.mem_flatMap.1 h0
  have hnull : c.toNat = '\x00'.toNat := (Utf8.isSequence_encodeChar c).eq_zero_of_mem hzero
  exact h (Char.toNat_inj.1 hnull ▸ hc)

/-- The bytes of a text begin with a mark only if the text does. -/
theorem not_hasMark_encode {s : List Char} (h : s.head? ≠ some '\uFEFF') :
    ¬ HasMark (Utf8.encode s) := by
  rintro ⟨mark, hmark, rest, hrest⟩
  cases s with
  | nil =>
    obtain ⟨rfl, -⟩ := List.append_eq_nil_iff.1 hrest
    exact absurd hmark (by decide)
  | cons c s =>
    have hc := Utf8.readsAs_encodeChar c
    have hsplit : Utf8.encode (c :: s) = Utf8.encodeChar c ++ Utf8.encode s := List.flatMap_cons
    rw [hsplit] at hrest
    simp only [List.mem_cons, List.not_mem_nil, or_false] at hmark
    rcases hmark with rfl | rfl | rfl
    · have hfeff : ReadsAs Utf8.next Utf8.signature '\uFEFF' :=
        Utf8.readsAs_encodeChar '\uFEFF'
      exact h (by rw [hfeff.eq_of_append hc hrest]; rfl)
    -- no sequence begins with a byte of the other marks
    · obtain ⟨b, tail, hb, hnext⟩ := hc (Utf8.encode s)
      rw [hb] at hrest
      obtain ⟨rfl, -⟩ := List.cons.inj hrest
      cases congrArg Piece.content hnext
    · obtain ⟨b, tail, hb, hnext⟩ := hc (Utf8.encode s)
      rw [hb] at hrest
      obtain ⟨rfl, -⟩ := List.cons.inj hrest
      cases congrArg Piece.content hnext

/-! ## What is read -/

section Reading

variable [Text.Repertoire]

theorem text_decodeAuto_of_detected {bytes : List UInt8} {d : Detected}
    (h : Detected.ofBytes? bytes = some d) :
    (decodeAuto bytes).text = d.encoding.decodeLossy bytes := by
  rw [decodeAuto, h]
  rfl

theorem decode_utf8 (bytes : List UInt8) :
    Encoding.utf8.decode bytes = (Utf8.decoder.decode bytes).mapError .bytes := rfl

/-- UTF-8 is read as such where nothing else is told. -/
theorem text_decodeAuto_of_utf8 {s : List Char}
    (h : Detected.ofBytes? (Utf8.encode s) = none) : (decodeAuto (Utf8.encode s)).text = s := by
  have hdecode : Encoding.utf8.decode (Utf8.encode s) = .ok s := by
    rw [decode_utf8, Utf8.decode_eq_ok_iff.2 rfl]
    rfl
  rw [decodeAuto, h, fallbacks, firstWithoutFault, hdecode]
  rfl

/-- The characters of the code page of Central European text. -/
def cp1250Page : List Char := (Encoding.page? "cp1250").getD []

/-- Bytes spell a text in a code page: each is the byte of one character. -/
def InPage (page : List Char) (s : List Char) (bytes : List UInt8) : Prop :=
  List.Forall₂ (fun c b => Encoding.pageChar? page b = some c) s bytes

/-- The piece that a byte is in a code page. -/
def pagePiece (page : List Char) (b : UInt8) (_ : List UInt8) : Piece :=
  match Encoding.pageChar? page b with
  | some c => .char c 0
  | none => .fault "character maps to <undefined>" 0

theorem decode_codePage {page s : List Char} {bytes : List UInt8} (h : InPage page s bytes) :
    (Encoding.codePage page).decode bytes = .ok s := by
  have hunits : List.Forall₂ (ReadsAs (pagePiece page)) (bytes.map fun b => [b]) s := by
    refine List.forall₂_map_left_iff.2 (h.flip.imp fun b c hc rest => ⟨b, [], rfl, ?_⟩)
    rw [pagePiece, hc]
    rfl
  have hdecode : (Decoder.plain "charmap" (pagePiece page)).decodeFrom () 0
      (bytes.map fun b => [b]).flatten = .ok s := Decoder.decodeFrom_flatten hunits 0
  rw [← List.flatMap_def, List.flatMap_singleton'] at hdecode
  show ((Decoder.plain "charmap" (pagePiece page)).decodeFrom () 0 bytes).mapError _ = _
  rw [hdecode]
  rfl

/-- What is not UTF-8 is read in the code page where nothing else is told. -/
theorem text_decodeAuto_of_inPage {s : List Char} {bytes : List UInt8}
    (h : Detected.ofBytes? bytes = none) (hutf8 : ∀ u, bytes ≠ Utf8.encode u)
    (hpage : InPage cp1250Page s bytes) : (decodeAuto bytes).text = s := by
  have hdecode : Encoding.cp1250.decode bytes = .ok s := decode_codePage hpage
  rw [decodeAuto, h, fallbacks, firstWithoutFault, decode_utf8]
  cases hfault : Utf8.decoder.decode bytes with
  | ok u => exact absurd (Utf8.decode_eq_ok_iff.1 hfault) (hutf8 u)
  | error e =>
    simp only [Except.mapError, firstWithoutFault, hdecode]
    rfl

/-! ## Spellings of a text -/

theorem text_decodeAuto_signature_utf8 (s : List Char) :
    (decodeAuto (Utf8.signature ++ Utf8.encode s)).text = s := by
  rw [text_decodeAuto_of_detected (d := .utf8Signed) rfl]
  exact Utf8.decodeLossy_encode s

/-- The mark of UTF-16 is read as a character. -/
theorem text_decodeAuto_signature_utf16 (order : ByteOrder) (s : List Char) :
    (decodeAuto (Utf16.signature order ++ Utf16.encode order s)).text = '\uFEFF' :: s := by
  have hdetected : Detected.ofBytes? (Utf16.signature order ++ Utf16.encode order s) =
      some (.utf16 order) := by
    cases order <;> rfl
  rw [text_decodeAuto_of_detected hdetected]
  exact Utf16.decodeLossy_encode order ('\uFEFF' :: s)

/-- The bytes that a file may hold for a text: UTF-8 without a mark, if the text has no null
character; UTF-8 with a mark, and UTF-16 in either order with one; and a code page, if the bytes
have no null and no mark and are not UTF-8. -/
inductive Spelled (s : List Char) : List UInt8 → Prop where
  | utf8 : '\x00' ∉ s → Spelled s (s.flatMap String.utf8EncodeChar)
  | markedUtf8 : Spelled s (Utf8.signature ++ s.flatMap String.utf8EncodeChar)
  | markedUtf16 (order : ByteOrder) : Spelled s (Utf16.signature order ++ Utf16.encode order s)
  | cp1250 {bytes : List UInt8} : InPage cp1250Page s bytes → 0 ∉ bytes → ¬ HasMark bytes →
      (∀ u : List Char, bytes ≠ u.flatMap String.utf8EncodeChar) → Spelled s bytes

/-- A text is told from its bytes, however it is spelled. -/
theorem normalizeText_decodeAuto_of_spelled {s : List Char} {bytes : List UInt8}
    (hmark : s.head? ≠ some '\uFEFF') (h : Spelled s bytes) :
    normalizeText (decodeAuto bytes).text = Text.unifyNewlines s := by
  have hdrop := Text.dropMark_eq_self hmark
  cases h with
  | utf8 hnull =>
    rw [← Utf8.encode_eq, text_decodeAuto_of_utf8, normalizeText, hdrop]
    exact Detected.ofBytes?_of_not_mem (not_hasMark_encode hmark) (not_mem_encode hnull)
  | markedUtf8 =>
    rw [← Utf8.encode_eq, text_decodeAuto_signature_utf8, normalizeText, hdrop]
  | markedUtf16 order =>
    rw [text_decodeAuto_signature_utf16]
    rfl
  | cp1250 hpage hzero hnomark hutf8 =>
    have hnone := Detected.ofBytes?_of_not_mem hnomark hzero
    rw [text_decodeAuto_of_inPage hnone (by simpa only [Utf8.encode_eq] using hutf8) hpage,
      normalizeText, hdrop]

end Reading

end Bytes

/-! ## Files whose encoding is not said -/

section Files

variable [Text.Repertoire] {tree : Tree} {p : Path} {bytes : List UInt8}

/-- What is read from a file when its encoding is told from its bytes. -/
def Files.readAuto (tree : Tree) (p : Path) : Except Failure String :=
  (readText tree p (.text "auto")).outcome.1

theorem readAuto_of_bytes (h : readBytes tree p = .ok bytes) :
    readAuto tree p = .ok (String.ofList (normalizeText (decodeAuto bytes).text)) := by
  have hauto : Report.IsAuto "auto" := .inr (by decide)
  rw [readAuto, Report.readText_text, Report.namedText, Report.encodingOf_of_isAuto hauto, h]
  cases bytes with
  | nil =>
    have hempty : (decodeAuto []).text = [] := text_decodeAuto_of_utf8 (s := []) rfl
    rw [hempty]
    rfl
  | cons b bytes => rfl

/-- A file is read whenever its bytes are: no bytes are a fault. -/
theorem exists_readAuto_iff :
    (∃ text, readAuto tree p = .ok text) ↔ ∃ bytes, readBytes tree p = .ok bytes := by
  constructor
  · rintro ⟨text, htext⟩
    cases hbytes : readBytes tree p with
    | ok bytes => exact ⟨bytes, rfl⟩
    | error failure =>
      have hauto : Report.IsAuto "auto" := .inr (by decide)
      rw [readAuto, Report.readText_text, Report.namedText, Report.encodingOf_of_isAuto hauto,
        hbytes] at htext
      cases htext
  · rintro ⟨bytes, hbytes⟩
    exact ⟨_, readAuto_of_bytes hbytes⟩

/-- A text is read back from a file however the file spells it, with line feeds for all newlines and
without a byte order mark; and every file that can be read at all is read as some text. -/
theorem readAuto_of_spelled :
    (∀ (s : List Char) (bytes : List UInt8), s.head? ≠ some '\uFEFF' → Spelled s bytes →
      ∀ tree p, readBytes tree p = .ok bytes →
        ∃ u, Text.LineFeeds s u ∧ '\r' ∉ u ∧ readAuto tree p = .ok (String.ofList u)) ∧
    ∀ tree p, (∃ text, readAuto tree p = .ok text) ↔ ∃ bytes, readBytes tree p = .ok bytes := by
  refine ⟨fun s bytes hmark h tree p hbytes => ?_, fun tree p => exists_readAuto_iff⟩
  refine ⟨Text.unifyNewlines s, Text.lineFeeds_unifyNewlines s, Text.not_mem_unifyNewlines s, ?_⟩
  rw [readAuto_of_bytes hbytes, normalizeText_decodeAuto_of_spelled hmark h]

end Files

/-- A word of Polish in the code page, with a newline of two characters. -/
theorem readAuto_of_spelled_codePage :
    "ść\r\n".toList.head? ≠ some '\uFEFF' ∧ Spelled "ść\r\n".toList [0x9C, 0xE6, 0x0D, 0x0A] ∧
      ∃ u, Text.LineFeeds "ść\r\n".toList u ∧ '\r' ∉ u ∧
        readAuto ⟨[(["a.sql"], .file [0x9C, 0xE6, 0x0D, 0x0A])]⟩ ⟨"", ["a.sql"]⟩ =
          .ok (String.ofList u) := by
  have hmark : "ść\r\n".toList.head? ≠ some '\uFEFF' := by decide
  have hpage : InPage cp1250Page "ść\r\n".toList [0x9C, 0xE6, 0x0D, 0x0A] := by
    refine .cons ?_ (.cons ?_ (.cons ?_ (.cons ?_ .nil))) <;> decide +kernel
  have h : Spelled "ść\r\n".toList [0x9C, 0xE6, 0x0D, 0x0A] := by
    refine .cp1250 hpage (by decide) (by decide) fun u hu => ?_
    rw [← Utf8.encode_eq] at hu
    have hdecode := Utf8.decode_eq_ok_iff.2 hu
    rw [Decoder.decode, Utf8.decoder, Decoder.decodeFrom_plain_cons] at hdecode
    cases hdecode
  exact ⟨hmark, h, readAuto_of_spelled.1 _ _ hmark h _ _ rfl⟩

/-! ## UTF-16 without a mark -/

namespace Bytes

/-- The other of the two orders. -/
def ByteOrder.other : ByteOrder → ByteOrder
  | little => big
  | big => little

/-- The share of the units of a text that have a property. -/
def Utf16.share (p : Nat → Bool) (s : List Char) : ℚ := (units s).countP p / (units s).length

namespace Detected

theorem isFrequent_iff {zeros units : Nat} (h : 0 < units) :
    isFrequent zeros units = true ↔ (3 / 10 : ℚ) < zeros / units := by
  have hpos : (0 : ℚ) < units := by exact_mod_cast h
  rw [isFrequent, decide_eq_true_iff, div_lt_div_iff₀ (by norm_num) hpos,
    mul_comm (zeros : ℚ)]
  exact_mod_cast Iff.rfl

theorem isRare_iff {zeros units : Nat} (h : 0 < units) :
    isRare zeros units = true ↔ (zeros / units : ℚ) < 1 / 20 := by
  have hpos : (0 : ℚ) < units := by exact_mod_cast h
  rw [isRare, decide_eq_true_iff, div_lt_div_iff₀ hpos (by norm_num),
    mul_comm (zeros : ℚ), one_mul]
  exact_mod_cast Iff.rfl

/-- The bytes of one order are not those of the other: zeros are not frequent and rare at the same
places. -/
theorem not_both_orders {zeros zeros' units : Nat}
    (h : (isFrequent zeros units && isRare zeros' units) = true) :
    (isFrequent zeros' units && isRare zeros units) = false := by
  simp only [isFrequent, isRare, Bool.and_eq_true, decide_eq_true_eq] at h
  simp only [isFrequent, isRare, Bool.and_eq_false_iff, decide_eq_false_iff_not]
  omega

/-- What is guessed of bytes that are long enough, from the numbers of their zeros. -/
theorem guessOrder?_eq {bytes : List UInt8} {even odd : Nat} (hlong : 4 ≤ bytes.length)
    (heven : bytes.length % 2 = 0) (hzeros : zerosByPlace bytes = (even, odd)) :
    guessOrder? bytes =
      if isFrequent odd (bytes.length / 2) && isRare even (bytes.length / 2) then some .little
      else if isFrequent even (bytes.length / 2) && isRare odd (bytes.length / 2) then some .big
      else none := by
  rw [guessOrder?, if_neg (by omega), hzeros]

/-- Bytes exchanged in pairs are guessed to be in the other order. -/
theorem guessOrder?_swapPairs {bytes : List UInt8} (heven : bytes.length % 2 = 0) :
    guessOrder? (Utf16.swapPairs bytes) = (guessOrder? bytes).map ByteOrder.other := by
  have hlength := Utf16.length_swapPairs bytes
  by_cases hlong : 4 ≤ bytes.length
  · rcases hzeros : zerosByPlace bytes with ⟨even, odd⟩
    have hswapped : zerosByPlace (Utf16.swapPairs bytes) = (odd, even) := by
      rw [Utf16.zerosByPlace_swapPairs heven, hzeros]
      rfl
    rw [guessOrder?_eq hlong heven hzeros,
      guessOrder?_eq (by omega) (by omega) hswapped, hlength]
    by_cases hlittle :
        (isFrequent odd (bytes.length / 2) && isRare even (bytes.length / 2)) = true
    · rw [if_pos hlittle, not_both_orders hlittle, if_pos hlittle]
      rfl
    · rw [if_neg hlittle, if_neg hlittle]
      split <;> rfl
  · rw [guessOrder?, if_pos (.inl (by omega)), guessOrder?, if_pos (.inl (by omega))]
    rfl

/-- UTF-16 is told by its zeros in either order, if many units are below 256 and few have a zero low
byte. -/
theorem guessOrder?_encode {s : List Char} (hlong : 2 ≤ (Utf16.units s).length)
    (hlatin : 3 / 10 < Utf16.share (· < 256) s) (hzero : Utf16.share (· % 256 = 0) s < 1 / 20)
    (order : ByteOrder) : guessOrder? (Utf16.encode order s) = some order := by
  have hlittle : guessOrder? (Utf16.encode .little s) = some .little := by
    have hlength := Utf16.length_encode .little s
    have hunits : (Utf16.encode .little s).length / 2 = (Utf16.units s).length := by omega
    rw [guessOrder?_eq (by omega) (by omega) (Utf16.zerosByPlace_encode_little s), hunits,
      if_pos (Bool.and_eq_true_iff.2 ⟨(isFrequent_iff (by omega)).2 hlatin,
        (isRare_iff (by omega)).2 hzero⟩)]
  cases order with
  | little => exact hlittle
  | big =>
    have heven : (Utf16.encode .little s).length % 2 = 0 := by
      rw [Utf16.length_encode]
      omega
    rw [← Utf16.swapPairs_encode_little, guessOrder?_swapPairs heven, hlittle]
    rfl

end Detected

/-- A text that begins with a byte order mark has one in UTF-16. -/
theorem head?_ne_of_not_hasMark {s : List Char} {order : ByteOrder}
    (h : ¬ HasMark (Utf16.encode order s)) : s.head? ≠ some '\uFEFF' := by
  intro hhead
  obtain ⟨rest, rfl⟩ := List.head?_eq_some_iff.1 hhead
  refine h ⟨Utf16.signature order, by cases order <;> simp, Utf16.encode order rest, ?_⟩
  cases order <;> rfl

end Bytes

/-- UTF-16 without a mark is told in both orders and read back, if more than three tenths of the
units are below 256 and less than a twentieth have a zero low byte; and what is guessed of any bytes
is the other order once they are exchanged in pairs. -/
theorem readAuto_of_unmarked_utf16 [Text.Repertoire] :
    (∀ s : List Char, 2 ≤ (Utf16.units s).length → 3 / 10 < Utf16.share (· < 256) s →
      Utf16.share (· % 256 = 0) s < 1 / 20 → ∀ order,
        Detected.guessOrder? (Utf16.encode order s) = some order ∧
        (¬ HasMark (Utf16.encode order s) →
          ∀ tree p, readBytes tree p = .ok (Utf16.encode order s) →
            ∃ u, Text.LineFeeds s u ∧ '\r' ∉ u ∧ readAuto tree p = .ok (String.ofList u))) ∧
    ∀ bytes : List UInt8, bytes.length % 2 = 0 →
      Detected.guessOrder? (Utf16.swapPairs bytes) =
        (Detected.guessOrder? bytes).map ByteOrder.other := by
  refine ⟨fun s hlong hlatin hzero order => ?_, fun bytes => Detected.guessOrder?_swapPairs⟩
  have hguess := Detected.guessOrder?_encode hlong hlatin hzero order
  refine ⟨hguess, fun hmark tree p hbytes => ?_⟩
  refine ⟨Text.unifyNewlines s, Text.lineFeeds_unifyNewlines s, Text.not_mem_unifyNewlines s, ?_⟩
  have hdetected : Detected.ofBytes? (Utf16.encode order s) = some (.utf16 order) := by
    rw [Detected.ofBytes?, Detected.ofMark?_of_not_hasMark hmark, hguess]
    rfl
  have htext : (decodeAuto (Utf16.encode order s)).text = s := by
    rw [text_decodeAuto_of_detected hdetected]
    exact Utf16.decodeLossy_encode order s
  rw [readAuto_of_bytes hbytes, htext, normalizeText,
    Text.dropMark_eq_self (head?_ne_of_not_hasMark hmark)]

/-- Two units of five are below 256; two others are a pair of surrogates. -/
theorem readAuto_of_unmarked_utf16_surrogates :
    2 ≤ (Utf16.units "ąa😁\r".toList).length ∧
      3 / 10 < Utf16.share (· < 256) "ąa😁\r".toList ∧
      Utf16.share (· % 256 = 0) "ąa😁\r".toList < 1 / 20 ∧
      Detected.guessOrder? (Utf16.encode .big "ąa😁\r".toList) = some .big ∧
      ∃ u, Text.LineFeeds "ąa😁\r".toList u ∧ '\r' ∉ u ∧
        readAuto ⟨[(["a.sql"], .file (Utf16.encode .big "ąa😁\r".toList))]⟩ ⟨"", ["a.sql"]⟩ =
          .ok (String.ofList u) := by
  have hunits : Utf16.units "ąa😁\r".toList = [0x105, 0x61, 0xD83D, 0xDE01, 0x0D] := by decide
  have hlong : 2 ≤ (Utf16.units "ąa😁\r".toList).length := by decide
  have hlatin : 3 / 10 < Utf16.share (· < 256) "ąa😁\r".toList := by
    rw [Utf16.share, hunits]
    norm_num
  have hzero : Utf16.share (· % 256 = 0) "ąa😁\r".toList < 1 / 20 := by
    rw [Utf16.share, hunits]
    norm_num
  obtain ⟨hguess, hread⟩ := readAuto_of_unmarked_utf16.1 _ hlong hlatin hzero .big
  exact ⟨hlong, hlatin, hzero, hguess, hread (by decide) _ _ rfl⟩

end SqlTables
