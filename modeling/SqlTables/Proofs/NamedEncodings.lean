import SqlTables.Proofs.Detection

/-!
# Named encodings against the encoding that is told

Bytes of ASCII mean the same in the usual encodings, so a file of them is read alike under each of
their names as when its encoding is told, unless most of it cannot be printed: then the named
encoding refuses it.  Bytes that are UTF-8 with something besides ASCII are refused under every name
of an encoding with one byte for each character.  No text is handed on that was read in the wrong
encoding.
-/

set_option autoImplicit false

namespace SqlTables

open Bytes Files

namespace Bytes

/-! ## ASCII -/

/-- Bytes of ASCII without zeros. -/
def IsAsciiText (bytes : List UInt8) : Prop := ∀ b ∈ bytes, b ≠ 0 ∧ b.toNat < 0x80

instance (bytes : List UInt8) : Decidable (IsAsciiText bytes) :=
  inferInstanceAs (Decidable (∀ b ∈ bytes, b ≠ 0 ∧ b.toNat < 0x80))

/-- The text of bytes, one character for each. -/
def asciiText (bytes : List UInt8) : List Char := bytes.map fun b => Char.ofNat b.toNat

/-- Whether a byte is a printed character of ASCII, or a line feed, a carriage return or a tab. -/
def isReadable (b : UInt8) : Bool :=
  (0x20 ≤ b.toNat && b.toNat ≤ 0x7E) || b == 0x0A || b == 0x0D || b == 0x09

/-- Whether at least half of the bytes are readable. -/
def IsMostlyReadable (bytes : List UInt8) : Prop := bytes.length ≤ 2 * bytes.countP isReadable

instance (bytes : List UInt8) : Decidable (IsMostlyReadable bytes) :=
  inferInstanceAs (Decidable (_ ≤ _))

/-- What holds of the numbers below 128 holds of the bytes of ASCII. -/
theorem forall_ascii {P : UInt8 → Prop} (h : ∀ n < 0x80, P (UInt8.ofNat n)) {b : UInt8}
    (hb : b.toNat < 0x80) : P b := by
  have hn := h b.toNat hb
  rwa [UInt8.ofNat_toNat] at hn

variable {bytes : List UInt8}

theorem isGood_ascii {b : UInt8} (hb : b.toNat < 0x80) :
    Text.isGood (Char.ofNat b.toNat) = isReadable b :=
  forall_ascii (P := fun b => Text.isGood (Char.ofNat b.toNat) = isReadable b)
    (by decide +kernel) hb

theorem IsAsciiText.isAscii (h : IsAsciiText bytes) : ∀ b ∈ bytes, b.toNat < 0x80 :=
  fun b hb => (h b hb).2

/-- The characters of ASCII are the bytes that UTF-8 spells them in. -/
theorem encode_asciiText (h : ∀ b ∈ bytes, b.toNat < 0x80) :
    Utf8.encode (asciiText bytes) = bytes := by
  have hchar {b : UInt8} (hb : b.toNat < 0x80) : Utf8.encodeChar (Char.ofNat b.toNat) = [b] :=
    forall_ascii (P := fun b => Utf8.encodeChar (Char.ofNat b.toNat) = [b]) (by decide +kernel) hb
  induction bytes with
  | nil => rfl
  | cons b bytes ih =>
    obtain ⟨hb, hbytes⟩ := List.forall_mem_cons.1 h
    have hcons : Utf8.encode (asciiText (b :: bytes)) =
        Utf8.encodeChar (Char.ofNat b.toNat) ++ Utf8.encode (asciiText bytes) := rfl
    rw [hcons, hchar hb, ih hbytes, List.singleton_append]

/-- Bytes of ASCII are poor text if less than half of them are readable. -/
theorem isPoor_asciiText (h : ∀ b ∈ bytes, b.toNat < 0x80) :
    (Text.quality (asciiText bytes)).isPoor = true ↔ ¬ IsMostlyReadable bytes := by
  have hgood : (asciiText bytes).countP Text.isGood = bytes.countP isReadable := by
    rw [asciiText, List.countP_map]
    exact List.countP_congr fun b hb => by rw [Function.comp_apply, isGood_ascii (h b hb)]
  cases bytes with
  | nil => decide
  | cons b bytes =>
    rw [Text.quality, if_neg (by simp [asciiText]), hgood, Text.Share.isPoor, decide_eq_true_iff,
      IsMostlyReadable, asciiText, List.length_map]
    exact not_le.symm

theorem looksLikeUtf8_of_ascii (h : ∀ b ∈ bytes, b.toNat < 0x80) : looksLikeUtf8 bytes = false := by
  have hany : (bytes.any fun b => 0x80 ≤ b.toNat) = false := by
    simpa using h
  rw [looksLikeUtf8, hany, Bool.false_and]

/-- Bytes of ASCII without zeros spell their characters. -/
theorem spelled_asciiText (h : IsAsciiText bytes) : Spelled (asciiText bytes) bytes := by
  have hnull : '\x00' ∉ asciiText bytes := by
    intro hmem
    obtain ⟨b, hb, hchar⟩ := List.mem_map.1 hmem
    have hzero : b.toNat = 0 := by
      have hnat := congrArg Char.toNat hchar
      rwa [toNat_ofNat_char (.inl (by have := (h b hb).2; omega))] at hnat
    exact (h b hb).1 (UInt8.toNat_inj.1 hzero)
  have hspelled := Spelled.utf8 hnull
  rwa [← Utf8.encode_eq, encode_asciiText h.isAscii] at hspelled

/-- A text of ASCII does not begin with a byte order mark. -/
theorem head?_asciiText_ne (h : ∀ b ∈ bytes, b.toNat < 0x80) :
    (asciiText bytes).head? ≠ some '\uFEFF' := by
  cases bytes with
  | nil => simp [asciiText]
  | cons b bytes =>
    intro hhead
    have hb : b.toNat < 0x80 := h b (by simp)
    have hnat := congrArg Char.toNat (Option.some.inj hhead)
    rw [toNat_ofNat_char (.inl (by omega))] at hnat
    exact absurd (hnat ▸ hb) (by decide)

/-- The bytes of a text are taken for UTF-8 if one of them is not ASCII. -/
theorem looksLikeUtf8_encode {s : List Char} (h : ∃ b ∈ Utf8.encode s, 0x80 ≤ b.toNat) :
    looksLikeUtf8 (Utf8.encode s) = true := by
  have hany : ((Utf8.encode s).any fun b => 0x80 ≤ b.toNat) = true := by
    simpa using h
  rw [looksLikeUtf8, hany, Utf8.decode_eq_ok_iff.2 rfl, Bool.true_and]

/-! ## Encodings that agree with ASCII -/

/-- A decoder reads a byte of ASCII as its character, whatever follows. -/
def KeepsAscii (next : UInt8 → List UInt8 → Piece) : Prop :=
  ∀ b rest, b.toNat < 0x80 → next b rest = .char (Char.ofNat b.toNat) 0

/-- Bytes of ASCII are read one by one. -/
theorem KeepsAscii.decodeFrom {name : String} {next : UInt8 → List UInt8 → Piece}
    (hnext : KeepsAscii next) (h : ∀ b ∈ bytes, b.toNat < 0x80) :
    (Decoder.plain name next).decodeFrom () 0 bytes = .ok (asciiText bytes) := by
  have hunits : List.Forall₂ (ReadsAs next) (bytes.map fun b => [b]) (asciiText bytes) := by
    rw [asciiText, List.forall₂_map_left_iff, List.forall₂_map_right_iff, List.forall₂_same]
    exact fun b hb rest => ⟨b, [], rfl, hnext b _ (h b hb)⟩
  have hdecode : (Decoder.plain name next).decodeFrom () 0 (bytes.map fun b => [b]).flatten =
      .ok (asciiText bytes) := Decoder.decodeFrom_flatten hunits 0
  rwa [← List.flatMap_def, List.flatMap_singleton'] at hdecode

theorem keepsAscii_utf8 : KeepsAscii Utf8.next := by
  intro b rest hb
  rw [Utf8.next, if_pos hb]

theorem keepsAscii_page (page : List Char)
    (hpage : ∀ n < 0x80, Encoding.pageChar? page (UInt8.ofNat n) = some (Char.ofNat n)) :
    KeepsAscii (pagePiece page) := by
  intro b rest hb
  have hchar := hpage b.toNat hb
  rw [UInt8.ofNat_toNat] at hchar
  rw [pagePiece, hchar]

section Reading

variable [Text.Repertoire]

/-- An encoding reads bytes of ASCII as their characters. -/
def Encoding.ReadsAscii (e : Encoding) : Prop :=
  ∀ bytes : List UInt8, (∀ b ∈ bytes, b.toNat < 0x80) → e.decode bytes = .ok (asciiText bytes)

namespace Encoding

/-- An encoding with a decoder of its own and no mark reads ASCII if the decoder keeps it. -/
theorem readsAscii_of_decoder {e : Encoding} (name : String) {next : UInt8 → List UInt8 → Piece}
    (hnext : KeepsAscii next)
    (h : ∀ bytes : List UInt8, (∀ b ∈ bytes, b.toNat < 0x80) →
      e.decoderFor? bytes = some (.plain name next, 0)) : e.ReadsAscii := by
  intro bytes hbytes
  rw [decode, h bytes hbytes]
  simp only [ite_self, List.drop_zero]
  show ((Decoder.plain name next).decodeFrom () 0 bytes).mapError TextFault.bytes = _
  rw [hnext.decodeFrom hbytes]
  rfl

theorem readsAscii_utf8 : utf8.ReadsAscii :=
  readsAscii_of_decoder "utf-8" keepsAscii_utf8 fun _ _ => rfl

theorem readsAscii_utf8Signed : utf8Signed.ReadsAscii := by
  refine readsAscii_of_decoder "utf-8" keepsAscii_utf8 fun bytes hbytes => ?_
  have hmark : Utf8.signature.isPrefixOf bytes = false := by
    cases bytes with
    | nil => rfl
    | cons b bytes =>
      have hb : ((0xEF : UInt8) == b) = false := by
        refine beq_eq_false_iff_ne.2 ?_
        rintro rfl
        exact absurd (hbytes 0xEF (by simp)) (by decide)
      rw [Utf8.signature, List.isPrefixOf, hb, Bool.false_and]
  rw [decoderFor?, hmark]
  rfl

theorem readsAscii_latin1 : latin1.ReadsAscii :=
  readsAscii_of_decoder "latin-1" (fun _ _ _ => rfl) fun _ _ => rfl

/-- A code page of which the first half is ASCII reads it. -/
theorem readsAscii_codePage {page : List Char}
    (hpage : ∀ n < 0x80, pageChar? page (UInt8.ofNat n) = some (Char.ofNat n)) :
    (codePage page).ReadsAscii :=
  readsAscii_of_decoder "charmap" (keepsAscii_page page hpage) fun _ _ => rfl

end Encoding

end Reading

end Bytes

/-! ## Files in a named encoding -/

/-- The names by which encodings that agree with ASCII are asked for. -/
def Files.asciiNames : List String := ["utf-8", "utf-8-sig", "cp1250", "cp1252", "latin-1"]

/-- Those of encodings with one byte for each character. -/
def Files.singleByteNames : List String := ["cp1250", "cp1252", "latin-1"]

section Files

variable [Text.Repertoire]

/-- The encoding of a name of ASCII that the registry knows. -/
theorem Files.encodingOf_of_named {name : String} {e : NamedEncoding}
    (hauto : ¬ Report.IsAuto name) (hascii : name.toList.all (·.toNat < 0x80) = true)
    (hnull : name.toList.contains '\x00' = false) (hnamed : Encoding.named? name = some e) :
    encodingOf name = .ok (some e) := by
  rw [Report.encodingOf_of_not_isAuto hauto, Report.nameFault?_of_ascii hascii hnull, hnamed]

theorem Files.exists_encoding_of_mem_asciiNames {name : String} (h : name ∈ asciiNames) :
    ∃ e : Encoding, encodingOf name = .ok (some (.text e)) ∧ e.ReadsAscii := by
  simp only [asciiNames, List.mem_cons, List.not_mem_nil, or_false] at h
  have hnamed {name : String} {e : Encoding} (hauto : ¬ Report.IsAuto name)
      (hascii : name.toList.all (·.toNat < 0x80) = true)
      (hnull : name.toList.contains '\x00' = false)
      (hnamed : Encoding.named? name = some (.text e)) (he : e.ReadsAscii) :
      ∃ e : Encoding, encodingOf name = .ok (some (.text e)) ∧ e.ReadsAscii :=
    ⟨e, encodingOf_of_named hauto hascii hnull hnamed, he⟩
  rcases h with rfl | rfl | rfl | rfl | rfl
  · exact hnamed (e := .utf8) (by decide +kernel) rfl rfl (by decide +kernel)
      Encoding.readsAscii_utf8
  · exact hnamed (e := .utf8Signed) (by decide +kernel) rfl rfl (by decide +kernel)
      Encoding.readsAscii_utf8Signed
  · exact hnamed (e := .cp1250) (by decide +kernel) rfl rfl (by decide +kernel)
      (Encoding.readsAscii_codePage (by decide +kernel))
  · exact hnamed (e := .cp1252) (by decide +kernel) rfl rfl (by decide +kernel)
      (Encoding.readsAscii_codePage (by decide +kernel))
  · exact hnamed (e := .latin1) (by decide +kernel) rfl rfl (by decide +kernel)
      Encoding.readsAscii_latin1

/-- What is read from a file in an encoding that a name says. -/
def Files.readAs (name : String) (tree : Tree) (p : Path) : Except Failure String :=
  (readText tree p (.text name)).outcome.1

variable {tree : Tree} {p : Path} {name : String} {bytes : List UInt8}

/-- A file is refused as a whole in an encoding that a name says. -/
def Files.Refused (name : String) (tree : Tree) (p : Path) (bytes : List UInt8) : Prop :=
  ∃ reason, readAs name tree p = .error (.undecodable ⟨name, bytes, 0, bytes.length, reason⟩)

/-- A file that is not empty is decoded as its encoding says. -/
theorem readAs_of_bytes {e : NamedEncoding} (hname : encodingOf name = .ok (some e))
    (hbytes : readBytes tree p = .ok bytes) (hne : bytes ≠ []) :
    readAs name tree p = (decodeNamed name e bytes).map String.ofList := by
  rw [readAs, Report.readText_text, Report.namedText_of_bytes hname hbytes hne]

/-! ### ASCII -/

/-- A file of ASCII that is mostly readable is read in an encoding that agrees with it, and one that
is not is refused. -/
theorem readAs_of_ascii (hname : name ∈ asciiNames) (h : IsAsciiText bytes)
    (hbytes : readBytes tree p = .ok bytes) :
    (IsMostlyReadable bytes → readAs name tree p =
      .ok (String.ofList (normalizeText (asciiText bytes)))) ∧
    (¬ IsMostlyReadable bytes → Refused name tree p bytes) := by
  obtain ⟨e, hnamed, he⟩ := exists_encoding_of_mem_asciiNames hname
  by_cases hne : bytes = []
  · subst hne
    have hempty : readAs name tree p = .ok "" := by
      rw [readAs, Report.readText_text, Report.namedText, hnamed, hbytes]
      rfl
    exact ⟨fun _ => hempty, fun hpoor => absurd (Nat.zero_le _) hpoor⟩
  · have hdecode : decodeNamed name (.text e) bytes =
        if (Text.quality (asciiText bytes)).isPoor then
          .error (refusal name bytes ("decoded text looks malformed (quality=" ++
            (Text.quality (asciiText bytes)).text 2 ++ "). Try --encoding auto"))
        else .ok (normalizeText (asciiText bytes)) := by
      rw [decodeNamed, looksLikeUtf8_of_ascii h.isAscii, Bool.and_false, if_neg (by simp)]
      simp only [he bytes h.isAscii]
    rw [Refused, readAs_of_bytes hnamed hbytes hne, hdecode]
    constructor
    · intro hreadable
      rw [if_neg fun hpoor => (isPoor_asciiText h.isAscii).1 hpoor hreadable]
      rfl
    · intro hpoor
      rw [if_pos ((isPoor_asciiText h.isAscii).2 hpoor)]
      exact ⟨_, rfl⟩

/-- A file of ASCII is always read when its encoding is told. -/
theorem readAuto_of_ascii (h : IsAsciiText bytes) (hbytes : readBytes tree p = .ok bytes) :
    readAuto tree p = .ok (String.ofList (Text.unifyNewlines (asciiText bytes))) := by
  rw [readAuto_of_bytes hbytes, normalizeText_decodeAuto_of_spelled (head?_asciiText_ne h.isAscii)
    (spelled_asciiText h)]

/-! ### UTF-8 -/

theorem Files.exists_encoding_of_mem_singleByteNames {name : String} (h : name ∈ singleByteNames) :
    isUnicodeName name = false ∧ ∃ e, encodingOf name = .ok (some e) := by
  simp only [singleByteNames, List.mem_cons, List.not_mem_nil, or_false] at h
  rcases h with rfl | rfl | rfl <;>
    exact ⟨by decide +kernel, _, encodingOf_of_named (by decide +kernel) rfl rfl rfl⟩

/-- UTF-8 with something besides ASCII is refused in the encodings with one byte for each
character. -/
theorem refused_of_utf8 {s : List Char} (hname : name ∈ singleByteNames)
    (h : ∃ b ∈ Utf8.encode s, 0x80 ≤ b.toNat) (hbytes : readBytes tree p = .ok (Utf8.encode s)) :
    Refused name tree p (Utf8.encode s) := by
  obtain ⟨hunicode, e, hnamed⟩ := exists_encoding_of_mem_singleByteNames hname
  obtain ⟨b, hb, -⟩ := id h
  have hguard : (!isUnicodeName name && looksLikeUtf8 (Utf8.encode s)) = true := by
    rw [hunicode, looksLikeUtf8_encode h]
    rfl
  have hdecode : decodeNamed name e (Utf8.encode s) = .error (refusal name (Utf8.encode s)
      ("file appears to be UTF-8 but was read as " ++ name ++ ". Try --encoding auto")) :=
    if_pos hguard
  rw [Refused, readAs_of_bytes hnamed hbytes (List.ne_nil_of_mem hb), hdecode]
  exact ⟨_, rfl⟩

/-! ### Agreement -/

/-- A file of ASCII without zeros is read when its encoding is told, with line feeds for all
newlines; under each name of an encoding that agrees with ASCII the same text is read if at least
half of it is readable, and the file is refused otherwise.  A file of UTF-8 with something besides
ASCII is refused under each name of an encoding with one byte for each character. -/
theorem named_encodings_agree_or_refuse :
    (∀ bytes, IsAsciiText bytes → ∀ tree p, readBytes tree p = .ok bytes →
      (∃ u, Text.LineFeeds (asciiText bytes) u ∧ '\r' ∉ u ∧
        readAuto tree p = .ok (String.ofList u)) ∧
      ∀ name ∈ asciiNames,
        (IsMostlyReadable bytes → readAs name tree p = readAuto tree p) ∧
        (¬ IsMostlyReadable bytes → Refused name tree p bytes)) ∧
    ∀ (s : List Char) (bytes : List UInt8), bytes = s.flatMap String.utf8EncodeChar →
      (∃ b ∈ bytes, 0x80 ≤ b.toNat) → ∀ tree p, readBytes tree p = .ok bytes →
        ∀ name ∈ singleByteNames, Refused name tree p bytes := by
  constructor
  · intro bytes h tree p hbytes
    have hauto := readAuto_of_ascii h hbytes
    refine ⟨⟨_, Text.lineFeeds_unifyNewlines _, Text.not_mem_unifyNewlines _, hauto⟩, ?_⟩
    intro name hname
    obtain ⟨hagree, hrefuse⟩ := readAs_of_ascii hname h hbytes
    refine ⟨fun hreadable => ?_, hrefuse⟩
    rw [hagree hreadable, hauto, normalizeText,
      Text.dropMark_eq_self (head?_asciiText_ne h.isAscii)]
  · rintro s bytes hbytes h tree p hread name hname
    rw [← Utf8.encode_eq] at hbytes
    subst hbytes
    exact refused_of_utf8 hname h hread

end Files

/-- A file of which exactly half is readable, one of which less is, and the Polish word `są`, which
would be two other characters for its last one in the code page. -/
theorem named_encodings_agree_or_refuse_at_half :
    IsAsciiText [0x61, 0x01, 0x0D, 0x02] ∧ IsMostlyReadable [0x61, 0x01, 0x0D, 0x02] ∧
    readAs "cp1250" ⟨[(["a.sql"], .file [0x61, 0x01, 0x0D, 0x02])]⟩ ⟨"", ["a.sql"]⟩ =
      readAuto ⟨[(["a.sql"], .file [0x61, 0x01, 0x0D, 0x02])]⟩ ⟨"", ["a.sql"]⟩ ∧
    IsAsciiText [0x61, 0x01, 0x02] ∧ ¬ IsMostlyReadable [0x61, 0x01, 0x02] ∧
    Refused "utf-8" ⟨[(["a.sql"], .file [0x61, 0x01, 0x02])]⟩ ⟨"", ["a.sql"]⟩
      [0x61, 0x01, 0x02] ∧
    [0x73, 0xC4, 0x85] = "są".toList.flatMap String.utf8EncodeChar ∧
    (∃ b ∈ ([0x73, 0xC4, 0x85] : List UInt8), 0x80 ≤ b.toNat) ∧
    Refused "latin-1" ⟨[(["a.sql"], .file [0x73, 0xC4, 0x85])]⟩ ⟨"", ["a.sql"]⟩
      [0x73, 0xC4, 0x85] := by
  have hhalf : IsAsciiText [0x61, 0x01, 0x0D, 0x02] := by decide +kernel
  have hreadable : IsMostlyReadable [0x61, 0x01, 0x0D, 0x02] := by decide +kernel
  have hless : IsAsciiText [0x61, 0x01, 0x02] := by decide +kernel
  have hpoor : ¬ IsMostlyReadable [0x61, 0x01, 0x02] := by decide +kernel
  have hspelled : [0x73, 0xC4, 0x85] = "są".toList.flatMap String.utf8EncodeChar := by decide
  have hhigh : ∃ b ∈ ([0x73, 0xC4, 0x85] : List UInt8), 0x80 ≤ b.toNat := by decide
  obtain ⟨hascii, hutf8⟩ := named_encodings_agree_or_refuse
  exact ⟨hhalf, hreadable, ((hascii _ hhalf _ _ rfl).2 "cp1250" (by decide)).1 hreadable,
    hless, hpoor, ((hascii _ hless _ _ rfl).2 "utf-8" (by decide)).2 hpoor,
    hspelled, hhigh, hutf8 _ _ hspelled hhigh _ _ rfl "latin-1" (by decide)⟩

end SqlTables
