import Mathlib.Data.List.Forall2
import SqlTables.Bytes.Encoding

/-!
# Decoding what was encoded

An encoding spells a character in bytes that its decoder reads as that character, whatever follows
them (`ReadsAs`).  A text spelled so is decoded without a fault, strictly and leniently
(`Decoder.decodeFrom_flatten`, `Decoder.decodeLossy_flatten`).  This holds of UTF-8, of UTF-16 in
both orders with its surrogate pairs, and of code pages.

Of UTF-8 the converse holds as well: what is decoded without a fault is the spelling of its text
(`Utf8.decode_eq_ok_iff`).
-/

set_option autoImplicit false

namespace SqlTables.Bytes

/-! ## Texts spelled character by character -/

section

variable {name : String} {next : UInt8 → List UInt8 → Piece}

/-- Some bytes are read as one character, whatever follows them. -/
def ReadsAs (next : UInt8 → List UInt8 → Piece) (unit : List UInt8) (c : Char) : Prop :=
  ∀ rest, ∃ b tail, unit = b :: tail ∧ next b (tail ++ rest) = .char c tail.length

/-- Where bytes read as one character begin as bytes read as another do, the characters are one. -/
theorem ReadsAs.eq_of_append {u v r r' : List UInt8} {c d : Char} (hu : ReadsAs next u c)
    (hv : ReadsAs next v d) (h : u ++ r = v ++ r') : c = d := by
  obtain ⟨a, s, rfl, hc⟩ := hu r
  obtain ⟨b, t, rfl, hd⟩ := hv r'
  obtain ⟨rfl, hrest⟩ := List.cons.inj h
  have hrest : s ++ r = t ++ r' := hrest
  have hpiece : Piece.char c s.length = Piece.char d t.length := by rw [← hc, ← hd, hrest]
  simpa [Piece.char, Piece.chars] using (Piece.mk.inj hpiece).2

namespace Decoder

variable {state : (plain name next).State}

/-- One piece is read at the head of bytes, and the rest as if it stood alone. -/
theorem decodeFrom_plain_cons (position : Nat) (b : UInt8) (rest : List UInt8) :
    (plain name next).decodeFrom state position (b :: rest) =
      match (next b rest).content with
      | .ok cs => ((plain name next).decodeFrom state (position + (next b rest).width)
          (rest.drop (next b rest).extra)).map (cs ++ ·)
      | .error reason => .error ⟨name, b :: rest, position, (next b rest).width, reason⟩ := by
  rw [decodeFrom]
  rfl

theorem pieces_plain_cons (b : UInt8) (rest : List UInt8) :
    (plain name next).pieces state (b :: rest) =
      next b rest :: (plain name next).pieces state (rest.drop (next b rest).extra) := by
  rw [pieces]
  rfl

/-- A text spelled in bytes is what these are decoded to. -/
theorem decodeFrom_flatten {units : List (List UInt8)} {s : List Char}
    (h : List.Forall₂ (ReadsAs next) units s) (position : Nat) :
    (plain name next).decodeFrom state position units.flatten = .ok s := by
  induction h generalizing position with
  | nil => rw [List.flatten_nil, decodeFrom]
  | @cons unit c units s hunit _ ih =>
    obtain ⟨b, tail, rfl, hnext⟩ := hunit units.flatten
    rw [List.flatten_cons, List.cons_append, decodeFrom_plain_cons, hnext]
    simp only [Piece.char, Piece.chars, List.drop_left, ih]
    rfl

/-- No replacement character is put into a text spelled in bytes. -/
theorem decodeLossy_flatten {units : List (List UInt8)} {s : List Char}
    (h : List.Forall₂ (ReadsAs next) units s) :
    (plain name next).decodeLossy units.flatten = s := by
  rw [decodeLossy]
  induction h with
  | nil => rw [List.flatten_nil, pieces, List.flatMap_nil]
  | @cons unit c units s hunit _ ih =>
    obtain ⟨b, tail, rfl, hnext⟩ := hunit units.flatten
    rw [List.flatten_cons, List.cons_append, pieces_plain_cons, hnext, List.flatMap_cons]
    simp only [Piece.char, Piece.chars, List.drop_left]
    rw [ih, List.singleton_append]

/-- Bytes that are decoded without a fault spell their text, if the bytes of each piece do. -/
theorem eq_flatMap_of_decodeFrom {spell : Char → List UInt8}
    (hpiece : ∀ b rest cs, (next b rest).content = .ok cs →
      b :: rest.take (next b rest).extra = cs.flatMap spell)
    {bytes : List UInt8} {s : List Char} {position : Nat}
    (h : (plain name next).decodeFrom state position bytes = .ok s) :
    bytes = s.flatMap spell := by
  induction hn : bytes.length using Nat.strongRecOn generalizing bytes s position with
  | ind n ih =>
    cases bytes with
    | nil =>
      rw [decodeFrom] at h
      cases h
      rfl
    | cons b rest =>
      rw [decodeFrom_plain_cons] at h
      split at h
      · rename_i cs hcontent
        cases hrest : (plain name next).decodeFrom state (position + (next b rest).width)
          (rest.drop (next b rest).extra) with
        | error e =>
          rw [hrest] at h
          cases h
        | ok t =>
          rw [hrest] at h
          cases h
          have hlength : (rest.drop (next b rest).extra).length < n := by
            rw [← hn, List.length_drop, List.length_cons]
            omega
          rw [List.flatMap_append, ← hpiece b rest cs hcontent, ← ih _ hlength hrest rfl,
            List.cons_append, List.take_append_drop]
      · cases h

end Decoder

end

/-! ## Characters and bytes as numbers -/

theorem toNat_cases (c : Char) : c.toNat < 0xD800 ∨ 0xDFFF < c.toNat ∧ c.toNat < 0x110000 :=
  c.valid

theorem toNat_ofNat_char {n : Nat} (h : n < 0xD800 ∨ 0xDFFF < n ∧ n < 0x110000) :
    (Char.ofNat n).toNat = n := by
  rw [Char.ofNat, dif_pos h]
  rfl

theorem toNat_ofNat_byte {n : Nat} (h : n < 0x100) : (UInt8.ofNat n).toNat = n :=
  UInt8.toNat_ofNat_of_lt' h

theorem ofNat_byte_eq_zero_iff {n : Nat} (hn : n < 0x100) : UInt8.ofNat n = 0 ↔ n = 0 := by
  rw [← UInt8.toNat_inj, toNat_ofNat_byte hn]
  rfl

theorem exists_ofNat_byte (b : UInt8) : ∃ n < 0x100, b = UInt8.ofNat n :=
  ⟨b.toNat, b.toNat_lt, UInt8.ofNat_toNat.symm⟩

/-! ## UTF-8 -/

namespace Utf8

/-- The sequences of bytes for a number: the lead byte says how many follow, each of these holds six
bits, no sequence is longer than it need be, and surrogates and numbers that are no code points have
none. -/
inductive IsSequence : Nat → List UInt8 → Prop where
  | one {m : Nat} : m < 0x80 → IsSequence m [UInt8.ofNat m]
  | two {m k : Nat} : 2 ≤ m → m < 0x20 → k < 0x40 →
      IsSequence (m * 64 + k) [UInt8.ofNat (0xC0 + m), UInt8.ofNat (0x80 + k)]
  | three {m k j : Nat} : m < 0x10 → k < 0x40 → j < 0x40 → (m = 0 → 0x20 ≤ k) →
      (m = 0xD → k < 0x20) → IsSequence ((m * 64 + k) * 64 + j)
        [UInt8.ofNat (0xE0 + m), UInt8.ofNat (0x80 + k), UInt8.ofNat (0x80 + j)]
  | four {m k j i : Nat} : m < 5 → k < 0x40 → j < 0x40 → i < 0x40 → (m = 0 → 0x10 ≤ k) →
      (m = 4 → k < 0x10) → IsSequence (((m * 64 + k) * 64 + j) * 64 + i)
        [UInt8.ofNat (0xF0 + m), UInt8.ofNat (0x80 + k), UInt8.ofNat (0x80 + j),
          UInt8.ofNat (0x80 + i)]

/-- Only code points that are no surrogates have sequences. -/
theorem IsSequence.valid {n : Nat} {u : List UInt8} (h : IsSequence n u) :
    n < 0xD800 ∨ 0xDFFF < n ∧ n < 0x110000 := by
  cases h <;> omega

/-- The bytes of a character are a sequence for it. -/
theorem isSequence_encodeChar (c : Char) : IsSequence c.toNat (encodeChar c) := by
  have hscalar := toNat_cases c
  simp only [encodeChar, Nat.div_one]
  generalize c.toNat = n at hscalar ⊢
  split_ifs with h1 h2 h3
  · exact .one h1
  · have hn : n / 0x40 * 64 + n % 64 = n := by omega
    have h := IsSequence.two (m := n / 0x40) (k := n % 64) (by omega) (by omega) (by omega)
    rwa [hn] at h
  · have hn : (n / 0x1000 * 64 + n / 0x40 % 64) * 64 + n % 64 = n := by omega
    have h := IsSequence.three (m := n / 0x1000) (k := n / 0x40 % 64) (j := n % 64) (by omega)
      (by omega) (by omega) (by omega) (by omega)
    rwa [hn] at h
  · have hn : ((n / 0x40000 * 64 + n / 0x1000 % 64) * 64 + n / 0x40 % 64) * 64 + n % 64 = n := by
      omega
    have h := IsSequence.four (m := n / 0x40000) (k := n / 0x1000 % 64) (j := n / 0x40 % 64)
      (i := n % 64) (by omega) (by omega) (by omega) (by omega) (by omega) (by omega)
    rwa [hn] at h

/-- A number has one sequence. -/
theorem IsSequence.unique {n n' : Nat} {u v : List UInt8} (hu : IsSequence n u)
    (hv : IsSequence n' v) (h : n = n') : u = v := by
  cases hu <;> cases hv <;> first | omega | skip
  · rw [h]
  · rename_i m k _ _ _ m' k' _ _ _
    obtain ⟨rfl, rfl⟩ : m = m' ∧ k = k' := by omega
    rfl
  · rename_i m k j _ _ _ _ _ m' k' j' _ _ _ _ _
    obtain ⟨rfl, rfl, rfl⟩ : m = m' ∧ k = k' ∧ j = j' := by omega
    rfl
  · rename_i m k j i _ _ _ _ _ _ m' k' j' i' _ _ _ _ _ _
    obtain ⟨rfl, rfl, rfl, rfl⟩ : m = m' ∧ k = k' ∧ j = j' ∧ i = i' := by omega
    rfl

/-- Only the sequence for zero holds a zero. -/
theorem IsSequence.eq_zero_of_mem {n : Nat} {u : List UInt8} (h : IsSequence n u) (h0 : 0 ∈ u) :
    n = 0 := by
  cases h <;>
    simp only [List.mem_cons, List.not_mem_nil, or_false, eq_comm (a := (0 : UInt8))] at h0
  · rwa [ofNat_byte_eq_zero_iff (by omega)] at h0
  all_goals
    repeat rw [ofNat_byte_eq_zero_iff (by omega)] at h0
    omega

/-- The bytes of a character are those that the standard library writes. -/
theorem encodeChar_eq (c : Char) : encodeChar c = String.utf8EncodeChar c := by
  have hscalar : c.val.toNat < 0xD800 ∨ 0xDFFF < c.val.toNat ∧ c.val.toNat < 0x110000 := c.valid
  simp only [encodeChar, String.utf8EncodeChar, Char.toNat, Nat.div_one]
  generalize c.val.toNat = n at hscalar ⊢
  split_ifs <;> first | omega | skip
  · rfl
  · grind
  · grind
  · grind

/-- The bytes of a text are those that the standard library writes. -/
theorem encode_eq (s : List Char) : encode s = s.flatMap String.utf8EncodeChar :=
  List.flatMap_congr fun c _ => encodeChar_eq c

/-! ### Reading a sequence -/

theorem lead?_two {m : Nat} (hlow : 2 ≤ m) (hm : m < 0x20) :
    lead? (0xC0 + m) = some ⟨1, 0x80, 0xBF, m⟩ := by
  rw [lead?, if_pos (by omega), Nat.add_sub_cancel_left]

theorem lead?_three : ∀ m < 0x10, lead? (0xE0 + m) =
    some ⟨2, if m = 0 then 0xA0 else 0x80, if m = 0xD then 0x9F else 0xBF, m⟩ := by
  decide

theorem lead?_four : ∀ m < 5, lead? (0xF0 + m) =
    some ⟨3, if m = 0 then 0x90 else 0x80, if m = 4 then 0x8F else 0xBF, m⟩ := by
  decide

/-- The bytes that announce a sequence of two, three or four. -/
theorem lead_cases {b : Nat} {l : Lead} (h : lead? b = some l) :
    (∃ m, 2 ≤ m ∧ m < 0x20 ∧ b = 0xC0 + m) ∨ (∃ m < 0x10, b = 0xE0 + m) ∨
      ∃ m < 5, b = 0xF0 + m := by
  have hrange : 0xC2 ≤ b ∧ b ≤ 0xDF ∨ 0xE0 ≤ b ∧ b ≤ 0xEF ∨ 0xF0 ≤ b ∧ b ≤ 0xF4 := by
    by_contra hno
    rw [lead?, if_neg (by omega), if_neg (by omega), if_neg (by omega), if_neg (by omega),
      if_neg (by omega), if_neg (by omega), if_neg (by omega)] at h
    cases h
  rcases hrange with hb | hb | hb
  · exact .inl ⟨b - 0xC0, by omega⟩
  · exact .inr (.inl ⟨b - 0xE0, by omega⟩)
  · exact .inr (.inr ⟨b - 0xF0, by omega⟩)

theorem next_of_ascii {m : Nat} (hm : m < 0x80) (rest : List UInt8) :
    next (UInt8.ofNat m) rest = .char (Char.ofNat m) 0 := by
  rw [next, toNat_ofNat_byte (by omega), if_pos hm]

theorem next_of_lead {b tail low high bits : Nat} (hlow : 0x80 ≤ b) (hb : b < 0x100)
    (h : lead? b = some ⟨tail, low, high, bits⟩) (rest : List UInt8) :
    next (UInt8.ofNat b) rest = continuation low high bits 0 tail rest := by
  rw [next, toNat_ofNat_byte hb, if_neg (by omega), h]

/-- A byte that continues a sequence adds six bits to its character. -/
theorem continuation_cons {low high bits read missing m : Nat} {rest : List UInt8}
    (hlow : low ≤ 0x80 + m) (hhigh : 0x80 + m ≤ high) (hm : m < 0x40) :
    continuation low high bits read (missing + 1) (UInt8.ofNat (0x80 + m) :: rest) =
      continuation 0x80 0xBF (bits * 64 + m) (read + 1) missing rest := by
  rw [continuation, toNat_ofNat_byte (by omega), if_pos ⟨hlow, hhigh⟩, Nat.add_sub_cancel_left]

/-- A sequence that is no fault goes on with a byte that continues it. -/
theorem exists_of_continuation {low high bits read missing : Nat} {rest : List UInt8}
    {cs : List Char} (hlow : 0x80 ≤ low) (hhigh : high ≤ 0xBF)
    (h : (continuation low high bits read (missing + 1) rest).content = .ok cs) :
    ∃ m r, m < 0x40 ∧ low ≤ 0x80 + m ∧ 0x80 + m ≤ high ∧ rest = UInt8.ofNat (0x80 + m) :: r := by
  cases rest with
  | nil => cases h
  | cons b r =>
    rw [continuation] at h
    split at h
    · rename_i hb
      have hadd : 0x80 + (b.toNat - 0x80) = b.toNat := by omega
      refine ⟨b.toNat - 0x80, r, by omega, by omega, by omega, ?_⟩
      rw [hadd, UInt8.ofNat_toNat]
    · cases h

/-- A sequence is read as its character. -/
theorem IsSequence.readsAs {n : Nat} {u : List UInt8} (h : IsSequence n u) :
    ReadsAs next u (Char.ofNat n) := by
  intro rest
  cases h with
  | one hm => exact ⟨_, _, rfl, next_of_ascii hm _⟩
  | two hlow hm hk =>
    refine ⟨_, _, rfl, ?_⟩
    rw [next_of_lead (by omega) (by omega) (lead?_two hlow hm), List.cons_append,
      continuation_cons (by omega) (by omega) hk, continuation]
    rfl
  | three hm hk hj hlong hsurrogate =>
    refine ⟨_, _, rfl, ?_⟩
    rw [next_of_lead (by omega) (by omega) (lead?_three _ hm), List.cons_append, List.cons_append,
      continuation_cons (by grind) (by grind) hk, continuation_cons (by omega) (by omega) hj,
      continuation]
    rfl
  | four hm hk hj hi hlong hrange =>
    refine ⟨_, _, rfl, ?_⟩
    rw [next_of_lead (by omega) (by omega) (lead?_four _ hm), List.cons_append, List.cons_append,
      List.cons_append, continuation_cons (by grind) (by grind) hk,
      continuation_cons (by omega) (by omega) hj, continuation_cons (by omega) (by omega) hi,
      continuation]
    rfl

/-- Bytes that are read without a fault are a sequence for what they are read as. -/
theorem exists_isSequence_of_next {b : UInt8} {rest : List UInt8} {cs : List Char}
    (h : (next b rest).content = .ok cs) :
    ∃ n, cs = [Char.ofNat n] ∧ IsSequence n (b :: rest.take (next b rest).extra) := by
  obtain ⟨n, hn, rfl⟩ := exists_ofNat_byte b
  by_cases hascii : n < 0x80
  · rw [next_of_ascii hascii] at h ⊢
    cases h
    exact ⟨n, rfl, .one hascii⟩
  · cases hlead : lead? n with
    | none =>
      rw [next, toNat_ofNat_byte hn, if_neg hascii, hlead] at h
      cases h
    | some l =>
      obtain ⟨tail, low, high, bits⟩ := l
      rw [next_of_lead (by omega) hn hlead] at h ⊢
      rcases lead_cases hlead with ⟨m, h2, hm, rfl⟩ | ⟨m, hm, rfl⟩ | ⟨m, hm, rfl⟩
      · cases hlead.symm.trans (lead?_two h2 hm)
        obtain ⟨k, r, hk, hklow, hkhigh, rfl⟩ := exists_of_continuation (by omega) (by omega) h
        rw [continuation_cons hklow hkhigh hk, continuation] at h ⊢
        cases h
        exact ⟨_, rfl, .two h2 hm hk⟩
      · cases hlead.symm.trans (lead?_three m hm)
        obtain ⟨k, r, hk, hklow, hkhigh, rfl⟩ := exists_of_continuation (by grind) (by grind) h
        rw [continuation_cons hklow hkhigh hk] at h ⊢
        obtain ⟨j, r, hj, hjlow, hjhigh, rfl⟩ := exists_of_continuation (by omega) (by omega) h
        rw [continuation_cons hjlow hjhigh hj, continuation] at h ⊢
        cases h
        exact ⟨_, rfl, .three hm hk hj (by grind) (by grind)⟩
      · cases hlead.symm.trans (lead?_four m hm)
        obtain ⟨k, r, hk, hklow, hkhigh, rfl⟩ := exists_of_continuation (by grind) (by grind) h
        rw [continuation_cons hklow hkhigh hk] at h ⊢
        obtain ⟨j, r, hj, hjlow, hjhigh, rfl⟩ := exists_of_continuation (by omega) (by omega) h
        rw [continuation_cons hjlow hjhigh hj] at h ⊢
        obtain ⟨i, r, hi, hilow, hihigh, rfl⟩ := exists_of_continuation (by omega) (by omega) h
        rw [continuation_cons hilow hihigh hi, continuation] at h ⊢
        cases h
        exact ⟨_, rfl, .four hm hk hj hi (by grind) (by grind)⟩

/-- The bytes of a character are read as that character. -/
theorem readsAs_encodeChar (c : Char) : ReadsAs next (encodeChar c) c := by
  have h := (isSequence_encodeChar c).readsAs
  rwa [Char.ofNat_toNat] at h

theorem forall₂_readsAs (s : List Char) :
    List.Forall₂ (ReadsAs next) (s.map encodeChar) s :=
  List.forall₂_map_left_iff.2 (List.forall₂_same.2 fun c _ => readsAs_encodeChar c)

theorem decodeLossy_encode (s : List Char) : decoder.decodeLossy (encode s) = s := by
  rw [encode, List.flatMap_def]
  exact Decoder.decodeLossy_flatten (forall₂_readsAs s)

/-- The bytes that are UTF-8 without a fault are those of texts, and they are decoded to them. -/
theorem decode_eq_ok_iff {bytes : List UInt8} {s : List Char} :
    decoder.decode bytes = .ok s ↔ bytes = encode s := by
  constructor
  · intro h
    refine Decoder.eq_flatMap_of_decodeFrom (fun b rest cs hcs => ?_) h
    obtain ⟨n, rfl, hn⟩ := exists_isSequence_of_next hcs
    have hc := isSequence_encodeChar (Char.ofNat n)
    rw [List.flatMap_singleton]
    exact hn.unique hc (toNat_ofNat_char hn.valid).symm
  · rintro rfl
    rw [encode, List.flatMap_def]
    exact Decoder.decodeFrom_flatten (forall₂_readsAs s) 0

end Utf8

end SqlTables.Bytes
