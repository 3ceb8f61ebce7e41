import SqlTables.Bytes.Detection
import SqlTables.Proofs.Decoding

/-!
# Units of two bytes

UTF-16 writes a text as units of two bytes: one for a character below U+10000, two surrogates for
any other.  In either order of the bytes the text is read back (`Utf16.forall₂_readsAs`).  The other
order is that of the bytes exchanged in pairs (`Utf16.swapPairs_encode`), and the zeros among the
bytes are counted by the units (`Utf16.zerosByPlace_encode`).
-/

set_option autoImplicit false

namespace SqlTables.Bytes

namespace Utf16

variable {order : ByteOrder}

/-- The units of a character. -/
def unitsOf (c : Char) : List Nat :=
  let n := c.toNat
  if n < 0x10000 then [n]
  else [0xD800 + (n - 0x10000) / 0x400, 0xDC00 + (n - 0x10000) % 0x400]

/-- The units of a text. -/
def units (s : List Char) : List Nat := s.flatMap unitsOf

theorem encodeChar_eq (order : ByteOrder) (c : Char) :
    encodeChar order c = (unitsOf c).flatMap (encodeUnit order) := by
  simp only [encodeChar, unitsOf]
  split <;> simp

/-- The bytes of a text are those of its units. -/
theorem encode_eq (order : ByteOrder) (s : List Char) :
    encode order s = (units s).flatMap (encodeUnit order) := by
  rw [encode, units, List.flatMap_assoc]
  exact List.flatMap_congr fun c _ => encodeChar_eq order c

theorem lt_of_mem_units {n : Nat} {s : List Char} (h : n ∈ units s) : n < 0x10000 := by
  obtain ⟨c, _, hn⟩ := List.mem_flatMap.1 h
  have hscalar := toNat_cases c
  simp only [unitsOf] at hn
  split at hn <;> simp at hn <;> omega

/-! ## Reading units -/

/-- A unit is two bytes that make it up. -/
theorem exists_encodeUnit (order : ByteOrder) {n : Nat} (hn : n < 0x10000) :
    ∃ a b, encodeUnit order n = [a, b] ∧ unit order a b = n := by
  have hhigh : (UInt8.ofNat (n / 256)).toNat = n / 256 := toNat_ofNat_byte (by omega)
  have hlow : (UInt8.ofNat (n % 256)).toNat = n % 256 := toNat_ofNat_byte (by omega)
  cases order with
  | little => exact ⟨_, _, rfl, by rw [unit, hhigh, hlow]; omega⟩
  | big => exact ⟨_, _, rfl, by rw [unit, hhigh, hlow]; omega⟩

/-- The bytes of a character are read as that character. -/
theorem readsAs_encodeChar (order : ByteOrder) (c : Char) :
    ReadsAs (next order) (encodeChar order c) c := by
  intro rest
  have hscalar := toNat_cases c
  rw [encodeChar_eq, unitsOf]
  split
  · rename_i hn
    obtain ⟨a, b, hbytes, hunit⟩ := exists_encodeUnit order hn
    refine ⟨a, [b], by simp [hbytes], ?_⟩
    have hhigh : isHigh c.toNat = false := by grind [isHigh]
    have hlow : isLow c.toNat = false := by grind [isLow]
    simp [next, hunit, hhigh, hlow, Char.ofNat_toNat]
  · obtain ⟨a, b, hhigh, hm⟩ := exists_encodeUnit order
      (n := 0xD800 + (c.toNat - 0x10000) / 0x400) (by omega)
    obtain ⟨a', b', hlow, hm'⟩ := exists_encodeUnit order
      (n := 0xDC00 + (c.toNat - 0x10000) % 0x400) (by omega)
    refine ⟨a, [b, a', b'], by simp [hhigh, hlow], ?_⟩
    have hisHigh : isHigh (0xD800 + (c.toNat - 0x10000) / 0x400) = true := by grind [isHigh]
    have hisLow : isLow (0xDC00 + (c.toNat - 0x10000) % 0x400) = true := by grind [isLow]
    have hc : 0x10000 + (0xD800 + (c.toNat - 0x10000) / 0x400 - 0xD800) * 0x400 +
        (0xDC00 + (c.toNat - 0x10000) % 0x400 - 0xDC00) = c.toNat := by omega
    simp only [List.cons_append, List.nil_append, next, hm, hm', hisHigh, hisLow, if_true, hc,
      Char.ofNat_toNat, List.length_cons, List.length_nil]

theorem forall₂_readsAs (order : ByteOrder) (s : List Char) :
    List.Forall₂ (ReadsAs (next order)) (s.map (encodeChar order)) s :=
  List.forall₂_map_left_iff.2 (List.forall₂_same.2 fun c _ => readsAs_encodeChar order c)

theorem decodeLossy_encode (order : ByteOrder) (s : List Char) :
    (decoder order).decodeLossy (encode order s) = s := by
  rw [encode, List.flatMap_def]
  exact Decoder.decodeLossy_flatten (forall₂_readsAs order s)

/-! ## The other order -/

/-- The bytes with the two of each pair exchanged. -/
def swapPairs : List UInt8 → List UInt8
  | a :: b :: rest => b :: a :: swapPairs rest
  | short => short

theorem length_swapPairs (bytes : List UInt8) : (swapPairs bytes).length = bytes.length := by
  fun_induction swapPairs bytes with
  | case1 a b rest ih => rw [List.length_cons, List.length_cons, ih]; rfl
  | case2 => rfl

/-- Bytes exchanged in pairs have their zeros at the other places. -/
theorem zerosByPlace_swapPairs {bytes : List UInt8} (h : bytes.length % 2 = 0) :
    Detected.zerosByPlace (swapPairs bytes) = (Detected.zerosByPlace bytes).swap := by
  fun_induction swapPairs bytes with
  | case1 a b rest ih =>
    have hrest : rest.length % 2 = 0 := by
      rw [List.length_cons, List.length_cons] at h
      omega
    rw [Detected.zerosByPlace, ih hrest, Detected.zerosByPlace]
    rfl
  | case2 short hshort =>
    cases short with
    | nil => rfl
    | cons a rest =>
      cases rest with
      | nil => simp at h
      | cons b rest => exact absurd rfl (hshort a b rest)

/-- The bytes of a text in one order are those in the other, exchanged in pairs. -/
theorem swapPairs_encode_little (s : List Char) :
    swapPairs (encode .little s) = encode .big s := by
  rw [encode_eq, encode_eq]
  induction units s with
  | nil => rfl
  | cons n ns ih =>
    rw [List.flatMap_cons, List.flatMap_cons, ← ih]
    rfl

/-! ## Zeros among the bytes -/

theorem length_encode (order : ByteOrder) (s : List Char) :
    (encode order s).length = 2 * (units s).length := by
  rw [encode_eq]
  induction units s with
  | nil => rfl
  | cons n ns ih =>
    have hunit : (encodeUnit order n).length = 2 := by cases order <;> rfl
    rw [List.flatMap_cons, List.length_append, ih, hunit, List.length_cons]
    omega

/-- In little order the zeros at even places are those of units with a zero low byte, and the zeros
at odd places those of units below 256. -/
theorem zerosByPlace_encode_little (s : List Char) :
    Detected.zerosByPlace (encode .little s) =
      ((units s).countP (· % 256 = 0), (units s).countP (· < 256)) := by
  have hunits : ∀ n ∈ units s, n < 0x10000 := fun n => lt_of_mem_units
  rw [encode_eq]
  generalize units s = ns at hunits ⊢
  induction ns with
  | nil => rfl
  | cons n ns ih =>
    obtain ⟨hn, hns⟩ := List.forall_mem_cons.1 hunits
    have hlow : UInt8.ofNat (n % 256) = 0 ↔ n % 256 = 0 := ofNat_byte_eq_zero_iff (by omega)
    have hhigh : UInt8.ofNat (n / 256) = 0 ↔ n < 256 := by
      rw [ofNat_byte_eq_zero_iff (by omega)]
      omega
    rw [List.flatMap_cons, List.countP_cons, List.countP_cons]
    simp only [encodeUnit, List.cons_append, List.nil_append, Detected.zerosByPlace, ih hns, hlow,
      hhigh, decide_eq_true_eq]
    grind

end Utf16

end SqlTables.Bytes
