/-
  JsonSchema.Proofs.ByteOrder — texts in the order of their bytes.

  Texts are compared character by character. A greater character has a greater byte where its
  bytes first differ from those of a smaller one, so that the order of two texts is also the order
  of their bytes.

  Statements:
  - `bytes_lt_of_char_lt`: what starts with a smaller character has smaller bytes, whatever follows.
  - `ofText_lt_iff`: one text stands before another just when its bytes do.
-/

import JsonSchema.Json.Basic
import JsonSchema.Text.Bytes

namespace JsonSchema.Bytes

theorem toList_loop (bytes : ByteArray) (i : Nat) (before : List UInt8) :
    ByteArray.toList.loop bytes i before = before.reverse ++ bytes.data.toList.drop i := by
  rw [ByteArray.toList.loop]
  split
  · rename_i inside
    have within : i < bytes.data.toList.length := by simpa [← ByteArray.size_data] using inside
    rw [toList_loop bytes (i + 1) _, List.drop_eq_getElem_cons within]
    simp [ByteArray.get!, getElem!_pos bytes.data i inside]
  · rename_i beyond
    have past : bytes.data.toList.length ≤ i := by simpa [← ByteArray.size_data] using beyond
    rw [List.drop_eq_nil_of_le past, List.append_nil]
termination_by bytes.size - i

/-- The bytes of a text are those of its characters. -/
theorem ofText_eq_flatMap (text : String) : ofText text = text.toList.flatMap String.utf8EncodeChar := by
  have bytes : text.toUTF8 = (text.toList.flatMap String.utf8EncodeChar).toByteArray :=
    String.utf8Encode_toList.symm
  unfold ofText
  rw [bytes, ByteArray.toList, toList_loop]
  simp

theorem byte_lt_iff {m n : Nat} : UInt8.ofNat m < UInt8.ofNat n ↔ m % 256 < n % 256 := by
  rw [UInt8.lt_iff_toNat_lt, UInt8.toNat_ofNat', UInt8.toNat_ofNat']

theorem byte_eq_iff {m n : Nat} : UInt8.ofNat m = UInt8.ofNat n ↔ m % 256 = n % 256 := by
  rw [← UInt8.toNat_inj, UInt8.toNat_ofNat', UInt8.toNat_ofNat']

/-- The bytes of a character, by the number of them; its digits to the base 64 stand in them. -/
theorem encode_cases (c : Char) : ∃ x y z w : Nat, c.val.toNat = 262144 * x + 4096 * y + 64 * z + w ∧
    y < 64 ∧ z < 64 ∧ w < 64 ∧
    ((x = 0 ∧ y = 0 ∧ z < 2 ∧ String.utf8EncodeChar c = [.ofNat (64 * z + w)]) ∨
      (x = 0 ∧ y = 0 ∧ 2 ≤ z ∧ z < 32 ∧ String.utf8EncodeChar c = [.ofNat (z + 192), .ofNat (w + 128)]) ∨
      (x = 0 ∧ 2048 ≤ 4096 * y + 64 * z ∧ y < 16 ∧
        String.utf8EncodeChar c = [.ofNat (y + 224), .ofNat (z + 128), .ofNat (w + 128)]) ∨
      (65536 ≤ 262144 * x + 4096 * y ∧ x < 8 ∧
        String.utf8EncodeChar c = [.ofNat (x + 240), .ofNat (y + 128), .ofNat (z + 128), .ofNat (w + 128)])) := by
  have last : c.val.toNat < 1114112 := by
    have := c.valid
    unfold UInt32.isValidChar Nat.isValidChar at this
    omega
  unfold String.utf8EncodeChar
  simp only
  generalize c.val.toNat = n at last
  refine ⟨n / 262144, n / 4096 % 64, n / 64 % 64, n % 64, by omega, by omega, by omega, by omega, ?_⟩
  split
  · refine Or.inl ⟨by omega, by omega, by omega, ?_⟩
    rw [show 64 * (n / 64 % 64) + n % 64 = n by omega]
  · split
    · refine Or.inr (Or.inl ⟨by omega, by omega, by omega, by omega, ?_⟩)
      rw [show n / 64 % 32 = n / 64 % 64 by omega]
    · split
      · refine Or.inr (Or.inr (Or.inl ⟨by omega, by omega, by omega, ?_⟩))
        rw [show n / 4096 % 16 = n / 4096 % 64 by omega]
      · refine Or.inr (Or.inr (Or.inr ⟨by omega, by omega, ?_⟩))
        rw [show n / 262144 % 8 = n / 262144 by omega]

/-- What starts with a smaller character has smaller bytes, whatever follows. -/
theorem bytes_lt_of_char_lt {c d : Char} (h : c < d) (rest rest' : List UInt8) :
    String.utf8EncodeChar c ++ rest < String.utf8EncodeChar d ++ rest' := by
  have less : c.val.toNat < d.val.toNat := h
  obtain ⟨x, y, z, w, hc, hy, hz, hw, bytes⟩ := encode_cases c
  obtain ⟨x', y', z', w', hd, hy', hz', hw', bytes'⟩ := encode_cases d
  rw [hc, hd] at less
  -- one pair of lengths after the other; the smaller character is not the longer one
  rcases bytes with ⟨h1, h2, h3, e⟩ | ⟨h1, h2, h3, h4, e⟩ | ⟨h1, h2, h3, e⟩ | ⟨h1, h2, e⟩ <;>
    rcases bytes' with ⟨k1, k2, k3, e'⟩ | ⟨k1, k2, k3, k4, e'⟩ | ⟨k1, k2, k3, e'⟩ | ⟨k1, k2, e'⟩ <;>
    simp only [e, e', List.cons_append, List.cons_lt_cons_iff, byte_lt_iff, byte_eq_iff] <;>
    omega

theorem flatMap_lt_of_lt {a b : List Char} (h : a < b) :
    a.flatMap String.utf8EncodeChar < b.flatMap String.utf8EncodeChar := by
  induction b generalizing a with
  | nil => cases h
  | cons d rest' ih =>
    cases a with
    | nil =>
      rw [List.flatMap_cons]
      have some : String.utf8EncodeChar d ≠ [] := String.utf8EncodeChar_ne_nil
      cases bytes : String.utf8EncodeChar d with
      | nil => exact absurd bytes some
      | cons b _ => exact List.nil_lt_cons _ _
    | cons c rest =>
      rw [List.flatMap_cons, List.flatMap_cons]
      rcases List.cons_lt_cons_iff.mp h with first | ⟨rfl, later⟩
      · exact bytes_lt_of_char_lt first _ _
      · exact List.append_left_lt (ih later)

/-- One text stands before another just when its bytes do. -/
theorem ofText_lt_iff {a b : String} : ofText a < ofText b ↔ a < b := by
  have bytes_lt {a b : String} (h : a < b) : ofText a < ofText b := by
    rw [ofText_eq_flatMap, ofText_eq_flatMap]
    exact flatMap_lt_of_lt (String.lt_iff.mp h)
  refine ⟨fun h => ?_, bytes_lt⟩
  by_cases less : a < b
  · exact less
  · by_cases same : a = b
    · subst same
      exact absurd h (List.lt_irrefl _)
    · exact absurd h (List.lt_asymm (bytes_lt (Json.lt_of_not_lt less same)))

end JsonSchema.Bytes
