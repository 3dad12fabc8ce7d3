/-!
# UTF-8

Files and secrets are bytes; those that are UTF-8 stand for a text, and every text for its bytes.
-/

namespace BridgeLedger.Utf8

def encode (text : String) : List UInt8 := text.toUTF8.data.toList

def decode? (bytes : List UInt8) : Option String := String.fromUTF8? ⟨bytes.toArray⟩

theorem decode?_encode (text : String) : decode? (encode text) = some text := by
  have bytes : (⟨(encode text).toArray⟩ : ByteArray) = text.toUTF8 := rfl
  simp only [decode?, bytes, String.fromUTF8?]
  split
  · rfl
  · next h => exact absurd text.isValidUTF8 h

/-! ## One character after another -/

theorem encode_eq_flatMap (text : String) : encode text = text.toList.flatMap String.utf8EncodeChar := by
  rw [encode, String.toUTF8_eq_toByteArray, ← String.utf8Encode_toList, List.utf8Encode, List.toList_data_toByteArray]

theorem encodeChar_of_ascii {c : Char} (hc : c.toNat < 128) : String.utf8EncodeChar c = [c.toUInt8] := by
  have hone : c.utf8Size = 1 := by
    rw [Char.utf8Size_eq_one_iff, UInt32.le_iff_toNat_le]
    exact Nat.le_of_lt_succ hc
  exact String.utf8EncodeChar_eq_singleton hone

theorem flatMap_encodeChar_of_ascii : ∀ {text : List Char}, (∀ c ∈ text, c.toNat < 128) →
    text.flatMap String.utf8EncodeChar = text.map Char.toUInt8
  | [], _ => rfl
  | c :: rest, h => by
    obtain ⟨hc, hrest⟩ := List.forall_mem_cons.mp h
    rw [List.flatMap_cons, encodeChar_of_ascii hc, flatMap_encodeChar_of_ascii hrest]
    rfl

theorem ofUInt8_toUInt8 {c : Char} (hc : c.toNat < 128) : Char.ofUInt8 c.toUInt8 = c := by
  apply Char.ext
  apply UInt32.toNat_inj.mp
  show c.val.toUInt8.toUInt32.toNat = c.val.toNat
  rw [UInt8.toNat_toUInt32, UInt32.toNat_toUInt8]
  exact Nat.mod_eq_of_lt (Nat.lt_trans hc (by decide))

theorem exists_high_of_not_ascii {c : Char} (hc : 128 ≤ c.toNat) :
    ∃ b ∈ String.utf8EncodeChar c, 128 ≤ b.toNat := by
  have hone : c.utf8Size ≠ 1 := by
    rw [Ne, Char.utf8Size_eq_one_iff, UInt32.le_iff_toNat_le]
    exact Nat.not_le_of_lt hc
  have hsize : c.utf8Size = 2 ∨ c.utf8Size = 3 ∨ c.utf8Size = 4 := by
    have hpos := c.utf8Size_pos
    have hfour := c.utf8Size_le_four
    omega
  -- however many bytes there are, the last one is of this form
  refine ⟨c.val.toUInt8 &&& 63 ||| 128, ?_, ?_⟩
  · rcases hsize with h | h | h
    · simp [String.utf8EncodeChar_eq_cons_cons h]
    · simp [String.utf8EncodeChar_eq_cons_cons_cons h]
    · simp [String.utf8EncodeChar_eq_cons_cons_cons_cons h]
  · rw [UInt8.toNat_or]
    exact Nat.right_le_or

end BridgeLedger.Utf8
