import Parley.Bytes.Hex

/-! Numbers, text and hexadecimal text read back from their bytes. -/

namespace Parley

namespace Bytes

theorem text_ofText (text : String) : text? (ofText text) = some text := by
  have same : ByteArray.mk (ofText text).toArray = text.toByteArray := by
    rw [← String.utf8Encode_toList, List.utf8Encode, ofText]
    apply ByteArray.ext
    simp
  rw [text?, same, String.fromUTF8?, dif_pos text.isValidUTF8]
  rfl

theorem ofText_of_text? {bytes : Bytes} {text : String} (read : text? bytes = some text) :
    ofText text = bytes := by
  rw [text?, String.fromUTF8?] at read
  split at read
  · rename_i valid
    cases read
    let text := String.fromUTF8 (ByteArray.mk bytes.toArray) valid
    have encoded : text.toList.utf8Encode = text.toByteArray := String.utf8Encode_toList
    have data : text.toList.flatMap String.utf8EncodeChar = text.toByteArray.data.toList := by
      simpa [List.utf8Encode] using congrArg (fun array => array.data.toList) encoded
    exact data
  · cases read

theorem length_ofText (text : String) :
    text.toList.length ≤ (ofText text).length ∧
      (ofText text).length ≤ 4 * text.toList.length := by
  rw [ofText]
  induction text.toList with
  | nil => exact ⟨Nat.le_refl _, Nat.le_refl _⟩
  | cons char chars ih =>
      have someBytes := char.utf8Size_pos
      have fewBytes := char.utf8Size_le_four
      simp only [List.flatMap_cons, List.length_append, List.length_cons,
        String.length_utf8EncodeChar]
      omega

theorem number_word32 {length : Nat} (small : length < 4294967296) :
    number (word32 length) = length := by
  simp only [number, word32, word16, List.cons_append, List.nil_append, List.foldl_cons,
    List.foldl_nil, UInt8.toNat_ofNat']
  omega

theorem number_word16 {length : Nat} (small : length < 65536) : number (word16 length) = length := by
  simp only [number, word16, List.foldl_cons, List.foldl_nil, UInt8.toNat_ofNat']
  omega

end Bytes

namespace Hex

theorem utf8_digit (value : Nat) (small : value < 16) :
    ∃ code : UInt8, String.utf8EncodeChar (digit value) = [code] ∧
      digitValue code.toNat = some value := by
  have every : ∀ value < 16, ∃ code ∈ (String.utf8EncodeChar (digit value)).head?,
      String.utf8EncodeChar (digit value) = [code] ∧ digitValue code.toNat = some value := by
    decide
  obtain ⟨code, _, encoded⟩ := every value small
  exact ⟨code, encoded⟩

theorem utf8_byteDigits (byte : UInt8) :
    ∃ high low : UInt8, (byteDigits byte).flatMap String.utf8EncodeChar = [high, low] ∧
      digitValue high.toNat = some (byte.toNat / 16) ∧
      digitValue low.toNat = some (byte.toNat % 16) := by
  have bounded := byte.toNat_lt
  obtain ⟨high, highCode, highValue⟩ := utf8_digit (byte.toNat / 16) (by omega)
  obtain ⟨low, lowCode, lowValue⟩ := utf8_digit (byte.toNat % 16) (by omega)
  refine ⟨high, low, ?_, highValue, lowValue⟩
  simp [byteDigits, highCode, lowCode]

theorem ofText_encode (bytes : Bytes) :
    Bytes.ofText (encode bytes) =
      bytes.flatMap fun byte => (byteDigits byte).flatMap String.utf8EncodeChar := by
  simp only [Bytes.ofText, encode, String.toList_ofList, List.flatMap_assoc]

theorem length_ofText_encode (bytes : Bytes) :
    (Bytes.ofText (encode bytes)).length = 2 * bytes.length := by
  rw [ofText_encode]
  induction bytes with
  | nil => rfl
  | cons byte bytes ih =>
      obtain ⟨high, low, digits, _, _⟩ := utf8_byteDigits byte
      simp only [List.flatMap_cons, digits, List.length_append, List.length_cons, List.length_nil,
        ih]
      omega

theorem decodePairs_encode (bytes : Bytes) (position : Nat) :
    decodePairs position (Bytes.ofText (encode bytes)) = .ok bytes := by
  rw [ofText_encode]
  induction bytes generalizing position with
  | nil => rfl
  | cons byte bytes ih =>
      obtain ⟨high, low, digits, highValue, lowValue⟩ := utf8_byteDigits byte
      have whole : UInt8.ofNat (byte.toNat / 16 * 16 + byte.toNat % 16) = byte := by
        rw [Nat.div_add_mod', UInt8.ofNat_toNat]
      simp only [List.flatMap_cons, digits, List.cons_append, List.nil_append, decodePairs,
        highValue, lowValue, ih, whole]

theorem decode_encode (bytes : Bytes) : decode (encode bytes) = .ok bytes := by
  have even : (Bytes.ofText (encode bytes)).length % 2 = 0 := by
    rw [length_ofText_encode]
    omega
  simp only [decode, even, if_true, decodePairs_encode]

end Hex

end Parley
