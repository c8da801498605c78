import Parley.Proofs.Message.Length

/-!
Bytes that differ only in proofs: what two messages come to that are the same but for their tags.
-/

namespace Parley

namespace Json

def utf8 (chars : List Char) : Bytes := chars.flatMap String.utf8EncodeChar

theorem utf8_append (first second : List Char) :
    utf8 (first ++ second) = utf8 first ++ utf8 second := List.flatMap_append

end Json

def proofLabel : Bytes := Bytes.ofText "\"proof\":\""

/--
Two byte strings that are the same but for the hexadecimal text of proof fields. It is as long in the
one as in the other.
-/
inductive Veiled : Bytes → Bytes → Prop
  | nil : Veiled [] []
  | byte {first second : Bytes} (byte : UInt8) (later : Veiled first second) :
      Veiled (byte :: first) (byte :: second)
  | proof {first second : Bytes} (tag other : Bytes) (sized : tag.length = other.length)
      (later : Veiled first second) :
      Veiled (proofLabel ++ (Bytes.ofText (Hex.encode tag) ++ first))
        (proofLabel ++ (Bytes.ofText (Hex.encode other) ++ second))

namespace Hex

theorem escape_encode (bytes : Bytes) :
    (encode bytes).toList.flatMap Json.escapeChar = (encode bytes).toList := by
  rw [encode, String.toList_ofList]
  induction bytes with
  | nil => rfl
  | cons byte bytes ih =>
      have bounded := byte.toNat_lt
      have high := (escapeChar_digit (byte.toNat / 16) (by omega)).1
      have low := (escapeChar_digit (byte.toNat % 16) (by omega)).1
      simp only [List.flatMap_cons, List.flatMap_append, byteDigits, List.flatMap_nil, high, low, ih]
      rfl

end Hex

namespace Veiled

variable {first second third fourth : Bytes}

theorem refl (bytes : Bytes) : Veiled bytes bytes := by
  induction bytes with
  | nil => exact .nil
  | cons byte bytes ih => exact .byte byte ih

theorem append (veiled : Veiled first second) (later : Veiled third fourth) :
    Veiled (first ++ third) (second ++ fourth) := by
  induction veiled with
  | nil => exact later
  | byte byte _ ih => exact .byte byte ih
  | proof tag other sized _ ih =>
      simp only [List.append_assoc]
      exact .proof tag other sized ih

theorem length_eq (veiled : Veiled first second) : first.length = second.length := by
  induction veiled with
  | nil => rfl
  | byte byte _ ih => rw [List.length_cons, List.length_cons, ih]
  | proof tag other sized _ ih =>
      simp only [List.length_append, Hex.length_ofText_encode, sized, ih]

def Cut (first second : Bytes) : Prop :=
  first.length = second.length ∧ ∃ rest others, Veiled (first ++ rest) (second ++ others)

theorem cut (veiled : Veiled (first ++ third) (second ++ fourth))
    (sized : first.length = second.length) : Cut first second :=
  ⟨sized, third, fourth, veiled⟩

end Veiled

namespace Message

open Json

theorem veiled_closing (opening closing : List Char) {tag other : Bytes}
    (sized : tag.length = other.length) :
    Veiled (utf8 (opening ++ (quoteChars "proof".toList ++ ':' :: chars (bytesJson tag)) ++ closing))
      (utf8 (opening ++ (quoteChars "proof".toList ++ ':' :: chars (bytesJson other)) ++
        closing)) := by
  have split (tag : Bytes) :
      utf8 (opening ++ (quoteChars "proof".toList ++ ':' :: chars (bytesJson tag)) ++ closing) =
        utf8 opening ++ (proofLabel ++ (Bytes.ofText (Hex.encode tag) ++ utf8 ('"' :: closing))) := by
    have label : proofLabel = utf8 (quoteChars "proof".toList ++ [':', '"']) := by decide
    have text : Bytes.ofText (Hex.encode tag) = utf8 (Hex.encode tag).toList := rfl
    rw [label, text, bytesJson, chars]
    simp only [quoteChars, Hex.escape_encode, ← utf8_append]
    simp
  rw [split, split]
  exact (Veiled.refl _).append (.proof tag other sized (.refl _))

theorem veiled_proof {tag other : Bytes} (sized : tag.length = other.length) :
    Veiled (Message.proof tag).body (Message.proof other).body := by
  have split (tag : Bytes) : (Message.proof tag).body =
      utf8 (('\x7b' :: quoteChars "type".toList ++ ':' :: chars (.string "proof") ++ [',']) ++
        (quoteChars "proof".toList ++ ':' :: chars (bytesJson tag)) ++ ['\x7d']) := by
    rw [body, Bytes.ofText, render, String.toList_ofList, utf8]
    simp [toJson, chars, fields, fieldChars, name]
  rw [split, split]
  exact veiled_closing _ _ sized

theorem veiled_challenge (server : String) (nonce : Bytes) {tag other : Bytes}
    (sized : tag.length = other.length) :
    Veiled (Message.challenge server nonce (some tag)).body
      (Message.challenge server nonce (some other)).body := by
  have split (tag : Bytes) : (Message.challenge server nonce (some tag)).body =
      utf8 (('\x7b' :: quoteChars "type".toList ++ ':' :: chars (.string "challenge") ++ ',' ::
          (quoteChars "server".toList ++ ':' :: chars (.string server)) ++ ',' ::
          (quoteChars "nonce".toList ++ ':' :: chars (bytesJson nonce)) ++ [',']) ++
        (quoteChars "proof".toList ++ ':' :: chars (bytesJson tag)) ++ ['\x7d']) := by
    rw [body, Bytes.ofText, render, String.toList_ofList, utf8]
    simp [toJson, chars, fields, fieldChars, name]
  rw [split, split]
  exact veiled_closing _ _ sized

theorem encode_veiled {first second : Message} (named : first.name = second.name)
    (veiled : Veiled first.body second.body) :
    (∃ fault, first.encode = .error fault ∧ second.encode = .error fault) ∨
      ∃ bytes others, first.encode = .ok bytes ∧ second.encode = .ok others ∧
        Veiled bytes others := by
  have sized := veiled.length_eq
  rw [encode, encode]
  rw [← sized, ← named]
  split
  · exact Or.inl ⟨_, rfl, rfl⟩
  · exact Or.inr ⟨_, _, rfl, rfl, (Veiled.refl _).append veiled⟩

end Message

end Parley
