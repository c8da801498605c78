import Parley.Proofs.Bytes.RoundTrip
import Parley.SharedKey.Transcript

/-!
Transcripts are read back from their bytes. Each part stands after its length, so two transcripts
with the same bytes are the same, as long as no length but the last is too large for its word.
-/

namespace Parley

namespace Bytes

theorem eq_of_word16_append {first second before after : Bytes} (small : first.length < 65536)
    (small' : second.length < 65536)
    (same : word16 first.length ++ first ++ before = word16 second.length ++ second ++ after) :
    first = second ∧ before = after := by
  rw [List.append_assoc, List.append_assoc] at same
  obtain ⟨words, rest⟩ := List.append_inj same rfl
  have lengths : first.length = second.length := by
    rw [← number_word16 small, words, number_word16 small']
  exact List.append_inj rest lengths

theorem ofText_injective {first second : String} (same : ofText first = ofText second) :
    first = second := by
  have read := text_ofText first
  rw [same, text_ofText] at read
  exact (Option.some.inj read).symm

end Bytes

theorem Variant.protocol_injective {first second : Variant}
    (same : first.protocol = second.protocol) : first = second := by
  cases first <;> cases second <;> first | rfl | simp [protocol] at same

theorem Purpose.label_injective {first second : Purpose} (same : first.label = second.label) :
    first = second := by
  cases first <;> cases second <;> first | rfl | simp [label] at same

theorem Variant.length_ofText_protocol (variant : Variant) :
    (Bytes.ofText variant.protocol).length = 5 := by
  cases variant <;> decide

theorem Purpose.length_ofText_label (purpose : Purpose) :
    (Bytes.ofText purpose.label).length < 65536 := by
  cases purpose <;> decide

namespace Transcript

/-- Nonces that fit their length words; the other parts but the user always do. -/
structure Framed (transcript : Transcript) : Prop where
  first : transcript.first.length < 65536
  second : transcript.second.length < 65536

theorem encode_eq (transcript : Transcript) :
    transcript.encode =
      Bytes.word16 (Bytes.ofText transcript.variant.protocol).length ++
          Bytes.ofText transcript.variant.protocol ++
        (Bytes.word16 (Bytes.ofText transcript.purpose.label).length ++
            Bytes.ofText transcript.purpose.label ++
          (Bytes.word16 transcript.first.length ++ transcript.first ++
            (Bytes.word16 transcript.second.length ++ transcript.second ++
              (Bytes.word16 (Bytes.ofText transcript.user).length ++
                Bytes.ofText transcript.user)))) := by
  rw [encode, parts]
  simp only [List.flatMap_cons, List.flatMap_nil, List.append_nil]

/-- Nothing about the users is assumed: a user is the last part, and its text is what is left. -/
theorem eq_of_encode_eq {one other : Transcript} (framed : one.Framed) (framed' : other.Framed)
    (same : one.encode = other.encode) : one = other := by
  rw [encode_eq, encode_eq] at same
  have protocol (variant : Variant) : (Bytes.ofText variant.protocol).length < 65536 := by
    rw [variant.length_ofText_protocol]
    decide
  obtain ⟨protocols, same⟩ := Bytes.eq_of_word16_append (protocol _) (protocol _) same
  obtain ⟨labels, same⟩ := Bytes.eq_of_word16_append (Purpose.length_ofText_label _)
    (Purpose.length_ofText_label _) same
  obtain ⟨firsts, same⟩ := Bytes.eq_of_word16_append framed.first framed'.first same
  obtain ⟨seconds, same⟩ := Bytes.eq_of_word16_append framed.second framed'.second same
  have users := (List.append_inj same rfl).2
  obtain ⟨variant, purpose, first, second, user⟩ := one
  obtain rfl := Variant.protocol_injective (Bytes.ofText_injective protocols)
  obtain rfl := Purpose.label_injective (Bytes.ofText_injective labels)
  obtain rfl : first = other.first := firsts
  obtain rfl : second = other.second := seconds
  obtain rfl : user = other.user := Bytes.ofText_injective users
  rfl

end Transcript

end Parley
