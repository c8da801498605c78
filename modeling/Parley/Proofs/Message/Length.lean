import Parley.Proofs.Bytes.RoundTrip
import Parley.SharedKey.State

/-!
How long messages are when they are written. A proof and every refusal fit, and so does the refusal
of a user whose hello has fitted, and the choice of a protocol whose offer has fitted.
-/

namespace Parley

theorem Hmac.length_tag (key message : Bytes) : (Hmac.tag key message).length = 32 := by
  have hashed (text : Bytes) : (Sha256.hash text).length = 32 := by
    simp [Sha256.hash, Bytes.length_word32]
  exact hashed _

namespace Json

def utf8Length (text : List Char) : Nat := (text.flatMap String.utf8EncodeChar).length

theorem utf8Length_cons (char : Char) (text : List Char) :
    utf8Length (char :: text) = char.utf8Size + utf8Length text := by
  rw [utf8Length, List.flatMap_cons, List.length_append, String.length_utf8EncodeChar]
  rfl

theorem utf8Length_append (first second : List Char) :
    utf8Length (first ++ second) = utf8Length first + utf8Length second := by
  rw [utf8Length, List.flatMap_append, List.length_append]
  rfl

/-- The number of bytes of a text inside a JSON string. -/
def written (text : String) : Nat := utf8Length (text.toList.flatMap escapeChar)

theorem written_append (first second : String) :
    written (first ++ second) = written first + written second := by
  rw [written, String.toList_append, List.flatMap_append, utf8Length_append]
  rfl

theorem utf8Length_quoteChars (text : String) :
    utf8Length (quoteChars text.toList) = written text + 2 := by
  have quote : utf8Length ['"'] = 1 := by decide
  rw [quoteChars, List.cons_append, utf8Length_cons, utf8Length_append, quote, ← written]
  have opening : Char.utf8Size '"' = 1 := by decide
  omega

def fieldsLength (fields : List (String × Json)) : Nat := utf8Length (fieldChars fields)

theorem fieldsLength_one (name : String) (value : Json) :
    fieldsLength [(name, value)] = written name + 3 + utf8Length (chars value) := by
  have colon : Char.utf8Size ':' = 1 := by decide
  rw [fieldsLength, fieldChars, utf8Length_append, utf8Length_cons, utf8Length_quoteChars, colon]
  omega

theorem fieldsLength_cons (name : String) (value : Json) {fields : List (String × Json)}
    (more : fields ≠ []) :
    fieldsLength ((name, value) :: fields) =
      written name + 4 + utf8Length (chars value) + fieldsLength fields := by
  obtain ⟨second, rest, rfl⟩ := List.exists_cons_of_ne_nil more
  have colon : Char.utf8Size ':' = 1 := by decide
  have comma : Char.utf8Size ',' = 1 := by decide
  rw [fieldsLength, fieldChars]
  simp only [utf8Length_append, utf8Length_cons, utf8Length_quoteChars, colon, comma, fieldsLength]
  omega

theorem utf8Length_string (text : String) : utf8Length (chars (.string text)) = written text + 2 := by
  rw [chars, utf8Length_quoteChars]

theorem utf8Length_item {text : String} {texts : List String} (listed : text ∈ texts) :
    utf8Length (chars (.string text)) ≤ utf8Length (itemChars (texts.map .string)) := by
  induction texts with
  | nil => cases listed
  | cons first texts ih =>
      have room : utf8Length (chars (.string first)) ≤
            utf8Length (itemChars ((first :: texts).map .string)) ∧
          utf8Length (itemChars (texts.map .string)) ≤
            utf8Length (itemChars ((first :: texts).map .string)) := by
        cases texts with
        | nil => exact ⟨Nat.le_refl _, Nat.zero_le _⟩
        | cons second texts =>
            simp only [List.map_cons, itemChars, utf8Length_append, utf8Length_cons]
            omega
      rcases List.mem_cons.mp listed with rfl | later
      · exact room.1
      · exact Nat.le_trans (ih later) room.2

end Json

namespace Hex

theorem escapeChar_digit (value : Nat) (small : value < 16) :
    Json.escapeChar (digit value) = [digit value] ∧ (digit value).utf8Size = 1 := by
  have every : ∀ value < 16,
      Json.escapeChar (digit value) = [digit value] ∧ (digit value).utf8Size = 1 := by decide
  exact every value small

theorem written_encode (bytes : Bytes) : Json.written (encode bytes) = 2 * bytes.length := by
  rw [Json.written, encode, String.toList_ofList]
  induction bytes with
  | nil => rfl
  | cons byte bytes ih =>
      have bounded := byte.toNat_lt
      obtain ⟨high, highSize⟩ := escapeChar_digit (byte.toNat / 16) (by omega)
      obtain ⟨low, lowSize⟩ := escapeChar_digit (byte.toNat % 16) (by omega)
      simp only [List.flatMap_cons, byteDigits, List.flatMap_append, List.flatMap_nil, high, low,
        Json.utf8Length_append, Json.utf8Length_cons, ih, highSize, lowSize, List.length_cons,
        List.append_nil]
      simp [Json.utf8Length]
      omega

end Hex

namespace Message

open Json

theorem length_body (message : Message) :
    message.body.length = written message.name + 12 + fieldsLength message.fields := by
  have opening : Char.utf8Size '\x7b' = 1 := by decide
  have closing : utf8Length ['\x7d'] = 1 := by decide
  have type : written "type" = 4 := by decide
  have someField : message.fields ≠ [] := by
    cases message with
    | challenge server nonce tag => cases tag <;> simp [fields]
    | _ => simp [fields]
  have whole : message.body.length = utf8Length (chars message.toJson) := by
    rw [body, Bytes.ofText, render, String.toList_ofList]
    rfl
  rw [whole, toJson, chars, List.cons_append, utf8Length_cons, utf8Length_append, opening, closing,
    ← fieldsLength, fieldsLength_cons _ _ someField, utf8Length_string, type]
  omega

theorem length_hello (protocol user : String) (nonce : Bytes) :
    (Message.hello protocol user nonce).body.length =
      written protocol + written user + written (Hex.encode nonce) + 51 := by
  have type : written "hello" = 5 := by decide
  have first : written "protocol" = 8 := by decide
  have second : written "user" = 4 := by decide
  have third : written "nonce" = 5 := by decide
  rw [length_body, name, fields, fieldsLength_cons _ _ (by simp), fieldsLength_cons _ _ (by simp),
    fieldsLength_one, bytesJson]
  simp only [utf8Length_string, type, first, second, third]
  omega

theorem length_challenge (server : String) (nonce : Bytes) (tag : Option Bytes) :
    (Message.challenge server nonce tag).body.length ≤
      written server + written (Hex.encode nonce) + written (Hex.encode (tag.getD [])) + 64 := by
  have type : written "challenge" = 9 := by decide
  have first : written "server" = 6 := by decide
  have second : written "nonce" = 5 := by decide
  have third : written "proof" = 5 := by decide
  cases tag with
  | none =>
      rw [length_body, name, fields, fieldsLength_cons _ _ (by simp), fieldsLength_one, bytesJson]
      simp only [utf8Length_string, type, first, second]
      omega
  | some tag =>
      rw [length_body, name, fields, fieldsLength_cons _ _ (by simp),
        fieldsLength_cons _ _ (by simp), fieldsLength_one, bytesJson, bytesJson]
      simp only [utf8Length_string, type, first, second, third, Option.getD_some]
      omega

theorem length_verdict (accepted : Bool) (reason : String) :
    (Message.verdict accepted reason).body.length ≤ written reason + 47 := by
  have type : written "verdict" = 7 := by decide
  have first : written "accepted" = 8 := by decide
  have second : written "reason" = 6 := by decide
  have flag : utf8Length (chars (.bool accepted)) ≤ 5 := by cases accepted <;> decide
  rw [length_body, name, fields, fieldsLength_cons _ _ (by simp), fieldsLength_one]
  simp only [utf8Length_string, type, first, second]
  omega

theorem length_proof (tag : Bytes) :
    (Message.proof tag).body.length = written (Hex.encode tag) + 27 := by
  have type : written "proof" = 5 := by decide
  rw [length_body, name, fields, fieldsLength_one, bytesJson]
  simp only [utf8Length_string, type]
  omega

theorem fits_noKey {protocol user : String} {nonce : Bytes}
    (fits : (Message.hello protocol user nonce).body.length ≤ longestBody)
    (sized : nonce.length = nonceLength) :
    (Message.verdict false (Refusal.noKey user).text).body.length ≤ longestBody := by
  have wording : written (Refusal.noKey user).text = 16 + written user := by
    have opening : written "no key for user " = 16 := by decide
    rw [← opening, ← written_append]
    rfl
  have hello := length_hello protocol user nonce
  have refusal := length_verdict false (Refusal.noKey user).text
  rw [Hex.written_encode, sized] at hello
  have length : nonceLength = 16 := rfl
  omega

theorem fits_fixed (refusal : Refusal)
    (fixed : refusal ∈ [.emptyUser, .wrongClientProof, .noServerProof, .wrongServerProof]) :
    (Message.verdict false refusal.text).body.length ≤ longestBody := by
  have short : written refusal.text ≤ 100 := by
    revert refusal
    decide
  have length := length_verdict false refusal.text
  have longest : longestBody = 2048 := rfl
  omega

theorem fits_otherProtocol (requested spoken : Variant) :
    (Message.verdict false (Refusal.otherProtocol requested.protocol spoken.protocol).text).body.length
      ≤ longestBody := by
  have short : written (Refusal.otherProtocol requested.protocol spoken.protocol).text ≤ 100 := by
    cases requested <;> cases spoken <;> decide
  have length :=
    length_verdict false (Refusal.otherProtocol requested.protocol spoken.protocol).text
  have longest : longestBody = 2048 := rfl
  omega

theorem fits_acceptance : (Message.verdict true "").body.length ≤ longestBody := by
  have nothing : written "" = 0 := by decide
  have length := length_verdict true ""
  have longest : longestBody = 2048 := rfl
  omega

theorem fits_proof {tag : Bytes} (short : tag.length ≤ 32) :
    (Message.proof tag).body.length ≤ longestBody := by
  have proof := length_proof tag
  rw [Hex.written_encode] at proof
  have longest : longestBody = 2048 := rfl
  omega

theorem fits_choice {protocols : List String} {choice : String}
    (fits : (Message.offer protocols).body.length ≤ longestBody)
    (listed : choice ∈ protocols ∨ choice = "") :
    (Message.choice choice).body.length ≤ longestBody := by
  have offer : written "offer" = 5 := by decide
  have protocolsName : written "protocols" = 9 := by decide
  have choiceName : written "choice" = 6 := by decide
  have protocolName : written "protocol" = 8 := by decide
  have nothing : written "" = 0 := by decide
  have longest : longestBody = 2048 := rfl
  have room : utf8Length (chars (.list (protocols.map .string))) =
      utf8Length (itemChars (protocols.map .string)) + 2 := by
    have opening : Char.utf8Size '[' = 1 := by decide
    have closing : utf8Length [']'] = 1 := by decide
    rw [chars, List.cons_append, utf8Length_cons, utf8Length_append, opening, closing]
    omega
  rw [length_body, name, fields, fieldsLength_one, room, offer, protocolsName] at fits
  rw [length_body, name, fields, fieldsLength_one, choiceName, protocolName]
  rcases listed with listed | rfl
  · have item := utf8Length_item listed
    omega
  · rw [utf8Length_string, nothing]
    omega

end Message

end Parley
