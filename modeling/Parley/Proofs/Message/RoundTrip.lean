import Parley.Proofs.Bytes.RoundTrip
import Parley.Proofs.Json.RoundTrip
import Parley.Proofs.Message.Inbox

/-!
Written messages read back: an inbox that has taken a whole message gives it, and an inbox that has
taken a part of one gives nothing yet.
-/

namespace Parley

namespace Message

theorem plain_fields (levels : Nat) (message : Message) :
    ∀ field ∈ message.fields, Json.Plain (levels + 1) field.2 := by
  have plainString (levels : Nat) (text : String) : Json.Plain levels (.string text) := by
    cases levels <;> trivial
  cases message with
  | hello protocol user nonce => simp [fields, bytesJson, plainString]
  | challenge server nonce tag => cases tag <;> simp [fields, bytesJson, plainString]
  | proof tag => simp [fields, bytesJson, plainString]
  | verdict accepted reason => simp [fields, Json.Plain]
  | offer protocols => simp [fields, Json.Plain]
  | choice protocol => simp [fields, plainString]

theorem plain_toJson (message : Message) : Json.Plain Json.deepest message.toJson := by
  intro field member
  rcases List.mem_cons.mp member with rfl | member
  · trivial
  · exact plain_fields 125 message field member

theorem bytes?_bytesJson (bytes : Bytes) : bytes? (some (bytesJson bytes)) = some bytes := by
  simp [bytes?, bytesJson, text?, Hex.decode_encode, Except.toOption]

theorem texts?_strings (texts : List String) :
    texts? (some (.list (texts.map .string))) = some texts := by
  rw [texts?]
  induction texts with
  | nil => rfl
  | cons text texts ih =>
      rw [List.map_cons, List.mapM_cons, ih]
      rfl

theorem ofJson?_toJson (message : Message) : ofJson? message.toJson = some message := by
  cases message with
  | hello protocol user nonce =>
      simp [ofJson?, toJson, fields, name, field?, fieldValues?, fieldNames, ofValues?, text?,
        bytes?_bytesJson]
  | challenge server nonce tag =>
      cases tag with
      | none =>
          simp [ofJson?, toJson, fields, name, field?, fieldValues?, fieldNames, ofValues?, text?,
            bytes?_bytesJson, optionalBytes?]
      | some tag =>
          have given : optionalBytes? (some (bytesJson tag)) = some (some tag) := by
            have read := bytes?_bytesJson tag
            rw [bytesJson] at read ⊢
            rw [optionalBytes?, read]
            rfl
            all_goals simp
          simp [ofJson?, toJson, fields, name, field?, fieldValues?, fieldNames, ofValues?, text?,
            bytes?_bytesJson, given]
  | proof tag =>
      simp [ofJson?, toJson, fields, name, field?, fieldValues?, fieldNames, ofValues?, text?,
        bytes?_bytesJson]
  | verdict accepted reason =>
      simp [ofJson?, toJson, fields, name, field?, fieldValues?, fieldNames, ofValues?, text?,
        flag?, optionalText?]
  | offer protocols =>
      simp [ofJson?, toJson, fields, name, field?, fieldValues?, fieldNames, ofValues?, text?,
        texts?_strings]
  | choice protocol =>
      simp [ofJson?, toJson, fields, name, field?, fieldValues?, fieldNames, ofValues?, text?]

theorem decode_body (message : Message) : decode message.body = .ok message := by
  have read : Json.read message.body = some message.toJson := by
    rw [Json.read, body, Bytes.text_ofText, Option.bind_some, Json.render, String.toList_ofList,
      Json.readChars_chars (plain_toJson message)]
  rw [decode, read, Option.bind_some, ofJson?_toJson]

theorem encode_of_fits {message : Message} (fits : message.body.length ≤ longestBody) :
    message.encode = .ok (Bytes.word16 message.body.length ++ message.body) := by
  simp only [encode]
  rw [if_neg (by omega)]

end Message

namespace Inbox

theorem next_encode {message : Message} {bytes : Bytes} (encoded : message.encode = .ok bytes)
    (rest : Bytes) : next ⟨bytes ++ rest⟩ = .ok (some (message, ⟨rest⟩)) := by
  by_cases fits : message.body.length ≤ longestBody
  · rw [Message.encode_of_fits fits] at encoded
    cases encoded
    refine next_eq_some_iff.mpr ⟨_, _, message.body, rfl, ?_, fits,
      Message.decode_body message⟩
    exact (Bytes.number_word16 (by simp only [longestBody] at fits; omega)).symm
  · simp only [Message.encode] at encoded
    rw [if_pos (by omega)] at encoded
    cases encoded

theorem ne_nil_of_encode {message : Message} {bytes : Bytes}
    (encoded : message.encode = .ok bytes) : bytes ≠ [] := by
  rintro rfl
  have read := next_encode encoded []
  simp [next] at read

theorem next_part {message : Message} {bytes part missing : Bytes}
    (encoded : message.encode = .ok bytes) (split : bytes = part ++ missing)
    (someMissing : missing ≠ []) : next ⟨part⟩ = .ok none := by
  by_cases fits : message.body.length ≤ longestBody
  · rw [Message.encode_of_fits fits] at encoded
    cases encoded
    have stated : Bytes.number (Bytes.word16 message.body.length) = message.body.length :=
      Bytes.number_word16 (by simp only [longestBody] at fits; omega)
    have longer := congrArg List.length split
    have left : 0 < missing.length := List.length_pos_iff.mpr someMissing
    rw [next.eq_def]
    split
    · rename_i high low rest same
      dsimp only at same
      subst same
      obtain ⟨rfl, more⟩ := List.cons.inj split
      obtain ⟨rfl, more⟩ := List.cons.inj more
      rw [Bytes.word16] at stated
      simp only [stated]
      rw [if_neg (by omega), if_pos]
      simp only [List.length_append, List.length_cons, Bytes.length_word16] at longer
      omega
    · rfl
  · simp only [Message.encode] at encoded
    rw [if_pos (by omega)] at encoded
    cases encoded

def absorbAll (inbox : Inbox) (blobs : List Blob) : Inbox :=
  blobs.foldl (fun inbox blob => (inbox.absorb blob).1) inbox

theorem bytes_absorbAll (inbox : Inbox) (blobs : List Blob) :
    (inbox.absorbAll blobs).bytes =
      inbox.bytes ++ blobs.flatMap fun blob => blob.contents.drop blob.position := by
  induction blobs generalizing inbox with
  | nil => rw [absorbAll, List.foldl_nil, List.flatMap_nil, List.append_nil]
  | cons blob blobs ih =>
      have rest := ih (inbox.absorb blob).1
      rw [bytes_absorb, List.append_assoc] at rest
      rw [List.flatMap_cons]
      exact rest

end Inbox

namespace Message

theorem encode_isOk_iff (message : Message) :
    (∃ bytes, message.encode = .ok bytes) ↔ message.body.length ≤ longestBody := by
  constructor
  · rintro ⟨bytes, encoded⟩
    simp only [encode] at encoded
    split at encoded
    · cases encoded
    · rename_i fits
      exact Nat.le_of_not_lt fits
  · intro fits
    exact ⟨_, encode_of_fits fits⟩

theorem eq_of_encode_eq {first second : Message} {bytes : Bytes}
    (one : first.encode = .ok bytes) (other : second.encode = .ok bytes) : first = second := by
  have read := Inbox.next_encode one []
  rw [Inbox.next_encode other []] at read
  cases read
  rfl

/--
A message can be written exactly when its body is no longer than the longest. Whatever blobs bring
what was written to an empty inbox, the inbox then gives that message and is empty again; so no two
messages are written alike.
-/
theorem next_written (message : Message) :
    ((∃ bytes, message.encode = .ok bytes) ↔ message.body.length ≤ 2048) ∧
      ∀ bytes, message.encode = .ok bytes →
        (∀ blobs : List Blob,
          blobs.flatMap (fun blob => blob.contents.drop blob.position) = bytes →
          (Inbox.absorbAll {} blobs).next = .ok (some (message, {}))) ∧
        ∀ other : Message, other.encode = .ok bytes → other = message := by
  refine ⟨encode_isOk_iff message, fun bytes encoded => ⟨fun blobs brought => ?_, ?_⟩⟩
  · have stored : Inbox.absorbAll {} blobs = ⟨bytes ++ []⟩ := by
      rw [List.append_nil, ← brought]
      exact congrArg Inbox.mk (Inbox.bytes_absorbAll {} blobs)
    rw [stored]
    exact Inbox.next_encode encoded []
  · intro other same
    exact eq_of_encode_eq same encoded

/-- A challenge with an empty proof, which comes in two blobs, and one without a proof. -/
theorem next_written_challenges :
    ∃ full bare, (challenge "styx" [1, 255] (some [])).encode = .ok full ∧
      (challenge "styx" [1, 255] none).encode = .ok bare ∧ full ≠ bare ∧
      (Inbox.absorbAll {} [(Blob.blank 3).load (full.take 3),
        (Blob.blank full.length).load (full.drop 3)]).next =
        .ok (some (challenge "styx" [1, 255] (some []), {})) ∧
      (Inbox.absorbAll {} [(Blob.blank bare.length).load bare]).next =
        .ok (some (challenge "styx" [1, 255] none, {})) := by
  obtain ⟨full, encodedFull⟩ := (next_written (challenge "styx" [1, 255] (some []))).1.mpr
    (by decide +kernel)
  obtain ⟨bare, encodedBare⟩ := (next_written (challenge "styx" [1, 255] none)).1.mpr
    (by decide +kernel)
  obtain ⟨readFull, onlyFull⟩ := (next_written _).2 full encodedFull
  obtain ⟨readBare, _⟩ := (next_written _).2 bare encodedBare
  refine ⟨full, bare, encodedFull, encodedBare, ?_, readFull _ ?_, readBare _ ?_⟩
  · rintro rfl
    exact absurd (onlyFull _ encodedBare) (by decide)
  · have first : (full.take 3).length ≤ (Blob.blank 3).capacity := by
      rw [Blob.capacity_blank, List.length_take]
      omega
    have second : (full.drop 3).length ≤ (Blob.blank full.length).capacity := by
      rw [Blob.capacity_blank, List.length_drop]
      omega
    simp only [List.flatMap_cons, List.flatMap_nil, Blob.unread_load first,
      Blob.unread_load second, List.append_nil, List.take_append_drop]
  · have fits : bare.length ≤ (Blob.blank bare.length).capacity :=
      Nat.le_of_eq (Blob.capacity_blank _).symm
    simp only [List.flatMap_cons, List.flatMap_nil, Blob.unread_load fits, List.append_nil]

end Message

end Parley
