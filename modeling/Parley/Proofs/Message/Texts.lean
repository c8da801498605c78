import Parley.Message.Inbox
import Parley.Proofs.Bytes.RoundTrip
import Parley.Proofs.Json.Length
import Parley.Proofs.Message.Inbox

/-!
How long the texts in messages are. No message has a longer body than `longestBody`, so the user of
a hello that was read is not much longer.
-/

namespace Parley.Message

theorem mem_of_field? {name : String} {fields : List (String × Json)} {value : Json}
    (found : field? name fields = some (some value)) : ∃ field ∈ fields, field.2 = value := by
  rw [field?] at found
  split at found
  · cases found
  · rename_i field only
    cases found
    have listed : field ∈ fields.filter fun field => field.1 = name := by
      rw [only]
      exact List.mem_singleton_self field
    exact ⟨field, (List.mem_filter.mp listed).1, rfl⟩
  · cases found

theorem mem_of_fieldValues? {names : List String} {fields : List (String × Json)}
    {values : List (Option Json)} (found : fieldValues? names fields = some values) {value : Json}
    (listed : some value ∈ values) : ∃ field ∈ fields, field.2 = value := by
  induction names generalizing values with
  | nil =>
      cases found
      cases listed
  | cons name names ih =>
      simp only [fieldValues?, List.mapM_cons, Option.bind_eq_bind, Option.bind_eq_some_iff] at found
      obtain ⟨first, read, later, others, same⟩ := found
      cases same
      rcases List.mem_cons.mp listed with rfl | more
      · exact mem_of_field? read
      · exact ih others more

theorem mem_of_padValues? {count : Nat} {items : List Json} {values : List (Option Json)}
    (found : padValues? count items = some values) {value : Json} (listed : some value ∈ values) :
    value ∈ items := by
  rw [padValues?] at found
  split at found
  · cases found
  · cases found
    rcases List.mem_append.mp listed with given | missing
    · obtain ⟨item, member, same⟩ := List.mem_map.mp given
      cases same
      exact member
    · cases (List.mem_replicate.mp missing).2

theorem mem_of_ofValues? {name protocol user : String} {nonce : Bytes} {values : List (Option Json)}
    (made : ofValues? name values = some (.hello protocol user nonce)) :
    some (.string user) ∈ values := by
  rw [ofValues?.eq_def] at made
  split at made
  · rename_i first second third
    simp only [Option.bind_eq_bind, Option.bind_eq_some_iff] at made
    obtain ⟨_, _, text, read, _, _, same⟩ := made
    cases same
    rw [text?.eq_def] at read
    split at read
    · cases read
      exact .tail _ (.head _)
    · cases read
  all_goals
    simp only [Option.bind_eq_bind, Option.bind_eq_some_iff, Option.some.injEq, reduceCtorEq,
      and_false, exists_false] at made

theorem length_user_of_ofJson? {most : Nat} {value : Json} (within : value.Within most)
    {protocol user : String} {nonce : Bytes}
    (made : ofJson? value = some (.hello protocol user nonce)) : user.toList.length ≤ most := by
  have short {text : String} (within : (Json.string text).Within most) :
      text.toList.length ≤ most := by
    cases within with
    | string short => exact short
  rw [ofJson?.eq_def] at made
  split at made
  · cases within with
    | object all =>
        simp only [Option.bind_eq_bind, Option.bind_eq_some_iff] at made
        obtain ⟨_, _, _, _, names, _, values, read, made⟩ := made
        obtain ⟨field, listed, same⟩ := mem_of_fieldValues? read (mem_of_ofValues? made)
        exact short (same ▸ all field listed)
  · cases within with
    | list all =>
        simp only [Option.bind_eq_bind, Option.bind_eq_some_iff] at made
        obtain ⟨names, _, values, read, made⟩ := made
        have listed := mem_of_padValues? read (mem_of_ofValues? made)
        exact short (all _ (.tail _ listed))
  · cases made

theorem length_user_of_decode {body nonce : Bytes} {protocol user : String}
    (decoded : decode body = .ok (.hello protocol user nonce)) :
    (Bytes.ofText user).length ≤ 4 * body.length := by
  rw [decode] at decoded
  split at decoded
  · rename_i message found
    cases decoded
    obtain ⟨value, read, made⟩ := Option.bind_eq_some_iff.mp found
    obtain ⟨text, spelled, valueRead⟩ := Option.bind_eq_some_iff.mp read
    have chars := length_user_of_ofJson? (Json.within_readChars valueRead) made
    have userBytes := (Bytes.length_ofText user).2
    have textBytes := (Bytes.length_ofText text).1
    rw [Bytes.ofText_of_text? spelled] at textBytes
    omega
  · cases decoded

theorem length_user_of_next {inbox rest : Inbox} {protocol user : String} {nonce : Bytes}
    (found : inbox.next = .ok (some (.hello protocol user nonce, rest))) :
    (Bytes.ofText user).length < 65536 := by
  obtain ⟨high, low, body, _, _, short, decoded⟩ := Inbox.next_eq_some_iff.mp found
  have bounded := length_user_of_decode decoded
  have longest : longestBody = 2048 := rfl
  omega

end Parley.Message
