import Parley.Proofs.SharedKey.Answers
import Parley.Proofs.SharedKey.Frames
import Parley.Proofs.SharedKey.Lookup

/-!
How a server refuses a hello. The verdict that says why repeats what the hello has named, and it is
longer than that: when the hello has left too little room, the verdict cannot be written, and the
server gives up without a word.
-/

namespace Parley

open Json in
theorem Message.length_refusal (reason : String) :
    (Message.verdict false reason).body.length = written reason + 47 := by
  have type : written "verdict" = 7 := by decide
  have first : written "accepted" = 8 := by decide
  have second : written "reason" = 6 := by decide
  have flag : utf8Length (chars (.bool false)) = 5 := by decide
  rw [length_body, name, fields, fieldsLength_cons _ _ (by simp), fieldsLength_one, flag]
  simp only [utf8Length_string, type, first, second]
  omega

namespace Refusal

/-- The reason leaves room for the rest of the verdict. -/
def Sayable (refusal : Refusal) : Prop :=
  (Message.verdict false refusal.text).body.length ≤ longestBody

/-- What a reason repeats of its peer leaves room for the rest of the verdict. -/
def Short : Refusal → Prop
  | .otherProtocol requested spoken => Json.written requested + Json.written spoken ≤ 1954
  | .noKey user => Json.written user ≤ 1985
  | .emptyUser | .wrongClientProof | .noServerProof | .wrongServerProof => True

theorem sayable_iff (refusal : Refusal) : refusal.Sayable ↔ refusal.Short := by
  cases refusal with
  | otherProtocol requested spoken =>
      have wording : Json.written (otherProtocol requested spoken).text =
          26 + Json.written requested + 21 + Json.written spoken := by
        have opening : Json.written "client requested protocol " = 26 := by decide +kernel
        have middle : Json.written ", this server speaks " = 21 := by decide +kernel
        rw [← opening, ← middle, ← Json.written_append, ← Json.written_append,
          ← Json.written_append]
        rfl
      rw [Sayable, Short, Message.length_refusal, wording, longestBody]
      omega
  | noKey user =>
      have wording : Json.written (noKey user).text = 16 + Json.written user := by
        have opening : Json.written "no key for user " = 16 := by decide +kernel
        rw [← opening, ← Json.written_append]
        rfl
      rw [Sayable, Short, Message.length_refusal, wording, longestBody]
      omega
  | emptyUser => exact iff_true_intro (Message.fits_fixed .emptyUser (by simp))
  | wrongClientProof => exact iff_true_intro (Message.fits_fixed .wrongClientProof (by simp))
  | noServerProof => exact iff_true_intro (Message.fits_fixed .noServerProof (by simp))
  | wrongServerProof => exact iff_true_intro (Message.fits_fixed .wrongServerProof (by simp))

end Refusal

namespace SharedKey

variable {κ : Type} [KeyStore κ] {server : SharedKey} {supplies later : Supplies κ}
  {protocol user : String} {nonce : Bytes} {refusal : Refusal}

structure Expects (server : SharedKey) : Prop where
  engaged : Engaged server
  role : server.lifecycle.role = some .server
  step : server.step = .awaitHello
  outbox : server.outbox = {}

inductive Refuses (server : SharedKey) (protocol user : String) (supplies : Supplies κ) :
    Refusal → Supplies κ → Prop
  | otherProtocol (differs : protocol ≠ server.protocol) :
      Refuses server protocol user supplies (.otherProtocol protocol server.protocol) supplies
  | emptyUser (spoken : protocol = server.protocol) (empty : user = "") :
      Refuses server protocol user supplies .emptyUser supplies
  | noKey {later : Supplies κ} (spoken : protocol = server.protocol) (named : user ≠ "")
      (missing : server.lookup user supplies = (.missing, later)) :
      Refuses server protocol user supplies (.noKey user) later

theorem Refuses.onHello (refuses : Refuses server protocol user supplies refusal later)
    (sized : nonce.length = nonceLength) :
    server.onHello protocol user nonce supplies =
      ((server.reject refusal).1, later, (server.reject refusal).2) := by
  cases refuses with
  | otherProtocol differs => simp [SharedKey.onHello, sized, differs]
  | emptyUser spoken empty => simp [SharedKey.onHello, sized, spoken, empty]
  | noKey spoken named missing => simp [SharedKey.onHello, sized, spoken, named, missing]

omit [KeyStore κ] in
theorem reject_unsayable (handler : SharedKey) (unsayable : ¬ refusal.Sayable) :
    handler.reject refusal =
      ({ handler with step := .done },
        .error (.malformed
          (.longBody "verdict" (Message.verdict false refusal.text).body.length))) := by
  have long : longestBody < (Message.verdict false refusal.text).body.length :=
    Nat.lt_of_not_le unsayable
  rw [reject, reply, Outbox.queue, Message.encode, if_pos long]
  rfl

theorem produce_failed {failed : SharedKey} {blob : Blob}
    (ended : failed.lifecycle.stage = .finished .failed)
    (exchange : failed.lifecycle.exchange = some .blob) :
    Handler.produce failed blob supplies = ⟨.ok .failed, failed, blob, supplies⟩ := by
  have entered : failed.lifecycle.enter .blob = (failed.lifecycle, some (.ok .failed)) := by
    rcases failed with ⟨⟨face, stage, kind⟩⟩
    obtain rfl : stage = _ := ended
    obtain rfl : kind = _ := exchange
    simp [Lifecycle.enter]
  have called : Handler.produce failed blob supplies = call write failed blob supplies := rfl
  rw [called, call, entered]

theorem consume_refused {blob : Blob} {rest : Inbox} (expects : Expects server)
    (heard : server.upcoming? (pending blob) = some (.hello protocol user nonce, rest))
    (sized : nonce.length = nonceLength)
    (refuses : Refuses server protocol user supplies refusal later) :
    let next := { server with inbox := rest, deferred := none }
    Handler.consume server blob supplies =
      ⟨(next.reject refusal).2, (next.reject refusal).1.settle (next.reject refusal).2, blob.taken,
        later⟩ := by
  intro next
  have same : Refuses next protocol user supplies refusal later := by
    cases refuses with
    | otherProtocol differs => exact .otherProtocol differs
    | emptyUser spoken empty => exact .emptyUser spoken empty
    | noKey spoken named missing => exact .noKey spoken named missing
  have handled : next.onMessage (.hello protocol user nonce) supplies =
      ((next.reject refusal).1, later, (next.reject refusal).2) := by
    have role : next.lifecycle.role = some .server := expects.role
    have step : next.step = .awaitHello := expects.step
    rw [onMessage, role]
    simp only [onServerMessage, step, if_true]
    exact same.onHello sized
  have spoken : (next.reject refusal).2 ≠ .ok .needData := by
    rw [reject, reply]
    split <;> simp
  rw [consume_engaged expects.engaged,
    read_of_next server blob supplies (nextMessage_of_upcoming server heard), handled]
  dsimp only
  split
  · rename_i quiet
    exact absurd quiet spoken
  · rfl

/--
A server answers a hello that it refuses with a verdict that gives the reason, and fails once the
verdict is out, exactly if that verdict can be written. If not, the hello turns into a fault, and
nothing is ever sent. An empty user is always answered; another protocol or a user without a key
is, if the name that the verdict repeats is short enough.
-/
theorem refused_hello {blob : Blob} {rest : Inbox} (expects : Expects server)
    (heard : server.upcoming? (pending blob) = some (.hello protocol user nonce, rest))
    (sized : nonce.length = 16) (refuses : Refuses server protocol user supplies refusal later) :
    let verdict := Message.verdict false refusal.text
    (refusal.Sayable → ∃ bytes refusing failed, verdict.encode = .ok bytes ∧
      Handler.consume server blob supplies = ⟨.ok .pendingData, refusing, blob.taken, later⟩ ∧
      failed.lifecycle.stage = .finished .failed ∧ (face failed).info = some refusal.text ∧
      ∀ capacity, 0 < capacity → ∀ now : Supplies κ, ∃ frames, frames.flatten = bytes ∧
        Sends capacity .failed failed now frames refusing now) ∧
    (¬ refusal.Sayable → ∃ failed,
      let fault := Fault.malformed (.longBody "verdict" verdict.body.length)
      Handler.consume server blob supplies = ⟨.error fault, failed, blob.taken, later⟩ ∧
      failed.lifecycle.stage = .finished .failed ∧ (face failed).info = some fault.message ∧
      ∀ (blob : Blob) (now : Supplies κ),
        Handler.produce failed blob now = ⟨.ok .failed, failed, blob, now⟩) ∧
    (refusal.Sayable ↔ refusal.Short) := by
  intro verdict
  have consumed := consume_refused expects heard sized refuses
  dsimp only at consumed
  refine ⟨fun sayable => ?_, fun unsayable => ?_, refusal.sayable_iff⟩
  · have unsent : { server with inbox := rest, deferred := none }.outbox = {} := expects.outbox
    obtain ⟨bytes, encoded, rejected⟩ := reject_sending unsent sayable
    let refusing := { server with inbox := rest, deferred := none, step := .done }
    have engaged : Engaged refusing := ⟨expects.engaged.stage, expects.engaged.exchange⟩
    rw [rejected] at consumed
    exact ⟨bytes, _, refusing.sent (.fail refusal.text), encoded, consumed, rfl, rfl,
      fun capacity room now => ⟨_, Bytes.flatten_frames capacity bytes,
        (engaged.drains (.fail refusal.text) now).sends room (Inbox.ne_nil_of_encode encoded)⟩⟩
  · rw [reject_unsayable _ unsayable] at consumed
    refine ⟨_, consumed, rfl, rfl, fun blob now => ?_⟩
    exact produce_failed rfl expects.engaged.exchange

def listener : SharedKey :=
  { lifecycle :=
      { face := { protocol := "p9sk2", role := some .server }
        stage := .exchanging
        exchange := some .blob }
    variant := .p9sk2
    step := .awaitHello }

theorem expects_listener : Expects listener := ⟨⟨rfl, rfl⟩, rfl, rfl, rfl⟩

theorem upcoming_listener (message : Message)
    (fits : message.body.length ≤ longestBody) :
    ∃ blob, listener.upcoming? (pending blob) = some (message, {}) := by
  have encoded := Message.encode_of_fits fits
  generalize Bytes.word16 message.body.length ++ message.body = bytes at encoded
  have complete := Inbox.next_encode encoded []
  refine ⟨(Blob.blank bytes.length).load bytes, ?_⟩
  have given : pending ((Blob.blank bytes.length).load bytes) = bytes :=
    Blob.unread_load (Nat.le_of_eq (Blob.capacity_blank _).symm)
  rw [List.append_nil] at complete
  simp only [upcoming?, listener, given, List.nil_append, complete]

/-- A client that asks for p9sk1 is told that this server speaks p9sk2. -/
theorem refused_hello_p9sk1 :
    ∃ (supplies : Supplies MemoryKeys) (blob : Blob) (bytes : Bytes) (refusing failed : SharedKey),
      (Message.verdict false
        "client requested protocol p9sk1, this server speaks p9sk2").encode = .ok bytes ∧
      Handler.consume listener blob supplies = ⟨.ok .pendingData, refusing, blob.taken, supplies⟩ ∧
      ∃ frames, frames.flatten = bytes ∧ Sends 1 .failed failed supplies frames refusing supplies :=
      by
  obtain ⟨blob, heard⟩ := upcoming_listener (.hello "p9sk1" "alice" (List.replicate 16 7))
    (by decide +kernel)
  let supplies : Supplies MemoryKeys := ⟨⟨fun _ => none, 0⟩, {}⟩
  have refuses : Refuses listener "p9sk1" "alice" supplies _ supplies := .otherProtocol (by decide)
  obtain ⟨answered, _, sayable⟩ := refused_hello expects_listener heard (by decide) refuses
  obtain ⟨bytes, refusing, failed, encoded, consumed, _, _, sends⟩ :=
    answered (sayable.mpr (show Json.written "p9sk1" + Json.written "p9sk2" ≤ 1954 by decide))
  exact ⟨supplies, blob, bytes, refusing, failed, encoded, consumed,
    sends 1 (by decide) supplies⟩

theorem written_letters (count : Nat) :
    Json.written (String.ofList (List.replicate count 'a')) = count := by
  rw [Json.written, String.toList_ofList]
  induction count with
  | zero => rfl
  | succ count ih =>
      have letter : Json.escapeChar 'a' = ['a'] := by decide
      have size : Char.utf8Size 'a' = 1 := by decide
      rw [List.replicate_succ, List.flatMap_cons, letter, List.singleton_append,
        Json.utf8Length_cons, size, ih]
      omega

/-- A hello that names a protocol of 1950 letters is refused, and no verdict says so. -/
theorem refusal_unsaid :
    ¬ ∀ (server : SharedKey) (supplies later : Supplies MemoryKeys) (blob : Blob) (rest : Inbox)
      (protocol user : String) (nonce : Bytes) (refusal : Refusal), Expects server →
      server.upcoming? (pending blob) = some (.hello protocol user nonce, rest) →
      nonce.length = 16 → Refuses server protocol user supplies refusal later →
      (Handler.consume server blob supplies).answer = .ok .pendingData := by
  intro answered
  let named := String.ofList (List.replicate 1950 'a')
  have written : Json.written named = 1950 := written_letters 1950
  have fits : (Message.hello named "alice" (List.replicate 16 7)).body.length ≤ longestBody := by
    have user : Json.written "alice" = 5 := by decide
    rw [Message.length_hello, written, Hex.written_encode, user, List.length_replicate, longestBody]
    omega
  obtain ⟨blob, heard⟩ := upcoming_listener _ fits
  let supplies : Supplies MemoryKeys := ⟨⟨fun _ => none, 0⟩, {}⟩
  have other : named ≠ listener.protocol := by
    intro same
    have short : Json.written listener.protocol = 5 := by decide
    rw [← same, written] at short
    omega
  have refuses : Refuses listener named "alice" supplies _ supplies := .otherProtocol other
  have unsayable : ¬ (Refusal.otherProtocol named listener.protocol).Sayable := by
    have short : Json.written listener.protocol = 5 := by decide
    rw [Refusal.sayable_iff, Refusal.Short, written, short]
    omega
  have told := answered listener supplies supplies blob {} named "alice" _ _ expects_listener heard
    (by decide) refuses
  rw [consume_refused expects_listener heard (by decide) refuses, reject_unsayable _ unsayable]
    at told
  cases told

end SharedKey

end Parley
