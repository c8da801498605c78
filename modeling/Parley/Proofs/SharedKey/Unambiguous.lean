import Parley.Proofs.Message.Texts
import Parley.Proofs.SharedKey.Drafts
import Parley.Proofs.SharedKey.Endings
import Parley.Proofs.SharedKey.Frames
import Parley.Proofs.SharedKey.Lives
import Parley.Proofs.SharedKey.Transcript

/-!
Transcripts are unambiguous wherever a tag is made of them. The names of a handshake have been in a
message, whose size is limited, and its nonces have their fixed length; so no part of a transcript
is too long for the word that tells its length, whatever name a handler was given at first.
-/

namespace Parley

/-- No part is too long for the word that tells its length. -/
def Transcript.Fits (transcript : Transcript) : Prop :=
  ∀ part ∈ transcript.parts, part.length < 65536

theorem Transcript.fits_of {transcript : Transcript} (first : transcript.first.length < 65536)
    (second : transcript.second.length < 65536)
    (user : (Bytes.ofText transcript.user).length < 65536) : transcript.Fits := by
  have protocol : (Bytes.ofText transcript.variant.protocol).length < 65536 := by
    rw [Variant.length_ofText_protocol]
    decide
  have label := Purpose.length_ofText_label transcript.purpose
  intro part listed
  simp only [parts, List.mem_cons, List.not_mem_nil, or_false] at listed
  rcases listed with rfl | rfl | rfl | rfl | rfl
  · exact protocol
  · exact label
  · exact first
  · exact second
  · exact user

theorem Transcript.Fits.framed {transcript : Transcript} (fits : transcript.Fits) :
    transcript.Framed :=
  ⟨fits transcript.first (by simp [parts]), fits transcript.second (by simp [parts])⟩

def Message.NamesFit : Message → Prop
  | .hello _ user _ => (Bytes.ofText user).length < 65536
  | _ => True

theorem Message.namesFit_of_next {inbox rest : Inbox} {message : Message}
    (found : inbox.next = .ok (some (message, rest))) : message.NamesFit := by
  cases message with
  | hello protocol user nonce => exact length_user_of_next found
  | _ => trivial

theorem Message.namesFit_of_ofBytes? {bytes : Bytes} {message : Message}
    (read : ofBytes? bytes = some message) : message.NamesFit := by
  rw [ofBytes?] at read
  split at read
  · rename_i found
    cases read
    exact namesFit_of_next found
  · cases read

def Deed.NamesFit : Deed → Prop
  | .drew _ => True
  | .heard message | .said message => message.NamesFit

namespace SharedKey

open Lifecycle

/-- The steps at which a handler goes by the user and the nonce that it has in mind. -/
def Recalls (handler : SharedKey) : Prop :=
  handler.step = .awaitChallenge ∨ handler.step = .awaitVerdict ∨ handler.step = .awaitProof

structure MindFits (handler : SharedKey) : Prop where
  user {user : String} (known : handler.user = some user) (recalls : handler.Recalls) :
    (Bytes.ofText user).length < 65536
  clientNonce (recalls : handler.Recalls) : handler.clientNonce.length < 65536
  serverNonce (step : handler.step = .awaitVerdict ∨ handler.step = .awaitProof) :
    handler.serverNonce.length < 65536

section

variable {κ : Type} {handler next : SharedKey}

theorem MindFits.kept (mind : handler.MindFits) (step : next.step = handler.step)
    (memory : next.memory = handler.memory) : next.MindFits := by
  have user : next.user = handler.user := congrArg Memory.user memory
  have client : next.clientNonce = handler.clientNonce := congrArg Memory.clientNonce memory
  have server : next.serverNonce = handler.serverNonce := congrArg Memory.serverNonce memory
  have recalls : next.Recalls = handler.Recalls := by rw [Recalls, Recalls, step]
  refine ⟨fun known now => ?_, fun now => ?_, fun now => ?_⟩
  · exact mind.user (user.symm.trans known) (recalls ▸ now)
  · exact client ▸ mind.clientNonce (recalls ▸ now)
  · exact server ▸ mind.serverNonce (step ▸ now)

theorem nonce_fits {nonce : Bytes} (sized : nonce.length = nonceLength) : nonce.length < 65536 := by
  have length : nonceLength = 16 := rfl
  omega

theorem fits_onChallenge (mind : handler.MindFits) (step : handler.step = .awaitChallenge)
    (server : String) (nonce : Bytes) (tag : Option Bytes) :
    (handler.draftOnChallenge server nonce tag).All Transcript.Fits := by
  have own := mind.clientNonce (Or.inl step)
  rw [draftOnChallenge]
  by_cases sized : nonce.length ≠ nonceLength
  · rw [if_pos sized]
    trivial
  · rw [if_neg sized]
    have other := nonce_fits (Decidable.not_not.mp sized)
    rcases handler.key with _ | key
    · trivial
    · rcases known : handler.user with _ | user
      · trivial
      · have named := mind.user known (Or.inl step)
        have checks : (handler.draftServerProof key user nonce tag).All Transcript.Fits := by
          cases tag with
          | none => trivial
          | some tag =>
              rw [draftServerProof]
              split
              · exact ⟨Transcript.fits_of own other named, fun _ => trivial⟩
              · trivial
        refine checks.bind fun checked => ?_
        rcases checked with problem | _ | refusal
        · trivial
        · exact ⟨Transcript.fits_of other own named, fun _ => trivial⟩
        · trivial

theorem fits_onAcceptance (mind : handler.MindFits) (step : handler.step = .awaitVerdict) :
    handler.draftOnAcceptance.All Transcript.Fits := by
  have own := mind.clientNonce (Or.inr (Or.inl step))
  have other := mind.serverNonce (Or.inl step)
  rw [draftOnAcceptance]
  rcases handler.key with _ | key
  · trivial
  · rcases known : handler.user with _ | user
    · trivial
    · have named := mind.user known (Or.inr (Or.inl step))
      have session : (handler.draftSessionKey key user).All Transcript.Fits :=
        ⟨Transcript.fits_of own other named, fun _ => trivial⟩
      exact session.map _

theorem fits_onClientMessage (mind : handler.MindFits) (message : Message) :
    (handler.draftOnClientMessage message).All Transcript.Fits := by
  cases message with
  | challenge server nonce tag =>
      rw [draftOnClientMessage]
      split
      · rename_i step
        exact fits_onChallenge mind step server nonce tag
      · trivial
  | verdict accepted reason =>
      cases accepted with
      | true =>
          rw [draftOnClientMessage]
          split
          · rename_i step
            exact fits_onAcceptance mind step
          · trivial
      | false =>
          rw [draftOnClientMessage]
          split <;> trivial
  | _ => trivial

theorem fits_onHello [KeyStore κ] {user : String} (named : (Bytes.ofText user).length < 65536)
    (protocol : String) (nonce : Bytes) (supplies : Supplies κ) :
    (handler.draftOnHello protocol user nonce supplies).All Transcript.Fits := by
  rw [draftOnHello]
  dsimp only
  split
  · trivial
  · rename_i sized
    have other := nonce_fits (Decidable.not_not.mp sized)
    split
    · trivial
    · split
      · trivial
      · rcases handler.lookup user supplies with ⟨key | _ | seconds, later⟩
        · dsimp only
          rw [draftChallenge]
          rcases later.drawNonce with ⟨_ | own, last⟩
          · trivial
          · have ownFits := nonce_fits own.length_eq
            refine Draft.All.map ?_ _
            split
            · exact ⟨Transcript.fits_of other ownFits named, fun _ => trivial⟩
            · trivial
        · trivial
        · trivial

theorem fits_onProof (mind : handler.MindFits) (step : handler.step = .awaitProof) (tag : Bytes) :
    (handler.draftOnProof tag).All Transcript.Fits := by
  have theirs := mind.clientNonce (Or.inr (Or.inr step))
  have own := mind.serverNonce (Or.inr step)
  rw [draftOnProof]
  rcases handler.key with _ | key
  · trivial
  · rcases known : handler.user with _ | user
    · trivial
    · have named := mind.user known (Or.inr (Or.inr step))
      have session : (handler.draftSessionKey key user).All Transcript.Fits :=
        ⟨Transcript.fits_of theirs own named, fun _ => trivial⟩
      refine ⟨Transcript.fits_of own theirs named, fun expected => ?_⟩
      by_cases same : expected = tag
      · simp only [if_pos same]
        exact session.map _
      · simp only [if_neg same]
        trivial

theorem fits_onServerMessage [KeyStore κ] (mind : handler.MindFits) {message : Message}
    (names : handler.step = .awaitHello → message.NamesFit) (supplies : Supplies κ) :
    (handler.draftOnServerMessage message supplies).All Transcript.Fits := by
  cases message with
  | hello protocol user nonce =>
      rw [draftOnServerMessage]
      split
      · rename_i step
        exact fits_onHello (names step) protocol nonce supplies
      · trivial
  | proof tag =>
      rw [draftOnServerMessage]
      split
      · rename_i step
        exact (fits_onProof mind step tag).map _
      · trivial
  | verdict accepted reason =>
      cases accepted with
      | true => trivial
      | false =>
          rw [draftOnServerMessage]
          split <;> trivial
  | _ => trivial

theorem fits_onMessage [KeyStore κ] (mind : handler.MindFits) {message : Message}
    (names : handler.step = .awaitHello → message.NamesFit) (supplies : Supplies κ) :
    (handler.draftOnMessage message supplies).All Transcript.Fits := by
  rw [draftOnMessage]
  split
  · exact (fits_onClientMessage mind message).map _
  · exact fits_onServerMessage mind names supplies
  · trivial

end

/-! ## Lives -/

section

variable {κ : Type} {start handler : SharedKey} {log more : List Deed}

theorem namesFit_deeds (before after : SharedKey) (early late : Supplies κ)
    (taken given : Bytes) :
    ∀ deed ∈ deeds before after early late taken given, deed.NamesFit := by
  intro deed listed
  simp only [deeds, List.mem_append, List.mem_map, Option.mem_toList] at listed
  rcases listed with (⟨message, read, rfl⟩ | ⟨own, _, rfl⟩) | ⟨message, read, rfl⟩
  · exact Message.namesFit_of_ofBytes? read
  · trivial
  · exact Message.namesFit_of_ofBytes? read

theorem namesFit_move [KeyStore κ] {now next : Posture} (move : Move κ now more next) :
    ∀ deed ∈ more, deed.NamesFit := by
  cases move <;> exact namesFit_deeds _ _ _ _ _ _

theorem namesFit_life [KeyStore κ] {now : Posture} (life : Life κ start log now) :
    ∀ deed ∈ log, deed.NamesFit := by
  induction life with
  | begin => simp
  | move _ move ih =>
      intro deed listed
      rcases List.mem_append.mp listed with early | late
      · exact ih deed early
      · exact namesFit_move move deed late

theorem Holds.nonces_fit {role : Role} {terms : Terms} {key : SecretKey}
    (holds : Holds start role terms key handler.memory) :
    handler.clientNonce.length < 65536 ∧ handler.serverNonce.length < 65536 := by
  have client : handler.clientNonce = terms.clientNonce.bytes :=
    congrArg Memory.clientNonce holds.memory
  have server : handler.serverNonce = terms.serverNonce.bytes :=
    congrArg Memory.serverNonce holds.memory
  rw [client, server]
  exact ⟨nonce_fits terms.clientNonce.length_eq, nonce_fits terms.serverNonce.length_eq⟩

/-- The user that a handler goes by was in a hello that it has sent or received. -/
theorem Standing.mindFits (standing : Standing start handler log)
    (exchanging : handler.lifecycle.stage = .exchanging) (names : ∀ deed ∈ log, deed.NamesFit) :
    handler.MindFits := by
  have recalled (recalls : handler.Recalls) :
      (∃ user, handler.user = some user ∧ (Bytes.ofText user).length < 65536) ∧
        handler.clientNonce.length < 65536 := by
    rcases recalls with step | step | step <;>
      obtain ⟨role, _, progress⟩ := standing.underway_of_step exchanging step (by simp)
    · cases progress with
      | @greeted user _ own _ user_eq _ nonceEq =>
          have named : (Message.hello start.variant.protocol user own.bytes).NamesFit :=
            names (.said _) (.tail _ (.head _))
          have same : handler.clientNonce = own.bytes := nonceEq
          rw [same]
          exact ⟨⟨user, user_eq.1, named⟩, nonce_fits own.length_eq⟩
    · cases progress with
      | @proved terms _ _ _ holds _ =>
          have named : terms.hello.NamesFit := names (.said _) (.tail _ (.head _))
          exact ⟨⟨terms.user, holds.user_eq, named⟩, holds.nonces_fit.1⟩
    · cases progress with
      | @challenged terms _ _ holds _ =>
          have named : terms.hello.NamesFit := names (.heard _) (.head _)
          exact ⟨⟨terms.user, holds.user_eq, named⟩, holds.nonces_fit.1⟩
  refine ⟨fun known recalls => ?_, fun recalls => (recalled recalls).2, fun step => ?_⟩
  · obtain ⟨⟨user, same, fits⟩, _⟩ := recalled recalls
    obtain rfl := Option.some.inj (same.symm.trans known)
    exact fits
  · rcases step with step | step <;>
      obtain ⟨role, _, progress⟩ := standing.underway_of_step exchanging step (by simp)
    · cases progress with
      | proved _ holds _ => exact holds.nonces_fit.2
    · cases progress with
      | challenged _ holds _ => exact holds.nonces_fit.2

theorem Standing.namesFit_next {message : Message} {next : SharedKey}
    (standing : Standing start handler log) (exchanging : handler.lifecycle.stage = .exchanging)
    (names : ∀ deed ∈ log, deed.NamesFit)
    (found : handler.nextMessage = .ok (some (message, next))) (step : handler.step = .awaitHello) :
    message.NamesFit := by
  obtain ⟨role, _, progress⟩ := standing.underway_of_step exchanging step (by simp)
  cases progress with
  | waiting noneDeferred =>
      obtain ⟨inbox, _, complete⟩ := nextMessage_inbox found noneDeferred
      exact Message.namesFit_of_next complete
  | delayed deferredEq =>
      rw [nextMessage, deferredEq] at found
      cases found
      exact names (.heard _) (.head _)

theorem Standing.fits_read [KeyStore κ] (standing : Standing start handler log)
    (exchanging : handler.lifecycle.stage = .exchanging) (names : ∀ deed ∈ log, deed.NamesFit)
    (blob : Blob) (supplies : Supplies κ) :
    (handler.draftRead blob supplies).All Transcript.Fits := by
  rw [draftRead]
  rcases handler.inbox.absorb blob with ⟨inbox, rest⟩
  dsimp only
  have fed := standing.dress handler.lifecycle inbox handler.outbox handler.desk handler.consuming
    rfl (Or.inl rfl) (Or.inl rfl)
  have still : ({ handler with inbox } : SharedKey).lifecycle.stage = .exchanging := exchanging
  revert fed still
  generalize ({ handler with inbox } : SharedKey) = reader
  intro fed still
  rcases found : reader.nextMessage with fault | _ | ⟨message, next⟩
  · trivial
  · trivial
  · obtain ⟨step, memory⟩ := kept_nextMessage found
    have mind := (fed.mindFits still names).kept step memory
    have named : next.step = .awaitHello → message.NamesFit := fun awaits =>
      fed.namesFit_next still names found (step.symm.trans awaits)
    exact (fits_onMessage mind named supplies).map _

theorem Standing.fits_consume [KeyStore κ] (standing : Standing start handler log)
    (names : ∀ deed ∈ log, deed.NamesFit) (blob : Blob) (supplies : Supplies κ) :
    (handler.draftConsume blob supplies).All Transcript.Fits := by
  rw [draftConsume]
  rcases entered : handler.lifecycle.enter .blob with ⟨lifecycle, _ | answer⟩
  · have entry := entry_enter entered
    exact ((standing.entered entry).fits_read entry.exchanging.1 names blob supplies).map _
  · trivial

theorem Standing.fits_carryOn [KeyStore κ] (standing : Standing start handler log)
    (exchanging : handler.lifecycle.stage = .exchanging) (names : ∀ deed ∈ log, deed.NamesFit)
    (supplies : Supplies κ) : (handler.draftCarryOn supplies).All Transcript.Fits := by
  rw [draftCarryOn]
  refine Draft.All.map ?_ _
  split
  · exact standing.fits_read exchanging names handler.desk supplies
  · trivial

theorem draftConsume_tag [KeyStore κ] {supplies : Supplies κ} {blob : Blob} {bytes : Bytes}
    {message : Message} {next : SharedKey} {transcript : Transcript} {key : SecretKey}
    {further : Bytes → Draft (SharedKey × Supplies κ × Answer)} (engaged : Engaged handler)
    (given : blob.contents.drop blob.position = bytes)
    (found : (handler.receiving bytes).nextMessage = .ok (some (message, next)))
    (makes : next.draftOnMessage message supplies = .tag transcript key further) :
    ∃ rest, handler.draftConsume blob supplies = .tag transcript key rest := by
  have received : { handler with inbox := (handler.inbox.absorb blob).1 } =
      handler.receiving bytes := by rw [← given]; rfl
  rw [draftConsume, engaged.enter]
  simp only [draftRead]
  rw [received, found]
  simp only [makes]
  exact ⟨_, rfl⟩

theorem AwaitsVerdict.draft [KeyStore κ] {terms : Terms} {key : SecretKey} {name : String}
    {client : SharedKey} (awaits : AwaitsVerdict terms key name client) (supplies : Supplies κ) :
    ∃ blob rest, client.draftConsume blob supplies =
      .tag ⟨terms.variant, .session, terms.clientNonce.bytes, terms.serverNonce.bytes, terms.user⟩
        key rest := by
  have encoded := Message.encode_of_fits Message.fits_acceptance
  revert encoded
  generalize Bytes.word16 _ ++ _ = bytes
  intro encoded
  have found := nextMessage_whole awaits.quiet awaits.inbox encoded (List.nil_append bytes).symm
  rw [receiving_nil] at found
  have makes : ∃ further, client.draftOnMessage (.verdict true "") supplies =
      .tag ⟨terms.variant, .session, terms.clientNonce.bytes, terms.serverNonce.bytes, terms.user⟩
        key further := by
    simp only [draftOnMessage, awaits.role, draftOnClientMessage, awaits.step, if_true,
      draftOnAcceptance, awaits.key, awaits.user, draftSessionKey, transcript, awaits.variant,
      awaits.clientNonce, awaits.serverNonce]
    exact ⟨_, rfl⟩
  obtain ⟨further, makes⟩ := makes
  exact ⟨_, draftConsume_tag awaits.engaged (Blob.unread_load (capacity_roomFor bytes)) found makes⟩

/--
Transcripts are unambiguous wherever they are used. Whatever is done with a handler once it is
initialised, a draft of its next work, which done with the true tags is that work, makes tags only
of transcripts each part of which is shorter than 65536 bytes. Then the word before a part tells its
length, and transcripts with the same bytes agree in every part.
-/
theorem transcripts_unambiguous [KeyStore κ] {variant : Variant} {supplies began : Supplies κ}
    {last : SharedKey} {engaged : Bool}
    (initialised : Initialises (fresh variant) supplies start began)
    (life : Life κ start log ⟨last, engaged⟩) :
    (∀ (blob : Blob) (now : Supplies κ),
      (last.draftConsume blob now).run Transcript.tag = Handler.consume last blob now ∧
        (last.draftConsume blob now).All Transcript.Fits) ∧
    (engaged = true → ∀ now : Supplies κ,
      (last.draftCarryOn now).run Transcript.tag = Handler.carryOn last now ∧
        (last.draftCarryOn now).All Transcript.Fits) ∧
    (∀ transcript : Transcript, transcript.Fits →
      ∀ part ∈ transcript.parts, Bytes.number (Bytes.word16 part.length) = part.length) ∧
    ∀ one other : Transcript, one.Fits → other.Fits → one.encode = other.encode → one = other := by
  obtain ⟨standing, exchanging⟩ := (standing_initialises initialised).life life
  have names := namesFit_life life
  refine ⟨fun blob now => ?_, fun working now => ?_, fun transcript fits part listed => ?_,
    fun one other fits fits' same => ?_⟩
  · exact ⟨run_draftConsume last blob now, standing.fits_consume names blob now⟩
  · exact ⟨run_draftCarryOn last now, standing.fits_carryOn (exchanging working) names now⟩
  · exact Bytes.number_word16 (fits part listed)
  · exact Transcript.eq_of_encode_eq fits.framed fits'.framed same

theorem transcripts_unambiguous_alice :
    ∃ log last blob key rest,
      Life MemoryKeys alice.handler log ⟨last, false⟩ ∧
      last.draftConsume blob aliceSupplies =
        .tag ⟨.p9sk1, .session, (Nonce.repeated 1).bytes, (Nonce.repeated 2).bytes, "alice"⟩ key
          rest ∧
      (⟨.p9sk1, .session, (Nonce.repeated 1).bytes, (Nonce.repeated 2).bytes, "alice"⟩ :
        Transcript).Fits := by
  have primed : Primed aliceTerms.variant .client alice.handler :=
    primed_initialises initialises_alice rfl rfl
  have drawn : aliceSupplies.drawNonce =
      (some aliceTerms.clientNonce, aliceSupplies.drawNonce.2) := rfl
  have hails := primed.life_client rfl drawn fits_alice.1
  have awaits : AwaitsChallenge aliceTerms aliceKey _ := (primed.hailing rfl rfl).sent
  have life := hails.trans (awaits.life "styx" fits_alice.2 aliceSupplies)
  obtain ⟨blob, rest, draft⟩ := (awaits.proving "styx").draft aliceSupplies
  obtain ⟨consuming, _⟩ := transcripts_unambiguous initialises_alice life
  have fits := (consuming blob aliceSupplies).2
  rw [draft] at fits
  exact ⟨_, _, blob, aliceKey, rest, life, draft, fits.1⟩

end

end SharedKey

end Parley
