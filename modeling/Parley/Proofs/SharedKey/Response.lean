import Parley.Proofs.SharedKey.Deeds
import Parley.Proofs.SharedKey.Server

/-!
The deeds of one write or read. Sending draws a nonce and says hello at most, and reading handles
one message at most, which has one response.
-/

namespace Parley.SharedKey

variable {κ : Type}

structure Memory where
  variant : Variant
  key : Option SecretKey
  user : Option String
  clientNonce : Bytes
  serverNonce : Bytes

def memory (handler : SharedKey) : Memory :=
  ⟨handler.variant, handler.key, handler.user, handler.clientNonce, handler.serverNonce⟩

def Early (handler : SharedKey) : Prop :=
  handler.step = .start ∨ handler.step = .awaitHello ∨ handler.step = .awaitChallenge

def Judging (handler : SharedKey) : Prop :=
  handler.lifecycle.role = some .client ∧ handler.step = .awaitChallenge ∨
    handler.lifecycle.role = some .server ∧
      (handler.step = .awaitHello ∨ handler.step = .awaitProof)

/-! ## Writing -/

/-- A write as deeds. What a fault leaves behind matters little, since a fault ends the handler. -/
inductive Written (handler : SharedKey) : List Deed → SharedKey → Answer → Prop
  | kept (outbox : Outbox) (mode : Mode) : Written handler [] { handler with outbox } (.ok mode)
  | opened (role : handler.lifecycle.role = some .server) (step : handler.step = .start) :
      Written handler [] { handler with step := .awaitHello } (.ok .needData)
  | greeted {user : String} {own : Nonce} {outbox : Outbox} {settlement : Option Settlement}
      {mode : Mode} (role : handler.lifecycle.role = some .client) (step : handler.step = .start)
      (userEq : handler.user = some user)
      (settlementEq : settlement = none ∨ settlement = some .await) :
      Written handler [.drew own, .said (.hello handler.protocol user own.bytes)]
        { handler with
          clientNonce := own.bytes
          step := .awaitChallenge
          outbox
          afterSend := settlement }
        (.ok mode)
  | sent {mode : Mode} :
      Written handler []
        { handler with
          outbox := ⟨[]⟩
          afterSend := none
          lifecycle := (handler.lifecycle.apply (handler.afterSend.getD .await)).1 }
        (.ok mode)
  | broken {own : Option Nonce} {next : SharedKey} {fault : Fault} (step : handler.step = .start) :
      Written handler (own.toList.map .drew) next (.error fault)

theorem gained_flush (handler : SharedKey) (blob : Blob) :
    blob.gained (handler.flush blob).2.1 ++ (handler.flush blob).1.outbox.bytes =
      handler.outbox.bytes := by
  have conserved := handler.outbox.contents_fill_append blob
  have written : (handler.outbox.fill blob).2.contents =
      blob.contents ++ handler.outbox.bytes.take blob.room := Blob.contents_write _ _
  have gained : blob.gained (handler.outbox.fill blob).2 = handler.outbox.bytes.take blob.room :=
    blob.gained_write _
  rw [written, List.append_assoc, List.append_cancel_left_eq] at conserved
  simp only [flush]
  split <;> (rw [← conserved]; simp only [gained])

theorem broken_prepare {handler next : SharedKey} {supplies later : Supplies κ} {fault : Fault}
    (broken : handler.prepare supplies = (next, later, .error fault)) :
    handler.step = .start ∧ next.inbox = handler.inbox ∧ next.outbox = handler.outbox := by
  simp only [prepare] at broken
  split at broken
  · cases broken
  · split at broken
    · cases broken
    · rename_i step
      split at broken
      · cases broken
      · rename_i user user_eq
        simp only [sayHello] at broken
        split at broken
        · cases broken
          exact ⟨step, rfl, rfl⟩
        · rename_i own _ _
          rcases reply_cases { handler with clientNonce := own.bytes, step := .awaitChallenge }
            (.hello handler.protocol user own.bytes) .await with ⟨_, same⟩ | ⟨bytes, _, same⟩
          · rw [same] at broken
            cases broken
            exact ⟨step, rfl, rfl⟩
          · rw [same] at broken
            cases broken
    · cases broken
    · cases broken

theorem written_write (handler : SharedKey) (blob : Blob) (supplies : Supplies κ) :
    Written handler
      (deeds handler (handler.write blob supplies).handler supplies
        (handler.write blob supplies).surroundings []
        (blob.gained (handler.write blob supplies).blob))
      (handler.write blob supplies).handler (handler.write blob supplies).answer := by
  have prepared := prepare_preparation handler supplies
  have faulty := @broken_prepare _ handler (handler.prepare supplies).1 supplies
    (handler.prepare supplies).2.1
  rw [write]
  revert prepared faulty
  rcases handler.prepare supplies with ⟨next, later, answer⟩
  intro prepared faulty
  dsimp only at prepared faulty
  split
  · rename_i same
    cases same
    have conserved := gained_flush next blob
    have flushed := flush_flush next blob
    revert conserved flushed
    generalize next.flush blob = flushed
    rcases flushed with ⟨last, after, mode⟩
    intro conserved flushed
    dsimp only at conserved flushed ⊢
    have inbox : last.inbox = next.inbox := by cases flushed <;> rfl
    cases prepared with
    | queued _ =>
        rw [deeds_of_kept (by rw [inbox, List.append_nil]) rfl conserved]
        cases flushed with
        | partly _ => exact .kept _ _
        | wholly => exact .sent
    | idle reason _ => rcases reason with other | other <;> cases other
    | @greeted user own _ bytes role step user_eq drawn encoded noneQueued =>
        have greeting : said handler last (blob.gained after) =
            some (.hello handler.protocol user own.bytes) := said_of_queued conserved encoded
        have opening : deeds handler last supplies later [] (blob.gained after) =
            [.drew own, .said (.hello handler.protocol user own.bytes)] := by
          rw [deeds, heard_of_kept (by rw [inbox, List.append_nil]; rfl),
            given_drawNonce drawn, greeting]
          rfl
        rw [opening]
        cases flushed with
        | partly _ => exact .greeted role step user_eq (Or.inr rfl)
        | wholly => exact .greeted role step user_eq (Or.inl rfl)
  · rename_i other same
    cases same
    rw [Blob.gained_self]
    cases prepared with
    | queued _ => exact absurd rfl other
    | idle _ _ =>
        rw [deeds_of_kept (List.append_nil _).symm rfl rfl]
        exact .kept handler.outbox _
    | opened role step _ =>
        have nothing :
            deeds handler { handler with step := .awaitHello } supplies supplies [] [] = [] :=
          deeds_of_kept (List.append_nil _).symm rfl rfl
        rw [nothing]
        exact .opened role step
    | greeted _ _ _ _ _ _ => exact absurd rfl other
    | @broken _ _ fault _ _ =>
        obtain ⟨step, inbox, outbox⟩ := faulty rfl
        have drawn : deeds handler next supplies later [] [] =
            (supplies.nonces.given later.nonces).toList.map .drew := by
          rw [deeds, heard_of_kept (by rw [inbox, List.append_nil]),
            said_of_kept (by rw [outbox]; rfl)]
          simp
        rw [drawn]
        exact .broken step

/-! ## Reading -/

/-- How a handler responds to a message: what it says, if anything, and what it becomes. -/
inductive Response (handler : SharedKey) (supplies : Supplies κ) :
    Message → Option Message → SharedKey → Supplies κ → Answer → Prop
  | broken {message : Message} {next : SharedKey} {later : Supplies κ} {fault : Fault}
      (inbox : next.inbox = handler.inbox) (outbox : next.outbox = handler.outbox)
      (kept : next.memory = handler.memory ∨ handler.Early) :
      Response handler supplies message none next later (.error fault)
  | rejected {message : Message} {refusal : Refusal} {bytes : Bytes} {later : Supplies κ}
      (judging : handler.Judging)
      (encoded : (Message.verdict false refusal.text).encode = .ok bytes)
      (nonces : later.nonces = supplies.nonces) :
      Response handler supplies message (some (.verdict false refusal.text))
        ({ handler with step := .done }.queueing bytes (.fail refusal.text)) later
        (.ok .pendingData)
  | failed {message : Message} {reason : String} :
      Response handler supplies message none
        { handler with step := .done, lifecycle := handler.lifecycle.fail reason } supplies
        (.ok .failed)
  | unbound {message : Message} (role : handler.lifecycle.role = none) :
      Response handler supplies message none handler supplies (.ok .noIdentity)
  | keyless {message : Message}
      (step : handler.step = .awaitChallenge ∨ handler.step = .awaitVerdict ∨
        handler.step = .awaitProof)
      (missing : handler.key = none ∨ handler.user = none) :
      Response handler supplies message none handler supplies (.ok .noIdentity)
  | proved {server : String} {nonce bytes : Bytes} {key : SecretKey} {user : String}
      (role : handler.lifecycle.role = some .client) (step : handler.step = .awaitChallenge)
      (keyEq : handler.key = some key) (userEq : handler.user = some user)
      (sized : nonce.length = nonceLength)
      (encoded : (Message.proof
        ((handler.transcript .client nonce handler.clientNonce user).tag key)).encode = .ok bytes) :
      Response handler supplies
        (.challenge server nonce
          (if handler.variant.isMutual then
            some ((handler.transcript .server handler.clientNonce nonce user).tag key)
          else none))
        (some (.proof ((handler.transcript .client nonce handler.clientNonce user).tag key)))
        ({ handler with
          serverNonce := nonce
          peerName := some server
          step := .awaitVerdict }.queueing bytes .await)
        supplies (.ok .pendingData)
  | admitted {reason : String} {key : SecretKey} {user : String}
      (role : handler.lifecycle.role = some .client) (step : handler.step = .awaitVerdict)
      (keyEq : handler.key = some key) (userEq : handler.user = some user) :
      Response handler supplies (.verdict true reason) none
        { handler with
          step := .done
          lifecycle := handler.lifecycle.succeed
            ⟨handler.peerName.getD defaultServerName, handler.protocol,
              handler.sessionKey key user⟩ }
        supplies (.ok .success)
  | delayed {user : String} {nonce : Bytes} {seconds : Nat} {later : Supplies κ}
      (role : handler.lifecycle.role = some .server) (step : handler.step = .awaitHello)
      (nonces : later.nonces = supplies.nonces) :
      Response handler supplies (.hello handler.protocol user nonce) none
        { handler with deferred := some (.hello handler.protocol user nonce) } later
        (.ok (.wait seconds))
  | challenged {user : String} {nonce bytes : Bytes} {key : SecretKey} {own : Nonce}
      {later : Supplies κ} (role : handler.lifecycle.role = some .server)
      (step : handler.step = .awaitHello) (sized : nonce.length = nonceLength)
      (named : user ≠ "") (drawn : supplies.nonces.given later.nonces = some own)
      (encoded : (Message.challenge handler.serverName own.bytes
        (if handler.variant.isMutual then
          some ((handler.transcript .server nonce own.bytes user).tag key)
        else none)).encode = .ok bytes) :
      Response handler supplies (.hello handler.protocol user nonce)
        (some (.challenge handler.serverName own.bytes
          (if handler.variant.isMutual then
            some ((handler.transcript .server nonce own.bytes user).tag key)
          else none)))
        ({ handler with
          key := some key
          user := some user
          clientNonce := nonce
          serverNonce := own.bytes
          step := .awaitProof }.queueing bytes .await)
        later (.ok .pendingData)
  | accepted {key : SecretKey} {user : String} {bytes : Bytes}
      (role : handler.lifecycle.role = some .server) (step : handler.step = .awaitProof)
      (keyEq : handler.key = some key) (userEq : handler.user = some user)
      (encoded : (Message.verdict true "").encode = .ok bytes) :
      Response handler supplies
        (.proof ((handler.transcript .client handler.serverNonce handler.clientNonce user).tag key))
        (some (.verdict true ""))
        ({ handler with step := .done, lifecycle := handler.welcoming user }.queueing bytes
          (.succeed ⟨user, handler.protocol, handler.sessionKey key user⟩))
        supplies (.ok .pendingData)

section

variable (handler : SharedKey) (supplies : Supplies κ) (message : Message)

theorem response_malformed (problem : Malformation) :
    Response handler supplies message none (handler.malformed problem).1 supplies
      (handler.malformed problem).2 :=
  .broken rfl rfl (Or.inl rfl)

theorem response_reject {later : Supplies κ} (judging : handler.Judging)
    (nonces : later.nonces = supplies.nonces) (refusal : Refusal) :
    ∃ said, Response handler supplies message said (handler.reject refusal).1 later
      (handler.reject refusal).2 := by
  rcases reply_cases { handler with step := .done } (.verdict false refusal.text)
    (.fail refusal.text) with ⟨fault, same⟩ | ⟨bytes, encoded, same⟩
  · rw [reject, same]
    exact ⟨_, .broken rfl rfl (Or.inl rfl)⟩
  · rw [reject, same]
    exact ⟨_, .rejected judging encoded nonces⟩

theorem checkServerProof_ok {key : SecretKey} {user : String} {nonce : Bytes} {tag : Option Bytes}
    (content : handler.checkServerProof key user nonce tag = .ok none) :
    tag = if handler.variant.isMutual then
      some ((handler.transcript .server handler.clientNonce nonce user).tag key) else none := by
  rcases tag with _ | tag
  · simp only [checkServerProof, Except.ok.injEq] at content
    split at content
    · cases content
    · rename_i asked
      rw [if_neg asked]
  · simp only [checkServerProof] at content
    split at content
    · rename_i asked
      split at content
      · rename_i proved
        rw [if_pos asked, proved]
      · cases content
    · cases content

omit handler supplies message in
theorem missing_of {key : Option SecretKey} {user : Option String}
    (missing : ∀ someKey someUser, key = some someKey → user = some someUser → False) :
    key = none ∨ user = none := by
  rcases key with _ | key
  · exact Or.inl rfl
  · rcases user with _ | user
    · exact Or.inr rfl
    · exact (missing key user rfl rfl).elim

theorem response_onChallenge (server : String) (nonce : Bytes) (tag : Option Bytes)
    (role : handler.lifecycle.role = some .client) (step : handler.step = .awaitChallenge) :
    ∃ said, Response handler supplies (.challenge server nonce tag) said
      (handler.onChallenge server nonce tag).1 supplies
      (handler.onChallenge server nonce tag).2 := by
  simp only [onChallenge]
  split
  · exact ⟨_, response_malformed ..⟩
  · rename_i sized
    split
    · rename_i key user key_eq user_eq
      split
      · exact ⟨_, response_malformed ..⟩
      · exact response_reject handler supplies _ (Or.inl ⟨role, step⟩) rfl _
      · rename_i content
        obtain rfl := checkServerProof_ok handler content
        rcases reply_cases
          { handler with serverNonce := nonce, peerName := some server, step := .awaitVerdict }
          (.proof ((handler.transcript .client nonce handler.clientNonce user).tag key)) .await
          with ⟨fault, same⟩ | ⟨bytes, encoded, same⟩
        · rw [same]
          exact ⟨_, .broken rfl rfl (Or.inr (Or.inr (Or.inr step)))⟩
        · rw [same]
          exact ⟨_, .proved role step key_eq user_eq (by simpa using sized) encoded⟩
    · rename_i missing
      exact ⟨_, .keyless (Or.inl step) (missing_of missing)⟩

theorem response_onAcceptance (reason : String) (role : handler.lifecycle.role = some .client)
    (step : handler.step = .awaitVerdict) :
    ∃ said, Response handler supplies (.verdict true reason) said handler.onAcceptance.1 supplies
      handler.onAcceptance.2 := by
  rw [onAcceptance]
  split
  · rename_i key user key_eq userEq
    exact ⟨_, .admitted role step key_eq userEq⟩
  · rename_i missing
    exact ⟨_, .keyless (Or.inr (Or.inl step)) (missing_of missing)⟩

theorem response_onClientMessage (role : handler.lifecycle.role = some .client) :
    ∃ said, Response handler supplies message said (handler.onClientMessage message).1 supplies
      (handler.onClientMessage message).2 := by
  rw [onClientMessage.eq_def]
  split
  · split
    · rename_i step
      exact response_onChallenge handler supplies _ _ _ role step
    · exact ⟨_, response_malformed ..⟩
  · split
    · rename_i step
      exact response_onAcceptance handler supplies _ role step
    · exact ⟨_, response_malformed ..⟩
  · split
    · exact ⟨_, .failed⟩
    · exact ⟨_, response_malformed ..⟩
  · exact ⟨_, response_malformed ..⟩

variable [KeyStore κ]

theorem response_onHello (protocol user : String) (nonce : Bytes)
    (role : handler.lifecycle.role = some .server) (step : handler.step = .awaitHello) :
    ∃ said, Response handler supplies (.hello protocol user nonce) said
      (handler.onHello protocol user nonce supplies).1
      (handler.onHello protocol user nonce supplies).2.1
      (handler.onHello protocol user nonce supplies).2.2 := by
  have judging : handler.Judging := Or.inr ⟨role, Or.inl step⟩
  simp only [onHello]
  split
  · exact ⟨_, response_malformed ..⟩
  · rename_i sized
    split
    · dsimp only
      exact response_reject handler supplies _ judging rfl _
    · rename_i ownProtocol
      obtain rfl : protocol = handler.protocol := by simpa using ownProtocol
      split
      · dsimp only
        exact response_reject handler supplies _ judging rfl _
      · rename_i named
        rcases looked : handler.lookup user supplies with ⟨key | _ | seconds, middle⟩
        · dsimp only
          simp only [challenge]
          split
          · exact ⟨_, .broken rfl rfl (Or.inl rfl)⟩
          · rename_i own later drawn
            rcases reply_cases
              { handler with
                key := some key
                user := some user
                clientNonce := nonce
                serverNonce := own.bytes
                step := .awaitProof }
              (.challenge handler.serverName own.bytes
                (if handler.variant.isMutual then
                  some ((handler.transcript .server nonce own.bytes user).tag key)
                else none))
              .await with ⟨fault, same⟩ | ⟨bytes, encoded, same⟩
            · rw [same]
              exact ⟨_, .broken rfl rfl (Or.inr (Or.inr (Or.inl step)))⟩
            · rw [same]
              have given := given_drawNonce drawn
              rw [nonces_lookup looked] at given
              exact ⟨_, .challenged role step (by simpa using sized) (by simpa using named) given
                encoded⟩
        · dsimp only
          exact response_reject handler supplies _ judging (nonces_lookup looked) _
        · exact ⟨_, .delayed role step (nonces_lookup looked)⟩

omit [KeyStore κ] in
theorem response_onProof (tag : Bytes) (role : handler.lifecycle.role = some .server)
    (step : handler.step = .awaitProof) :
    ∃ said, Response handler supplies (.proof tag) said (handler.onProof tag).1 supplies
      (handler.onProof tag).2 := by
  simp only [onProof]
  split
  · rename_i key user key_eq user_eq
    split
    · rename_i proved
      subst proved
      rcases reply_cases { handler with step := .done, lifecycle := handler.welcoming user }
        (.verdict true "") (.succeed ⟨user, handler.protocol, handler.sessionKey key user⟩) with
        ⟨fault, same⟩ | ⟨bytes, encoded, same⟩
      · rw [welcoming] at same
        rw [same]
        exact ⟨_, .broken rfl rfl (Or.inl rfl)⟩
      · have accepted : Response handler supplies _ _ _ _ _ :=
          .accepted role step key_eq user_eq encoded
        rw [welcoming] at same accepted
        rw [same]
        exact ⟨_, accepted⟩
    · exact response_reject handler supplies _ (Or.inr ⟨role, Or.inr step⟩) rfl _
  · rename_i missing
    exact ⟨_, .keyless (Or.inr (Or.inr step)) (missing_of missing)⟩

theorem response_onServerMessage (role : handler.lifecycle.role = some .server) :
    ∃ said, Response handler supplies message said (handler.onServerMessage message supplies).1
      (handler.onServerMessage message supplies).2.1
      (handler.onServerMessage message supplies).2.2 := by
  simp only [onServerMessage]
  split
  · split
    · rename_i step
      exact response_onHello handler supplies _ _ _ role step
    · exact ⟨_, response_malformed ..⟩
  · split
    · rename_i step
      exact response_onProof handler supplies _ role step
    · exact ⟨_, response_malformed ..⟩
  · split
    · exact ⟨_, .failed⟩
    · exact ⟨_, response_malformed ..⟩
  · exact ⟨_, response_malformed ..⟩

theorem response_onMessage :
    ∃ said, Response handler supplies message said (handler.onMessage message supplies).1
      (handler.onMessage message supplies).2.1 (handler.onMessage message supplies).2.2 := by
  rw [onMessage]
  split
  · rename_i role
    exact response_onClientMessage handler supplies message role
  · rename_i role
    exact response_onServerMessage handler supplies message role
  · rename_i role
    exact ⟨_, .unbound role⟩

end

section

variable {handler next : SharedKey} {supplies later : Supplies κ} {message : Message}
  {reply : Option Message} {answer : Answer}

theorem Response.inbox (response : Response handler supplies message reply next later answer) :
    next.inbox = handler.inbox := by
  cases response with
  | broken inbox _ _ => exact inbox
  | rejected _ _ _ => rfl
  | failed => rfl
  | unbound _ => rfl
  | keyless _ _ => rfl
  | proved _ _ _ _ _ _ => rfl
  | admitted _ _ _ _ => rfl
  | delayed _ _ _ => rfl
  | challenged _ _ _ _ _ _ => rfl
  | accepted _ _ _ _ _ => rfl

theorem Response.said (response : Response handler supplies message reply next later answer) :
    SharedKey.said handler next [] = reply := by
  cases response with
  | broken _ outbox _ => exact said_of_kept (by rw [outbox]; rfl)
  | rejected _ encoded _ => exact said_of_queued rfl encoded
  | failed => exact said_of_kept rfl
  | unbound _ => exact said_of_kept rfl
  | keyless _ _ => exact said_of_kept rfl
  | proved _ _ _ _ _ encoded => exact said_of_queued rfl encoded
  | admitted _ _ _ _ => exact said_of_kept rfl
  | delayed _ _ _ => exact said_of_kept rfl
  | challenged _ _ _ _ _ encoded => exact said_of_queued rfl encoded
  | accepted _ _ _ _ encoded => exact said_of_queued rfl encoded

theorem Response.answer_ne (response : Response handler supplies message reply next later answer) :
    answer ≠ .ok .needData := by
  cases response <;> simp

end

inductive Listening (handler : SharedKey) : List Deed → SharedKey → Answer → Prop
  | nothing (inbox : Inbox) {answer : Answer} : Listening handler [] { handler with inbox } answer
  | handled {message : Message} {reply : Option Message} {first : List Deed} {inbox : Inbox}
      {next : SharedKey} {supplies later : Supplies κ} {answer : Answer}
      (came : handler.deferred = none ∧ first = [.heard message] ∨
        handler.deferred = some message ∧ first = [])
      (response : Response { handler with inbox, deferred := none } supplies message reply next
        later answer) :
      Listening handler
        (first ++ (supplies.nonces.given later.nonces).toList.map .drew ++
          reply.toList.map .said)
        next answer

theorem listening_read [KeyStore κ] (handler : SharedKey) (blob : Blob) (supplies : Supplies κ) :
    Listening (κ := κ) handler
      (deeds handler (handler.read blob supplies).handler supplies
        (handler.read blob supplies).surroundings (blob.contents.drop blob.position) [])
      (handler.read blob supplies).handler (handler.read blob supplies).answer := by
  have reading := reading_read handler blob supplies
  revert reading
  generalize blob.contents.drop blob.position = bytes
  rcases handler.read blob supplies with ⟨answer, last, _, later⟩
  intro reading
  dsimp only at reading ⊢
  cases reading with
  | broken fault =>
      rw [deeds_of_kept rfl rfl rfl]
      exact .nothing _
  | incomplete _ =>
      rw [deeds_of_kept rfl rfl rfl]
      exact .nothing _
  | @handled message middle _ _ _ _ found handled same =>
      obtain ⟨reply, response⟩ := response_onMessage middle supplies message
      rw [handled] at response
      dsimp only at response
      have givenAnswer := same.resolve_right fun needs => response.answer_ne needs.1
      subst givenAnswer
      rcases deferred : handler.deferred with _ | waiting
      · obtain ⟨inbox, rfl, complete⟩ := nextMessage_inbox found deferred
        have first : heard handler last bytes = some message :=
          heard_of_next (by rw [response.inbox]; exact complete)
        have uttered : said handler last [] = reply := response.said
        rw [deeds, first, uttered]
        exact .handled (Or.inl ⟨deferred, rfl⟩) response
      · simp only [nextMessage, receiving, deferred, Except.ok.injEq, Option.some.injEq,
          Prod.mk.injEq] at found
        obtain ⟨rfl, rfl⟩ := found
        have first : heard handler last bytes = none :=
          heard_of_kept (by rw [response.inbox])
        have uttered : said handler last [] = reply := response.said
        rw [deeds, first, uttered]
        exact .handled (Or.inr ⟨deferred, rfl⟩) response

end Parley.SharedKey
