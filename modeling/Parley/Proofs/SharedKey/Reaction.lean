import Parley.SharedKey
import Parley.Proofs.Lifecycle.Work

/-!
Everything that a shared-key handler can do in one go: to have something to send, to send it, to
take bytes from its peer, and to react to a message as the server. What a fault leaves behind is
said of the lifecycle alone, since a fault ends the handler.
-/

namespace Parley.SharedKey

open Lifecycle

variable {κ : Type}

def queueing (handler : SharedKey) (bytes : Bytes) (settlement : Settlement) : SharedKey :=
  { handler with outbox := ⟨handler.outbox.bytes ++ bytes⟩, afterSend := some settlement }

theorem reply_cases (handler : SharedKey) (message : Message) (settlement : Settlement) :
    (∃ fault, handler.reply message settlement = (handler, .error fault)) ∨
      ∃ bytes, message.encode = .ok bytes ∧
        handler.reply message settlement = (handler.queueing bytes settlement, .ok .pendingData) := by
  rw [reply, Outbox.queue]
  cases encoded : message.encode with
  | error fault => exact Or.inl ⟨fault, rfl⟩
  | ok bytes => exact Or.inr ⟨bytes, rfl, rfl⟩

inductive Preparation (handler : SharedKey) (supplies : Supplies κ) :
    SharedKey → Supplies κ → Answer → Prop
  | queued (someQueued : handler.outbox.isEmpty = false ∨ handler.afterSend.isSome = true) :
      Preparation handler supplies handler supplies (.ok .pendingData)
  | idle {mode : Mode} (reason : mode = .noIdentity ∨ mode = .needData)
      (noneQueued : handler.outbox.isEmpty = true ∧ handler.afterSend = none) :
      Preparation handler supplies handler supplies (.ok mode)
  | opened (role : handler.lifecycle.role = some .server) (step : handler.step = .start)
      (noneQueued : handler.outbox.isEmpty = true ∧ handler.afterSend = none) :
      Preparation handler supplies { handler with step := .awaitHello } supplies (.ok .needData)
  | greeted {user : String} {own : Nonce} {later : Supplies κ} {bytes : Bytes}
      (role : handler.lifecycle.role = some .client) (step : handler.step = .start)
      (userEq : handler.user = some user) (drawn : supplies.drawNonce = (some own, later))
      (encoded : (Message.hello handler.protocol user own.bytes).encode = .ok bytes)
      (noneQueued : handler.outbox.isEmpty = true ∧ handler.afterSend = none) :
      Preparation handler supplies
        ({ handler with clientNonce := own.bytes, step := .awaitChallenge }.queueing bytes .await)
        later (.ok .pendingData)
  | broken {next : SharedKey} {later : Supplies κ} {fault : Fault}
      (role : handler.lifecycle.role = some .client)
      (worked : Worked handler.lifecycle next.lifecycle (.error fault)) :
      Preparation handler supplies next later (.error fault)

theorem prepare_preparation (handler : SharedKey) (supplies : Supplies κ) :
    Preparation handler supplies (handler.prepare supplies).1 (handler.prepare supplies).2.1
      (handler.prepare supplies).2.2 := by
  rw [prepare]
  split
  · rename_i queued
    exact .queued (by simpa using queued)
  · rename_i nothing
    have noneQueued : handler.outbox.isEmpty = true ∧ handler.afterSend = none := by
      simpa using nothing
    split
    · exact .idle (Or.inl rfl) noneQueued
    · rename_i role step
      split
      · exact .idle (Or.inl rfl) noneQueued
      · rename_i user user_eq
        simp only [sayHello]
        split
        · exact .broken role (worked_broken _)
        · rename_i own later drawn
          rcases reply_cases { handler with clientNonce := own.bytes, step := .awaitChallenge }
            (.hello handler.protocol user own.bytes) .await with ⟨fault, same⟩ |
            ⟨bytes, encoded, same⟩
          · rw [same]
            exact .broken role (worked_broken _)
          · rw [same]
            exact .greeted role step user_eq drawn encoded noneQueued
    · rename_i role step
      exact .opened role step noneQueued
    · exact .idle (Or.inr rfl) noneQueued

inductive Flush (handler : SharedKey) : SharedKey → Mode → Prop
  | partly {bytes : Bytes} (left : bytes ≠ []) :
      Flush handler { handler with outbox := ⟨bytes⟩ } .continue
  | wholly :
      Flush handler
        { handler with
          outbox := ⟨[]⟩
          afterSend := none
          lifecycle := (handler.lifecycle.apply (handler.afterSend.getD .await)).1 }
        (handler.lifecycle.apply (handler.afterSend.getD .await)).2

theorem flush_flush (handler : SharedKey) (blob : Blob) :
    Flush handler (handler.flush blob).1 (handler.flush blob).2.2 := by
  simp only [flush]
  generalize handler.outbox.fill blob = filled
  rcases filled with ⟨⟨bytes⟩, later⟩
  split
  · rename_i empty
    obtain rfl : bytes = [] := by simpa [Outbox.isEmpty] using empty
    exact .wholly
  · rename_i left
    exact .partly (by simpa [Outbox.isEmpty] using left)

inductive Writing (handler : SharedKey) (supplies : Supplies κ) :
    SharedKey → Supplies κ → Answer → Prop
  | unready {next : SharedKey} {later : Supplies κ} {answer : Answer}
      (prepared : Preparation handler supplies next later answer)
      (unready : answer ≠ .ok .pendingData) : Writing handler supplies next later answer
  | flushed {next last : SharedKey} {later : Supplies κ} {mode : Mode}
      (prepared : Preparation handler supplies next later (.ok .pendingData))
      (flushed : Flush next last mode) : Writing handler supplies last later (.ok mode)

theorem writing_write (handler : SharedKey) (blob : Blob) (supplies : Supplies κ) :
    Writing handler supplies (handler.write blob supplies).handler
      (handler.write blob supplies).surroundings (handler.write blob supplies).answer := by
  have prepared := prepare_preparation handler supplies
  rw [write]
  revert prepared
  rcases handler.prepare supplies with ⟨next, later, answer⟩
  intro prepared
  split
  · rename_i same
    cases same
    exact .flushed prepared (flush_flush next blob)
  · rename_i other same
    cases same
    exact .unready prepared other

def receiving (handler : SharedKey) (bytes : Bytes) : SharedKey :=
  { handler with inbox := ⟨handler.inbox.bytes ++ bytes⟩ }

inductive Reading [KeyStore κ] (handler : SharedKey) (supplies : Supplies κ) (bytes : Bytes) :
    SharedKey → Supplies κ → Answer → Prop
  | broken (fault : Fault) :
      Reading handler supplies bytes (handler.receiving bytes) supplies (.error fault)
  | incomplete (nothing : (handler.receiving bytes).nextMessage = .ok none) :
      Reading handler supplies bytes (handler.receiving bytes) supplies (.ok .needData)
  | handled {message : Message} {next last : SharedKey} {later : Supplies κ}
      {given answer : Answer}
      (found : (handler.receiving bytes).nextMessage = .ok (some (message, next)))
      (handled : next.onMessage message supplies = (last, later, given))
      (same : answer = given ∨ given = .ok .needData ∧ answer = .ok .continue) :
      Reading handler supplies bytes last later answer

theorem reading_read [KeyStore κ] (handler : SharedKey) (blob : Blob) (supplies : Supplies κ) :
    Reading handler supplies (blob.contents.drop blob.position)
      (handler.read blob supplies).handler (handler.read blob supplies).surroundings
      (handler.read blob supplies).answer := by
  have received : { handler with inbox := (handler.inbox.absorb blob).1 } =
      handler.receiving (blob.contents.drop blob.position) := rfl
  simp only [read]
  rw [received]
  split
  · exact .broken _
  · rename_i nothing
    exact .incomplete nothing
  · rename_i message next found
    rcases handled : next.onMessage message supplies with ⟨last, later, given⟩
    refine .handled found handled ?_
    dsimp only
    split
    · split
      · exact Or.inl rfl
      · exact Or.inr ⟨rfl, rfl⟩
    · exact Or.inl rfl

def welcoming (handler : SharedKey) (user : String) : Lifecycle :=
  if handler.lifecycle.identity.isNone then handler.lifecycle.adopt ⟨user, handler.protocol⟩
  else handler.lifecycle

inductive Reaction [KeyStore κ] (handler : SharedKey) (supplies : Supplies κ) :
    Message → SharedKey → Supplies κ → Answer → Prop
  | broken {message : Message} {next : SharedKey} {later : Supplies κ} {fault : Fault}
      (worked : Worked handler.lifecycle next.lifecycle (.error fault)) :
      Reaction handler supplies message next later (.error fault)
  | rejected {message : Message} {refusal : Refusal} {bytes : Bytes} {later : Supplies κ} :
      Reaction handler supplies message
        ({ handler with step := .done }.queueing bytes (.fail refusal.text)) later
        (.ok .pendingData)
  | waiting {user : String} {nonce : Bytes} {seconds : Nat} {later : Supplies κ}
      (step : handler.step = .awaitHello)
      (locked : handler.lookup user supplies = (.locked seconds, later)) :
      Reaction handler supplies (.hello handler.protocol user nonce)
        { handler with deferred := some (.hello handler.protocol user nonce) } later
        (.ok (.wait seconds))
  | challenged {user : String} {nonce bytes : Bytes} {key : SecretKey} {own : Nonce}
      {middle later : Supplies κ} (step : handler.step = .awaitHello)
      (sized : nonce.length = nonceLength) (named : user ≠ "")
      (found : handler.lookup user supplies = (.found key, middle))
      (drawn : middle.drawNonce = (some own, later)) :
      Reaction handler supplies (.hello handler.protocol user nonce)
        ({ handler with
          key := some key
          user := some user
          clientNonce := nonce
          serverNonce := own.bytes
          step := .awaitProof }.queueing bytes .await)
        later (.ok .pendingData)
  | accepted {key : SecretKey} {user : String} {tag bytes : Bytes}
      (step : handler.step = .awaitProof) (keyEq : handler.key = some key)
      (userEq : handler.user = some user)
      (proved :
        (handler.transcript .client handler.serverNonce handler.clientNonce user).tag key = tag) :
      Reaction handler supplies (.proof tag)
        ({ handler with step := .done, lifecycle := handler.welcoming user }.queueing bytes
          (.succeed ⟨user, handler.protocol, handler.sessionKey key user⟩))
        supplies (.ok .pendingData)
  | aborted {reason : String} :
      Reaction handler supplies (.verdict false reason)
        { handler with
          step := .done
          lifecycle := handler.lifecycle.fail ("client aborted: " ++ reason) }
        supplies (.ok .failed)
  | unbound {message : Message} (step : handler.step = .awaitProof)
      (missing : handler.key = none ∨ handler.user = none) :
      Reaction handler supplies message handler supplies (.ok .noIdentity)

variable [KeyStore κ]

theorem nonces_lookup {handler : SharedKey} {user : String} {supplies later : Supplies κ}
    {result : KeyLookup} (looked : handler.lookup user supplies = (result, later)) :
    later.nonces = supplies.nonces := by
  rw [lookup] at looked
  split at looked
  · cases looked
    rfl
  · cases looked
    rfl

theorem reaction_reject (handler : SharedKey) (supplies later : Supplies κ) (message : Message)
    (refusal : Refusal) :
    Reaction handler supplies message (handler.reject refusal).1 later
      (handler.reject refusal).2 := by
  rcases reply_cases { handler with step := .done } (.verdict false refusal.text)
    (.fail refusal.text) with ⟨fault, same⟩ | ⟨bytes, _, same⟩
  · rw [reject, same]
    exact .broken (worked_broken _)
  · rw [reject, same]
    exact .rejected

theorem reaction_onHello (handler : SharedKey) (supplies : Supplies κ) (protocol user : String)
    (nonce : Bytes) (step : handler.step = .awaitHello) :
    Reaction handler supplies (.hello protocol user nonce)
      (handler.onHello protocol user nonce supplies).1
      (handler.onHello protocol user nonce supplies).2.1
      (handler.onHello protocol user nonce supplies).2.2 := by
  simp only [onHello]
  split
  · exact .broken (worked_broken _)
  · rename_i sized
    split
    · dsimp only
      exact reaction_reject ..
    · rename_i ownProtocol
      obtain rfl : protocol = handler.protocol := by simpa using ownProtocol
      split
      · dsimp only
        exact reaction_reject ..
      · rename_i named
        split
        · rename_i key middle found
          simp only [challenge]
          split
          · exact .broken (worked_broken _)
          · rename_i own later drawn
            rcases reply_cases
              { handler with
                key := some key
                user := some user
                clientNonce := nonce
                serverNonce := own.bytes
                step := .awaitProof }
              (.challenge handler.serverName own.bytes
                (if handler.variant.isMutual then
                  some ((handler.transcript .server nonce own.bytes user).tag key)
                else none))
              .await with ⟨fault, same⟩ | ⟨bytes, _, same⟩
            · rw [same]
              exact .broken (worked_broken _)
            · rw [same]
              exact .challenged step (by simpa using sized) (by simpa using named) found drawn
        · dsimp only
          exact reaction_reject ..
        · rename_i seconds later locked
          exact .waiting step locked

theorem reaction_onProof (handler : SharedKey) (supplies : Supplies κ) (tag : Bytes)
    (step : handler.step = .awaitProof) :
    Reaction handler supplies (.proof tag) (handler.onProof tag).1 supplies
      (handler.onProof tag).2 := by
  simp only [onProof]
  split
  · rename_i key user keyEq userEq
    split
    · rename_i proved
      rcases reply_cases { handler with step := .done, lifecycle := handler.welcoming user }
        (.verdict true "") (.succeed ⟨user, handler.protocol, handler.sessionKey key user⟩) with
        ⟨fault, same⟩ | ⟨bytes, _, same⟩
      · rw [welcoming] at same
        rw [same]
        refine .broken ?_
        split
        · exact (worked_broken _).adopting
        · exact worked_broken _
      · have accepted : Reaction handler supplies (.proof tag)
            ({ handler with step := .done, lifecycle := handler.welcoming user }.queueing bytes
              (.succeed ⟨user, handler.protocol, handler.sessionKey key user⟩))
            supplies (.ok .pendingData) := .accepted step keyEq userEq proved
        rw [welcoming] at same accepted
        rw [same]
        exact accepted
    · exact reaction_reject ..
  · rename_i missing
    refine .unbound step ?_
    rcases keyEq : handler.key with _ | key
    · exact Or.inl rfl
    · rcases userEq : handler.user with _ | user
      · exact Or.inr rfl
      · exact (missing key user keyEq userEq).elim

theorem reaction_onServerMessage (handler : SharedKey) (supplies : Supplies κ)
    (message : Message) :
    Reaction handler supplies message (handler.onServerMessage message supplies).1
      (handler.onServerMessage message supplies).2.1
      (handler.onServerMessage message supplies).2.2 := by
  simp only [onServerMessage]
  split
  · split
    · rename_i step
      exact reaction_onHello handler supplies _ _ _ step
    · exact .broken (worked_broken _)
  · split
    · rename_i step
      exact reaction_onProof handler supplies _ step
    · exact .broken (worked_broken _)
  · split
    · exact .aborted
    · exact .broken (worked_broken _)
  · exact .broken (worked_broken _)

end Parley.SharedKey
