import Parley.Proofs.SharedKey.Work

/-!
What the work of a shared-key handler does not look at: the way of exchanging data that it is called
in, what it keeps for takeovers and, once a message is taken from it, its inbox. Handlers that
differ in nothing else work alike.
-/

namespace Parley.SharedKey

variable {κ : Type} (exchange : Option ExchangeKind) (desk : Blob) (consuming : Bool)
  (inbox : Inbox) (handler : SharedKey)

def vary : SharedKey :=
  { handler with lifecycle := { handler.lifecycle with exchange }, desk, consuming, inbox }

theorem reply_vary (message : Message) (settlement : Settlement) :
    (handler.vary exchange desk consuming inbox).reply message settlement =
      Prod.map (vary exchange desk consuming inbox) id (handler.reply message settlement) := by
  simp only [reply, vary]
  cases handler.outbox.queue message with
  | error fault => rfl
  | ok outbox => rfl

theorem reject_vary (refusal : Refusal) :
    (handler.vary exchange desk consuming inbox).reject refusal =
      Prod.map (vary exchange desk consuming inbox) id (handler.reject refusal) :=
  reply_vary exchange desk consuming inbox { handler with step := .done } _ _

/-! ## Writing -/

theorem sayHello_vary (user : String) (supplies : Supplies κ) :
    (handler.vary exchange desk consuming inbox).sayHello user supplies =
      Prod.map (vary exchange desk consuming inbox) id (handler.sayHello user supplies) := by
  simp only [sayHello]
  rcases supplies.drawNonce with ⟨_ | own, later⟩
  · rfl
  · have replied := reply_vary exchange desk consuming inbox
      { handler with clientNonce := own.bytes, step := .awaitChallenge }
      (.hello handler.protocol user own.bytes) .await
    simp only [vary, protocol] at replied ⊢
    rw [replied]
    generalize reply _ _ _ = result
    rfl

theorem prepare_vary (supplies : Supplies κ) :
    (handler.vary exchange desk consuming inbox).prepare supplies =
      Prod.map (vary exchange desk consuming inbox) id (handler.prepare supplies) := by
  rw [prepare, prepare]
  have queued : (!(handler.vary exchange desk consuming inbox).outbox.isEmpty ||
      (handler.vary exchange desk consuming inbox).afterSend.isSome) =
      (!handler.outbox.isEmpty || handler.afterSend.isSome) := rfl
  have role : (handler.vary exchange desk consuming inbox).lifecycle.role =
      handler.lifecycle.role := rfl
  have step : (handler.vary exchange desk consuming inbox).step = handler.step := rfl
  have user : (handler.vary exchange desk consuming inbox).user = handler.user := rfl
  rw [queued, role, step, user]
  split
  · rfl
  · split
    · rfl
    · split
      · rfl
      · exact sayHello_vary exchange desk consuming inbox handler _ supplies
    · rfl
    · rfl

theorem flush_vary (blob : Blob) :
    (handler.vary exchange desk consuming inbox).flush blob =
      Prod.map (vary exchange desk consuming inbox) id (handler.flush blob) := by
  have filled : (handler.vary exchange desk consuming inbox).outbox = handler.outbox := rfl
  have settlement : (handler.vary exchange desk consuming inbox).afterSend =
      handler.afterSend := rfl
  rw [flush, flush, filled, settlement]
  rcases handler.outbox.fill blob with ⟨outbox, filled⟩
  dsimp only
  split
  · cases handler.afterSend.getD .await <;> rfl
  · rfl

def varyTurn (turn : Turn (Supplies κ) SharedKey) : Turn (Supplies κ) SharedKey :=
  { turn with handler := turn.handler.vary exchange desk consuming inbox }

theorem write_vary (blob : Blob) (supplies : Supplies κ) :
    (handler.vary exchange desk consuming inbox).write blob supplies =
      varyTurn exchange desk consuming inbox (handler.write blob supplies) := by
  rw [write, write, prepare_vary]
  rcases handler.prepare supplies with ⟨next, later, answer⟩
  dsimp only [Prod.map, id]
  split
  · rename_i same
    obtain ⟨rfl, rfl, rfl⟩ := by simpa only [Prod.mk.injEq] using same
    rw [flush_vary]
    rfl
  · rename_i other same
    obtain ⟨rfl, rfl, rfl⟩ := by simpa only [Prod.mk.injEq] using same
    split
    · rename_i pending
      simp only [Prod.mk.injEq] at pending
      exact absurd pending.2.2 (by simpa using other)
    · rename_i same
      obtain ⟨rfl, rfl, rfl⟩ := by simpa only [Prod.mk.injEq] using same
      rfl

/-! ## Reading -/

theorem onChallenge_vary (server : String) (nonce : Bytes) (tag : Option Bytes) :
    (handler.vary exchange desk consuming inbox).onChallenge server nonce tag =
      Prod.map (vary exchange desk consuming inbox) id (handler.onChallenge server nonce tag) := by
  have checked (key : SecretKey) (user : String) :
      (handler.vary exchange desk consuming inbox).checkServerProof key user nonce tag =
        handler.checkServerProof key user nonce tag := rfl
  have key : (handler.vary exchange desk consuming inbox).key = handler.key := rfl
  have user : (handler.vary exchange desk consuming inbox).user = handler.user := rfl
  rw [onChallenge, onChallenge, key, user]
  split
  · rfl
  · split
    · rw [checked]
      split
      · rfl
      · exact reject_vary exchange desk consuming inbox handler _
      · exact reply_vary exchange desk consuming inbox
          { handler with serverNonce := nonce, peerName := some server, step := .awaitVerdict } _ _
    · rfl

theorem onAcceptance_vary :
    (handler.vary exchange desk consuming inbox).onAcceptance =
      Prod.map (vary exchange desk consuming inbox) id handler.onAcceptance := by
  have key : (handler.vary exchange desk consuming inbox).key = handler.key := rfl
  have user : (handler.vary exchange desk consuming inbox).user = handler.user := rfl
  rw [onAcceptance, onAcceptance, key, user]
  split <;> rfl

theorem onClientMessage_vary (message : Message) :
    (handler.vary exchange desk consuming inbox).onClientMessage message =
      Prod.map (vary exchange desk consuming inbox) id (handler.onClientMessage message) := by
  have step : (handler.vary exchange desk consuming inbox).step = handler.step := rfl
  rw [onClientMessage.eq_def, onClientMessage.eq_def, step]
  split
  · split
    · exact onChallenge_vary exchange desk consuming inbox handler _ _ _
    · rfl
  · split
    · exact onAcceptance_vary exchange desk consuming inbox handler
    · rfl
  · split <;> rfl
  · rfl

theorem challenge_of_drawn {user : String} {nonce : Bytes} {key : SecretKey}
    {supplies later : Supplies κ} {own : Nonce} (drawn : supplies.drawNonce = (some own, later)) :
    handler.challenge user nonce key supplies =
      Prod.map id (Prod.mk later)
        ({ handler with
          key := some key
          user := some user
          clientNonce := nonce
          serverNonce := own.bytes
          step := .awaitProof }.reply
          (.challenge handler.serverName own.bytes
            (if handler.variant.isMutual then
              some ((handler.transcript .server nonce own.bytes user).tag key)
            else none)) .await) := by
  rw [challenge, drawn]
  dsimp only
  generalize reply _ _ _ = result
  rfl

theorem challenge_vary (user : String) (nonce : Bytes) (key : SecretKey)
    (supplies : Supplies κ) :
    (handler.vary exchange desk consuming inbox).challenge user nonce key supplies =
      Prod.map (vary exchange desk consuming inbox) id
        (handler.challenge user nonce key supplies) := by
  rcases drawn : supplies.drawNonce with ⟨_ | own, later⟩
  · rw [challenge, challenge, drawn]
    rfl
  · rw [challenge_of_drawn _ drawn, challenge_of_drawn _ drawn, Prod.map_map]
    have tagged :
        (handler.vary exchange desk consuming inbox).transcript .server nonce own.bytes user =
          handler.transcript .server nonce own.bytes user := rfl
    have variant : (handler.vary exchange desk consuming inbox).variant = handler.variant := rfl
    have name : (handler.vary exchange desk consuming inbox).serverName = handler.serverName := rfl
    rw [tagged, variant, name]
    generalize Message.challenge _ _ _ = message
    have replied := reply_vary exchange desk consuming inbox
      { handler with
        key := some key
        user := some user
        clientNonce := nonce
        serverNonce := own.bytes
        step := .awaitProof } message .await
    dsimp only [vary] at replied ⊢
    rw [replied]
    generalize reply _ _ _ = result
    rfl

variable [KeyStore κ]

theorem onHello_vary (spoken user : String) (nonce : Bytes) (supplies : Supplies κ) :
    (handler.vary exchange desk consuming inbox).onHello spoken user nonce supplies =
      Prod.map (vary exchange desk consuming inbox) id
        (handler.onHello spoken user nonce supplies) := by
  have protocolEq : (handler.vary exchange desk consuming inbox).protocol = handler.protocol := rfl
  have looked : (handler.vary exchange desk consuming inbox).lookup user supplies =
      handler.lookup user supplies := rfl
  simp only [onHello, protocolEq, looked]
  split
  · rfl
  · split
    · rw [reject_vary]
      generalize handler.reject _ = result
      rfl
    · split
      · rw [reject_vary]
        generalize handler.reject _ = result
        rfl
      · split
        · exact challenge_vary exchange desk consuming inbox handler user nonce _ _
        · rw [reject_vary]
          generalize handler.reject _ = result
          rfl
        · rfl

theorem welcoming_vary (user : String) :
    (handler.vary exchange desk consuming inbox).welcoming user =
      { handler.welcoming user with exchange } := by
  rw [welcoming, welcoming]
  have identity : (handler.vary exchange desk consuming inbox).lifecycle.identity =
      handler.lifecycle.identity := rfl
  rw [identity]
  split <;> rfl

theorem onProof_of_keyed {key : SecretKey} {user : String} (known : handler.key = some key)
    (named : handler.user = some user) (tag : Bytes) :
    handler.onProof tag =
      if (handler.transcript .client handler.serverNonce handler.clientNonce user).tag key = tag then
        { handler with step := .done, lifecycle := handler.welcoming user }.reply (.verdict true "")
          (.succeed ⟨user, handler.protocol, handler.sessionKey key user⟩)
      else handler.reject .wrongClientProof := by
  rw [onProof, known, named]
  rfl

theorem onProof_vary (tag : Bytes) :
    (handler.vary exchange desk consuming inbox).onProof tag =
      Prod.map (vary exchange desk consuming inbox) id (handler.onProof tag) := by
  have keyEq : (handler.vary exchange desk consuming inbox).key = handler.key := rfl
  have userEq : (handler.vary exchange desk consuming inbox).user = handler.user := rfl
  rcases known : handler.key with _ | key
  · rw [onProof, onProof, keyEq, known]
    rfl
  · rcases named : handler.user with _ | user
    · rw [onProof, onProof, keyEq, userEq, known, named]
      rfl
    · have expected : (handler.vary exchange desk consuming inbox).transcript .client
          (handler.vary exchange desk consuming inbox).serverNonce
          (handler.vary exchange desk consuming inbox).clientNonce user =
        handler.transcript .client handler.serverNonce handler.clientNonce user := rfl
      rw [onProof_of_keyed _ known named, onProof_of_keyed _ (keyEq.trans known)
        (userEq.trans named), expected]
      split
      · rw [welcoming_vary]
        exact reply_vary exchange desk consuming inbox
          { handler with step := .done, lifecycle := handler.welcoming user } _ _
      · exact reject_vary exchange desk consuming inbox handler _

theorem onServerMessage_vary (message : Message) (supplies : Supplies κ) :
    (handler.vary exchange desk consuming inbox).onServerMessage message supplies =
      Prod.map (vary exchange desk consuming inbox) id
        (handler.onServerMessage message supplies) := by
  have step : (handler.vary exchange desk consuming inbox).step = handler.step := rfl
  simp only [onServerMessage, step]
  split
  · split
    · exact onHello_vary exchange desk consuming inbox handler _ _ _ supplies
    · rfl
  · split
    · rw [onProof_vary]
      generalize handler.onProof _ = result
      rfl
    · rfl
  · split <;> rfl
  · rfl

theorem onMessage_vary (message : Message) (supplies : Supplies κ) :
    (handler.vary exchange desk consuming inbox).onMessage message supplies =
      Prod.map (vary exchange desk consuming inbox) id (handler.onMessage message supplies) := by
  have role : (handler.vary exchange desk consuming inbox).lifecycle.role =
      handler.lifecycle.role := rfl
  simp only [onMessage, role]
  split
  · rw [onClientMessage_vary]
    generalize handler.onClientMessage message = result
    rfl
  · exact onServerMessage_vary exchange desk consuming inbox handler message supplies
  · rfl

/-! ## What stays as it is -/

section

variable (message : Message) (bytes : Bytes) (blob : Blob) (supplies : Supplies κ)

omit [KeyStore κ] in
theorem vary_self :
    handler.vary handler.lifecycle.exchange handler.desk handler.consuming handler.inbox =
      handler := rfl

theorem onMessage_self :
    handler.onMessage message supplies =
      Prod.map (vary handler.lifecycle.exchange handler.desk handler.consuming handler.inbox) id
        (handler.onMessage message supplies) := by
  have varied := onMessage_vary handler.lifecycle.exchange handler.desk handler.consuming
    handler.inbox handler message supplies
  rwa [vary_self] at varied

omit [KeyStore κ] in
theorem write_self :
    handler.write blob supplies =
      varyTurn handler.lifecycle.exchange handler.desk handler.consuming handler.inbox
        (handler.write blob supplies) := by
  have varied := write_vary handler.lifecycle.exchange handler.desk handler.consuming
    handler.inbox handler blob supplies
  rwa [vary_self] at varied

theorem onMessage_receiving :
    (handler.receiving bytes).onMessage message supplies =
      Prod.map (fun next => next.receiving bytes) id (handler.onMessage message supplies) := by
  have varied := onMessage_vary handler.lifecycle.exchange handler.desk handler.consuming
    ⟨handler.inbox.bytes ++ bytes⟩ handler message supplies
  have received : handler.receiving bytes =
      handler.vary handler.lifecycle.exchange handler.desk handler.consuming
        ⟨handler.inbox.bytes ++ bytes⟩ := rfl
  rw [received, varied, onMessage_self handler message supplies]
  rfl

omit [KeyStore κ] in
theorem write_receiving :
    (handler.receiving bytes).write blob supplies =
      { handler.write blob supplies with
        handler := (handler.write blob supplies).handler.receiving bytes } := by
  have varied := write_vary handler.lifecycle.exchange handler.desk handler.consuming
    ⟨handler.inbox.bytes ++ bytes⟩ handler blob supplies
  have received : handler.receiving bytes =
      handler.vary handler.lifecycle.exchange handler.desk handler.consuming
        ⟨handler.inbox.bytes ++ bytes⟩ := rfl
  rw [received, varied, write_self handler blob supplies]
  rfl

end

/-! ## Takeovers and calls -/

/-- The handler with another way of exchanging data and other things kept for takeovers. -/
def dress : SharedKey :=
  { handler with lifecycle := { handler.lifecycle with exchange }, desk, consuming }

def dressTurn (turn : Turn (Supplies κ) SharedKey) : Turn (Supplies κ) SharedKey :=
  { turn with handler := turn.handler.dress exchange desk consuming }

theorem onMessage_dress (message : Message) (supplies : Supplies κ) :
    (handler.dress exchange desk consuming).onMessage message supplies =
      Prod.map (dress exchange desk consuming) id (handler.onMessage message supplies) := by
  have varied := onMessage_vary exchange desk consuming handler.inbox handler message supplies
  have dressed : handler.dress exchange desk consuming =
      handler.vary exchange desk consuming handler.inbox := rfl
  rw [dressed, varied, onMessage_self handler message supplies]
  rfl

omit [KeyStore κ] in
theorem write_dress (blob : Blob) (supplies : Supplies κ) :
    (handler.dress exchange desk consuming).write blob supplies =
      dressTurn exchange desk consuming (handler.write blob supplies) := by
  have varied := write_vary exchange desk consuming handler.inbox handler blob supplies
  have dressed : handler.dress exchange desk consuming =
      handler.vary exchange desk consuming handler.inbox := rfl
  rw [dressed, varied, write_self handler blob supplies]
  rfl

omit [KeyStore κ] in
theorem nextMessage_dress :
    (handler.dress exchange desk consuming).nextMessage =
      handler.nextMessage.map (Option.map (Prod.map id (dress exchange desk consuming))) := by
  have deferred : (handler.dress exchange desk consuming).deferred = handler.deferred := rfl
  have inbox : (handler.dress exchange desk consuming).inbox = handler.inbox := rfl
  rw [nextMessage, nextMessage, deferred, inbox]
  split
  · rfl
  · split <;> rfl

theorem read_dress (blob : Blob) (supplies : Supplies κ) :
    (handler.dress exchange desk consuming).read blob supplies =
      dressTurn exchange desk consuming (handler.read blob supplies) := by
  have received : { handler.dress exchange desk consuming with
        inbox := ((handler.dress exchange desk consuming).inbox.absorb blob).1 } =
      dress exchange desk consuming
        { handler with inbox := (handler.inbox.absorb blob).1 } := rfl
  have kept : ((handler.dress exchange desk consuming).inbox.absorb blob).2 =
      (handler.inbox.absorb blob).2 := rfl
  simp only [read]
  rw [received, kept, nextMessage_dress]
  generalize { handler with inbox := (handler.inbox.absorb blob).1 } = receiving
  rcases receiving.nextMessage with fault | _ | ⟨message, next⟩
  · rfl
  · rfl
  · simp only [Except.map, Option.map, Prod.map, id, onMessage_dress]
    generalize next.onMessage message supplies = result
    rcases result with ⟨last, later, answer⟩
    have empty : (last.dress exchange desk consuming).inbox = last.inbox := rfl
    simp only [empty]
    rfl

end Parley.SharedKey
