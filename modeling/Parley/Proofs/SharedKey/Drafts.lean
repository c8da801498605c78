import Parley.Proofs.SharedKey.Twins

/-!
Drafts of what a handler does: its work with the tags still to be made. A draft makes no tag itself
but shows each transcript that a tag is to be made of, and done with the true tags it is the work.
Tags are made where messages are handled, so the drafts are of calls that read.
-/

namespace Parley

/-- Work that has tags made on its way. -/
inductive Draft (α : Type) where
  | done (value : α)
  | tag (transcript : Transcript) (key : SecretKey) (next : Bytes → Draft α)

namespace Draft

variable {α β : Type}

def bind : Draft α → (α → Draft β) → Draft β
  | .done value, further => further value
  | .tag transcript key next, further => .tag transcript key fun tag => (next tag).bind further

def map (f : α → β) (draft : Draft α) : Draft β := draft.bind fun value => .done (f value)

def run (make : Transcript → SecretKey → Bytes) : Draft α → α
  | .done value => value
  | .tag transcript key next => (next (make transcript key)).run make

/-- Every transcript that a tag is made of is like this, whatever the tags before it were. -/
def All (like : Transcript → Prop) : Draft α → Prop
  | .done _ => True
  | .tag transcript _ next => like transcript ∧ ∀ tag, (next tag).All like

variable {draft : Draft α} {further : α → Draft β} {like : Transcript → Prop}

theorem run_done (make : Transcript → SecretKey → Bytes) (value : α) :
    (done value).run make = value := rfl

theorem run_tag (make : Transcript → SecretKey → Bytes) (transcript : Transcript)
    (key : SecretKey) (next : Bytes → Draft α) :
    (tag transcript key next).run make = (next (make transcript key)).run make := rfl

theorem run_bind (make : Transcript → SecretKey → Bytes) (draft : Draft α)
    (further : α → Draft β) :
    (draft.bind further).run make = (further (draft.run make)).run make := by
  induction draft with
  | done value => rfl
  | tag transcript key next ih => exact ih (make transcript key)

theorem run_map (make : Transcript → SecretKey → Bytes) (f : α → β) (draft : Draft α) :
    (draft.map f).run make = f (draft.run make) := by
  rw [map, run_bind]
  rfl

theorem All.bind (all : draft.All like) (later : ∀ value, (further value).All like) :
    (draft.bind further).All like := by
  induction draft with
  | done value => exact later value
  | tag transcript key next ih => exact ⟨all.1, fun tag => ih tag (all.2 tag)⟩

theorem All.map (all : draft.All like) (f : α → β) : (draft.map f).All like :=
  all.bind fun _ => trivial

end Draft

namespace SharedKey

variable {κ : Type} [KeyStore κ]

/-! ## Drafts -/

def draftServerProof (handler : SharedKey) (key : SecretKey) (user : String) (nonce : Bytes) :
    Option Bytes → Draft (Except Malformation (Option Refusal))
  | some tag =>
    if handler.variant.isMutual then
      .tag (handler.transcript .server handler.clientNonce nonce user) key fun expected =>
        .done (if expected = tag then .ok none else .ok (some .wrongServerProof))
    else .done (.error (.unexpectedServerProof handler.protocol))
  | none => .done (.ok (if handler.variant.isMutual then some .noServerProof else none))

def draftOnChallenge (handler : SharedKey) (server : String) (nonce : Bytes) (tag : Option Bytes) :
    Draft (SharedKey × Answer) :=
  if nonce.length ≠ nonceLength then .done (handler.malformed (.nonce nonce.length))
  else
    match handler.key, handler.user with
    | some key, some user =>
      (handler.draftServerProof key user nonce tag).bind fun
        | .error problem => .done (handler.malformed problem)
        | .ok (some refusal) => .done (handler.reject refusal)
        | .ok none =>
          .tag (handler.transcript .client nonce handler.clientNonce user) key fun answer =>
            .done ({ handler with
              serverNonce := nonce
              peerName := some server
              step := .awaitVerdict }.reply (.proof answer) .await)
    | _, _ => .done (handler, .ok .noIdentity)

def draftSessionKey (handler : SharedKey) (key : SecretKey) (user : String) : Draft Bytes :=
  .tag (handler.transcript .session handler.clientNonce handler.serverNonce user) key .done

def draftOnAcceptance (handler : SharedKey) : Draft (SharedKey × Answer) :=
  match handler.key, handler.user with
  | some key, some user =>
    (handler.draftSessionKey key user).map fun session =>
      let credential : Credential :=
        ⟨handler.peerName.getD defaultServerName, handler.protocol, session⟩
      ({ handler with step := .done, lifecycle := handler.lifecycle.succeed credential },
        .ok .success)
  | _, _ => .done (handler, .ok .noIdentity)

def draftOnClientMessage (handler : SharedKey) : Message → Draft (SharedKey × Answer)
  | .challenge server nonce tag =>
    if handler.step = .awaitChallenge then handler.draftOnChallenge server nonce tag
    else
      .done
        (handler.malformed (.unexpected "challenge" ("while client is in " ++ handler.step.name)))
  | .verdict true _ =>
    if handler.step = .awaitVerdict then handler.draftOnAcceptance
    else
      .done (handler.malformed (.unexpected "verdict" ("while client is in " ++ handler.step.name)))
  | .verdict false reason =>
    if handler.step = .awaitChallenge ∨ handler.step = .awaitVerdict then
      .done (handler.onRejection ("server rejected authentication: " ++ reason))
    else
      .done (handler.malformed (.unexpected "verdict" ("while client is in " ++ handler.step.name)))
  | message =>
    .done (handler.malformed
      (.unexpected message.name ("while client is in " ++ handler.step.name)))

def draftChallenge (handler : SharedKey) (user : String) (nonce : Bytes) (key : SecretKey)
    (supplies : Supplies κ) : Draft (SharedKey × Supplies κ × Answer) :=
  match supplies.drawNonce with
  | (none, supplies) =>
    .done (handler, supplies,
      .error (.transport ⟨.other, some "system randomness unavailable"⟩))
  | (some own, supplies) =>
    let tag : Draft (Option Bytes) :=
      if handler.variant.isMutual then
        .tag (handler.transcript .server nonce own.bytes user) key fun tag => .done (some tag)
      else .done none
    tag.map fun tag =>
      let (handler, answer) :=
        { handler with
          key := some key
          user := some user
          clientNonce := nonce
          serverNonce := own.bytes
          step := .awaitProof }.reply (.challenge handler.serverName own.bytes tag) .await
      (handler, supplies, answer)

def draftOnHello (handler : SharedKey) (protocol user : String) (nonce : Bytes)
    (supplies : Supplies κ) : Draft (SharedKey × Supplies κ × Answer) :=
  let without (result : SharedKey × Answer) := (result.1, supplies, result.2)
  if nonce.length ≠ nonceLength then .done (without (handler.malformed (.nonce nonce.length)))
  else if protocol ≠ handler.protocol then
    .done (without (handler.reject (.otherProtocol protocol handler.protocol)))
  else if user.isEmpty then .done (without (handler.reject .emptyUser))
  else
    match handler.lookup user supplies with
    | (.found key, supplies) => handler.draftChallenge user nonce key supplies
    | (.missing, supplies) =>
      let (handler, answer) := handler.reject (.noKey user)
      .done (handler, supplies, answer)
    | (.locked seconds, supplies) =>
      .done ({ handler with deferred := some (.hello protocol user nonce) }, supplies,
        .ok (.wait seconds))

def draftOnProof (handler : SharedKey) (tag : Bytes) : Draft (SharedKey × Answer) :=
  match handler.key, handler.user with
  | some key, some user =>
    .tag (handler.transcript .client handler.serverNonce handler.clientNonce user) key
      fun expected =>
        if expected = tag then
          (handler.draftSessionKey key user).map fun session =>
            let credential : Credential := ⟨user, handler.protocol, session⟩
            let lifecycle :=
              if handler.lifecycle.identity.isNone then
                handler.lifecycle.adopt ⟨user, handler.protocol⟩
              else handler.lifecycle
            { handler with step := .done, lifecycle }.reply (.verdict true "") (.succeed credential)
        else .done (handler.reject .wrongClientProof)
  | _, _ => .done (handler, .ok .noIdentity)

def draftOnServerMessage (handler : SharedKey) (message : Message) (supplies : Supplies κ) :
    Draft (SharedKey × Supplies κ × Answer) :=
  let without (result : SharedKey × Answer) := (result.1, supplies, result.2)
  let context := "while server is in " ++ handler.step.name
  match message with
  | .hello protocol user nonce =>
    if handler.step = .awaitHello then handler.draftOnHello protocol user nonce supplies
    else .done (without (handler.malformed (.unexpected "hello" context)))
  | .proof tag =>
    if handler.step = .awaitProof then (handler.draftOnProof tag).map without
    else .done (without (handler.malformed (.unexpected "proof" context)))
  | .verdict false reason =>
    if handler.step = .awaitHello ∨ handler.step = .awaitProof then
      .done (without (handler.onRejection ("client aborted: " ++ reason)))
    else .done (without (handler.malformed (.unexpected "verdict" context)))
  | message => .done (without (handler.malformed (.unexpected message.name context)))

def draftOnMessage (handler : SharedKey) (message : Message) (supplies : Supplies κ) :
    Draft (SharedKey × Supplies κ × Answer) :=
  match handler.lifecycle.role with
  | some .client =>
    (handler.draftOnClientMessage message).map fun (handler, answer) => (handler, supplies, answer)
  | some .server => handler.draftOnServerMessage message supplies
  | none => .done (handler, supplies, .ok .noIdentity)

def draftRead (handler : SharedKey) (blob : Blob) (supplies : Supplies κ) :
    Draft (Turn (Supplies κ) SharedKey) :=
  let (inbox, blob) := handler.inbox.absorb blob
  let handler := { handler with inbox }
  match handler.nextMessage with
  | .error fault => .done ⟨.error fault, handler, blob, supplies⟩
  | .ok none => .done ⟨.ok .needData, handler, blob, supplies⟩
  | .ok (some (message, handler)) =>
    (handler.draftOnMessage message supplies).map fun (handler, supplies, answer) =>
      let answer :=
        match answer with
        | .ok .needData => if handler.inbox.isEmpty then .ok .needData else .ok .continue
        | answer => answer
      ⟨answer, handler, blob, supplies⟩

def draftConsume (handler : SharedKey) (blob : Blob) (supplies : Supplies κ) :
    Draft (Turn (Supplies κ) SharedKey) :=
  match handler.lifecycle.enter .blob with
  | (lifecycle, some answer) => .done ⟨answer, { handler with lifecycle }, blob, supplies⟩
  | (lifecycle, none) =>
    ({ handler with lifecycle }.draftRead blob supplies).map
      fun (turn : Turn (Supplies κ) SharedKey) =>
        { turn with handler := turn.handler.settle turn.answer }

def draftCarryOn (handler : SharedKey) (supplies : Supplies κ) :
    Draft (Stretch (Supplies κ) SharedKey) :=
  let turn :=
    if handler.consuming then handler.draftRead handler.desk supplies
    else .done (handler.write handler.desk.clear supplies)
  turn.map fun turn =>
    ⟨{ turn.handler with desk := turn.blob }, turn.surroundings, handler.closeRound turn⟩

/-! ## With true tags -/

variable {handler : SharedKey}

omit [KeyStore κ] in
theorem run_draftServerProof (handler : SharedKey) (key : SecretKey) (user : String)
    (nonce : Bytes) (tag : Option Bytes) :
    (handler.draftServerProof key user nonce tag).run Transcript.tag =
      handler.checkServerProof key user nonce tag := by
  cases tag with
  | none => rfl
  | some tag =>
      rw [draftServerProof, checkServerProof]
      split <;> rfl

omit [KeyStore κ] in
theorem run_draftOnChallenge (handler : SharedKey) (server : String) (nonce : Bytes)
    (tag : Option Bytes) :
    (handler.draftOnChallenge server nonce tag).run Transcript.tag =
      handler.onChallenge server nonce tag := by
  rw [draftOnChallenge, onChallenge]
  by_cases sized : nonce.length ≠ nonceLength
  · rw [if_pos sized, if_pos sized, Draft.run_done]
  · rw [if_neg sized, if_neg sized]
    rcases handler.key with _ | key
    · rfl
    · rcases handler.user with _ | user
      · rfl
      · simp only [Draft.run_bind, run_draftServerProof]
        rcases handler.checkServerProof key user nonce tag with problem | _ | refusal
        · rw [Draft.run_done]
        · rw [Draft.run_tag, Draft.run_done]
        · rw [Draft.run_done]

theorem run_draftSessionKey (handler : SharedKey) (key : SecretKey) (user : String) :
    (handler.draftSessionKey key user).run Transcript.tag = handler.sessionKey key user := rfl

theorem run_draftOnAcceptance (handler : SharedKey) :
    handler.draftOnAcceptance.run Transcript.tag = handler.onAcceptance := by
  rw [draftOnAcceptance, onAcceptance]
  rcases handler.key with _ | key
  · rfl
  · rcases handler.user with _ | user
    · rfl
    · simp only [Draft.run_map, run_draftSessionKey]

theorem run_draftOnClientMessage (handler : SharedKey) (message : Message) :
    (handler.draftOnClientMessage message).run Transcript.tag =
      handler.onClientMessage message := by
  cases message with
  | challenge server nonce tag =>
      rw [draftOnClientMessage, onClientMessage]
      split
      · exact run_draftOnChallenge handler server nonce tag
      · rw [Draft.run_done]
  | verdict accepted reason =>
      cases accepted with
      | true =>
          rw [draftOnClientMessage, onClientMessage]
          split
          · exact run_draftOnAcceptance handler
          · rw [Draft.run_done]
      | false =>
          rw [draftOnClientMessage, onClientMessage]
          split <;> rw [Draft.run_done]
  | _ => rw [draftOnClientMessage.eq_def, onClientMessage.eq_def, Draft.run_done]

omit [KeyStore κ] in
theorem run_draftChallenge (handler : SharedKey) (user : String) (nonce : Bytes)
    (key : SecretKey) (supplies : Supplies κ) :
    (handler.draftChallenge user nonce key supplies).run Transcript.tag =
      handler.challenge user nonce key supplies := by
  rw [draftChallenge, challenge]
  rcases supplies.drawNonce with ⟨_ | own, later⟩
  · rfl
  · simp only [Draft.run_map]
    cases handler.variant.isMutual with
    | true => simp only [if_true, Draft.run_tag, Draft.run_done]
    | false => simp only [Bool.false_eq_true, if_false, Draft.run_done]

theorem run_draftOnHello (handler : SharedKey) (protocol user : String) (nonce : Bytes)
    (supplies : Supplies κ) :
    (handler.draftOnHello protocol user nonce supplies).run Transcript.tag =
      handler.onHello protocol user nonce supplies := by
  rw [draftOnHello, onHello]
  dsimp only
  split
  · rw [Draft.run_done]
  · split
    · rw [Draft.run_done]
    · split
      · rw [Draft.run_done]
      · rcases handler.lookup user supplies with ⟨key | _ | seconds, later⟩
        · exact run_draftChallenge handler user nonce key later
        · rfl
        · rfl

theorem run_draftOnProof (handler : SharedKey) (tag : Bytes) :
    (handler.draftOnProof tag).run Transcript.tag = handler.onProof tag := by
  rw [draftOnProof, onProof]
  rcases handler.key with _ | key
  · rfl
  · rcases handler.user with _ | user
    · rfl
    · dsimp only
      rw [Draft.run_tag]
      split
      · rw [Draft.run_map, run_draftSessionKey]
      · rw [Draft.run_done]

theorem run_draftOnServerMessage (handler : SharedKey) (message : Message)
    (supplies : Supplies κ) :
    (handler.draftOnServerMessage message supplies).run Transcript.tag =
      handler.onServerMessage message supplies := by
  cases message with
  | hello protocol user nonce =>
      rw [draftOnServerMessage, onServerMessage]
      split
      · exact run_draftOnHello handler protocol user nonce supplies
      · rw [Draft.run_done]
  | proof tag =>
      rw [draftOnServerMessage, onServerMessage]
      split
      · rw [Draft.run_map, run_draftOnProof]
      · rw [Draft.run_done]
  | verdict accepted reason =>
      cases accepted with
      | true => rw [draftOnServerMessage.eq_def, onServerMessage.eq_def, Draft.run_done]
      | false =>
          rw [draftOnServerMessage, onServerMessage]
          split <;> rw [Draft.run_done]
  | _ => rw [draftOnServerMessage.eq_def, onServerMessage.eq_def, Draft.run_done]

theorem run_draftOnMessage (handler : SharedKey) (message : Message) (supplies : Supplies κ) :
    (handler.draftOnMessage message supplies).run Transcript.tag =
      handler.onMessage message supplies := by
  rw [draftOnMessage, onMessage]
  rcases handler.lifecycle.role with _ | _ | _
  · rw [Draft.run_done]
  · dsimp only
    rw [Draft.run_map, run_draftOnClientMessage]
  · exact run_draftOnServerMessage handler message supplies

theorem run_draftRead (handler : SharedKey) (blob : Blob) (supplies : Supplies κ) :
    (handler.draftRead blob supplies).run Transcript.tag = handler.read blob supplies := by
  rw [draftRead, read]
  rcases handler.inbox.absorb blob with ⟨inbox, rest⟩
  dsimp only
  generalize nextMessage _ = found
  rcases found with fault | _ | ⟨message, later⟩
  · rw [Draft.run_done]
  · rw [Draft.run_done]
  · refine (Draft.run_map _ _ _).trans ?_
    have handled := run_draftOnMessage later message supplies
    generalize (later.draftOnMessage message supplies).run Transcript.tag = given at handled ⊢
    subst handled
    rfl

/-- With true tags, what a draft of a call does is the call. -/
theorem run_draftConsume (handler : SharedKey) (blob : Blob) (supplies : Supplies κ) :
    (handler.draftConsume blob supplies).run Transcript.tag =
      Handler.consume handler blob supplies := by
  have unfolded : Handler.consume handler blob supplies = handler.call read blob supplies := rfl
  rw [unfolded, draftConsume, call]
  rcases handler.lifecycle.enter .blob with ⟨lifecycle, _ | answer⟩
  · dsimp only
    rw [Draft.run_map, run_draftRead]
  · rw [Draft.run_done]

theorem run_draftCarryOn (handler : SharedKey) (supplies : Supplies κ) :
    (handler.draftCarryOn supplies).run Transcript.tag = Handler.carryOn handler supplies := by
  have unfolded : Handler.carryOn handler supplies = handler.carryOn supplies := rfl
  rw [unfolded, carryOn_eq, draftCarryOn, Draft.run_map, round]
  cases handler.consuming with
  | true => simp only [if_true, run_draftRead]
  | false => simp only [Bool.false_eq_true, if_false, Draft.run_done]

end SharedKey

end Parley
