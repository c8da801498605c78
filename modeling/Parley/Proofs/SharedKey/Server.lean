import Parley.Proofs.Message.Inbox
import Parley.Proofs.SharedKey.Calls

/-!
What a server of a shared-key handshake holds at each point of it. The bytes that it has taken, the
hello that it has answered and what it will do once its queue is sent go together.
-/

namespace Parley.SharedKey

open Lifecycle

variable {κ : Type} [KeyStore κ]

/-! ## Work of a server that does not fail -/

inductive ServerWriting (handler : SharedKey) : SharedKey → Prop
  | kept (outbox : Outbox) : ServerWriting handler { handler with outbox }
  | opened (step : handler.step = .start) :
      ServerWriting handler { handler with step := .awaitHello }
  | sent :
      ServerWriting handler
        { handler with
          outbox := ⟨[]⟩
          afterSend := none
          lifecycle := (handler.lifecycle.apply (handler.afterSend.getD .await)).1 }

omit [KeyStore κ] in
theorem Writing.server {handler next : SharedKey} {supplies later : Supplies κ} {mode : Mode}
    (writing : Writing handler supplies next later (.ok mode))
    (role : handler.lifecycle.role = some .server) :
    later = supplies ∧ ServerWriting handler next := by
  have served {client : Prop} (other : handler.lifecycle.role = some .client) : client := by
    rw [role] at other
    cases other
  cases writing with
  | unready prepared unready =>
      cases prepared with
      | queued _ => exact absurd rfl unready
      | idle _ _ => exact ⟨rfl, .kept handler.outbox⟩
      | opened _ step _ => exact ⟨rfl, .opened step⟩
      | greeted client _ _ _ _ _ => exact served client
  | flushed prepared flushed =>
      cases prepared with
      | queued _ =>
          cases flushed with
          | partly _ => exact ⟨rfl, .kept _⟩
          | wholly => exact ⟨rfl, .sent⟩
      | idle reason _ => rcases reason with other | other <;> cases other
      | greeted client _ _ _ _ _ => exact served client

inductive ServerReading (handler : SharedKey) (supplies : Supplies κ) (bytes : Bytes) :
    SharedKey → Supplies κ → Mode → Prop
  | incomplete (nothing : (handler.receiving bytes).nextMessage = .ok none) :
      ServerReading handler supplies bytes (handler.receiving bytes) supplies .needData
  | handled {message : Message} {next last : SharedKey} {later : Supplies κ} {mode : Mode}
      (found : (handler.receiving bytes).nextMessage = .ok (some (message, next)))
      (reaction : Reaction next supplies message last later (.ok mode)) :
      ServerReading handler supplies bytes last later mode

theorem Reading.server {handler last : SharedKey} {supplies later : Supplies κ} {bytes : Bytes}
    {mode : Mode} (reading : Reading handler supplies bytes last later (.ok mode))
    (role : handler.lifecycle.role = some .server) :
    ServerReading handler supplies bytes last later mode := by
  cases reading with
  | incomplete nothing => exact .incomplete nothing
  | @handled message next _ _ _ _ found handled same =>
      have server : next.lifecycle.role = some .server :=
        (congrArg Lifecycle.role (lifecycle_nextMessage found)).trans role
      have reaction := reaction_onServerMessage next supplies message
      rw [onMessage, server] at handled
      dsimp only at handled
      rw [handled] at reaction
      rcases same with rfl | ⟨rfl, _⟩
      · exact .handled found reaction
      · cases reaction

omit [KeyStore κ] in
theorem nextMessage_inbox {handler next : SharedKey} {message : Message}
    (found : handler.nextMessage = .ok (some (message, next)))
    (deferred : handler.deferred = none) :
    ∃ inbox, next = { handler with inbox, deferred := none } ∧
      handler.inbox.next = .ok (some (message, inbox)) := by
  rw [nextMessage, deferred] at found
  dsimp only at found
  split at found
  · cases found
  · cases found
  · rename_i inbox complete
    cases found
    exact ⟨inbox, by rw [← deferred], complete⟩

/-! ## The phases of a server -/

structure Serving (variant : Variant) (ownKey : Option SecretKey) (handler : SharedKey) : Prop where
  role : handler.lifecycle.role = some .server
  credential : handler.lifecycle.face.credential = none
  variant : handler.variant = variant
  keyKept : handler.ownKey = ownKey

inductive Over (handler : SharedKey) : Prop
  | unbound (stage : handler.lifecycle.stage = .unbound)
  | finished {mode : Mode} (stage : handler.lifecycle.stage = .finished mode)
  | rejecting (role : handler.lifecycle.role = some .server) (step : handler.step = .done)
      (deferred : handler.deferred = none)
      (settlement : ∀ credential, handler.afterSend ≠ some (.succeed credential))

/-- What has to be known of a hello that is answered: its user and nonce, the key, and the nonce. -/
abbrev Grant := String → Bytes → SecretKey → Nonce → Prop

inductive Proved (variant : Variant) (grant : Grant) (taken : Bytes) : Credential → Prop
  | intro {user : String} {nonce tag : Bytes} {key : SecretKey} {own : Nonce}
      {afterHello afterProof : Inbox}
      (hello : Inbox.next ⟨taken⟩ = .ok (some (.hello variant.protocol user nonce, afterHello)))
      (proof : afterHello.next = .ok (some (.proof tag, afterProof))) (named : user ≠ "")
      (sized : nonce.length = nonceLength) (granted : grant user nonce key own)
      (matching : Transcript.tag ⟨variant, .client, own.bytes, nonce, user⟩ key = tag) :
      Proved variant grant taken
        ⟨user, variant.protocol, Transcript.tag ⟨variant, .session, nonce, own.bytes, user⟩ key⟩

/--
Where a server stands after it has taken some bytes. While it waits for a hello, or for the key of
the user in it, it is calm.
-/
inductive Phase (variant : Variant) (ownKey : Option SecretKey) (grant : Grant) (calm : Prop)
    (taken : Bytes) (handler : SharedKey) : Prop
  | waiting (serving : Serving variant ownKey handler) (calmNow : calm)
      (step : handler.step = .start ∨ handler.step = .awaitHello)
      (settlement : handler.afterSend = none)
      (pending : handler.deferred = none ∧ handler.inbox.bytes = taken ∨
        handler.step = .awaitHello ∧ ∃ user nonce,
          handler.deferred = some (.hello variant.protocol user nonce) ∧
          Inbox.next ⟨taken⟩ = .ok (some (.hello variant.protocol user nonce, handler.inbox)))
  | challenged {key : SecretKey} {user : String} {own : Nonce}
      (serving : Serving variant ownKey handler) (step : handler.step = .awaitProof)
      (deferred : handler.deferred = none)
      (settlement : handler.afterSend = none ∨ handler.afterSend = some .await)
      (keyEq : handler.key = some key) (userEq : handler.user = some user)
      (ownEq : handler.serverNonce = own.bytes) (named : user ≠ "")
      (sized : handler.clientNonce.length = nonceLength)
      (hello : Inbox.next ⟨taken⟩ =
        .ok (some (.hello variant.protocol user handler.clientNonce, handler.inbox)))
      (granted : grant user handler.clientNonce key own)
  | accepted {credential : Credential} (serving : Serving variant ownKey handler)
      (step : handler.step = .done) (deferred : handler.deferred = none)
      (settlement : handler.afterSend = some (.succeed credential))
      (proved : Proved variant grant taken credential)
  | succeeded {credential : Credential} (stage : handler.lifecycle.stage = .finished .success)
      (shown : handler.lifecycle.face.credential = some credential ∨
        handler.lifecycle.face.credential = none)
      (proved : Proved variant grant taken credential)
  | lost (credential : handler.lifecycle.face.credential = none) (closed : Over handler)

variable {variant : Variant} {ownKey : Option SecretKey} {grant : Grant} {calm : Prop}
  {taken : Bytes} {handler next : SharedKey} {supplies later : Supplies κ}

omit [KeyStore κ] in
theorem Proved.append {credential : Credential} (proved : Proved variant grant taken credential)
    (more : Bytes) : Proved variant grant (taken ++ more) credential := by
  cases proved with
  | intro hello proof named sized granted matching =>
      exact .intro (Inbox.next_append hello more) (Inbox.next_append proof more) named sized
        granted matching

omit [KeyStore κ] in
theorem Phase.imp {grant' : Grant} {calm' : Prop}
    (phase : Phase variant ownKey grant calm taken handler)
    (grants : ∀ user nonce key own rest,
      Inbox.next ⟨taken⟩ = .ok (some (.hello variant.protocol user nonce, rest)) →
      grant user nonce key own → grant' user nonce key own)
    (calms : handler.ownKey = ownKey → calm → calm') :
    Phase variant ownKey grant' calm' taken handler := by
  have proves {credential : Credential} (proved : Proved variant grant taken credential) :
      Proved variant grant' taken credential := by
    cases proved with
    | intro hello proof named sized granted matching =>
        exact .intro hello proof named sized (grants _ _ _ _ _ hello granted) matching
  cases phase with
  | waiting serving calmNow step settlement pending =>
      exact .waiting serving (calms serving.keyKept calmNow) step settlement pending
  | challenged serving step deferred settlement key_eq user_eq ownEq named sized hello granted =>
      exact .challenged serving step deferred settlement key_eq user_eq ownEq named sized hello
        (grants _ _ _ _ _ hello granted)
  | accepted serving step deferred settlement proved =>
      exact .accepted serving step deferred settlement (proves proved)
  | succeeded stage shown proved => exact .succeeded stage shown (proves proved)
  | lost credential closed => exact .lost credential closed

end Parley.SharedKey
