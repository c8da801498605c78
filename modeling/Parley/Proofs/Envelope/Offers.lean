import Parley.Proofs.Envelope.Calls
import Parley.Proofs.Envelope.Frames

/-!
Offers and choices. However often a fresh envelope is initialised, it comes to the handshake with
nothing in hand and with names that are not empty, and so its empty choice cannot be mistaken.
-/

namespace Parley

inductive Prepares {ω σ : Type} [HasFace σ] [Handler ω σ] (start : σ) (early : ω) : σ → ω → Prop
  | begin : Prepares start early start early
  | initialises {handler next : σ} {now later : ω} (prepares : Prepares start early handler now)
      (initialises : Initialises handler now next later) : Prepares start early next later

namespace Envelope

variable {ω : Type} {handler client server : Envelope} {blob : Blob} {now early : ω} {role : Role}

/-! ## Preparation -/

structure Unused (handler : Envelope) : Prop where
  exchange : handler.lifecycle.exchange = none
  inbox : handler.inbox = {}
  outbox : handler.outbox = {}
  afterSend : handler.afterSend = none
  started : handler.started = false
  named : ∀ name ∈ handler.protocols, name ≠ ""

theorem named_addProtocol {protocols : List String} (named : ∀ name ∈ protocols, name ≠ "")
    (added : String) : ∀ name ∈ addProtocol protocols added, name ≠ "" := by
  intro name member
  simp only [addProtocol] at member
  split at member
  · exact named name member
  · rename_i admitted
    rcases List.mem_append.mp member with old | new
    · exact named name old
    · obtain rfl := List.mem_singleton.mp new
      intro empty
      simp [empty] at admitted

theorem named_foldl (names : List String) {protocols : List String}
    (named : ∀ name ∈ protocols, name ≠ "") :
    ∀ name ∈ names.foldl addProtocol protocols, name ≠ "" := by
  induction names generalizing protocols with
  | nil => exact named
  | cons first names ih =>
      rw [List.foldl_cons]
      exact ih (named_addProtocol named first)

theorem named_normalize (names : List String) : ∀ name ∈ normalize names, name ≠ "" := by
  rw [normalize]
  exact named_foldl names nofun

theorem unused_fresh (names : List String) : (fresh names).Unused :=
  ⟨rfl, rfl, rfl, rfl, rfl, named_normalize names⟩

theorem Unused.initialised {next : Envelope} (unused : handler.Unused)
    (initial : Initial handler next) : next.Unused := by
  refine ⟨initial.exchange.trans unused.exchange, initial.inbox.trans unused.inbox,
    initial.outbox.trans unused.outbox, initial.afterSend.trans unused.afterSend,
    initial.started.trans unused.started, ?_⟩
  rcases initial.protocols with same | ⟨names, same⟩
  · rw [same]
    exact unused.named
  · rw [same]
    exact named_normalize names

theorem unused_prepares {names : List String}
    (prepares : Prepares (fresh names) early handler now) : handler.Unused := by
  induction prepares with
  | begin => exact unused_fresh names
  | initialises _ initialises ih => exact ih.initialised (initial_initialises initialises)

structure Primed (role : Role) (handler : Envelope) : Prop extends Unused handler where
  stage : handler.lifecycle.stage = .bound
  role : handler.lifecycle.role = some role

/-! ## The first call -/

def opened (handler : Envelope) : Envelope :=
  { handler with
    started := true
    lifecycle := { handler.lifecycle with exchange := some .blob, stage := .exchanging } }

theorem engaged_opened (handler : Envelope) : Engaged handler.opened := ⟨rfl, rfl⟩

theorem Primed.call (primed : Primed role handler)
    (work : Envelope → Blob → ω → Turn ω Envelope) :
    handler.call work blob now =
      let begun :=
        { handler with
          lifecycle := { handler.lifecycle with exchange := some .blob, stage := .exchanging } }
      { work begun blob now with
        handler := (work begun blob now).handler.settle (work begun blob now).answer } := by
  have entered : handler.lifecycle.enter .blob =
      ({ handler.lifecycle with exchange := some .blob, stage := .exchanging }, none) := by
    simp [Lifecycle.enter, primed.stage, primed.exchange]
  rw [Envelope.call, entered]

theorem Primed.produce_client (primed : Primed .client client) :
    Handler.produce client blob now = ⟨.ok .needData, client.opened, blob, now⟩ := by
  have called : Handler.produce client blob now = client.call write blob now := rfl
  have role := primed.role
  rw [Lifecycle.role] at role
  have prepared :
      prepare { client with
        lifecycle := { client.lifecycle with exchange := some .blob, stage := .exchanging } } =
        (client.opened, .ok .needData) := by
    simp [prepare, primed.outbox, primed.afterSend, Lifecycle.role, role, Outbox.isEmpty, opened]
  rw [called, primed.call]
  simp only [write, prepared]
  rfl

theorem Primed.produce_server {bytes : Bytes} (primed : Primed .server server)
    (encoded : (Message.offer server.protocols).encode = .ok bytes) :
    Handler.produce server blob now =
      Handler.produce (server.opened.sending .await bytes) blob now := by
  have called : Handler.produce server blob now = server.call write blob now := rfl
  have engaged : Engaged (server.opened.sending .await bytes) := ⟨rfl, rfl⟩
  have role := primed.role
  rw [Lifecycle.role] at role
  rw [called, primed.call, engaged.produce, write_sending]
  have prepared :
      prepare { server with
        lifecycle := { server.lifecycle with exchange := some .blob, stage := .exchanging } } =
        (server.opened.sending .await bytes, .ok .pendingData) := by
    simp [prepare, primed.outbox, primed.afterSend, primed.started, Lifecycle.role, role,
      Outbox.isEmpty, reply, Outbox.queue, encoded, opened, sending]
  simp only [write, prepared]

/-! ## Offer and choice -/

theorem identity_apply (lifecycle : Lifecycle) (settlement : Settlement) :
    (lifecycle.apply settlement).1.identity = lifecycle.identity := by
  cases settlement <;> rfl

theorem identity_onMessage (handler : Envelope) (message : Message) :
    (handler.onMessage message).1.lifecycle.identity = handler.lifecycle.identity := by
  have replied (message : Message) (settlement : Settlement) :
      (handler.reply message settlement).1.lifecycle = handler.lifecycle := by
    rw [reply]
    split <;> rfl
  rw [onMessage.eq_def]
  split
  · rw [onChoice]
    split
    · rfl
    · split <;> rfl
  · rw [onOffer]
    split <;> rw [replied]
  · rfl
  · rfl

/-- The first of some protocols that is also offered, if there is one. -/
def agreed (protocols offered : List String) : Option String :=
  protocols.find? offered.contains

theorem agreed_mem {protocols offered : List String} {name : String}
    (found : agreed protocols offered = some name) : name ∈ protocols ∧ name ∈ offered := by
  refine ⟨List.mem_of_find?_eq_some found, ?_⟩
  have listed := List.find?_some found
  simpa using listed

def ending : Option String → Mode
  | some _ => .delegated
  | none => .failed

def Shows (choice : Option String) (lifecycle : Lifecycle) : Prop :=
  ∀ name, choice = some name → lifecycle.face.info = some name

theorem Primed.answers_offer {offered : List String} (primed : Primed .client client)
    (fits : (Message.offer offered).body.length ≤ longestBody) :
    ∃ bytes settlement,
      (Message.choice ((agreed client.protocols offered).getD "")).encode = .ok bytes ∧
      client.opened.onMessage (.offer offered) =
        (client.opened.sending settlement bytes, .ok .pendingData) ∧
      ∀ lifecycle : Lifecycle,
        (lifecycle.apply settlement).2 = ending (agreed client.protocols offered) ∧
        Shows (agreed client.protocols offered) (lifecycle.apply settlement).1 := by
  have heard : client.opened.onMessage (.offer offered) = client.opened.onOffer offered := by
    have role := primed.role
    rw [Lifecycle.role] at role
    simp [onMessage, opened, Lifecycle.role, role]
  have replied {choice : String} (listed : choice ∈ offered ∨ choice = "") :
      ∃ bytes, (Message.choice choice).encode = .ok bytes ∧
        ∀ settlement, client.opened.reply (.choice choice) settlement =
          (client.opened.sending settlement bytes, .ok .pendingData) := by
    have encoded := Message.encode_of_fits (Message.fits_choice fits listed)
    have empty : client.opened.outbox = {} := primed.outbox
    refine ⟨_, encoded, fun settlement => ?_⟩
    simp only [reply, Outbox.queue, encoded, empty, List.nil_append]
    rfl
  rw [heard]
  cases found : agreed client.protocols offered with
  | some choice =>
      have searched : client.opened.protocols.find? offered.contains = some choice := found
      obtain ⟨bytes, encoded, sends⟩ := replied (Or.inl (agreed_mem found).2)
      rw [onOffer, searched]
      exact ⟨bytes, _, encoded, sends _, fun lifecycle => ⟨rfl, fun _ same => same⟩⟩
  | none =>
      have searched : client.opened.protocols.find? offered.contains = none := found
      obtain ⟨bytes, encoded, sends⟩ := replied (Or.inr rfl)
      rw [onOffer, searched]
      refine ⟨bytes, _, encoded, sends _, fun lifecycle => ⟨rfl, ?_⟩⟩
      rintro _ ⟨⟩

theorem Primed.answers_choice (primed : Primed .server server) (protocols : List String) :
    ∃ last, (server.opened.sent .await).onMessage
        (.choice ((agreed protocols server.protocols).getD "")) =
          (last, .ok (ending (agreed protocols server.protocols))) ∧
      Shows (agreed protocols server.protocols) last.lifecycle := by
  have heard (choice : String) : (server.opened.sent .await).onMessage (.choice choice) =
      (server.opened.sent .await).onChoice choice := by
    have role := primed.role
    rw [Lifecycle.role] at role
    simp [onMessage, opened, sent, Lifecycle.role, Lifecycle.apply, role]
  rw [heard]
  cases found : agreed protocols server.protocols with
  | some choice =>
      have listed := (agreed_mem found).2
      have named : choice.isEmpty = false := by
        rw [Bool.eq_false_iff]
        exact fun empty => primed.named choice listed (String.isEmpty_iff.mp empty)
      have offered : (server.opened.sent .await).protocols.contains choice = true := by
        rw [List.contains_iff_mem]
        exact listed
      rw [Option.getD_some, onChoice, named, if_neg (by simp), if_pos offered]
      exact ⟨_, rfl, fun _ same => same⟩
  | none =>
      refine ⟨_, rfl, ?_⟩
      rintro _ ⟨⟩

end Envelope

end Parley
