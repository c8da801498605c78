import Parley.Proofs.Keys.Locks
import Parley.Proofs.Negotiation.Burden
import Parley.Proofs.SharedKey.Lookup

/-!
What shared-key handlers have to do before they need more bytes. A call sends some of what is
queued, takes a message from the inbox, or asks once more for a key that is locked.
-/

namespace Parley

namespace SharedKey

open KeyStore

variable {κ : Type} [KeyStore κ] {handler last : SharedKey} {supplies later : Supplies κ}
  {burden : Burden} {mode : Mode}

def greetings (handler : SharedKey) : Nat := if handler.step = .start then 1 else 0

/-- How often a handler may still have to wait for the message that it has put off, if any. -/
inductive Waits (keys : κ) : Option Message → Nat → Prop
  | nothing : Waits keys none 0
  | held {message : Message} {count : Nat}
      (unlocks : ∀ protocol user nonce, message = .hello protocol user nonce →
        Unlocks user count keys) :
      Waits keys (some message) (count + 1)

/-- The burden of a handler that has been given so many bytes besides those in its inbox. -/
structure Bears (handler : SharedKey) (keys : κ) (given : Nat) (burden : Burden) : Prop where
  bytes : burden.bytes = handler.inbox.bytes.length + given
  greetings : burden.greetings = handler.greetings
  waits : Waits keys handler.deferred burden.waits
  unsent : burden.unsent = handler.outbox.bytes.length

theorem exists_waits {keys : κ} (relents : Relents keys) (deferred : Option Message) :
    ∃ count, Waits keys deferred count := by
  rcases deferred with _ | message
  · exact ⟨0, .nothing⟩
  · cases message with
    | hello protocol user nonce =>
        obtain ⟨count, unlocks⟩ := relents.unlocks user
        refine ⟨count + 1, .held ?_⟩
        rintro _ _ _ ⟨⟩
        exact unlocks
    | _ => exact ⟨1, .held (by rintro _ _ _ ⟨⟩)⟩

theorem exists_bears (handler : SharedKey) {keys : κ} (relents : Relents keys) (given : Nat) :
    ∃ burden, handler.Bears keys given burden := by
  obtain ⟨count, waits⟩ := exists_waits relents handler.deferred
  exact ⟨⟨_, _, count, _⟩, rfl, rfl, waits, rfl⟩

/-! ## Writing -/

theorem relieved_flush {blob : Blob} (room : 0 < blob.capacity) {keys : κ}
    (bears : handler.Bears keys 0 burden) :
    Relieved (fun next => (handler.flush blob.clear).1.Bears keys 0 next) burden
      (.ok (handler.flush blob.clear).2.2) := by
  obtain ⟨bytes, greetings, waits, unsent⟩ := bears
  have shrinks := handler.outbox.length_fill room
  revert shrinks
  simp only [flush]
  generalize handler.outbox.fill blob.clear = result
  rcases result with ⟨left, last⟩
  intro shrinks
  dsimp only at shrinks ⊢
  split
  · rcases handler.lifecycle.halts_or_asks (handler.afterSend.getD .await) with halts | asks
    · exact .halted halts
    · have few : (⟨burden.bytes, burden.greetings, burden.waits, left.bytes.length⟩ : Burden).bytes ≤
          burden.bytes := Nat.le_refl _
      rw [asks]
      exact .reading few ⟨bytes, greetings, waits, rfl⟩
  · rename_i someLeft
    have lighter : Burden.Less
        ⟨burden.bytes, burden.greetings, burden.waits, left.bytes.length⟩ burden := by
      refine .unsent rfl rfl rfl ?_
      rw [unsent]
      exact shrinks (by simpa using someLeft)
    exact .going lighter ⟨bytes, greetings, waits, rfl⟩

theorem relieved_write {blob : Blob} (room : 0 < blob.capacity)
    (bears : handler.Bears supplies.keys 0 burden) :
    Relieved (fun next => (handler.write blob.clear supplies).handler.Bears
        (handler.write blob.clear supplies).surroundings.keys 0 next) burden
      (handler.write blob.clear supplies).answer := by
  have keys : (handler.write blob.clear supplies).surroundings.keys = supplies.keys :=
    congrArg (fun turn => turn.surroundings.keys)
      (handler.write_stock blob.clear supplies supplies.keys)
  have prepared := prepare_preparation handler supplies
  rw [keys, write]
  revert prepared
  rcases handler.prepare supplies with ⟨next, later, answer⟩
  intro prepared
  obtain ⟨bytes, greetings, waits, unsent⟩ := bears
  cases prepared with
  | queued _ => exact relieved_flush room ⟨bytes, greetings, waits, unsent⟩
  | idle reason _ =>
      rcases reason with rfl | rfl
      · exact .halted trivial
      · exact .reading (Nat.le_refl _) ⟨bytes, greetings, waits, unsent⟩
  | opened _ step _ =>
      have few : (⟨burden.bytes, 0, burden.waits, burden.unsent⟩ : Burden).bytes ≤ burden.bytes :=
        Nat.le_refl _
      exact .reading few ⟨bytes, rfl, waits, unsent⟩
  | greeted role step user_eq drawn encoded noneQueued =>
      have begun : burden.greetings = 1 := by rw [greetings, SharedKey.greetings, if_pos step]
      have lighter (unsent : Nat) :
          Burden.Less ⟨burden.bytes, 0, burden.waits, unsent⟩ burden := by
        refine .greetings rfl ?_
        rw [begun]
        exact Nat.one_pos
      exact (lighter _).relieved (relieved_flush room ⟨bytes, rfl, waits, rfl⟩)
  | broken _ _ => exact .broken _

/-! ## Reading -/

omit [KeyStore κ] in
theorem Response.going {message : Message} {said : Option Message}
    (response : Response handler supplies message said last later (.ok mode))
    (awake : ∀ seconds, mode ≠ .wait seconds) :
    last.deferred = handler.deferred ∧ last.greetings ≤ handler.greetings := by
  have ended {last : SharedKey} (begun : last.step ≠ .start) :
      last.greetings ≤ handler.greetings := by
    rw [greetings, if_neg begun]
    exact Nat.zero_le _
  cases response with
  | rejected _ _ _ => exact ⟨rfl, ended (by simp [queueing])⟩
  | failed => exact ⟨rfl, ended (by simp)⟩
  | unbound _ => exact ⟨rfl, Nat.le_refl _⟩
  | keyless _ _ => exact ⟨rfl, Nat.le_refl _⟩
  | proved _ _ _ _ _ _ => exact ⟨rfl, ended (by simp [queueing])⟩
  | admitted _ _ _ _ => exact ⟨rfl, ended (by simp)⟩
  | delayed _ _ _ => exact absurd rfl (awake _)
  | challenged _ _ _ _ _ _ => exact ⟨rfl, ended (by simp [queueing])⟩
  | accepted _ _ _ _ _ => exact ⟨rfl, ended (by simp [queueing])⟩

theorem onMessage_locked {message : Message} {seconds : Nat}
    (waits : handler.onMessage message supplies = (last, later, .ok (.wait seconds))) :
    ∃ user nonce, message = .hello handler.protocol user nonce ∧
      Locks supplies.keys user ∧
      later.keys = (KeyStore.lookup supplies.keys user).2 ∧
      last = { handler with deferred := some message } := by
  have asleep : (handler.onMessage message supplies).2.2 = .ok (.wait seconds) := by rw [waits]
  rcases wanted : handler.wanted? message with _ | user
  · exact absurd asleep (handler.answer_onMessage_ne_wait supplies wanted seconds)
  · obtain ⟨nonce, rfl, onMessageEq⟩ := handler.onMessage_wanted (κ := κ) wanted
    rw [onMessageEq] at waits asleep
    rcases looked : supplies.lookup user with ⟨_ | _ | locked, after⟩
    · rw [looked] at asleep
      exact absurd asleep (handler.answer_challenge_ne_wait _ _ _ _ _)
    · rw [looked] at asleep
      simp only [onLookup] at asleep
      exact absurd asleep (handler.answer_reject_ne_wait _ _)
    · rw [looked] at waits
      cases waits
      rw [Supplies.lookup] at looked
      simp only [Prod.mk.injEq] at looked
      exact ⟨user, nonce, rfl, ⟨_, looked.1⟩, by rw [← looked.2], rfl⟩

theorem bears_onMessage {bytes : Bytes} {message : Message} {inbox : Inbox}
    (relents : Relents supplies.keys) (bears : handler.Bears supplies.keys bytes.length burden)
    (coming : handler.upcoming? bytes = some (message, inbox))
    (handled : onMessage { handler with inbox, deferred := none } message supplies =
      (last, later, .ok mode)) :
    ∃ next, Burden.Less next burden ∧ last.Bears later.keys 0 next := by
  obtain ⟨all, greetings, waits, unsent⟩ := bears
  obtain ⟨said, response⟩ :=
    response_onMessage { handler with inbox, deferred := none } supplies message
  rw [handled] at response
  have kept : last.inbox = inbox := response.inbox
  -- The message comes out of the inbox, or else it is the one that has been put off.
  have taken : handler.deferred = none ∧ inbox.bytes.length < burden.bytes ∨
      handler.deferred = some message ∧ inbox.bytes.length = burden.bytes := by
    rw [upcoming?] at coming
    rcases deferred : handler.deferred with _ | held
    · rw [deferred] at coming
      dsimp only at coming
      split at coming
      · rename_i found
        cases coming
        have shorter := Inbox.length_next found
        rw [List.length_append] at shorter
        exact Or.inl ⟨rfl, by omega⟩
      · cases coming
    · rw [deferred] at coming
      cases coming
      exact Or.inr ⟨rfl, by rw [all, List.length_append]⟩
  by_cases asleep : ∃ seconds, mode = .wait seconds
  · obtain ⟨seconds, rfl⟩ := asleep
    obtain ⟨user, nonce, rfl, locks, keys, rfl⟩ := onMessage_locked handled
    rw [keys]
    rcases taken with ⟨_, shorter⟩ | ⟨deferred, whole⟩
    · obtain ⟨count, again⟩ := exists_waits (relents.lookup user)
        (some (.hello handler.protocol user nonce))
      have fewer : Burden.Less ⟨inbox.bytes.length, burden.greetings, count, burden.unsent⟩ burden :=
        .bytes shorter
      exact ⟨_, fewer, rfl, greetings, again, unsent⟩
    · rw [deferred] at waits
      rcases burden with ⟨total, greeting, count, left⟩
      dsimp only at all greetings waits unsent whole
      cases waits with
      | held unlocks =>
          cases unlocks _ _ _ rfl with
          | free _ free => exact absurd locks free
          | @later _ count unlocks =>
              refine ⟨⟨total, greeting, count + 1, left⟩, .waits rfl rfl (Nat.lt_succ_self _),
                whole.symm, greetings, .held ?_, unsent⟩
              rintro _ _ _ ⟨⟩
              exact unlocks
  · obtain ⟨quiet, fewer⟩ := response.going fun seconds same => asleep ⟨seconds, same⟩
    have settled : Waits later.keys last.deferred 0 := by
      rw [quiet]
      exact .nothing
    refine ⟨⟨inbox.bytes.length, last.greetings, 0, last.outbox.bytes.length⟩, ?_,
      by rw [kept]; rfl, rfl, settled, rfl⟩
    rcases taken with ⟨_, shorter⟩ | ⟨deferred, whole⟩
    · exact .bytes shorter
    · rw [deferred] at waits
      have waiting : 0 < burden.waits := by
        revert waits
        generalize burden.waits = count
        rintro ⟨⟩
        exact Nat.succ_pos _
      rcases Nat.lt_or_eq_of_le fewer with less | same
      · exact .greetings whole (by rw [greetings]; exact less)
      · exact .waits whole (by rw [greetings]; exact same) waiting

theorem read_of_onMessage {blob : Blob} {message : Message} {next : SharedKey}
    (found : (handler.receiving (pending blob)).nextMessage = .ok (some (message, next)))
    (handled : next.onMessage message supplies = (last, later, .ok mode))
    (more : mode ≠ .needData) :
    handler.read blob supplies = ⟨.ok mode, last, blob.taken, later⟩ := by
  rw [read_of_next handler blob supplies found, handled]
  cases mode with
  | needData => exact absurd rfl more
  | _ => rfl

theorem relieved_read {blob : Blob} (relents : Relents supplies.keys)
    (bears : handler.Bears supplies.keys (pending blob).length burden) :
    Relieved (fun next => (handler.read blob supplies).handler.Bears
        (handler.read blob supplies).surroundings.keys 0 next) burden
      (handler.read blob supplies).answer := by
  have received : { handler with inbox := (handler.inbox.absorb blob).1 } =
      handler.receiving (pending blob) := rfl
  rcases found : (handler.receiving (pending blob)).nextMessage with fault | _ | ⟨message, next⟩
  · simp only [read]
    rw [received, found]
    exact .broken fault
  · obtain ⟨bytes, greetings, waits, unsent⟩ := bears
    have all : burden.bytes = (handler.receiving (pending blob)).inbox.bytes.length + 0 := by
      rw [bytes, receiving, List.length_append, Nat.add_zero]
    simp only [read]
    rw [received, found]
    exact .reading (Nat.le_refl _) ⟨all, greetings, waits, unsent⟩
  · obtain ⟨inbox, coming, rfl⟩ := upcoming_of_nextMessage handler found
    rcases handled : onMessage { handler with inbox, deferred := none } message supplies with
      ⟨last, later, fault | mode⟩
    · rw [read_of_next handler blob supplies found, handled]
      exact .broken fault
    · obtain ⟨said, response⟩ :=
        response_onMessage { handler with inbox, deferred := none } supplies message
      rw [handled] at response
      have more : mode ≠ .needData := fun asks => response.answer_ne (congrArg _ asks)
      obtain ⟨next, less, bearing⟩ := bears_onMessage relents bears coming handled
      rw [read_of_onMessage found handled more]
      exact .going less bearing

end SharedKey

end Parley
