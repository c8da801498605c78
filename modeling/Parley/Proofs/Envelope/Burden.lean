import Parley.Proofs.Envelope.Calls
import Parley.Proofs.Negotiation.Burden

/-!
What the envelope has to do before it needs more bytes. It puts nothing off.
-/

namespace Parley.Envelope

variable {ω : Type} {handler last : Envelope} {surroundings : ω} {burden : Burden} {mode : Mode}
  {blob : Blob}

def greetings (handler : Envelope) : Nat := if handler.started then 0 else 1

structure Bears (handler : Envelope) (given : Nat) (burden : Burden) : Prop where
  bytes : burden.bytes = handler.inbox.bytes.length + given
  greetings : burden.greetings = handler.greetings
  waits : burden.waits = 0
  unsent : burden.unsent = handler.outbox.bytes.length

theorem exists_bears (handler : Envelope) (given : Nat) :
    ∃ burden, handler.Bears given burden :=
  ⟨⟨_, _, 0, _⟩, rfl, rfl, rfl, rfl⟩

theorem relieved_flush (room : 0 < blob.capacity) (bears : handler.Bears 0 burden) :
    Relieved ((handler.flush blob.clear).1.Bears 0) burden
      (.ok (handler.flush blob.clear).2.2) := by
  obtain ⟨bytes, greetings, waits, unsent⟩ := bears
  have shrinks := handler.outbox.length_fill room
  revert shrinks
  simp only [flush]
  generalize handler.outbox.fill blob.clear = result
  rcases result with ⟨left, last⟩
  intro shrinks
  dsimp only at shrinks ⊢
  split
  · rcases handler.lifecycle.halts_or_asks (handler.afterSend.getD .await) with halts | asks
    · exact .halted halts
    · have few : (⟨burden.bytes, burden.greetings, burden.waits, left.bytes.length⟩ : Burden).bytes ≤
          burden.bytes := Nat.le_refl _
      rw [asks]
      exact .reading few ⟨bytes, greetings, waits, rfl⟩
  · rename_i someLeft
    have lighter : Burden.Less
        ⟨burden.bytes, burden.greetings, burden.waits, left.bytes.length⟩ burden := by
      refine .unsent rfl rfl rfl ?_
      rw [unsent]
      exact shrinks (by simpa using someLeft)
    exact .going lighter ⟨bytes, greetings, waits, rfl⟩

theorem relieved_write (room : 0 < blob.capacity) (bears : handler.Bears 0 burden) :
    Relieved ((handler.write blob.clear surroundings).handler.Bears 0) burden
      (handler.write blob.clear surroundings).answer := by
  rw [write, prepare]
  by_cases queued : (!handler.outbox.isEmpty || handler.afterSend.isSome) = true
  · rw [if_pos queued]
    exact relieved_flush room bears
  · rw [if_neg queued]
    obtain ⟨bytes, greetings, waits, unsent⟩ := bears
    by_cases idle : (handler.started || decide (handler.lifecycle.role ≠ some .server)) = true
    · have few : (⟨burden.bytes, 0, burden.waits, burden.unsent⟩ : Burden).bytes ≤ burden.bytes :=
        Nat.le_refl _
      rw [if_pos idle]
      exact .reading few ⟨bytes, rfl, waits, unsent⟩
    · have begun : burden.greetings = 1 := by
        have unstarted : handler.started = false := by
          simp only [Bool.or_eq_true, not_or, Bool.not_eq_true] at idle
          exact idle.1
        rw [greetings, Envelope.greetings, unstarted]
        rfl
      have lighter (unsent : Nat) :
          Burden.Less ⟨burden.bytes, 0, burden.waits, unsent⟩ burden := by
        refine .greetings rfl ?_
        rw [begun]
        exact Nat.one_pos
      rw [if_neg idle, reply]
      generalize { handler with started := true }.outbox.queue (.offer handler.protocols) = result
      rcases result with fault | outbox
      · exact .broken fault
      · have offering : Bears { handler with started := true, outbox, afterSend := some .await } 0
            ⟨burden.bytes, 0, burden.waits, outbox.bytes.length⟩ := ⟨bytes, rfl, waits, rfl⟩
        exact (lighter _).relieved (relieved_flush room offering)

theorem inbox_onMessage (handler : Envelope) (message : Message) :
    (handler.onMessage message).1.inbox = handler.inbox := by
  have replied (message : Message) (settlement : Settlement) :
      (handler.reply message settlement).1.inbox = handler.inbox := by
    rw [reply]
    split <;> rfl
  rw [onMessage.eq_def]
  split
  · rw [onChoice]
    split
    · rfl
    · split <;> rfl
  · rw [onOffer]
    split <;> exact replied _ _
  · rfl
  · rfl

theorem relieved_read (bears : handler.Bears (blob.contents.drop blob.position).length burden) :
    Relieved ((handler.read blob surroundings).handler.Bears 0) burden
      (handler.read blob surroundings).answer := by
  obtain ⟨bytes, greetings, waits, unsent⟩ := bears
  have absorbed : burden.bytes = (handler.inbox.absorb blob).1.bytes.length := by
    rw [Inbox.bytes_absorb, List.length_append]
    exact bytes
  simp only [read]
  split
  · exact .broken _
  · exact .reading (Nat.le_refl _) ⟨absorbed, greetings, waits, unsent⟩
  · rename_i message inbox found
    have shorter := Inbox.length_next found
    rw [← absorbed] at shorter
    have kept := inbox_onMessage { handler with inbox } message
    generalize onMessage { handler with inbox } message = result at kept ⊢
    rcases result with ⟨next, fault | mode⟩
    · exact .broken fault
    · have lighter : Burden.Less
          ⟨inbox.bytes.length, next.greetings, 0, next.outbox.bytes.length⟩ burden :=
        .bytes shorter
      refine .going lighter ⟨?_, rfl, rfl, rfl⟩
      rw [kept]
      rfl

end Parley.Envelope
