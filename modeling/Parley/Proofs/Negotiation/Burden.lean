import Parley.Proofs.Message.Blobs
import Parley.Proofs.Message.Inbox
import Parley.Proofs.Negotiation.Steps

/-!
What a handler still has to do before it needs more bytes. After each call a driver may only call
again at once if there is less to do than before.
-/

namespace Parley

theorem Outbox.length_fill (outbox : Outbox) {blob : Blob} (room : 0 < blob.capacity)
    (someLeft : (outbox.fill blob.clear).1.isEmpty = false) :
    (outbox.fill blob.clear).1.bytes.length < outbox.bytes.length := by
  rw [(Outbox.fill_clear outbox.bytes blob).1] at someLeft ⊢
  have positive : 0 < (outbox.bytes.drop blob.capacity).length :=
    List.length_pos_iff.mpr (List.isEmpty_eq_false_iff.mp someLeft)
  rw [List.length_drop] at positive ⊢
  omega

theorem Inbox.length_next {inbox rest : Inbox} {message : Message}
    (found : inbox.next = .ok (some (message, rest))) : rest.bytes.length < inbox.bytes.length := by
  obtain ⟨high, low, body, same, _⟩ := Inbox.next_eq_some_iff.mp found
  rw [same]
  simp only [List.length_cons, List.length_append]
  omega

theorem Lifecycle.halts_or_asks (lifecycle : Lifecycle) (settlement : Settlement) :
    Negotiation.Halts (lifecycle.apply settlement).2 ∨
      (lifecycle.apply settlement).2 = .needData := by
  cases settlement with
  | await => exact Or.inr rfl
  | _ => exact Or.inl trivial

/--
What is left to do: bytes to take, a greeting to make, lookups to wait for, and bytes to send. What
is named first may bring more of what is named later.
-/
structure Burden where
  bytes : Nat
  greetings : Nat
  waits : Nat
  unsent : Nat

namespace Burden

inductive Less (first second : Burden) : Prop
  | bytes (fewer : first.bytes < second.bytes) : Less first second
  | greetings (bytes : first.bytes = second.bytes) (fewer : first.greetings < second.greetings) :
      Less first second
  | waits (bytes : first.bytes = second.bytes) (greetings : first.greetings = second.greetings)
      (fewer : first.waits < second.waits) : Less first second
  | unsent (bytes : first.bytes = second.bytes) (greetings : first.greetings = second.greetings)
      (waits : first.waits = second.waits) (fewer : first.unsent < second.unsent) :
      Less first second

variable {first second third : Burden}

theorem Less.le_bytes (less : first.Less second) : first.bytes ≤ second.bytes := by
  cases less <;> omega

theorem Less.trans (less : first.Less second) (further : second.Less third) :
    first.Less third := by
  cases less with
  | bytes fewer => exact .bytes (Nat.lt_of_lt_of_le fewer further.le_bytes)
  | greetings bytes fewer =>
      cases further with
      | bytes more => exact .bytes (by omega)
      | greetings same more => exact .greetings (by omega) (by omega)
      | waits same greetings more => exact .greetings (by omega) (by omega)
      | unsent same greetings waits more => exact .greetings (by omega) (by omega)
  | waits bytes greetings fewer =>
      cases further with
      | bytes more => exact .bytes (by omega)
      | greetings same more => exact .greetings (by omega) (by omega)
      | waits same greeting more => exact .waits (by omega) (by omega) (by omega)
      | unsent same greeting waits more => exact .waits (by omega) (by omega) (by omega)
  | unsent bytes greetings waits fewer =>
      cases further with
      | bytes more => exact .bytes (by omega)
      | greetings same more => exact .greetings (by omega) (by omega)
      | waits same greeting more => exact .waits (by omega) (by omega) (by omega)
      | unsent same greeting wait more => exact .unsent (by omega) (by omega) (by omega) (by omega)

def ranked (burden : Burden) : Nat × Nat × Nat × Nat :=
  (burden.bytes, burden.greetings, burden.waits, burden.unsent)

theorem wellFounded_less : WellFounded Less := by
  refine Subrelation.wf (fun {first second} less => ?_)
    (InvImage.wf ranked (inferInstance : WellFoundedRelation (Nat × Nat × Nat × Nat)).wf)
  rcases first with ⟨bytes, greetings, waits, unsent⟩
  cases less with
  | bytes fewer => exact .left _ _ fewer
  | greetings same fewer =>
      obtain rfl : bytes = second.bytes := same
      exact .right _ (.left _ _ fewer)
  | waits same alike fewer =>
      obtain rfl : bytes = second.bytes := same
      obtain rfl : greetings = second.greetings := alike
      exact .right _ (.right _ (.left _ _ fewer))
  | unsent same alike waiting fewer =>
      obtain rfl : bytes = second.bytes := same
      obtain rfl : greetings = second.greetings := alike
      obtain rfl : waits = second.waits := waiting
      exact .right _ (.right _ (.right _ fewer))

end Burden

/-- What a call leaves a handler to bear: it may ask for more bytes, or have less to do. -/
inductive Relieved (bears : Burden → Prop) (burden : Burden) : Answer → Prop
  | broken (fault : Fault) : Relieved bears burden (.error fault)
  | halted {mode : Mode} (halts : Negotiation.Halts mode) : Relieved bears burden (.ok mode)
  | reading {next : Burden} (few : next.bytes ≤ burden.bytes) (bearing : bears next) :
      Relieved bears burden (.ok .needData)
  | going {next : Burden} {mode : Mode} (less : next.Less burden) (bearing : bears next) :
      Relieved bears burden (.ok mode)

theorem Burden.Less.relieved {bears : Burden → Prop} {burden lighter : Burden} {answer : Answer}
    (less : lighter.Less burden) (relieved : Relieved bears lighter answer) :
    Relieved bears burden answer := by
  cases relieved with
  | broken fault => exact .broken fault
  | halted halts => exact .halted halts
  | reading few bearing => exact .reading (Nat.le_trans few less.le_bytes) bearing
  | going lesser bearing => exact .going (lesser.trans less) bearing

theorem Relieved.imp {bears others : Burden → Prop} {burden : Burden} {answer : Answer}
    (relieved : Relieved bears burden answer) (same : ∀ next, bears next → others next) :
    Relieved others burden answer := by
  cases relieved with
  | broken fault => exact .broken fault
  | halted halts => exact .halted halts
  | reading few bearing => exact .reading few (same _ bearing)
  | going less bearing => exact .going less (same _ bearing)

theorem Relieved.reads {bears : Burden → Prop} {burden : Burden}
    (relieved : Relieved bears burden (.ok .needData)) :
    ∃ next : Burden, next.bytes ≤ burden.bytes ∧ bears next := by
  cases relieved with
  | halted halts => exact halts.elim
  | reading few bearing => exact ⟨_, few, bearing⟩
  | going less bearing => exact ⟨_, less.le_bytes, bearing⟩

theorem Relieved.goes {bears : Burden → Prop} {burden : Burden} {mode : Mode}
    (relieved : Relieved bears burden (.ok mode)) (goes : ¬ Negotiation.Halts mode)
    (other : mode ≠ .needData) :
    ∃ next : Burden, next.Less burden ∧ bears next := by
  cases relieved with
  | halted halts => exact absurd halts goes
  | reading few bearing => exact absurd rfl other
  | going less bearing => exact ⟨_, less, bearing⟩

end Parley
