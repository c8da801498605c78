import Parley.Proofs.BuiltIn.Lookup
import Parley.Proofs.Envelope.Burden
import Parley.Proofs.SharedKey.Burden
import Parley.Proofs.SharedKey.Cuts

/-!
The burden of the built-in handlers, and what their calls do to the keys and to the blob.
-/

namespace Parley

open KeyStore Lifecycle

variable {κ : Type} [KeyStore κ] {supplies : Supplies κ} {blob : Blob} {burden : Burden}

namespace SharedKey

omit [KeyStore κ] in
theorem keys_challenge (handler : SharedKey) (user : String) (nonce : Bytes) (key : SecretKey)
    (supplies : Supplies κ) :
    (handler.challenge user nonce key supplies).2.1.keys = supplies.keys := by
  rcases drawn : supplies.drawNonce with ⟨own, later⟩
  have kept : later.keys = supplies.keys := (congrArg (fun result => result.2.keys) drawn).symm
  rw [challenge, drawn]
  rcases own with _ | own
  · exact kept
  · exact kept

omit [KeyStore κ] in
theorem keys_onLookup (handler : SharedKey) (user : String) (nonce : Bytes)
    (looked : KeyLookup × Supplies κ) :
    (handler.onLookup user nonce looked).2.1.keys = looked.2.keys := by
  rcases looked with ⟨_ | _ | _, later⟩
  · exact keys_challenge handler _ _ _ later
  · rfl
  · rfl

theorem relents_read (handler : SharedKey) (blob : Blob) (relents : Relents supplies.keys) :
    Relents (handler.read blob supplies).surroundings.keys := by
  have received : { handler with inbox := (handler.inbox.absorb blob).1 } =
      handler.receiving (pending blob) := rfl
  rcases found : (handler.receiving (pending blob)).nextMessage with fault | _ | ⟨message, next⟩
  · simp only [read]
    rw [received, found]
    exact relents
  · simp only [read]
    rw [received, found]
    exact relents
  · rw [read_of_next handler blob supplies found]
    rcases wanted : next.wanted? message with _ | user
    · have kept := onMessage_stock next supplies supplies.keys wanted
      have same : (next.onMessage message supplies).2.1.keys = supplies.keys :=
        congrArg (fun result => result.2.1.keys) kept
      dsimp only
      rw [same]
      exact relents
    · obtain ⟨nonce, rfl, looks⟩ := next.onMessage_wanted (κ := κ) wanted
      dsimp only
      rw [looks, keys_onLookup]
      exact relents.lookup user

theorem relents_init (handler : SharedKey) (identity : Option Identity) (role : Role)
    (relents : Relents supplies.keys) :
    Relents (handler.init identity role supplies).surroundings.keys := by
  simp only [init]
  split
  · exact relents
  · split
    · exact relents
    · rename_i identity _
      have looked : Relents (handler.lookup identity.name supplies).2.keys := by
        rw [lookup]
        split
        · exact relents
        · exact relents.lookup identity.name
      rw [initClient]
      split
      all_goals
        rename_i found
        rw [found] at looked
        exact looked
    · exact relents

theorem relents_initFrom (handler : SharedKey) (attributes : Attributes)
    (relents : Relents supplies.keys) :
    Relents (handler.initFrom attributes supplies).surroundings.keys := by
  rw [initFrom]
  split
  · exact relents
  · exact relents_init _ _ _ relents

end SharedKey

namespace Envelope

variable {ω : Type}

theorem capacity_write (handler : Envelope) (blob : Blob) (surroundings : ω) :
    (handler.write blob.clear surroundings).blob.capacity = blob.capacity := by
  rw [write]
  split
  · rename_i next _
    have kept := (Outbox.fill_clear next.outbox.bytes blob).2.2
    simp only [flush]
    split <;> exact kept
  · exact Blob.capacity_clear blob

theorem blob_read (handler : Envelope) (blob : Blob) (surroundings : ω) :
    (handler.read blob surroundings).blob = blob.taken ∧
      (handler.read blob surroundings).surroundings = surroundings := by
  simp only [read]
  split <;> exact ⟨rfl, rfl⟩

end Envelope

namespace BuiltIn

variable {handler : BuiltIn}

def Bears : BuiltIn → κ → Nat → Burden → Prop
  | .inl handler, keys, given, burden => handler.Bears keys given burden
  | .inr handler, _, given, burden => handler.Bears given burden

theorem exists_bears (handler : BuiltIn) {keys : κ} (relents : Relents keys) (given : Nat) :
    ∃ burden, handler.Bears keys given burden := by
  cases handler with
  | inl handler => exact handler.exists_bears relents given
  | inr handler => exact handler.exists_bears given

theorem Bears.giving {keys : κ} (bears : handler.Bears keys 0 burden) (given : Nat) :
    handler.Bears keys given { burden with bytes := burden.bytes + given } := by
  cases handler with
  | inl handler =>
      exact ⟨congrArg (· + given) bears.bytes, bears.greetings, bears.waits, bears.unsent⟩
  | inr handler =>
      exact ⟨congrArg (· + given) bears.bytes, bears.greetings, bears.waits, bears.unsent⟩

/-- What a driver goes by when it calls a handler on an empty blob or on what it has received. -/
structure Eased (turn : Turn (Supplies κ) BuiltIn) (capacity : Nat) (burden : Burden) : Prop where
  relents : Relents turn.surroundings.keys
  capacity_eq : turn.blob.capacity = capacity
  relieved : Relieved (turn.handler.Bears turn.surroundings.keys 0) burden turn.answer

theorem eased_produce (still : handler.lifecycle.Open .blob) (room : 0 < blob.capacity)
    (relents : Relents supplies.keys) (bears : handler.Bears supplies.keys 0 burden) :
    Eased (Handler.produce handler blob.clear supplies) blob.capacity burden := by
  have keys : (Handler.produce handler blob.clear supplies).surroundings.keys = supplies.keys :=
    congrArg (fun turn => turn.surroundings.keys)
      (handler.produce_stock blob.clear supplies supplies.keys)
  refine ⟨by rw [keys]; exact relents, ?_, ?_⟩
  · cases handler with
    | inl handler => exact handler.capacity_produce blob supplies
    | inr handler =>
        have called := Envelope.call_of_open Envelope.write blob.clear supplies still
        exact (congrArg (fun turn => turn.blob.capacity) called).trans
          (handler.letIn.capacity_write blob supplies)
  · cases handler with
    | inl handler =>
        have called := SharedKey.call_of_open SharedKey.write blob.clear supplies still
        have produced : Handler.produce (.inl handler : BuiltIn) blob.clear supplies = _ :=
          congrArg (Handler.mapTurn Sum.inl) called
        have bearing : (handler.letIn .blob).Bears supplies.keys 0 burden :=
          ⟨bears.bytes, bears.greetings, bears.waits, bears.unsent⟩
        rw [produced]
        exact (SharedKey.relieved_write room bearing).imp fun next kept =>
          ⟨kept.bytes, kept.greetings, kept.waits, kept.unsent⟩
    | inr handler =>
        have called := Envelope.call_of_open Envelope.write blob.clear supplies still
        have produced : Handler.produce (.inr handler : BuiltIn) blob.clear supplies = _ :=
          congrArg (Handler.mapTurn Sum.inr) called
        have bearing : handler.letIn.Bears 0 burden :=
          ⟨bears.bytes, bears.greetings, bears.waits, bears.unsent⟩
        rw [produced]
        exact (Envelope.relieved_write room bearing).imp fun next kept =>
          ⟨kept.bytes, kept.greetings, kept.waits, kept.unsent⟩

theorem eased_consume (still : handler.lifecycle.Open .blob) (relents : Relents supplies.keys)
    (bears : handler.Bears supplies.keys (SharedKey.pending blob).length burden) :
    Eased (Handler.consume handler blob supplies) blob.capacity burden ∧
      (Handler.consume handler blob supplies).blob = blob.taken := by
  cases handler with
  | inl handler =>
      have called := SharedKey.call_of_open SharedKey.read blob supplies still
      have consumed : Handler.consume (.inl handler : BuiltIn) blob supplies = _ :=
        congrArg (Handler.mapTurn Sum.inl) called
      have bearing : (handler.letIn .blob).Bears supplies.keys (SharedKey.pending blob).length
          burden := ⟨bears.bytes, bears.greetings, bears.waits, bears.unsent⟩
      have taken : ((handler.letIn .blob).read blob supplies).blob = blob.taken :=
        SharedKey.blob_read _ _ _
      have sized : ((handler.letIn .blob).read blob supplies).blob.capacity = blob.capacity := by
        rw [taken, Blob.capacity_taken]
      rw [consumed]
      refine ⟨⟨(handler.letIn .blob).relents_read blob relents, sized, ?_⟩, taken⟩
      exact (SharedKey.relieved_read relents bearing).imp fun next kept =>
        ⟨kept.bytes, kept.greetings, kept.waits, kept.unsent⟩
  | inr handler =>
      have called := Envelope.call_of_open Envelope.read blob supplies still
      have consumed : Handler.consume (.inr handler : BuiltIn) blob supplies = _ :=
        congrArg (Handler.mapTurn Sum.inr) called
      have bearing : handler.letIn.Bears (blob.contents.drop blob.position).length burden :=
        ⟨bears.bytes, bears.greetings, bears.waits, bears.unsent⟩
      obtain ⟨taken, kept⟩ := handler.letIn.blob_read blob supplies
      have stillRelents : Relents (handler.letIn.read blob supplies).surroundings.keys := by
        rw [kept]
        exact relents
      have sized : (handler.letIn.read blob supplies).blob.capacity = blob.capacity := by
        rw [taken, Blob.capacity_taken]
      rw [consumed]
      refine ⟨⟨stillRelents, sized, ?_⟩, taken⟩
      exact (Envelope.relieved_read bearing).imp fun next kept =>
        ⟨kept.bytes, kept.greetings, kept.waits, kept.unsent⟩

theorem relents_init (handler : BuiltIn) (identity : Option Identity) (role : Role)
    (relents : Relents supplies.keys) :
    Relents (Handler.init handler identity role supplies).surroundings.keys := by
  cases handler with
  | inl handler => exact handler.relents_init identity role relents
  | inr handler =>
      have kept := congrArg (fun initialised => initialised.surroundings.keys)
        (handler.init_stock supplies supplies.keys identity role)
      exact cast (congrArg Relents kept.symm) relents

theorem relents_initFrom (handler : BuiltIn) (attributes : Attributes)
    (relents : Relents supplies.keys) :
    Relents (Handler.initFrom handler attributes supplies).surroundings.keys := by
  cases handler with
  | inl handler => exact handler.relents_initFrom attributes relents
  | inr handler =>
      have kept := congrArg (fun initialised => initialised.surroundings.keys)
        (handler.initFrom_stock supplies supplies.keys attributes)
      exact cast (congrArg Relents kept.symm) relents

end BuiltIn

end Parley
