import Parley.Proofs.BuiltIn.Contract
import Parley.Proofs.Envelope.Endings
import Parley.Proofs.SharedKey.Endings

/-!
Built-in handlers that have ended. Once a handler has given a final answer it gives no other, and
it does nothing any more.
-/

namespace Parley.BuiltIn

open Handler

variable {κ : Type} [KeyStore κ] {handler start ended : BuiltIn} {supplies began now : Supplies κ}
  {kind : ExchangeKind} {answers : List Answer}

theorem initialises_inl {inner : SharedKey}
    (initialised : Initialises (.inl inner : BuiltIn) supplies start began) :
    ∃ next, start = .inl next ∧ Initialises inner supplies next began := by
  cases initialised with
  | live identity role => exact ⟨_, rfl, .live identity role⟩
  | declared attributes => exact ⟨_, rfl, .declared attributes⟩

theorem initialises_inr {inner : Envelope}
    (initialised : Initialises (.inr inner : BuiltIn) supplies start began) :
    ∃ next, start = .inr next ∧ Initialises inner supplies next began := by
  cases initialised with
  | live identity role => exact ⟨_, rfl, .live identity role⟩
  | declared attributes => exact ⟨_, rfl, .declared attributes⟩

/--
Whatever a built-in handler is called with, in one of the two ways of exchanging data: once it has
given an answer that ends it, it is inert in the mode of that answer, or as failed after a fault. It
answers every later call with the mode and leaves the blob, the channel, the supplies and itself as
they are.
-/
theorem inert_of_ended (made : Made handler) (initialised : Initialises handler supplies start began)
    (visits : Visits kind start began answers ended now) {answer : Answer} {mode : Mode}
    (given : answer ∈ answers) (ends : endMode? answer = some mode) :
    Inert (Supplies κ) kind mode ended ∧
      ∀ more last later, Visits kind ended now more last later →
        last = ended ∧ ∀ answer ∈ more, answer = .ok mode := by
  have inert : Inert (Supplies κ) kind mode ended := by
    cases made with
    | sharedKey variant =>
        obtain ⟨start, rfl, own⟩ := initialises_inl initialised
        obtain ⟨last, rfl, called⟩ := carries_inl.visits visits
        have course := SharedKey.course_visits own called
        exact carries_inl.inert (SharedKey.inert_of_repeats (course.repeats given ends))
    | envelope names =>
        obtain ⟨start, rfl, own⟩ := initialises_inr initialised
        obtain ⟨last, rfl, called⟩ := carries_inr.visits visits
        have course := Envelope.course_visits own called
        exact carries_inr.inert (Envelope.inert_of_repeats (course.repeats given ends))
  exact ⟨inert, fun _ _ _ later => inert.visits later⟩

def aliceMisled : Turn (Supplies MemoryKeys) BuiltIn :=
  Handler.consume alice.handler ((Blob.blank takeoverCapacity).load [255, 255]) alice.surroundings

theorem inert_of_misled :
    Visits .blob alice.handler alice.surroundings [aliceMisled.answer] aliceMisled.handler
        aliceMisled.surroundings ∧
      endMode? aliceMisled.answer = some .failed ∧
      Inert (Supplies MemoryKeys) .blob .failed aliceMisled.handler ∧
      ∀ more last later,
        Visits .blob aliceMisled.handler aliceMisled.surroundings more last later →
          last = aliceMisled.handler ∧ ∀ answer ∈ more, answer = .ok .failed := by
  have visits : Visits .blob alice.handler alice.surroundings [aliceMisled.answer]
      aliceMisled.handler aliceMisled.surroundings :=
    .visit .begin (.consume alice.handler alice.surroundings
      ((Blob.blank takeoverCapacity).load [255, 255]))
  have ends : endMode? aliceMisled.answer = some .failed := by decide +kernel
  exact ⟨visits, ends, inert_of_ended (.sharedKey .p9sk2) (.live _ _) visits
    (List.mem_singleton_self _) ends⟩

end Parley.BuiltIn
