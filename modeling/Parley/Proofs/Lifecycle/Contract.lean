import Parley.Proofs.Channel.Dialogue
import Parley.Proofs.Handler.Ready
import Parley.Proofs.Lifecycle.Calls

/-!
The contract of handlers with their driver, as lifecycles see it. A driver calls a handler in one
way only, and only until it has ended; so no call mixes the ways or finds the handler ended.
-/

namespace Parley

/-- Faults other than those of a handler or of delegations that break the contract. -/
def Fault.Ordinary : Fault → Prop
  | .mixedExchange _ | .selfDelegation _ | .delegationCycle _ => False
  | _ => True

def Ordinarily (answer : Answer) : Prop := ∀ fault, answer = .error fault → fault.Ordinary

theorem ordinarily_ok (mode : Mode) : Ordinarily (.ok mode) := nofun

theorem ordinarily_error {fault : Fault} (ordinary : fault.Ordinary) :
    Ordinarily (.error fault) := by
  rintro _ ⟨⟩
  exact ordinary

theorem ordinary_encode {message : Message} {fault : Fault}
    (failed : message.encode = .error fault) : fault.Ordinary := by
  simp only [Message.encode] at failed
  split at failed
  · cases failed
    trivial
  · cases failed

theorem ordinary_next {inbox : Inbox} {fault : Fault} (failed : inbox.next = .error fault) :
    fault.Ordinary := by
  simp only [Inbox.next] at failed
  split at failed
  · split at failed
    · cases failed
      trivial
    · split at failed
      · cases failed
      · split at failed
        · rename_i unreadable
          cases failed
          simp only [Message.decode] at unreadable
          split at unreadable
          · cases unreadable
          · cases unreadable
            trivial
        · cases failed
  · cases failed

theorem ordinary_gather {bound missing : Nat} {gathered : Bytes} {fault : Fault}
    (failed : (Frame.gather bound missing gathered).Leads (.error fault)) : fault.Ordinary := by
  induction bound generalizing missing gathered with
  | zero => cases Dialogue.leads_done_iff.mp failed
  | succ bound ih =>
      rw [Frame.gather] at failed
      split at failed
      · cases Dialogue.leads_done_iff.mp failed
      · rcases failed with _ | _ | ⟨answer, short, later⟩
        dsimp only at later
        split at later
        · cases Dialogue.leads_done_iff.mp later
          trivial
        · cases Dialogue.leads_done_iff.mp later
          trivial
        · exact ih later

theorem Frame.Fails.ordinary {fault : Fault} (fails : Frame.Fails fault) : fault.Ordinary := by
  cases fails with
  | sending sent =>
      rw [Frame.send] at sent
      split at sent
      · cases Dialogue.leads_done_iff.mp sent
        trivial
      · rcases sent with _ | ⟨answer, later⟩
        rcases answer with error | _ <;> cases Dialogue.leads_done_iff.mp later
        trivial
  | receiving received =>
      obtain ⟨header, talked, later⟩ := Dialogue.leads_bind_iff.mp received
      rcases header with early | header
      · cases Dialogue.leads_done_iff.mp later
        exact ordinary_gather talked
      · dsimp only at later
        split at later
        · cases Dialogue.leads_done_iff.mp later
          trivial
        · exact ordinary_gather later

namespace Lifecycle

structure Open (kind : ExchangeKind) (lifecycle : Lifecycle) : Prop where
  exchange : lifecycle.exchange = none ∨ lifecycle.exchange = some kind
  stage : lifecycle.stage = .bound ∨ lifecycle.stage = .exchanging

variable {kind : ExchangeKind} {lifecycle before after : Lifecycle} {answer : Answer}

theorem Ready.open (ready : lifecycle.Ready) (kind : ExchangeKind) : lifecycle.Open kind :=
  ⟨Or.inl ready.exchange, Or.inl ready.stage⟩

theorem Open.enter (still : lifecycle.Open kind) :
    lifecycle.enter kind =
      ({ lifecycle with exchange := some kind, stage := .exchanging }, none) := by
  rcases lifecycle with ⟨face, stage, exchange⟩
  obtain ⟨exchangeEq, stageEq⟩ := still
  dsimp only at exchangeEq stageEq
  rcases exchangeEq with rfl | rfl <;> rcases stageEq with rfl | rfl <;> simp [Lifecycle.enter]

structure Engaged (kind : ExchangeKind) (lifecycle : Lifecycle) : Prop where
  exchange : lifecycle.exchange = some kind
  stage : lifecycle.stage = .exchanging

theorem Engaged.open (engaged : lifecycle.Engaged kind) : lifecycle.Open kind :=
  ⟨Or.inr engaged.exchange, Or.inr engaged.stage⟩

/-- What calls may come to while driver and handler keep to their contract. -/
inductive Fares (kind : ExchangeKind) (lifecycle : Lifecycle) : Answer → Prop
  | going {mode : Mode} (goes : mode.isFinal = false) (supported : mode ≠ .notSupported)
      (more : mode ≠ .noMoreData) (engaged : lifecycle.Engaged kind) :
      Fares kind lifecycle (.ok mode)
  | succeeded {credential : Credential} (shown : lifecycle.face.credential = some credential)
      (own : credential.protocol = lifecycle.face.protocol) : Fares kind lifecycle (.ok .success)
  | failed : Fares kind lifecycle (.ok .failed)
  | declined (fromEnvelope : lifecycle.face.protocol = Envelope.protocol) :
      Fares kind lifecycle (.ok .notSupported)
  | delegated {name : String} (fromEnvelope : lifecycle.face.protocol = Envelope.protocol)
      (named : lifecycle.face.info = some name) (other : name ≠ Envelope.protocol) :
      Fares kind lifecycle (.ok .delegated)
  | broken {fault : Fault} (ordinary : fault.Ordinary) : Fares kind lifecycle (.error fault)

structure Behaves (kind : ExchangeKind) (before after : Lifecycle) (honest : Prop)
    (answer : Answer) : Prop where
  protocol : after.face.protocol = before.face.protocol
  role : after.role = before.role
  fares : Fares kind after answer
  honest {mode : Mode} (answered : answer = .ok mode) : honest

inductive Unfolds (before after : Lifecycle) (honest : Prop) : Option Answer → Prop
  | onward (protocol : after.face.protocol = before.face.protocol) (role : after.role = before.role)
      (still : honest) (engaged : after.Engaged .takeover) : Unfolds before after honest none
  | answered {answer : Answer} (behaves : Behaves .takeover before after honest answer)
      (stops : ∀ mode, answer = .ok mode → mode.goesOn = false) :
      Unfolds before after honest (some answer)

theorem protocol_settle (lifecycle : Lifecycle) (answer : Answer) :
    (lifecycle.settle answer).face.protocol = lifecycle.face.protocol := by
  cases answer <;> rfl

theorem role_settle (lifecycle : Lifecycle) (answer : Answer) :
    (lifecycle.settle answer).role = lifecycle.role := by
  cases answer <;> rfl

theorem fares_settle (engaged : before.Engaged kind) (work : Worked before after answer)
    (ordinary : Ordinarily answer)
    (success : answer = .ok .success → ∀ credential, after.face.credential = some credential →
      credential.protocol = after.face.protocol)
    (delegates : answer = .ok .delegated → after.face.protocol = Envelope.protocol ∧
      ∃ name, after.face.info = some name ∧ name ≠ Envelope.protocol) :
    Fares kind (after.settle answer) answer := by
  rcases work.leaves with ⟨goes, supported, more, stage, _⟩ | ⟨final, stage, shown⟩ | ⟨_, _⟩
  · exact .going goes supported more
      ⟨work.exchange.trans engaged.exchange, stage.trans engaged.stage⟩
  · rename_i mode
    cases mode with
    | success =>
        obtain ⟨credential, found⟩ := Option.isSome_iff_exists.mp (shown.mpr rfl)
        exact .succeeded found (success rfl credential found)
    | failed => exact .failed
    | delegated =>
        obtain ⟨fromEnvelope, name, named, other⟩ := delegates rfl
        exact .delegated fromEnvelope named other
    | _ => cases final
  · exact .broken (ordinary _ rfl)

end Lifecycle

end Parley
