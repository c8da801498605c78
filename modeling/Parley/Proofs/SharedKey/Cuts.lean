import Parley.Exchange
import Parley.Proofs.Message.Reassembly
import Parley.Proofs.Message.RoundTrip
import Parley.Proofs.SharedKey.Calls
import Parley.Proofs.SharedKey.Response
import Parley.Proofs.SharedKey.Twins

/-!
Frames that are cut in different ways. A handler that is given frame after frame does what one does
whose inbox holds from the start all that the frames bring, as long as it is not left waiting for a
frame while there is something to read in its inbox.
-/

namespace Parley

/-- From one state a step function comes to rest in another. -/
inductive Rests {σ : Type} (step : σ → Option σ) : σ → σ → Prop
  | rest {state : σ} (still : step state = none) : Rests step state state
  | step {state next last : σ} (stepped : step state = some next) (rests : Rests step next last) :
      Rests step state last

theorem Rests.unique {σ : Type} {step : σ → Option σ} {state first second : σ}
    (one : Rests step state first) (other : Rests step state second) : first = second := by
  induction one with
  | rest still =>
      cases other with
      | rest _ => rfl
      | step stepped _ => cases still.symm.trans stepped
  | step stepped _ ih =>
      cases other with
      | rest still => cases still.symm.trans stepped
      | step again rests =>
          obtain rfl := Option.some.inj (stepped.symm.trans again)
          exact ih rests

/-- A party on its own: the frames that are there for it, what it has sent, and its last answer. -/
structure Alone (κ σ : Type) where
  party : Party κ σ
  nonces : NonceSupply
  queue : List Bytes
  sent : List Bytes := []
  answer : Option Answer := none

namespace Alone

section

variable {κ σ : Type} [HasFace σ] [Handler (Supplies κ) σ]

def starting (capacity : Nat) (handler : σ) (supplies : Supplies κ) (frames : List Bytes) :
    Alone κ σ where
  party := { handler, keys := supplies.keys, blob := Blob.blank capacity }
  nonces := supplies.nonces
  queue := frames

def call (alone : Alone κ σ) : Option (Alone κ σ) :=
  (alone.party.call alone.nonces alone.queue).map fun turn =>
    ⟨turn.party, turn.nonces, turn.queue, alone.sent ++ turn.sent.toList, some turn.answer⟩

end

/-- It waits for a frame though a message, or a length that is too long, is in its inbox. -/
def Stalled {κ : Type} (alone : Alone κ SharedKey) : Prop :=
  alone.party.outcome = none ∧ alone.party.handler.inbox.next ≠ .ok none

end Alone

namespace SharedKey

open Lifecycle

variable {κ : Type}

/-! ## All bytes at once -/

structure Reader (κ : Type) where
  handler : SharedKey
  supplies : Supplies κ
  reads : Bool
  sent : List Bytes
  answer : Option Answer
  outcome : Option Answer

namespace Reader

def incomplete (handler : SharedKey) : Bool :=
  match handler.nextMessage with
  | .ok none => true
  | _ => false

/-- It has ended, or it would read and no message is complete. -/
def idle (reader : Reader κ) : Bool :=
  reader.outcome.isSome || reader.reads && incomplete reader.handler

variable [KeyStore κ]

def turn (capacity : Nat) (reader : Reader κ) : Turn (Supplies κ) SharedKey :=
  let blank := Blob.blank capacity
  if reader.reads then Handler.consume reader.handler blank reader.supplies
  else Handler.produce reader.handler blank.clear reader.supplies

def step (capacity : Nat) (reader : Reader κ) : Option (Reader κ) :=
  if reader.idle then none
  else
    let turn := reader.turn capacity
    let (next, outcome) := Party.react (if reader.reads then .consume else .produce) turn.answer
    some
      { handler := turn.handler
        supplies := turn.surroundings
        reads := next != .produce
        sent := reader.sent ++ (if reader.reads then none else Party.sending turn).toList
        answer := some turn.answer
        outcome }

omit [KeyStore κ] in
theorem incomplete_eq_false {handler : SharedKey} (complete : handler.nextMessage ≠ .ok none) :
    incomplete handler = false := by
  rw [incomplete]
  split
  · rename_i nothing
    exact absurd nothing complete
  · rfl

theorem step_reads {reader : Reader κ} {capacity : Nat} {answer : Answer} {last : SharedKey}
    {blob : Blob} {later : Supplies κ} (outcome : reader.outcome = none)
    (reads : reader.reads = true) (complete : reader.handler.nextMessage ≠ .ok none)
    (consumed : Handler.consume reader.handler (Blob.blank capacity) reader.supplies =
      ⟨answer, last, blob, later⟩) :
    reader.step capacity =
      some ⟨last, later, (Party.react .consume answer).1 != .produce, reader.sent, some answer,
        (Party.react .consume answer).2⟩ := by
  have busy : reader.idle = false := by
    rw [idle, outcome, reads, incomplete_eq_false complete]
    rfl
  simp only [step, busy, turn, reads, if_true, consumed]
  simp

end Reader

theorem nextMessage_receiving_some {handler next : SharedKey} {message : Message}
    (found : handler.nextMessage = .ok (some (message, next))) (bytes : Bytes) :
    (handler.receiving bytes).nextMessage = .ok (some (message, next.receiving bytes)) := by
  rw [nextMessage] at found ⊢
  have deferred : (handler.receiving bytes).deferred = handler.deferred := rfl
  rw [deferred]
  split at found
  · cases found
    rfl
  · split at found
    · cases found
    · cases found
    · rename_i complete
      cases found
      simp only [receiving, Inbox.next_append complete bytes]

theorem nextMessage_receiving_error {handler : SharedKey} {fault : Fault}
    (broken : handler.nextMessage = .error fault) (bytes : Bytes) :
    (handler.receiving bytes).nextMessage = .error fault := by
  rw [nextMessage] at broken ⊢
  have deferred : (handler.receiving bytes).deferred = handler.deferred := rfl
  rw [deferred]
  split at broken
  · cases broken
  · split at broken
    · rename_i problem
      cases broken
      simp only [receiving, Inbox.next_error_append problem bytes]
    · cases broken
    · cases broken

/-! ## Writing -/

theorem sending_congr {first second : Turn (Supplies κ) SharedKey}
    (answer : first.answer = second.answer)
    (contents : first.blob.contents = second.blob.contents) :
    Party.sending first = Party.sending second := by
  have length : first.blob.length = second.blob.length := by
    rw [← Blob.length_contents, contents, Blob.length_contents]
  rw [Party.sending, Party.sending, answer, Blob.isEmpty, Blob.isEmpty, length, contents]

variable [KeyStore κ]

theorem produce_receiving (handler : SharedKey) (bytes : Bytes) (supplies : Supplies κ)
    {first second : Blob} (capacity : first.capacity = second.capacity) :
    SameTurn (Handler.produce (handler.receiving bytes) first.clear supplies)
      { Handler.produce handler second.clear supplies with
        handler := (Handler.produce handler second.clear supplies).handler.receiving bytes } := by
  have called (handler : SharedKey) (blob : Blob) :
      Handler.produce handler blob supplies = call write handler blob supplies := rfl
  have lifecycle : (handler.receiving bytes).lifecycle = handler.lifecycle := rfl
  rw [called, called, call, call, lifecycle]
  rcases handler.lifecycle.enter .blob with ⟨opened, _ | answer⟩
  · have received : { handler.receiving bytes with lifecycle := opened } =
        { handler with lifecycle := opened }.receiving bytes := rfl
    dsimp only
    rw [received, write_receiving]
    obtain ⟨⟨sameAnswer, sameHandler, surroundings, contents⟩, _⟩ :=
      write_capacity { handler with lifecycle := opened } supplies capacity
    refine ⟨sameAnswer, ?_, surroundings, contents⟩
    dsimp only
    rw [sameAnswer, sameHandler]
    rfl
  · exact ⟨rfl, rfl, rfl, rfl⟩

theorem capacity_produce (handler : SharedKey) (blob : Blob) (supplies : Supplies κ) :
    (Handler.produce handler blob.clear supplies).blob.capacity = blob.capacity := by
  have called : Handler.produce handler blob.clear supplies =
      call write handler blob.clear supplies := rfl
  rw [called, call]
  rcases handler.lifecycle.enter .blob with ⟨opened, _ | answer⟩
  · exact (write_capacity { handler with lifecycle := opened } supplies rfl).2
  · exact Blob.capacity_clear blob

theorem inbox_produce (handler : SharedKey) (blob : Blob) (supplies : Supplies κ) :
    (Handler.produce handler blob supplies).handler.inbox = handler.inbox := by
  have called : Handler.produce handler blob supplies = call write handler blob supplies := rfl
  rw [called, call]
  rcases handler.lifecycle.enter .blob with ⟨opened, _ | answer⟩
  · have kept := congrArg (fun turn => turn.handler.inbox)
      (write_self { handler with lifecycle := opened } blob supplies)
    exact kept
  · rfl

/-! ## What is kept -/

omit [KeyStore κ] in
theorem enter_opened {before opened : Lifecycle} {kind : ExchangeKind}
    (entered : before.enter kind = (opened, none)) :
    opened = { before with exchange := some kind, stage := .exchanging } := by
  simp only [enter] at entered
  split at entered
  · cases entered
  · split at entered
    · cases entered
    · split at entered
      · cases entered
      · cases entered
        rfl

theorem react_reads {call : NextCall} (reads : call ≠ .produce) (answer : Answer) :
    ((Party.react call answer).1 != .produce) = ((Party.react .consume answer).1 != .produce) ∧
      (Party.react call answer).2 = (Party.react .consume answer).2 := by
  rcases answer with fault | mode
  · cases call with
    | produce => exact absurd rfl reads
    | receive => exact ⟨rfl, rfl⟩
    | consume => exact ⟨rfl, rfl⟩
  · cases call with
    | produce => exact absurd rfl reads
    | receive => cases mode <;> exact ⟨rfl, rfl⟩
    | consume => exact ⟨rfl, rfl⟩

theorem react_wait {call : NextCall} (reads : call ≠ .produce) (seconds : Nat) :
    Party.react call (.ok (.wait seconds)) = (.consume, none) := by
  cases call with
  | produce => exact absurd rfl reads
  | receive => rfl
  | consume => rfl

theorem react_goes {call next : NextCall} {answer : Answer}
    (reacts : Party.react call answer = (next, none)) :
    ∃ mode, answer = .ok mode ∧ mode.isFinal = false ∧ mode ≠ .noIdentity := by
  rcases answer with fault | mode
  · simp [Party.react] at reacts
  · refine ⟨mode, rfl, ?_⟩
    cases mode <;> simp [Party.react, Mode.isFinal] at reacts ⊢

omit [KeyStore κ] in
theorem Writing.deferred {handler next : SharedKey} {supplies later : Supplies κ} {mode : Mode}
    (writing : Writing handler supplies next later (.ok mode)) :
    next.deferred = handler.deferred := by
  cases writing with
  | unready prepared _ => cases prepared <;> rfl
  | flushed prepared flushed => cases flushed <;> cases prepared <;> rfl

def Open (handler : SharedKey) : Prop := handler.lifecycle.Unstarted ∨ Engaged handler

theorem engaged_produce {handler : SharedKey} {blob : Blob} {supplies : Supplies κ} {mode : Mode}
    (isOpen : Open handler) (answered : (Handler.produce handler blob supplies).answer = .ok mode)
    (goes : mode.isFinal = false) (bound : mode ≠ .noIdentity) :
    Engaged (Handler.produce handler blob supplies).handler ∧
      (Handler.produce handler blob supplies).handler.deferred = handler.deferred := by
  have called : Handler.produce handler blob supplies = call write handler blob supplies := rfl
  rw [called, call] at answered ⊢
  rcases entered : handler.lifecycle.enter .blob with ⟨opened, _ | answer⟩
  · rw [entered] at answered
    obtain rfl := enter_opened entered
    have writing := writing_write
      { handler with
        lifecycle := { handler.lifecycle with exchange := some .blob, stage := .exchanging } }
      blob supplies
    dsimp only at answered ⊢
    rw [answered] at writing ⊢
    obtain ⟨stage, _⟩ := writing.worked.kept_of_going goes
    exact ⟨⟨stage, writing.worked.exchange⟩, writing.deferred⟩
  · rw [entered] at answered
    dsimp only at answered
    subst answered
    have entry := entry_enter entered
    rcases isOpen with unstarted | engaged
    · cases entry with
      | unbound _ => exact absurd rfl bound
      | repeated _ stage => exact absurd stage unstarted.stage_ne
    · rw [engaged.enter] at entered
      cases entered

omit [KeyStore κ] in
theorem Response.goes {handler next : SharedKey} {supplies later : Supplies κ} {message : Message}
    {reply : Option Message} {answer : Answer}
    (response : Response handler supplies message reply next later answer)
    (quiet : handler.deferred = none) :
    (∀ call, (Party.react call answer).2 = some answer) ∨
      (answer = .ok .pendingData ∧ next.deferred = none) ∨
      ∃ seconds, answer = .ok (.wait seconds) ∧ next.deferred.isSome = true := by
  cases response with
  | broken _ _ _ => exact Or.inl fun _ => rfl
  | failed => exact Or.inl fun _ => rfl
  | unbound _ => exact Or.inl fun _ => rfl
  | keyless _ _ => exact Or.inl fun _ => rfl
  | admitted _ _ _ _ => exact Or.inl fun _ => rfl
  | rejected _ _ _ => exact Or.inr (Or.inl ⟨rfl, quiet⟩)
  | proved _ _ _ _ _ _ => exact Or.inr (Or.inl ⟨rfl, quiet⟩)
  | challenged _ _ _ _ _ _ => exact Or.inr (Or.inl ⟨rfl, quiet⟩)
  | accepted _ _ _ _ _ => exact Or.inr (Or.inl ⟨rfl, quiet⟩)
  | delayed _ _ _ => exact Or.inr (Or.inr ⟨_, rfl, rfl⟩)

/-! ## Reading -/

theorem consume_broken {handler : SharedKey} {blob : Blob} {supplies : Supplies κ} {bytes : Bytes}
    {fault : Fault} (engaged : Engaged handler)
    (given : blob.contents.drop blob.position = bytes)
    (broken : (handler.receiving bytes).nextMessage = .error fault) :
    Handler.consume handler blob supplies =
      ⟨.error fault, (handler.receiving bytes).settle (.error fault), blob.taken, supplies⟩ := by
  have received : { handler with inbox := (handler.inbox.absorb blob).1 } =
      handler.receiving bytes := by rw [← given]; rfl
  rw [consume_engaged engaged]
  simp only [read]
  rw [received, broken]
  rfl

theorem consume_handled {handler next last : SharedKey} {blob : Blob} {supplies later : Supplies κ}
    {bytes : Bytes} {message : Message} {answer : Answer} (engaged : Engaged handler)
    (given : blob.contents.drop blob.position = bytes)
    (found : (handler.receiving bytes).nextMessage = .ok (some (message, next)))
    (handled : next.onMessage message supplies = (last, later, answer)) :
    Handler.consume handler blob supplies = ⟨answer, last.settle answer, blob.taken, later⟩ := by
  have received : { handler with inbox := (handler.inbox.absorb blob).1 } =
      handler.receiving bytes := by rw [← given]; rfl
  have more : answer ≠ .ok .needData := by
    obtain ⟨_, response⟩ := response_onMessage next supplies message
    rw [handled] at response
    exact response.answer_ne
  rw [consume_engaged engaged]
  simp only [read]
  rw [received, found]
  simp only [handled]
  rfl

omit [KeyStore κ] in
theorem quiet_of_found {handler next : SharedKey} {message : Message}
    (found : handler.nextMessage = .ok (some (message, next))) : next.deferred = none := by
  rw [nextMessage] at found
  split at found
  · cases found
    rfl
  · rename_i quiet
    split at found <;> cases found
    exact quiet

theorem unheard_init (handler : SharedKey) (identity : Option Identity) (role : Role)
    (supplies : Supplies κ) :
    (handler.init identity role supplies).handler.deferred = handler.deferred ∧
      (handler.init identity role supplies).handler.inbox = handler.inbox := by
  simp only [init]
  split
  · exact ⟨rfl, rfl⟩
  · split
    · exact ⟨rfl, rfl⟩
    · rw [initClient]
      split <;> exact ⟨rfl, rfl⟩
    · exact ⟨rfl, rfl⟩

theorem unheard_initialises {variant : Variant} {handler : SharedKey} {early began : Supplies κ}
    (initialised : Initialises (fresh variant) early handler began) :
    handler.lifecycle.Unstarted ∧ handler.deferred = none ∧ handler.inbox = {} := by
  cases initialised with
  | live identity role => exact ⟨unstarted_init _ _ _ _, unheard_init _ _ _ _⟩
  | declared attributes =>
      refine ⟨unstarted_initFrom _ _ _, ?_⟩
      have unfolded : Handler.initFrom (fresh variant) attributes early =
          (fresh variant).initFrom attributes early := rfl
      rw [unfolded, initFrom]
      split
      · exact ⟨rfl, rfl⟩
      · exact unheard_init _ _ _ _

end SharedKey

namespace Alone

open SharedKey

variable {κ : Type}

/-- The party with the bytes of its frames in its inbox already. -/
def fed (alone : Alone κ SharedKey) : Reader κ where
  handler := alone.party.handler.receiving alone.queue.flatten
  supplies := ⟨alone.nonces, alone.party.keys⟩
  reads := alone.party.next != .produce
  sent := alone.sent
  answer := alone.answer
  outcome := alone.party.outcome

/-- How a party stands between its calls. -/
inductive Phase (alone : Alone κ SharedKey) : Prop
  | ended {answer : Answer} (outcome : alone.party.outcome = some answer)
  | writes (outcome : alone.party.outcome = none) (next : alone.party.next = .produce)
      (isOpen : Open alone.party.handler) (quiet : alone.party.handler.deferred = none)
  | waits (outcome : alone.party.outcome = none) (next : alone.party.next = .consume)
      (engaged : Engaged alone.party.handler) (held : alone.party.handler.deferred.isSome = true)
      (read : alone.party.blob.contents.drop alone.party.blob.position = [])
  | asks (outcome : alone.party.outcome = none) (next : alone.party.next = .receive)
      (engaged : Engaged alone.party.handler) (quiet : alone.party.handler.deferred = none)
      (answer : alone.answer = some (.ok .needData))

structure Sound (capacity : Nat) (alone : Alone κ SharedKey) : Prop where
  sized : alone.party.blob.capacity = capacity
  fits : ∀ frame ∈ alone.queue, frame.length ≤ capacity
  phase : Phase alone

variable [KeyStore κ]

def followed (alone : Alone κ SharedKey) (turn : Turn (Supplies κ) SharedKey) (queue : List Bytes)
    (sent : Option Bytes) : Alone κ SharedKey :=
  ⟨(alone.party.after turn queue sent).party, turn.surroundings.nonces, queue,
    alone.sent ++ sent.toList, some turn.answer⟩

variable {alone : Alone κ SharedKey} {capacity : Nat} {queue : List Bytes} {bytes : Bytes}
  {blob : Blob}

omit [KeyStore κ] in
theorem fed_followed (turn : Turn (Supplies κ) SharedKey) (reads : alone.party.next ≠ .produce) :
    (followed alone turn queue none).fed =
      ⟨turn.handler.receiving queue.flatten, turn.surroundings,
        (Party.react .consume turn.answer).1 != .produce, alone.sent, some turn.answer,
        (Party.react .consume turn.answer).2⟩ := by
  obtain ⟨next, stopped⟩ := react_reads reads turn.answer
  simp [followed, fed, Party.after, next, stopped]

theorem sound_followed_read (engaged : Engaged alone.party.handler)
    (outcome : alone.party.outcome = none) (reads : alone.party.next ≠ .produce)
    (given : blob.contents.drop blob.position = bytes) (sized : blob.capacity = capacity)
    (fits : ∀ frame ∈ queue, frame.length ≤ capacity)
    (split : alone.queue.flatten = bytes ++ queue.flatten)
    (complete : (alone.party.handler.receiving bytes).nextMessage ≠ .ok none) :
    let later := followed alone
      (Handler.consume alone.party.handler blob ⟨alone.nonces, alone.party.keys⟩) queue none
    Sound capacity later ∧ alone.fed.step capacity = some later.fed := by
  intro later
  have blank : (Blob.blank capacity).contents.drop (Blob.blank capacity).position = [] := rfl
  have whole : alone.fed.handler.receiving [] =
      (alone.party.handler.receiving bytes).receiving queue.flatten := by
    rw [receiving_nil, receiving_receiving, fed, split]
  have engagedFed : Engaged alone.fed.handler := engaged.receiving _
  have readsFed : alone.fed.reads = true := by simpa [fed] using reads
  rcases found : (alone.party.handler.receiving bytes).nextMessage with fault | _ | ⟨message, next⟩
  · have broken := nextMessage_receiving_error found queue.flatten
    rw [← whole] at broken
    have unbroken : alone.fed.handler.nextMessage ≠ .ok none := by
      rw [receiving_nil] at broken
      simp [broken]
    have consumed :
        Handler.consume alone.fed.handler (Blob.blank capacity) alone.fed.supplies = _ :=
      consume_broken engagedFed blank broken
    rw [Reader.step_reads outcome readsFed unbroken consumed, fed_followed _ reads,
      consume_broken engaged given found, whole]
    simp only [later, consume_broken engaged given found]
    exact ⟨⟨sized, fits, .ended rfl⟩, rfl⟩
  · exact absurd found complete
  · rcases handled : next.onMessage message ⟨alone.nonces, alone.party.keys⟩ with
      ⟨last, after, answer⟩
    have foundFed := nextMessage_receiving_some found queue.flatten
    rw [← whole] at foundFed
    have completeFed : alone.fed.handler.nextMessage ≠ .ok none := by
      rw [receiving_nil] at foundFed
      simp [foundFed]
    have handledFed := onMessage_receiving next message queue.flatten alone.fed.supplies
    have sameSupplies : alone.fed.supplies = ⟨alone.nonces, alone.party.keys⟩ := rfl
    rw [sameSupplies, handled] at handledFed
    have consumed := consume_handled engagedFed blank foundFed handledFed
    rw [Reader.step_reads outcome readsFed completeFed consumed, fed_followed _ reads]
    simp only [later, consume_handled engaged given found handled]
    refine ⟨⟨sized, fits, ?_⟩, rfl⟩
    obtain ⟨_, response⟩ := response_onMessage next ⟨alone.nonces, alone.party.keys⟩ message
    have worked := worked_onMessage next message ⟨alone.nonces, alone.party.keys⟩
    rw [handled] at response worked
    rw [lifecycle_nextMessage found] at worked
    rcases response.goes (quiet_of_found found) with stops | ⟨rfl, quiet⟩ | ⟨seconds, rfl, held⟩
    · exact .ended (stops _)
    · obtain ⟨stage, _⟩ := worked.kept_of_going rfl
      exact .writes rfl rfl
        (Or.inr ⟨stage.trans engaged.stage, worked.exchange.trans engaged.exchange⟩) quiet
    · obtain ⟨stage, _⟩ := worked.kept_of_going rfl
      exact .waits rfl (congrArg Prod.fst (react_wait reads seconds))
        ⟨stage.trans engaged.stage, worked.exchange.trans engaged.exchange⟩ held
        (Blob.unread_taken blob)

theorem sound_followed_write (outcome : alone.party.outcome = none)
    (writes : alone.party.next = .produce) (isOpen : Open alone.party.handler)
    (quiet : alone.party.handler.deferred = none) (sized : alone.party.blob.capacity = capacity)
    (fits : ∀ frame ∈ alone.queue, frame.length ≤ capacity) :
    let turn := Handler.produce alone.party.handler alone.party.blob.clear
      (⟨alone.nonces, alone.party.keys⟩ : Supplies κ)
    let later := followed alone turn alone.queue (Party.sending turn)
    Sound capacity later ∧ alone.fed.step capacity = some later.fed := by
  intro turn later
  have writesFed : alone.fed.reads = false := by simp [fed, writes]
  have busy : alone.fed.idle = false := by
    rw [Reader.idle, writesFed, Bool.false_and, Bool.or_false]
    exact congrArg Option.isSome outcome
  obtain ⟨answer, handler, supplies, contents⟩ := produce_receiving alone.party.handler
    alone.queue.flatten ⟨alone.nonces, alone.party.keys⟩
    ((Blob.capacity_blank capacity).trans sized.symm)
  have sent := sending_congr answer contents
  refine ⟨⟨(capacity_produce _ _ _).trans sized, fits, ?_⟩, ?_⟩
  · have nextEq : later.party.next = (Party.react .produce turn.answer).1 := by
      rw [← writes]
      rfl
    have outcomeEq : later.party.outcome = (Party.react .produce turn.answer).2 := by
      rw [← writes]
      rfl
    rcases reacts : Party.react .produce turn.answer with ⟨next, _ | result⟩
    · rw [reacts] at nextEq outcomeEq
      obtain ⟨mode, answered, goes, bound⟩ := react_goes reacts
      obtain ⟨engaged, kept⟩ := engaged_produce isOpen answered goes bound
      by_cases asks : mode = .needData
      · subst asks
        rw [answered] at reacts
        cases reacts
        exact .asks outcomeEq nextEq engaged (kept.trans quiet) (congrArg some answered)
      · refine .writes outcomeEq ?_ (Or.inr engaged) (kept.trans quiet)
        rw [nextEq]
        rw [answered] at reacts
        cases mode <;> simp_all [Party.react]
    · rw [reacts] at outcomeEq
      exact .ended outcomeEq
  · have produced : alone.fed.turn capacity =
        Handler.produce (alone.party.handler.receiving alone.queue.flatten)
          (Blob.blank capacity).clear ⟨alone.nonces, alone.party.keys⟩ := by
      rw [Reader.turn, writesFed]
      rfl
    simp only [Reader.step, busy, writesFed, produced, answer, handler, supplies, sent]
    simp only [later, followed, fed, Party.after, writes, turn]
    rfl

theorem call_eq (alone : Alone κ SharedKey) :
    alone.call =
      match alone.party.outcome, alone.party.next, alone.queue with
      | some _, _, _ => none
      | none, .produce, queue =>
        let turn : Turn (Supplies κ) SharedKey :=
          Handler.produce alone.party.handler alone.party.blob.clear
            ⟨alone.nonces, alone.party.keys⟩
        some (alone.followed turn queue (Party.sending turn))
      | none, .receive, [] => none
      | none, .receive, frame :: queue =>
        some (alone.followed (Handler.consume alone.party.handler (alone.party.blob.load frame)
          ⟨alone.nonces, alone.party.keys⟩) queue none)
      | none, .consume, queue =>
        some (alone.followed (Handler.consume alone.party.handler alone.party.blob
          ⟨alone.nonces, alone.party.keys⟩) queue none) := by
  rw [call, Party.call.eq_def]
  rcases alone.party.outcome with _ | result
  · rcases alone.party.next with _ | _ | _
    · rfl
    · rcases alone.queue with _ | ⟨frame, queue⟩ <;> rfl
    · rfl
  · rfl

theorem Sound.called {next : Alone κ SharedKey} (sound : Sound capacity alone)
    (called : alone.call = some next) :
    Sound capacity next ∧
      ((next.fed = alone.fed ∧ next.queue.length < alone.queue.length) ∨
        alone.fed.step capacity = some next.fed) := by
  obtain ⟨sized, fits, phase⟩ := sound
  rw [call_eq] at called
  cases phase with
  | ended outcome =>
      rw [outcome] at called
      cases called
  | writes outcome writes isOpen quiet =>
      rw [outcome, writes] at called
      cases called
      obtain ⟨sound, stepped⟩ := sound_followed_write outcome writes isOpen quiet sized fits
      exact ⟨sound, Or.inr stepped⟩
  | waits outcome waits engaged held read =>
      rw [outcome, waits] at called
      cases called
      have complete : (alone.party.handler.receiving []).nextMessage ≠ .ok none := by
        obtain ⟨message, deferred⟩ := Option.isSome_iff_exists.mp held
        rw [receiving_nil, nextMessage, deferred]
        simp
      obtain ⟨sound, stepped⟩ := sound_followed_read engaged outcome (by rw [waits]; simp) read
        sized fits rfl complete
      exact ⟨sound, Or.inr stepped⟩
  | asks outcome asks engaged quiet answer =>
      rcases queued : alone.queue with _ | ⟨frame, queue⟩
      · rw [outcome, asks, queued] at called
        cases called
      · rw [outcome, asks, queued] at called
        cases called
        rw [queued] at fits
        have reads : alone.party.next ≠ .produce := by simp [asks]
        have fitsFrame : frame.length ≤ alone.party.blob.capacity := by
          rw [sized]
          exact fits frame List.mem_cons_self
        have fitsQueue (frame : Bytes) (member : frame ∈ queue) : frame.length ≤ capacity :=
          fits frame (List.mem_cons_of_mem _ member)
        have sizedLoad := (Blob.capacity_load alone.party.blob frame).trans sized
        have split : alone.queue.flatten = frame ++ queue.flatten := by
          rw [queued, List.flatten_cons]
        by_cases complete : (alone.party.handler.receiving frame).nextMessage = .ok none
        · rw [consume_part engaged (Blob.unread_load fitsFrame) complete]
          refine ⟨⟨sizedLoad, fitsQueue, .asks rfl ?_ (engaged.receiving frame) quiet rfl⟩,
            Or.inl ⟨?_, by simp [followed]⟩⟩
          · simp [followed, Party.after, Party.react]
          · rw [fed_followed _ reads]
            simp [fed, receiving_receiving, split, Party.react, asks, answer, outcome]
        · obtain ⟨sound, stepped⟩ := sound_followed_read engaged outcome reads
            (Blob.unread_load fitsFrame) sizedLoad fitsQueue split complete
          exact ⟨sound, Or.inr stepped⟩

theorem Sound.step_of_still (sound : Sound capacity alone) (still : alone.call = none) :
    alone.Stalled ∨ alone.fed.step capacity = none := by
  have idleOf (idle : alone.fed.idle = true) : alone.fed.step capacity = none := by
    rw [Reader.step, idle, if_pos rfl]
  rw [call_eq] at still
  cases sound.phase with
  | ended outcome =>
      refine Or.inr (idleOf ?_)
      simp [Reader.idle, fed, outcome]
  | writes outcome writes _ _ =>
      rw [outcome, writes] at still
      cases still
  | waits outcome waits _ _ _ =>
      rw [outcome, waits] at still
      cases still
  | asks outcome asks _ quiet _ =>
      rcases queued : alone.queue with _ | ⟨frame, queue⟩
      · by_cases nothing : alone.party.handler.inbox.next = .ok none
        · refine Or.inr (idleOf ?_)
          simp [Reader.idle, Reader.incomplete, nextMessage, fed, receiving, queued, asks, quiet,
            nothing]
        · exact Or.inl ⟨outcome, nothing⟩
      · rw [outcome, asks, queued] at still
        cases still

/-! ## Whole runs -/

theorem Sound.rests {last : Alone κ SharedKey} (sound : Sound capacity alone)
    (rests : Rests call alone last) :
    last.Stalled ∨ Rests (Reader.step capacity) alone.fed last.fed := by
  induction rests with
  | rest still =>
      rcases sound.step_of_still still with stalled | idle
      · exact Or.inl stalled
      · exact Or.inr (.rest idle)
  | step called _ ih =>
      obtain ⟨later, ⟨same, _⟩ | stepped⟩ := sound.called called
      · rw [← same]
        exact ih later
      · exact (ih later).imp_right (.step stepped)

theorem Sound.comes_to_rest (sound : Sound capacity alone)
    (later : ∀ next, Sound capacity next → alone.fed.step capacity = some next.fed →
      ∃ last, Rests call next last) : ∃ last, Rests call alone last := by
  induction length : alone.queue.length using Nat.strongRecOn generalizing alone with
  | _ count ih =>
      rcases called : alone.call with _ | next
      · exact ⟨alone, .rest called⟩
      · obtain ⟨soundNext, ⟨same, shorter⟩ | stepped⟩ := sound.called called
        · rw [← same] at later
          obtain ⟨last, rests⟩ := ih next.queue.length (by omega) soundNext later rfl
          exact ⟨last, .step called rests⟩
        · obtain ⟨last, rests⟩ := later next soundNext stepped
          exact ⟨last, .step called rests⟩

theorem Sound.rests_of_fed {reader final : Reader κ}
    (rests : Rests (Reader.step capacity) reader final) (sound : Sound capacity alone)
    (same : alone.fed = reader) :
    ∃ last, Rests call alone last := by
  induction rests generalizing alone with
  | rest still =>
      refine sound.comes_to_rest fun next _ stepped => ?_
      rw [same, still] at stepped
      cases stepped
  | step stepped _ ih =>
      refine sound.comes_to_rest fun next soundNext again => ?_
      rw [same, stepped] at again
      exact ih soundNext (Option.some.inj again).symm

omit [KeyStore κ] in
theorem sound_starting {handler : SharedKey} {supplies : Supplies κ} {frames : List Bytes}
    (unstarted : handler.lifecycle.Unstarted) (quiet : handler.deferred = none)
    (fits : ∀ frame ∈ frames, frame.length ≤ capacity) :
    Sound capacity (starting capacity handler supplies frames) :=
  ⟨Blob.capacity_blank capacity, fits, .writes rfl rfl (Or.inl unstarted) quiet⟩

/-! ## Cuts at the ends of messages -/

/-- None of the frames brings anything behind the end of a message. -/
def Tidy : Inbox → List Bytes → Prop
  | _, [] => True
  | inbox, frame :: frames =>
    match Inbox.next ⟨inbox.bytes ++ frame⟩ with
    | .error _ => True
    | .ok none => Tidy ⟨inbox.bytes ++ frame⟩ frames
    | .ok (some (_, rest)) => rest = {} ∧ Tidy {} frames

/-- Nothing is left in the inbox while something else is to be done. -/
inductive Neat (alone : Alone κ SharedKey) : Prop
  | ended {answer : Answer} (outcome : alone.party.outcome = some answer)
  | empty (inbox : alone.party.handler.inbox = {}) (tidy : Tidy {} alone.queue)
  | part (asks : alone.party.next = .receive)
      (nothing : alone.party.handler.inbox.next = .ok none)
      (tidy : Tidy alone.party.handler.inbox alone.queue)

theorem Neat.read {next : SharedKey} {message : Message} (engaged : Engaged alone.party.handler)
    (given : blob.contents.drop blob.position = bytes)
    (found : (alone.party.handler.receiving bytes).nextMessage = .ok (some (message, next)))
    (empty : next.inbox = {}) (tidy : Tidy {} queue) :
    Neat (followed alone
      (Handler.consume alone.party.handler blob ⟨alone.nonces, alone.party.keys⟩) queue none) := by
  rcases handled : next.onMessage message ⟨alone.nonces, alone.party.keys⟩ with
    ⟨last, later, answer⟩
  obtain ⟨_, response⟩ := response_onMessage next ⟨alone.nonces, alone.party.keys⟩ message
  rw [handled] at response
  rw [consume_handled engaged given found handled]
  exact .empty (response.inbox.trans empty) tidy

theorem Neat.called {next : Alone κ SharedKey} (neat : Neat alone) (sound : Sound capacity alone)
    (called : alone.call = some next) : Neat next := by
  obtain ⟨sized, fits, phase⟩ := sound
  rw [call_eq] at called
  cases phase with
  | ended outcome =>
      rw [outcome] at called
      cases called
  | writes outcome writes _ _ =>
      rw [outcome, writes] at called
      cases called
      cases neat with
      | ended stopped => cases outcome.symm.trans stopped
      | empty inbox tidy => exact .empty ((inbox_produce _ _ _).trans inbox) tidy
      | part asks _ _ => cases writes.symm.trans asks
  | waits outcome waits engaged held read =>
      rw [outcome, waits] at called
      cases called
      cases neat with
      | ended stopped => cases outcome.symm.trans stopped
      | empty inbox tidy =>
          obtain ⟨message, deferred⟩ := Option.isSome_iff_exists.mp held
          have found : (alone.party.handler.receiving []).nextMessage =
              .ok (some (message, { alone.party.handler with deferred := none })) := by
            rw [receiving_nil, nextMessage, deferred]
          exact .read engaged read found inbox tidy
      | part asks _ _ => cases waits.symm.trans asks
  | asks outcome asks engaged quiet answer =>
      have ready : alone.party.handler.inbox.next = .ok none ∧
          Tidy alone.party.handler.inbox alone.queue := by
        cases neat with
        | ended stopped => cases outcome.symm.trans stopped
        | empty inbox tidy =>
            rw [inbox]
            exact ⟨rfl, tidy⟩
        | part _ nothing tidy => exact ⟨nothing, tidy⟩
      obtain ⟨_, tidy⟩ := ready
      rcases queued : alone.queue with _ | ⟨frame, queue⟩
      · rw [outcome, asks, queued] at called
        cases called
      · rw [outcome, asks, queued] at called
        cases called
        rw [queued] at fits tidy
        have fitsFrame : frame.length ≤ alone.party.blob.capacity := by
          rw [sized]
          exact fits frame List.mem_cons_self
        have given := Blob.unread_load fitsFrame
        rw [Tidy] at tidy
        rcases found : Inbox.next ⟨alone.party.handler.inbox.bytes ++ frame⟩ with
          fault | _ | ⟨message, rest⟩
        · have broken : (alone.party.handler.receiving frame).nextMessage = .error fault := by
            simp only [nextMessage, receiving, quiet, found]
          rw [consume_broken engaged given broken]
          exact .ended rfl
        · have nothing : (alone.party.handler.receiving frame).nextMessage = .ok none := by
            simp only [nextMessage, receiving, quiet, found]
          rw [found] at tidy
          rw [consume_part engaged given nothing]
          refine .part ?_ found tidy
          simp [followed, Party.after, Party.react]
        · have complete : (alone.party.handler.receiving frame).nextMessage =
              .ok (some (message, { alone.party.handler with inbox := rest })) := by
            simp only [nextMessage, receiving, quiet, found]
          rw [found] at tidy
          exact .read engaged given complete tidy.1 tidy.2

theorem Neat.not_stalled {last : Alone κ SharedKey} (neat : Neat alone)
    (sound : Sound capacity alone) (rests : Rests call alone last) : ¬ last.Stalled := by
  induction rests with
  | rest _ =>
      rintro ⟨outcome, something⟩
      cases neat with
      | ended stopped => cases outcome.symm.trans stopped
      | empty inbox _ => exact something (by rw [inbox]; rfl)
      | part _ nothing _ => exact something nothing
  | step called _ ih => exact ih (neat.called sound called) (sound.called called).1

/--
Frames that are cut in another way. If a handler comes to rest on one cut of a byte string, it does
so on every other one, and then it has sent the same, it has answered the same last and it shows the
same, unless one of the two was left waiting for a frame while something was in its inbox. That
does not happen if no frame brings anything behind the end of a message.
-/
theorem rests_recut {variant : Variant} {handler : SharedKey} {early began : Supplies κ}
    (initialised : Initialises (fresh variant) early handler began) {first second : List Bytes}
    (same : first.flatten = second.flatten) (fitsFirst : ∀ frame ∈ first, frame.length ≤ capacity)
    (fitsSecond : ∀ frame ∈ second, frame.length ≤ capacity) {last : Alone κ SharedKey}
    (rests : Rests call (starting capacity handler began first) last) :
    (Tidy {} first → ¬ last.Stalled) ∧
      (last.Stalled ∨ ∃ other, Rests call (starting capacity handler began second) other ∧
        (other.Stalled ∨ other.sent = last.sent ∧ other.answer = last.answer ∧
          other.party.outcome = last.party.outcome ∧
          face other.party.handler = face last.party.handler)) := by
  obtain ⟨unstarted, quiet, unheard⟩ := unheard_initialises initialised
  have sound : Sound capacity (starting capacity handler began first) :=
    sound_starting unstarted quiet fitsFirst
  have soundOther : Sound capacity (starting capacity handler began second) :=
    sound_starting unstarted quiet fitsSecond
  have fedSame : (starting capacity handler began second).fed =
      (starting capacity handler began first).fed := by
    simp only [fed, starting, same]
  refine ⟨fun tidy => (Neat.empty unheard tidy).not_stalled sound rests, ?_⟩
  rcases sound.rests rests with stalled | reads
  · exact Or.inl stalled
  · obtain ⟨other, restsOther⟩ := soundOther.rests_of_fed reads fedSame
    refine Or.inr ⟨other, restsOther, ?_⟩
    rcases soundOther.rests restsOther with stalled | readsOther
    · exact Or.inl stalled
    · rw [fedSame] at readsOther
      have agrees := readsOther.unique reads
      refine Or.inr ⟨congrArg Reader.sent agrees, congrArg Reader.answer agrees,
        congrArg Reader.outcome agrees, ?_⟩
      exact congrArg (fun reader => face reader.handler) agrees

/-! ## A cut that stalls -/

def restWithin {σ : Type} (step : σ → Option σ) : Nat → σ → Option σ
  | 0, _ => none
  | bound + 1, state =>
    match step state with
    | none => some state
    | some next => restWithin step bound next

theorem rests_of_restWithin {σ : Type} {step : σ → Option σ} {bound : Nat} {state last : σ}
    (found : restWithin step bound state = some last) : Rests step state last := by
  induction bound generalizing state with
  | zero => cases found
  | succ bound ih =>
      rw [restWithin] at found
      rcases stepped : step state with _ | next
      · rw [stepped] at found
        cases found
        exact .rest stepped
      · rw [stepped] at found
        exact .step stepped (ih found)

def greeting : Bytes :=
  (Message.hello "p9sk2" "alice" (List.replicate 16 7)).encode.toOption.getD []

def goodbye : Bytes := (Message.verdict false "bye").encode.toOption.getD []

def aliceKeys : Supplies MemoryKeys :=
  ⟨.counting, { keys := Dictionary.empty.insert "alice" ⟨[1, 2, 3]⟩ }⟩

def answering : SharedKey := ((fresh .p9sk2).init none .server aliceKeys).handler

def verdictOn (frames : List Bytes) : Option (Option Mode × Option String) :=
  (restWithin call 9 (starting 256 answering aliceKeys frames)).map fun last =>
    (last.answer.bind Except.toOption, (face last.party.handler).info)

theorem rests_of_verdictOn {frames : List Bytes} {mode : Option Mode} {info : Option String}
    (found : verdictOn frames = some (mode, info)) :
    ∃ last, Rests call (starting 256 answering aliceKeys frames) last ∧
      last.answer.bind Except.toOption = mode ∧ (face last.party.handler).info = info := by
  obtain ⟨last, rests, same⟩ := Option.map_eq_some_iff.mp found
  cases same
  exact ⟨last, rests_of_restWithin rests, rfl, rfl⟩

theorem verdictOn_parts :
    verdictOn [greeting, goodbye] = some (some .failed, some "client aborted: bye") := by
  decide +kernel

theorem lengths : greeting.length = 95 ∧ goodbye.length = 52 := by
  decide +kernel

theorem encode_of_length {message : Message} {bytes : Bytes} {size : Nat}
    (written : message.encode.toOption.getD [] = bytes) (someBytes : bytes.length = size + 1) :
    message.encode = .ok bytes := by
  subst written
  cases encoded : message.encode with
  | error fault =>
      rw [encoded] at someBytes
      cases someBytes
  | ok bytes => rfl

theorem tidy_parts : Tidy {} [greeting, goodbye] := by
  have hello : (Message.hello "p9sk2" "alice" (List.replicate 16 7)).encode = .ok greeting :=
    encode_of_length (by rw [greeting]) lengths.1
  have verdict : (Message.verdict false "bye").encode = .ok goodbye :=
    encode_of_length (by rw [goodbye]) lengths.2
  have first := Inbox.next_encode hello []
  have second := Inbox.next_encode verdict []
  rw [List.append_nil] at first second
  simp only [Tidy, List.nil_append, first, second, and_self]

/-- A greeting in two frames and a goodbye, or one frame for each. -/
theorem rests_recut_goodbye :
    ∃ last other,
      Rests call (starting 256 answering aliceKeys [greeting, goodbye]) last ∧
      Rests call (starting 256 answering aliceKeys
        [greeting.take 40, greeting.drop 40, goodbye]) other ∧
      ¬ last.Stalled ∧ last.answer.bind Except.toOption = some .failed ∧
      (other.Stalled ∨ other.sent = last.sent ∧ other.answer = last.answer ∧
        other.party.outcome = last.party.outcome ∧
        face other.party.handler = face last.party.handler) := by
  obtain ⟨last, rests, failed, _⟩ := rests_of_verdictOn verdictOn_parts
  have same : [greeting, goodbye].flatten =
      [greeting.take 40, greeting.drop 40, goodbye].flatten := by
    simp [← List.append_assoc]
  obtain ⟨moving, agree⟩ := rests_recut (.live none .server) same (by simp [lengths.1, lengths.2])
    (by simp [lengths.1, lengths.2]) rests
  obtain ⟨other, restsOther, agrees⟩ := agree.resolve_left (moving tidy_parts)
  exact ⟨last, other, rests, restsOther, moving tidy_parts, failed, agrees⟩

/--
A greeting and a goodbye in one frame: the server greets back and waits for a frame while the
goodbye is in its inbox. In two frames they make it fail.
-/
theorem recut_stalls :
    ∃ stuck ended, Initialises (fresh .p9sk2) aliceKeys answering aliceKeys ∧
      [greeting ++ goodbye].flatten = [greeting, goodbye].flatten ∧
      (greeting ++ goodbye).length ≤ 256 ∧
      Rests call (starting 256 answering aliceKeys [greeting ++ goodbye]) stuck ∧
      Rests call (starting 256 answering aliceKeys [greeting, goodbye]) ended ∧
      stuck.answer.bind Except.toOption = some .needData ∧
      (face stuck.party.handler).info = none ∧
      ended.answer.bind Except.toOption = some .failed ∧
      (face ended.party.handler).info = some "client aborted: bye" := by
  have whole : verdictOn [greeting ++ goodbye] = some (some .needData, none) := by decide +kernel
  obtain ⟨stuck, restsStuck, needs, silent⟩ := rests_of_verdictOn whole
  obtain ⟨ended, restsEnded, failed, told⟩ := rests_of_verdictOn verdictOn_parts
  exact ⟨stuck, ended, .live none .server, by simp, by simp [lengths.1, lengths.2], restsStuck,
    restsEnded, needs, silent, failed, told⟩

end Alone

end Parley
