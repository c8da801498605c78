import Parley.Proofs.SharedKey.Answers
import Parley.Proofs.SharedKey.Response

/-!
What the deeds of a handler tell of it. While a handshake can still come to its end, the deeds are
exactly those of the handshake so far, and the handler remembers what they were about. Once it has
failed, whatever else is done shows no tag and accepts nobody.
-/

namespace Parley

/-- Nothing is said that shows a tag, challenges a client or accepts one. -/
def Deed.Idle : Deed → Prop
  | .said (.challenge ..) | .said (.proof _) | .said (.verdict true _) => False
  | _ => True

namespace Terms

def memory (terms : Terms) (key : SecretKey) : SharedKey.Memory :=
  ⟨terms.variant, some key, some terms.user, terms.clientNonce.bytes, terms.serverNonce.bytes⟩

def clientDeeds (terms : Terms) (key : SecretKey) (server : String) : List Deed :=
  [.drew terms.clientNonce, .said terms.hello, .heard (terms.challenge server key),
    .said (.proof (terms.clientProof key))]

def serverDeeds (terms : Terms) (key : SecretKey) (server : String) : List Deed :=
  [.heard terms.hello, .drew terms.serverNonce, .said (terms.challenge server key)]

def acceptance (terms : Terms) (key : SecretKey) : List Deed :=
  [.heard (.proof (terms.clientProof key)), .said (.verdict true "")]

end Terms

namespace SharedKey

open Lifecycle

variable {κ : Type}

structure Holds (start : SharedKey) (role : Role) (terms : Terms) (key : SecretKey)
    (memory : Memory) : Prop where
  began : start.lifecycle.role = some role
  variant : start.variant = terms.variant
  memory : memory = terms.memory key
  /-- A client had its user and key from the start. -/
  client : role = .client → start.user = some terms.user ∧ start.key = some key
  named : role = .server → terms.user ≠ ""

theorem Holds.key_eq {start handler : SharedKey} {role : Role} {terms : Terms} {key : SecretKey}
    (holds : Holds start role terms key handler.memory) : handler.key = some key :=
  congrArg Memory.key holds.memory

theorem Holds.user_eq {start handler : SharedKey} {role : Role} {terms : Terms} {key : SecretKey}
    (holds : Holds start role terms key handler.memory) : handler.user = some terms.user :=
  congrArg Memory.user holds.memory

/-- The deeds by which a handler has shown a tag or accepted its client. -/
inductive Story (start : SharedKey) (memory : Memory) : List Deed → Prop
  | silent : Story start memory []
  | proved {terms : Terms} {key : SecretKey} (holds : Holds start .client terms key memory)
      (server : String) : Story start memory (terms.clientDeeds key server)
  | challenged {terms : Terms} {key : SecretKey} (holds : Holds start .server terms key memory)
      (server : String) : Story start memory (terms.serverDeeds key server)
  | accepted {terms : Terms} {key : SecretKey} (holds : Holds start .server terms key memory)
      (server : String) :
      Story start memory (terms.serverDeeds key server ++ terms.acceptance key)

/-- The deeds that earn a handler its credential. -/
inductive Success (start : SharedKey) (memory : Memory) : List Deed → Credential → Prop
  | client {terms : Terms} {key : SecretKey} (holds : Holds start .client terms key memory)
      (server reason : String) :
      Success start memory (terms.clientDeeds key server ++ [.heard (.verdict true reason)])
        ⟨server, terms.variant.protocol, terms.sessionKey key⟩
  | server {terms : Terms} {key : SecretKey} (holds : Holds start .server terms key memory)
      (server : String) :
      Success start memory (terms.serverDeeds key server ++ terms.acceptance key)
        ⟨terms.user, terms.variant.protocol, terms.sessionKey key⟩

structure Unsettled (start : SharedKey) (role : Role) (handler : SharedKey) : Prop where
  began : start.lifecycle.role = some role
  role : handler.lifecycle.role = some role
  hidden : handler.lifecycle.face.credential = none
  variant : handler.variant = start.variant
  settlement : handler.afterSend = none ∨ handler.afterSend = some .await

/-- A handler that will never show a credential. -/
inductive Spent (handler : SharedKey) : Prop
  | unbound (stage : handler.lifecycle.stage = .unbound)
  | finished {mode : Mode} (stage : handler.lifecycle.stage = .finished mode)
  | rejecting (step : handler.step = .done)
      (settlement : ∀ credential, handler.afterSend ≠ some (.succeed credential))

/-- How far a handshake has come, by its role and step, and what was done on the way. -/
inductive Progress (start : SharedKey) (memory : Memory) (deferred : Option Message)
    (peerName : Option String) : Role → Step → List Deed → Prop
  | opening {user : String} {key : SecretKey} (noneDeferred : deferred = none)
      (userEq : memory.user = some user ∧ start.user = some user)
      (keyEq : memory.key = some key ∧ start.key = some key) :
      Progress start memory deferred peerName .client .start []
  | greeted {user : String} {key : SecretKey} {own : Nonce} (noneDeferred : deferred = none)
      (userEq : memory.user = some user ∧ start.user = some user)
      (keyEq : memory.key = some key ∧ start.key = some key)
      (nonceEq : memory.clientNonce = own.bytes) :
      Progress start memory deferred peerName .client .awaitChallenge
        [.drew own, .said (.hello start.variant.protocol user own.bytes)]
  | proved {terms : Terms} {key : SecretKey} {server : String} (noneDeferred : deferred = none)
      (holds : Holds start .client terms key memory) (peer : peerName = some server) :
      Progress start memory deferred peerName .client .awaitVerdict (terms.clientDeeds key server)
  | resting (noneDeferred : deferred = none) :
      Progress start memory deferred peerName .server .start []
  | waiting (noneDeferred : deferred = none) :
      Progress start memory deferred peerName .server .awaitHello []
  | delayed {user : String} {nonce : Bytes}
      (deferredEq : deferred = some (.hello start.variant.protocol user nonce)) :
      Progress start memory deferred peerName .server .awaitHello
        [.heard (.hello start.variant.protocol user nonce)]
  | challenged {terms : Terms} {key : SecretKey} (noneDeferred : deferred = none)
      (holds : Holds start .server terms key memory) (server : String) :
      Progress start memory deferred peerName .server .awaitProof (terms.serverDeeds key server)

inductive Standing (start handler : SharedKey) : List Deed → Prop
  | underway {role : Role} {log : List Deed} (unsettled : Unsettled start role handler)
      (progress : Progress start handler.memory handler.deferred handler.peerName role
        handler.step log) :
      Standing start handler log
  | accepted {terms : Terms} {key : SecretKey} (role : handler.lifecycle.role = some .server)
      (hidden : handler.lifecycle.face.credential = none) (step : handler.step = .done)
      (settlement : handler.afterSend =
        some (.succeed ⟨terms.user, terms.variant.protocol, terms.sessionKey key⟩))
      (holds : Holds start .server terms key handler.memory) (server : String) :
      Standing start handler (terms.serverDeeds key server ++ terms.acceptance key)
  | succeeded {log : List Deed} {credential : Credential}
      (stage : handler.lifecycle.stage = .finished .success)
      (shown : handler.lifecycle.face.credential = some credential ∨
        handler.lifecycle.face.credential = none)
      (success : Success start handler.memory log credential) : Standing start handler log
  | lost {story rest : List Deed} (hidden : handler.lifecycle.face.credential = none)
      (spent : Spent handler) (storyEq : Story start handler.memory story)
      (idle : ∀ deed ∈ rest, deed.Idle) : Standing start handler (story ++ rest)

variable {start handler next : SharedKey} {role : Role} {log more : List Deed} {answer : Answer}

theorem standing_of_idle (hidden : handler.lifecycle.face.credential = none) (spent : Spent handler)
    (idle : ∀ deed ∈ log, deed.Idle) : Standing start handler log :=
  @Standing.lost start handler [] log hidden spent .silent idle

theorem Progress.told {memory : Memory} {deferred : Option Message} {peerName : Option String}
    {step : Step} (progress : Progress start memory deferred peerName role step log) :
    ∃ story rest, log = story ++ rest ∧ Story start memory story ∧ ∀ deed ∈ rest, deed.Idle := by
  cases progress with
  | opening _ _ _ => exact ⟨[], [], rfl, .silent, by simp⟩
  | greeted _ _ _ _ => exact ⟨[], _, rfl, .silent, by simp [Deed.Idle]⟩
  | proved _ holds _ => exact ⟨_, [], (List.append_nil _).symm, .proved holds _, by simp⟩
  | resting _ => exact ⟨[], [], rfl, .silent, by simp⟩
  | waiting _ => exact ⟨[], [], rfl, .silent, by simp⟩
  | delayed _ => exact ⟨[], _, rfl, .silent, by simp [Deed.Idle]⟩
  | challenged _ holds server =>
      exact ⟨_, [], (List.append_nil _).symm, .challenged holds server, by simp⟩

/-- The deeds of a handler are a story and then nothing of weight. -/
theorem Standing.told (standing : Standing start handler log) :
    ∃ story rest, log = story ++ rest ∧ Story start handler.memory story ∧
      ∀ deed ∈ rest, deed.Idle := by
  cases standing with
  | underway _ progress => exact progress.told
  | accepted _ _ _ _ holds server =>
      exact ⟨_, [], (List.append_nil _).symm, .accepted holds server, by simp⟩
  | succeeded _ _ success =>
      cases success with
      | client holds server reason => exact ⟨_, _, rfl, .proved holds server, by simp [Deed.Idle]⟩
      | server holds server =>
          exact ⟨_, [], (List.append_nil _).symm, .accepted holds server, by simp⟩
  | lost _ _ storyEq idle => exact ⟨_, _, rfl, storyEq, idle⟩

theorem Spent.step_done (spent : Spent handler) (exchanging : handler.lifecycle.stage = .exchanging) :
    handler.step = .done ∧ ∀ credential, handler.afterSend ≠ some (.succeed credential) := by
  cases spent with
  | unbound stage => simp [exchanging] at stage
  | finished stage => simp [exchanging] at stage
  | rejecting step settlement => exact ⟨step, settlement⟩

theorem Standing.underway_of_step (standing : Standing start handler log) {step : Step}
    (exchanging : handler.lifecycle.stage = .exchanging) (atStep : handler.step = step)
    (notDone : step ≠ .done) :
    ∃ role, Unsettled start role handler ∧
      Progress start handler.memory handler.deferred handler.peerName role step log := by
  subst atStep
  cases standing with
  | underway unsettled progress => exact ⟨_, unsettled, progress⟩
  | accepted _ _ step _ _ _ => exact absurd step notDone
  | succeeded stage _ _ => simp [exchanging] at stage
  | lost _ spent _ _ => exact absurd (spent.step_done exchanging).1 notDone

theorem Standing.idle_of_early (standing : Standing start handler log)
    (exchanging : handler.lifecycle.stage = .exchanging) (early : handler.Early) :
    ∀ deed ∈ log, deed.Idle := by
  rcases early with step | step | step <;>
    obtain ⟨role, _, progress⟩ := standing.underway_of_step exchanging step (by simp) <;>
    cases progress <;> simp [Deed.Idle]

theorem Standing.lose (standing : Standing start handler log)
    (hidden : next.lifecycle.face.credential = none) (spent : Spent next)
    (kept : next.memory = handler.memory ∨ ∀ deed ∈ log, deed.Idle)
    (idle : ∀ deed ∈ more, deed.Idle) : Standing start next (log ++ more) := by
  rcases kept with kept | silent
  · obtain ⟨story, rest, rfl, storyEq, idleRest⟩ := standing.told
    rw [List.append_assoc]
    rw [← kept] at storyEq
    refine .lost hidden spent storyEq fun deed member => ?_
    rcases List.mem_append.mp member with early | late
    · exact idleRest deed early
    · exact idle deed late
  · refine standing_of_idle hidden spent fun deed member => ?_
    rcases List.mem_append.mp member with early | late
    · exact silent deed early
    · exact idle deed late

theorem Standing.fault (standing : Standing start handler log) (fault : Fault) :
    Standing start (handler.settle (.error fault)) log := by
  rw [← List.append_nil log]
  exact standing.lose rfl (.finished rfl) (Or.inl rfl) (by simp)

theorem Standing.hidden_of_exchanging (standing : Standing start handler log)
    (exchanging : handler.lifecycle.stage = .exchanging) :
    handler.lifecycle.face.credential = none := by
  cases standing with
  | underway unsettled _ => exact unsettled.hidden
  | accepted _ hidden _ _ _ _ => exact hidden
  | succeeded stage _ _ => simp [exchanging] at stage
  | lost hidden _ _ _ => exact hidden

theorem Standing.success (standing : Standing start handler log) {credential : Credential}
    (shown : (face handler).credential = some credential) :
    Success start handler.memory log credential := by
  have visible : handler.lifecycle.face.credential = some credential := shown
  have unshown (hidden : handler.lifecycle.face.credential = none) : False := by
    rw [hidden] at visible
    cases visible
  cases standing with
  | underway unsettled _ => exact (unshown unsettled.hidden).elim
  | accepted _ hidden _ _ _ _ => exact (unshown hidden).elim
  | succeeded _ either success =>
      obtain rfl := Option.some.inj (visible.symm.trans (either.resolve_right unshown))
      exact success
  | lost hidden _ _ _ => exact (unshown hidden).elim

theorem Standing.dress (standing : Standing start handler log) (lifecycle : Lifecycle)
    (inbox : Inbox) (outbox : Outbox) (desk : Blob) (consuming : Bool)
    (role : lifecycle.role = handler.lifecycle.role)
    (hidden : lifecycle.face.credential = handler.lifecycle.face.credential ∨
      lifecycle.face.credential = none)
    (stage : lifecycle.stage = handler.lifecycle.stage ∨
      handler.lifecycle.stage = .bound ∨ handler.lifecycle.stage = .exchanging) :
    Standing start { handler with lifecycle, inbox, outbox, desk, consuming } log := by
  have without (noneShown : handler.lifecycle.face.credential = none) :
      lifecycle.face.credential = none := by
    rcases hidden with same | hidden
    · exact same.trans noneShown
    · exact hidden
  have still {ended : Stage} (atEnd : handler.lifecycle.stage = ended) (notBound : ended ≠ .bound)
      (notExchanging : ended ≠ .exchanging) : lifecycle.stage = ended := by
    rcases stage with same | bound | exchanging
    · exact same.trans atEnd
    · exact absurd (atEnd.symm.trans bound) notBound
    · exact absurd (atEnd.symm.trans exchanging) notExchanging
  cases standing with
  | underway unsettled progress =>
      exact .underway ⟨unsettled.began, role.trans unsettled.role, without unsettled.hidden,
        unsettled.variant, unsettled.settlement⟩ progress
  | accepted side hiddenBefore step settlement holds server =>
      exact @Standing.accepted start { handler with lifecycle, inbox, outbox, desk, consuming } _ _
        (role.trans side) (without hiddenBefore) step settlement holds server
  | succeeded atEnd shown success =>
      refine .succeeded (still atEnd (by simp) (by simp)) ?_ success
      rcases hidden with same | hidden
      · exact shown.imp same.trans same.trans
      · exact Or.inr hidden
  | lost hiddenBefore spent storyEq idle =>
      refine .lost (without hiddenBefore) ?_ storyEq idle
      cases spent with
      | unbound atEnd => exact .unbound (still atEnd (by simp) (by simp))
      | finished atEnd => exact .finished (still atEnd (by simp) (by simp))
      | rejecting step settlement => exact .rejecting step settlement

theorem Standing.sent (standing : Standing start handler log)
    (exchanging : handler.lifecycle.stage = .exchanging) :
    Standing start
      { handler with
        outbox := ⟨[]⟩
        afterSend := none
        lifecycle := (handler.lifecycle.apply (handler.afterSend.getD .await)).1 }
      log := by
  cases standing with
  | underway unsettled progress =>
      have goesOn : handler.lifecycle.apply (handler.afterSend.getD .await) =
          (handler.lifecycle, .needData) := by
        rcases unsettled.settlement with settlement | settlement <;> rw [settlement] <;> rfl
      rw [goesOn]
      exact .underway ⟨unsettled.began, unsettled.role, unsettled.hidden, unsettled.variant,
        Or.inl rfl⟩ progress
  | accepted _ _ _ settlement holds server =>
      simp only [settlement, Option.getD_some, Lifecycle.apply]
      exact .succeeded rfl (Or.inl rfl) (.server holds server)
  | succeeded stage _ _ => simp [exchanging] at stage
  | lost hidden spent storyEq idle =>
      obtain ⟨step, settlement⟩ := spent.step_done exchanging
      rcases kind : handler.afterSend.getD .await with _ | shown | reason | successor
      · exact .lost hidden (.rejecting step (by simp)) storyEq idle
      · have queued : handler.afterSend = some (.succeed shown) := by
          rcases afterSend : handler.afterSend with _ | settlement
          · simp [afterSend] at kind
          · simpa [afterSend] using kind
        exact absurd queued (settlement shown)
      · exact .lost rfl (.finished rfl) storyEq idle
      · exact .lost rfl (.finished rfl) storyEq idle

theorem Standing.written (standing : Standing start handler log)
    (exchanging : handler.lifecycle.stage = .exchanging) (written : Written handler more next answer) :
    Standing start (next.settle answer) (log ++ more) := by
  cases written with
  | kept outbox mode =>
      rw [List.append_nil]
      exact standing.dress handler.lifecycle handler.inbox outbox handler.desk handler.consuming rfl
        (Or.inl rfl) (Or.inl rfl)
  | opened server step =>
      rw [List.append_nil]
      obtain ⟨role, unsettled, progress⟩ := standing.underway_of_step exchanging step (by simp)
      cases progress with
      | opening _ _ _ => simp [unsettled.role] at server
      | resting noneDeferred =>
          exact .underway ⟨unsettled.began, unsettled.role, unsettled.hidden, unsettled.variant,
            unsettled.settlement⟩ (.waiting noneDeferred)
  | greeted client step user_eq settlement =>
      obtain ⟨role, unsettled, progress⟩ := standing.underway_of_step exchanging step (by simp)
      cases progress with
      | opening noneDeferred sameUser key_eq =>
          obtain rfl := Option.some.inj (user_eq.symm.trans sameUser.1)
          have spoken : handler.protocol = start.variant.protocol :=
            congrArg Variant.protocol unsettled.variant
          rw [spoken]
          exact .underway ⟨unsettled.began, unsettled.role, unsettled.hidden, unsettled.variant,
            settlement⟩ (.greeted noneDeferred sameUser key_eq rfl)
      | resting _ => simp [unsettled.role] at client
  | sent =>
      rw [List.append_nil]
      exact standing.sent exchanging
  | @broken own _ _ step =>
      refine standing.lose rfl (.finished rfl)
        (Or.inr (standing.idle_of_early exchanging (Or.inl step))) ?_
      cases own <;> simp [Deed.Idle]

theorem idle_of_came {message : Message} {first : List Deed} (own : Option Nonce)
    (came : handler.deferred = none ∧ first = [.heard message] ∨
      handler.deferred = some message ∧ first = []) :
    ∀ deed ∈ first ++ own.toList.map .drew, deed.Idle := by
  rcases came with ⟨_, rfl⟩ | ⟨_, rfl⟩ <;> cases own <;> simp [Deed.Idle]

theorem Standing.responded {message : Message} {reply : Option Message}
    {first : List Deed} {inbox : Inbox} {supplies later : Supplies κ}
    (standing : Standing start handler log) (exchanging : handler.lifecycle.stage = .exchanging)
    (came : handler.deferred = none ∧ first = [.heard message] ∨
      handler.deferred = some message ∧ first = [])
    (response : Response { handler with inbox, deferred := none } supplies message reply next later
      answer) :
    Standing start (next.settle answer)
      (log ++ (first ++ (supplies.nonces.given later.nonces).toList.map .drew ++
        reply.toList.map .said)) := by
  have idle := idle_of_came (supplies.nonces.given later.nonces) came
  cases response with
  | broken _ _ kept =>
      rw [Option.toList_none, List.map_nil, List.append_nil]
      refine standing.lose rfl (.finished rfl) ?_ idle
      rcases kept with kept | early
      · exact Or.inl kept
      · exact Or.inr (standing.idle_of_early exchanging early)
  | @rejected _ refusal _ _ _ _ _ =>
      refine standing.lose (standing.hidden_of_exchanging exchanging)
        (.rejecting rfl (by simp [queueing, settle, Lifecycle.settle])) (Or.inl rfl) ?_
      intro deed member
      rcases List.mem_append.mp member with early | late
      · exact idle deed early
      · obtain rfl : deed = .said (.verdict false refusal.text) := by simpa using late
        trivial
  | failed =>
      rw [Option.toList_none, List.map_nil, List.append_nil]
      exact standing.lose rfl (.finished rfl) (Or.inl rfl) idle
  | unbound noneRole =>
      rw [Option.toList_none, List.map_nil, List.append_nil]
      cases standing with
      | underway unsettled _ => simp [unsettled.role] at noneRole
      | accepted role _ _ _ _ _ => simp [role] at noneRole
      | succeeded stage _ _ => simp [exchanging] at stage
      | lost hidden spent storyEq idleBefore =>
          obtain ⟨step, settlement⟩ := spent.step_done exchanging
          exact (Standing.lost hidden spent storyEq idleBefore).lose hidden
            (.rejecting step settlement) (Or.inl rfl) idle
  | keyless step missing =>
      rcases step with step | step | step <;>
        obtain ⟨role, _, progress⟩ := standing.underway_of_step exchanging step (by simp)
      · cases progress with
        | greeted _ user_eq key_eq _ =>
            rcases missing with noKey | noUser
            · exact absurd (key_eq.1.symm.trans noKey) (by simp)
            · exact absurd (user_eq.1.symm.trans noUser) (by simp)
      · cases progress with
        | proved _ holds _ => simp [holds.key_eq, holds.user_eq] at missing
      · cases progress with
        | challenged _ holds _ => simp [holds.key_eq, holds.user_eq] at missing
  | @proved server nonce _ key user _ step key_eq user_eq sized _ =>
      obtain ⟨role, unsettled, progress⟩ := standing.underway_of_step exchanging step (by simp)
      cases progress with
      | @greeted _ _ own deferred sameUser sameKey nonceEq =>
          obtain ⟨_, rfl⟩ := came.resolve_right (by simp [deferred])
          obtain rfl := Option.some.inj (user_eq.symm.trans sameUser.1)
          obtain rfl := Option.some.inj (key_eq.symm.trans sameKey.1)
          obtain ⟨began, role, hidden, variant, _⟩ := unsettled
          rcases handler
          dsimp only [memory] at *
          subst variant nonceEq key_eq user_eq
          rw [given_self]
          have holds : Holds start .client ⟨start.variant, user, own, ⟨nonce, sized⟩⟩ key
              ⟨start.variant, some key, some user, own.bytes, nonce⟩ :=
            ⟨began, rfl, rfl, fun _ => ⟨sameUser.2, sameKey.2⟩, by simp⟩
          exact .underway ⟨began, role, hidden, rfl, Or.inr rfl⟩ (.proved rfl holds rfl)
  | @admitted reason key user _ step key_eq user_eq =>
      obtain ⟨role, unsettled, progress⟩ := standing.underway_of_step exchanging step (by simp)
      cases progress with
      | @proved terms _ server deferred holds peer =>
          obtain ⟨_, rfl⟩ := came.resolve_right (by simp [deferred])
          obtain rfl := Option.some.inj (user_eq.symm.trans holds.user_eq)
          obtain rfl := Option.some.inj (key_eq.symm.trans holds.key_eq)
          rw [given_self]
          have same := holds.memory
          rcases handler
          dsimp only [memory, Terms.memory] at *
          cases same
          cases peer
          exact .succeeded rfl (Or.inl rfl) (.client holds server reason)
  | @delayed user nonce _ _ _ step nonces =>
      obtain ⟨role, unsettled, progress⟩ := standing.underway_of_step exchanging step (by simp)
      have spoken : handler.protocol = start.variant.protocol :=
        congrArg Variant.protocol unsettled.variant
      have going : Unsettled start role { handler with
          inbox, deferred := some (.hello start.variant.protocol user nonce) } :=
        ⟨unsettled.began, unsettled.role, unsettled.hidden, unsettled.variant,
          unsettled.settlement⟩
      rw [nonces, given_self]
      change Standing start { handler with
        inbox, deferred := some (.hello handler.protocol user nonce) } _
      change handler.deferred = none ∧ first = [.heard (.hello handler.protocol user nonce)] ∨
        handler.deferred = some (.hello handler.protocol user nonce) ∧ first = [] at came
      rw [spoken] at came ⊢
      cases progress with
      | waiting deferred =>
          obtain ⟨_, rfl⟩ := came.resolve_right (by simp [deferred])
          refine .underway going ?_
          dsimp only
          rw [step]
          exact .delayed rfl
      | @delayed firstUser firstNonce deferred =>
          obtain ⟨same, rfl⟩ := came.resolve_left (by simp [deferred])
          cases deferred.symm.trans same
          refine .underway going ?_
          dsimp only
          rw [step]
          exact .delayed rfl
  | @challenged user nonce _ key own _ _ step sized named drawn _ =>
      obtain ⟨role, unsettled, progress⟩ := standing.underway_of_step exchanging step (by simp)
      have spoken : handler.protocol = start.variant.protocol :=
        congrArg Variant.protocol unsettled.variant
      obtain ⟨began, side, hidden, variant, _⟩ := unsettled
      rw [drawn]
      rcases handler
      dsimp only [memory, protocol] at *
      subst variant
      have holds (role : start.lifecycle.role = some .server) :
          Holds start .server ⟨start.variant, user, ⟨nonce, sized⟩, own⟩ key
            ⟨start.variant, some key, some user, nonce, own.bytes⟩ :=
        ⟨role, rfl, rfl, by simp, fun _ => named⟩
      cases progress with
      | waiting deferred =>
          obtain ⟨_, rfl⟩ := came.resolve_right (by simp [deferred])
          exact .underway ⟨began, side, hidden, rfl, Or.inr rfl⟩ (.challenged rfl (holds began) _)
      | @delayed firstUser firstNonce deferred =>
          obtain ⟨same, rfl⟩ := came.resolve_left (by simp [deferred])
          cases deferred.symm.trans same
          exact .underway ⟨began, side, hidden, rfl, Or.inr rfl⟩ (.challenged rfl (holds began) _)
  | @accepted key user _ _ step key_eq user_eq _ =>
      obtain ⟨role, unsettled, progress⟩ := standing.underway_of_step exchanging step (by simp)
      cases progress with
      | @challenged terms _ deferred holds server =>
          obtain ⟨_, rfl⟩ := came.resolve_right (by simp [deferred])
          obtain rfl := Option.some.inj (user_eq.symm.trans holds.user_eq)
          obtain rfl := Option.some.inj (key_eq.symm.trans holds.key_eq)
          rw [given_self]
          have same := holds.memory
          rcases handler
          dsimp only [memory, Terms.memory] at *
          cases same
          refine .accepted ?_ ?_ rfl rfl holds server
          · simp only [welcoming, queueing, settle]
            split <;> exact unsettled.role
          · simp only [welcoming, queueing, settle]
            split <;> exact unsettled.hidden

theorem Standing.listened (standing : Standing start handler log)
    (exchanging : handler.lifecycle.stage = .exchanging)
    (listening : Listening (κ := κ) handler more next answer) :
    Standing start (next.settle answer) (log ++ more) := by
  cases listening with
  | nothing inbox =>
      have dressed := standing.dress handler.lifecycle inbox handler.outbox handler.desk
        handler.consuming rfl (Or.inl rfl) (Or.inl rfl)
      rw [List.append_nil]
      rcases answer with fault | mode
      · exact dressed.fault fault
      · exact dressed
  | handled came response => exact standing.responded exchanging came response

end SharedKey

end Parley
