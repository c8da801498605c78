import Parley.Proofs.SharedKey.Server

/-!
Authentication of clients. Whatever bytes a server takes, however they are cut, and whatever calls
are made in between, it shows a credential only for a user whose client has sent the proof that
goes with the server's own nonce and the user's key.
-/

namespace Parley.SharedKey

open Lifecycle

variable {κ : Type} [KeyStore κ] {variant : Variant} {ownKey : Option SecretKey} {grant : Grant}
  {calm : Prop} {taken : Bytes} {handler next : SharedKey} {supplies later : Supplies κ}

/-! ## Work within a call -/

omit [KeyStore κ] in
theorem Over.rejecting_of_exchanging (closed : Over handler)
    (exchanging : handler.lifecycle.stage = .exchanging) :
    handler.lifecycle.role = some .server ∧ handler.step = .done ∧ handler.deferred = none ∧
      ∀ credential, handler.afterSend ≠ some (.succeed credential) := by
  cases closed with
  | unbound stage => simp [exchanging] at stage
  | finished stage => simp [exchanging] at stage
  | rejecting role step deferred settlement => exact ⟨role, step, deferred, settlement⟩

omit [KeyStore κ] in
theorem Phase.role (phase : Phase variant ownKey grant calm taken handler)
    (exchanging : handler.lifecycle.stage = .exchanging) :
    handler.lifecycle.role = some .server := by
  cases phase with
  | waiting serving _ _ _ _ => exact serving.role
  | challenged serving _ _ _ _ _ _ _ _ _ _ => exact serving.role
  | accepted serving _ _ _ _ => exact serving.role
  | succeeded stage _ _ => simp [exchanging] at stage
  | lost _ closed => exact (closed.rejecting_of_exchanging exchanging).1

omit [KeyStore κ] in
theorem Phase.writing (phase : Phase variant ownKey grant calm taken handler)
    (exchanging : handler.lifecycle.stage = .exchanging) (writing : ServerWriting handler next) :
    Phase variant ownKey grant calm taken next := by
  cases phase with
  | waiting serving calmNow step settlement pending =>
      obtain ⟨role, credential, variantEq, keyKept⟩ := serving
      cases writing with
      | kept outbox =>
          exact .waiting ⟨role, credential, variantEq, keyKept⟩ calmNow step settlement pending
      | opened start =>
          refine .waiting ⟨role, credential, variantEq, keyKept⟩ calmNow (Or.inr rfl) settlement
            (Or.inl ?_)
          rcases pending with unread | ⟨await, _⟩
          · exact unread
          · simp [start] at await
      | sent =>
          simp only [settlement, Option.getD_none, Lifecycle.apply]
          exact .waiting ⟨role, credential, variantEq, keyKept⟩ calmNow step rfl pending
  | challenged serving step deferred settlement key_eq user_eq ownEq named sized hello granted =>
      obtain ⟨role, credential, variantEq, keyKept⟩ := serving
      cases writing with
      | kept outbox =>
          exact .challenged ⟨role, credential, variantEq, keyKept⟩ step deferred settlement key_eq
            user_eq ownEq named sized hello granted
      | opened start => simp [start] at step
      | sent =>
          have awaiting : handler.afterSend.getD .await = .await := by
            rcases settlement with none | await
            · rw [none, Option.getD_none]
            · rw [await, Option.getD_some]
          simp only [awaiting, Lifecycle.apply]
          exact .challenged ⟨role, credential, variantEq, keyKept⟩ step deferred (Or.inl rfl)
            key_eq user_eq ownEq named sized hello granted
  | accepted serving step deferred settlement proved =>
      obtain ⟨role, credential, variantEq, keyKept⟩ := serving
      cases writing with
      | kept outbox =>
          exact .accepted ⟨role, credential, variantEq, keyKept⟩ step deferred settlement proved
      | opened start => simp [start] at step
      | sent =>
          simp only [settlement, Option.getD_some, Lifecycle.apply]
          exact .succeeded rfl (Or.inl rfl) proved
  | succeeded stage _ _ => simp [exchanging] at stage
  | lost credential closed =>
      obtain ⟨role, step, deferred, settlement⟩ := closed.rejecting_of_exchanging exchanging
      cases writing with
      | kept outbox => exact .lost credential (.rejecting role step deferred settlement)
      | opened start => simp [start] at step
      | sent =>
          rcases kind : handler.afterSend.getD .await with _ | shown | reason | successor
          · exact .lost credential (.rejecting role step deferred (by simp))
          · have queued : handler.afterSend = some (.succeed shown) := by
              rcases afterSend : handler.afterSend with _ | settlement
              · simp [afterSend] at kind
              · simpa [afterSend] using kind
            exact absurd queued (settlement shown)
          · exact .lost rfl (.finished rfl)
          · exact .lost rfl (.finished rfl)

omit [KeyStore κ] in
theorem phase_fault (handler : SharedKey) (fault : Fault) :
    Phase variant ownKey grant calm taken (handler.settle (.error fault)) :=
  .lost rfl (.finished rfl)

omit [KeyStore κ] in
theorem next_of_pending {bytes : Bytes} {message : Message}
    (pending : handler.deferred = none ∧ handler.inbox.bytes = taken ∨
      handler.step = .awaitHello ∧ ∃ user nonce,
        handler.deferred = some (.hello variant.protocol user nonce) ∧
        Inbox.next ⟨taken⟩ = .ok (some (.hello variant.protocol user nonce, handler.inbox)))
    (found : (handler.receiving bytes).nextMessage = .ok (some (message, next))) :
    ∃ inbox, next = { handler with inbox, deferred := none } ∧
      Inbox.next ⟨taken ++ bytes⟩ = .ok (some (message, inbox)) := by
  rcases pending with ⟨deferred, rfl⟩ | ⟨_, user, nonce, deferred, hello⟩
  · exact nextMessage_inbox found deferred
  · have longer := Inbox.next_append hello bytes
    simp only [nextMessage, receiving, deferred] at found
    cases found
    exact ⟨_, rfl, longer⟩

theorem lost_of_done {bytes : Bytes} {message : Message} {last : SharedKey} {mode : Mode}
    (reaction : Reaction next supplies message last later (.ok mode))
    (role : next.lifecycle.role = some .server) (step : next.step = .done)
    (credential : next.lifecycle.face.credential = none) (deferred : next.deferred = none) :
    Phase variant ownKey grant calm (taken ++ bytes) last := by
  cases reaction with
  | rejected => exact .lost credential (.rejecting role rfl deferred (by simp [queueing]))
  | waiting await _ => simp [step] at await
  | challenged await _ _ _ _ => simp [step] at await
  | accepted await _ _ _ => simp [step] at await
  | aborted => exact .lost rfl (.finished rfl)
  | unbound await _ => simp [step] at await

theorem Phase.reading {bytes : Bytes} {mode : Mode} {grant' : Grant} {calm' : Prop}
    (phase : Phase variant ownKey grant calm taken handler)
    (exchanging : handler.lifecycle.stage = .exchanging)
    (reading : ServerReading handler supplies bytes next later mode)
    (grants : later = supplies → ∀ user nonce key own,
      grant user nonce key own → grant' user nonce key own)
    (fresh : calm → handler.ownKey = ownKey → ∀ user nonce key own middle,
      handler.lookup user supplies = (.found key, middle) →
      middle.drawNonce = (some own, later) → grant' user nonce key own)
    (calms : later = supplies → calm → calm') (waits : ∀ seconds, mode = .wait seconds → calm') :
    Phase variant ownKey grant' calm' (taken ++ bytes) next := by
  cases phase with
  | waiting serving calmNow step settlement pending =>
      obtain ⟨role, credential, variantEq, keyKept⟩ := serving
      cases reading with
      | incomplete nothing =>
          rcases pending with ⟨deferred, rfl⟩ | ⟨_, user, nonce, deferred, _⟩
          · exact .waiting ⟨role, credential, variantEq, keyKept⟩ (calms rfl calmNow) step
              settlement (Or.inl ⟨deferred, rfl⟩)
          · simp [nextMessage, receiving, deferred] at nothing
      | handled found reaction =>
          obtain ⟨inbox, rfl, complete⟩ := next_of_pending pending found
          cases reaction with
          | rejected => exact .lost credential (.rejecting role rfl rfl (by simp [queueing]))
          | waiting await _ =>
              rw [protocol, variantEq] at complete
              refine .waiting ⟨role, credential, variantEq, keyKept⟩ (waits _ rfl)
                (Or.inr await) settlement (Or.inr ⟨await, _, _, ?_, complete⟩)
              rw [protocol, variantEq]
          | challenged await sized named looked drawn =>
              rw [protocol, variantEq] at complete
              exact .challenged ⟨role, credential, variantEq, keyKept⟩ rfl rfl (Or.inr rfl) rfl
                rfl rfl named sized complete (fresh calmNow keyKept _ _ _ _ _ looked drawn)
          | accepted await _ _ _ => rcases step with start | other <;> simp_all
          | aborted => exact .lost rfl (.finished rfl)
          | unbound await _ => rcases step with start | other <;> simp_all
  | @challenged key user own serving step deferred settlement key_eq user_eq ownEq named sized hello
      granted =>
      obtain ⟨role, credential, variantEq, keyKept⟩ := serving
      have longer := Inbox.next_append hello bytes
      cases reading with
      | incomplete nothing =>
          exact .challenged ⟨role, credential, variantEq, keyKept⟩ step deferred settlement key_eq
            user_eq ownEq named sized longer (grants rfl _ _ _ _ granted)
      | handled found reaction =>
          obtain ⟨inbox, rfl, complete⟩ :=
            nextMessage_inbox found deferred
          cases reaction with
          | rejected => exact .lost credential (.rejecting role rfl rfl (by simp [queueing]))
          | waiting await _ => simp [receiving, step] at await
          | challenged await _ _ _ _ => simp [receiving, step] at await
          | @accepted _ _ _ bytes' _ sameKey sameUser proved =>
              obtain rfl := Option.some.inj (key_eq.symm.trans sameKey)
              obtain rfl := Option.some.inj (user_eq.symm.trans sameUser)
              have shown : Proved variant grant' (taken ++ bytes)
                  ⟨user, handler.protocol, handler.sessionKey key user⟩ := by
                rw [protocol, sessionKey, transcript, variantEq, ownEq]
                refine .intro longer complete named sized (grants rfl _ _ _ _ granted) ?_
                rw [← variantEq, ← ownEq]
                exact proved
              refine .accepted ⟨?_, ?_, variantEq, keyKept⟩ rfl rfl ?_ shown
              · simp only [welcoming, queueing]
                split <;> exact role
              · simp only [welcoming, queueing]
                split <;> exact credential
              · rfl
          | aborted => exact .lost rfl (.finished rfl)
          | unbound _ missing => simp [receiving, key_eq, user_eq] at missing
  | accepted serving step deferred settlement proved =>
      obtain ⟨role, credential, variantEq, keyKept⟩ := serving
      cases reading with
      | incomplete nothing =>
          have longer : Phase variant ownKey grant calm (taken ++ bytes) (handler.receiving bytes) :=
            .accepted ⟨role, credential, variantEq, keyKept⟩ step deferred settlement
              (proved.append bytes)
          exact longer.imp (fun _ _ _ _ _ _ => grants rfl _ _ _ _) (fun _ => calms rfl)
      | handled found reaction =>
          obtain ⟨inbox, rfl, _⟩ :=
            nextMessage_inbox found deferred
          exact lost_of_done reaction role step credential rfl
  | succeeded stage _ _ => simp [exchanging] at stage
  | lost credential closed =>
      obtain ⟨role, step, deferred, settlement⟩ := closed.rejecting_of_exchanging exchanging
      cases reading with
      | incomplete nothing => exact .lost credential (.rejecting role step deferred settlement)
      | handled found reaction =>
          obtain ⟨inbox, rfl, _⟩ :=
            nextMessage_inbox found deferred
          exact lost_of_done reaction role step credential rfl

omit [KeyStore κ] in
theorem Phase.dress (phase : Phase variant ownKey grant calm taken handler)
    (lifecycle : Lifecycle) (desk : Blob) (consuming : Bool)
    (role : lifecycle.role = handler.lifecycle.role)
    (hidden : lifecycle.face.credential = handler.lifecycle.face.credential ∨
      lifecycle.face.credential = none)
    (stage : lifecycle.stage = handler.lifecycle.stage ∨
      handler.lifecycle.stage = .bound ∨ handler.lifecycle.stage = .exchanging) :
    Phase variant ownKey grant calm taken { handler with lifecycle, desk, consuming } := by
  have without (noneShown : handler.lifecycle.face.credential = none) :
      lifecycle.face.credential = none := by
    rcases hidden with same | hidden
    · exact same.trans noneShown
    · exact hidden
  have still {ended : Stage} (atEnd : handler.lifecycle.stage = ended) (notBound : ended ≠ .bound)
      (notExchanging : ended ≠ .exchanging) : lifecycle.stage = ended := by
    rcases stage with same | bound | exchanging
    · exact same.trans atEnd
    · exact absurd (atEnd.symm.trans bound) notBound
    · exact absurd (atEnd.symm.trans exchanging) notExchanging
  have serves (serving : Serving variant ownKey handler) :
      Serving variant ownKey { handler with lifecycle, desk, consuming } :=
    ⟨role.trans serving.role, without serving.credential, serving.variant, serving.keyKept⟩
  cases phase with
  | waiting serving calmNow step settlement pending =>
      exact .waiting (serves serving) calmNow step settlement pending
  | challenged serving step deferred settlement key_eq user_eq ownEq named sized hello granted =>
      exact .challenged (serves serving) step deferred settlement key_eq user_eq ownEq named sized
        hello granted
  | accepted serving step deferred settlement proved =>
      exact .accepted (serves serving) step deferred settlement proved
  | succeeded stage shown proved =>
      refine .succeeded (still stage (by simp) (by simp)) ?_ proved
      rcases hidden with same | hidden
      · exact shown.imp same.trans same.trans
      · exact Or.inr hidden
  | lost credential closed =>
      refine .lost (without credential) ?_
      cases closed with
      | unbound stage => exact .unbound (still stage (by simp) (by simp))
      | finished stage => exact .finished (still stage (by simp) (by simp))
      | rejecting serves step deferred settlement =>
          exact .rejecting (role.trans serves) step deferred settlement

omit [KeyStore κ] in
theorem Phase.entered {lifecycle : Lifecycle} {answer : Option Answer}
    (phase : Phase variant ownKey grant calm taken handler)
    (entry : Entry handler.lifecycle lifecycle answer) :
    Phase variant ownKey grant calm taken { handler with lifecycle } := by
  cases entry with
  | unbound _ => exact phase
  | mixed face hidden =>
      subst hidden
      exact phase.dress
        { handler.lifecycle with face := { handler.lifecycle.face with credential := none } }
        handler.desk handler.consuming rfl (Or.inr rfl) (Or.inl rfl)
  | repeated kind _ =>
      exact phase.dress { handler.lifecycle with exchange := some kind } handler.desk
        handler.consuming rfl (Or.inl rfl) (Or.inl rfl)
  | opened kind stage =>
      exact phase.dress { handler.lifecycle with exchange := some kind, stage := .exchanging }
        handler.desk handler.consuming rfl (Or.inl rfl) (Or.inr stage)

/-! ## Calls -/

/-- What is known of a hello within a call: as before the call, or it was answered in the call. -/
def within (old : Grant) (first : SharedKey) (began now : Supplies κ) : Grant :=
  fun user nonce key own =>
    old user nonce key own ∨ ∃ middle, first.lookup user began = (.found key, middle) ∧
      middle.drawNonce = (some own, now)

variable {old : Grant} {first : SharedKey} {began : Supplies κ} {more : Bytes} {mode : Mode}

theorem Effort.phase (effort : Effort handler supplies more (.ok mode) next later)
    (exchanging : handler.lifecycle.stage = .exchanging)
    (phase : Phase variant ownKey (within old first began supplies)
      (supplies = began ∧ first.ownKey = ownKey) taken handler) :
    Phase variant ownKey (within old first began later)
      (mode.goesOn = true → later = began ∧ first.ownKey = ownKey) (taken ++ more) next := by
  have role := phase.role exchanging
  generalize given : (.ok mode : Answer) = answer at effort
  cases effort with
  | write blob =>
      have writing := writing_write handler blob supplies
      rw [← given] at writing
      obtain ⟨same, written⟩ := writing.server role
      rw [same, List.append_nil]
      exact (phase.writing exchanging written).imp (fun _ _ _ _ _ _ => id) fun _ calm _ => calm
  | read blob =>
      have reading := reading_read handler blob supplies
      rw [← given] at reading
      refine phase.reading exchanging (reading.server role) ?_ ?_ ?_ ?_
      · intro same user nonce key own granted
        rw [same]
        exact granted
      · rintro ⟨rfl, own⟩ same user nonce key nonce' middle found drawn
        refine Or.inr ⟨middle, ?_, drawn⟩
        rw [← found, lookup, lookup, own, same]
      · rintro same ⟨rfl, own⟩ _
        exact ⟨same, own⟩
      · rintro seconds rfl goes
        cases goes

theorem Session.phase {opened : SharedKey} {now : Supplies κ}
    (session : Session opened began more handler now)
    (exchanging : opened.lifecycle.stage = .exchanging)
    (phase : Phase variant ownKey (within old first began began)
      (began = began ∧ first.ownKey = ownKey) taken opened) :
    Phase variant ownKey (within old first began now) (now = began ∧ first.ownKey = ownKey)
      (taken ++ more) handler := by
  induction session with
  | opened =>
      rw [List.append_nil]
      exact phase
  | effort session effort goes ih =>
      have worked := effort.phase (session.kept.2.1.trans exchanging) ih
      rw [← List.append_assoc]
      exact worked.imp (fun _ _ _ _ _ _ => id) fun _ calm => calm goes
  | desk desk consuming _ ih =>
      exact ih.dress _ desk consuming rfl (Or.inl rfl) (Or.inl rfl)

theorem Closing.phase {answer : Option Answer}
    (closing : Closing handler supplies more answer next later)
    (phase : Phase variant ownKey old True taken handler) :
    Phase variant ownKey (within old handler supplies later) True (taken ++ more) next := by
  have opening : Phase variant ownKey (within old handler supplies supplies)
      (supplies = supplies ∧ handler.ownKey = ownKey) taken handler :=
    phase.imp (fun _ _ _ _ _ _ => Or.inl) fun own _ => ⟨rfl, own⟩
  cases closing with
  | answered entered =>
      rw [List.append_nil]
      exact (opening.entered (entry_enter entered)).imp (fun _ _ _ _ _ _ => id)
        fun _ _ => trivial
  | hung entered session =>
      have entry := entry_enter entered
      exact (session.phase entry.exchanging.1 (opening.entered entry)).imp
        (fun _ _ _ _ _ _ => id) fun _ _ => trivial
  | @ended _ _ _ _ _ last _ _ work answer entered session effort same desk consuming =>
      have entry := entry_enter entered
      have exchanging := session.kept.2.1.trans entry.exchanging.1
      have stood := session.phase entry.exchanging.1 (opening.entered entry)
      rcases answer with fault | mode
      · exact phase_fault _ fault
      · rcases same with rfl | ⟨fault, other⟩
        · rw [← List.append_assoc]
          have worked := effort.phase exchanging stood
          exact (worked.imp (fun _ _ _ _ _ _ => id) fun _ _ => trivial).dress _ desk consuming rfl
            (Or.inl rfl) (Or.inl rfl)
        · cases other

/-! ## Histories -/

/--
A hello that the bytes start with was answered in one of the calls: the lookup of its user found the
key, and the server drew its nonce.
-/
inductive Answered (start : SharedKey) (began : Supplies κ) (protocol : String) (taken : Bytes)
    (last : SharedKey) (later : Supplies κ) : Grant
  | intro {early during late : Bytes} {earlyAnswers lateAnswers : List Answer}
      {answer : Option Answer} {handler next : SharedKey} {before middle after : Supplies κ}
      {rest : Inbox} {user : String} {nonce : Bytes} {key : SecretKey} {own : Nonce}
      (history : History start began early earlyAnswers handler before)
      (call : Contact handler before during answer next after)
      (since : History next after late lateAnswers last later)
      (whole : taken = early ++ during ++ late)
      (hello : Inbox.next ⟨early ++ during⟩ = .ok (some (.hello protocol user nonce, rest)))
      (found : handler.lookup user before = (.found key, middle))
      (drawn : middle.drawNonce = (some own, after)) :
      Answered start began protocol taken last later user nonce key own

variable {start last : SharedKey} {answers : List Answer} {protocol user : String} {nonce : Bytes}
  {key : SecretKey} {own : Nonce}

theorem Answered.contact {answer : Option Answer} {now : Supplies κ}
    (answered : Answered start began protocol taken handler now user nonce key own)
    (contact : Contact handler now more answer last later) :
    Answered start began protocol (taken ++ more) last later user nonce key own := by
  cases answered with
  | intro history call since whole hello found drawn =>
      refine .intro history call (since.contact contact) ?_ hello found drawn
      rw [whole, List.append_assoc]

theorem Answered.elsewhere {now : Supplies κ} (later : Supplies κ)
    (answered : Answered start began protocol taken handler now user nonce key own) :
    Answered start began protocol taken handler later user nonce key own := by
  cases answered with
  | intro history call since whole hello found drawn =>
      exact .intro history call (since.elsewhere later) whole hello found drawn

theorem phase_history
    (opening : Phase variant start.ownKey (Answered start began variant.protocol [] start began)
      True [] start)
    (history : History start began taken answers last later) :
    Phase variant start.ownKey (Answered start began variant.protocol taken last later) True taken
      last := by
  induction history with
  | begin => exact opening
  | elsewhere later history ih =>
      exact ih.imp (fun _ _ _ _ _ _ answered => answered.elsewhere later) fun _ => id
  | contact history contact ih =>
      refine ((closing_contact contact).phase ih).imp ?_ fun _ => id
      rintro user nonce key own rest hello (old | ⟨middle, found, drawn⟩)
      · exact old.contact contact
      · exact .intro history contact .begin (List.append_nil _).symm hello found drawn

/-! ## Initialisation -/

structure Unused (handler : SharedKey) : Prop where
  step : handler.step = .start
  settlement : handler.afterSend = none
  deferred : handler.deferred = none
  inbox : handler.inbox.bytes = []

theorem phase_init (unused : Unused handler) {identity : Option Identity} {role : Role}
    (server : (handler.init identity role supplies).handler.lifecycle.role ≠ some .client) :
    Phase handler.variant (handler.init identity role supplies).handler.ownKey grant True []
      (handler.init identity role supplies).handler := by
  have refused (reason : String) (supplies : Supplies κ) :
      Phase handler.variant (handler.refuse reason supplies).handler.ownKey grant True []
        (handler.refuse reason supplies).handler := .lost rfl (.unbound rfl)
  revert server
  simp only [init]
  split
  · exact fun _ => refused _ _
  · split
    · exact fun _ => refused _ _
    · rw [initClient]
      split
      · exact fun server => absurd rfl server
      · exact fun _ => refused _ _
      · exact fun _ => refused _ _
    · intro _
      exact .waiting ⟨rfl, rfl, rfl, rfl⟩ trivial (Or.inl unused.step) unused.settlement
        (Or.inl ⟨unused.deferred, unused.inbox⟩)

theorem phase_initialises (initialised : Initialises (fresh variant) supplies start began)
    (server : start.lifecycle.role ≠ some .client) :
    Phase variant start.ownKey grant True [] start := by
  cases initialised with
  | live identity role => exact phase_init ⟨rfl, rfl, rfl, rfl⟩ server
  | declared attributes =>
      have unfolded : Handler.initFrom (fresh variant) attributes supplies =
          (fresh variant).initFrom attributes supplies := rfl
      revert server
      rw [unfolded, initFrom]
      split
      · exact fun _ => .lost rfl (.unbound rfl)
      · rename_i identity role key _
        have unused : Unused { fresh variant with ownKey := key.or (fresh variant).ownKey } :=
          ⟨rfl, rfl, rfl, rfl⟩
        exact phase_init unused

/--
A server shows a credential only for a client that said hello under the server's protocol and then
sent the tag which the user's key makes of the server's own nonce and the client's. The credential
names that user and holds the session key of the two nonces.
-/
theorem credential_of_proof {credential : Credential}
    (initialised : Initialises (fresh variant) supplies start began)
    (server : start.lifecycle.role ≠ some .client)
    (history : History start began taken answers last later)
    (shown : (face last).credential = some credential) :
    ∃ user nonce key own tag afterHello afterProof,
      Inbox.next ⟨taken⟩ = .ok (some (.hello variant.protocol user nonce, afterHello)) ∧
      afterHello.next = .ok (some (.proof tag, afterProof)) ∧
      user ≠ "" ∧ nonce.length = nonceLength ∧
      Answered start began variant.protocol taken last later user nonce key own ∧
      tag = Transcript.tag ⟨variant, .client, own.bytes, nonce, user⟩ key ∧
      credential = ⟨user, variant.protocol,
        Transcript.tag ⟨variant, .session, nonce, own.bytes, user⟩ key⟩ := by
  have visible : last.lifecycle.face.credential = some credential := shown
  have unshown (hidden : last.lifecycle.face.credential = none) : False := by
    rw [hidden] at visible
    cases visible
  cases phase_history (phase_initialises initialised server) history with
  | waiting serving _ _ _ _ => exact (unshown serving.credential).elim
  | challenged serving _ _ _ _ _ _ _ _ _ _ => exact (unshown serving.credential).elim
  | accepted serving _ _ _ _ => exact (unshown serving.credential).elim
  | lost hidden _ => exact (unshown hidden).elim
  | succeeded _ either proved =>
      rcases either with same | hidden
      · obtain rfl := Option.some.inj (visible.symm.trans same)
        cases proved with
        | intro hello proof named sized granted matching =>
            exact ⟨_, _, _, _, _, _, _, hello, proof, named, sized, granted, matching.symm, rfl⟩
      · exact (unshown hidden).elim

def welcome : Initialised (Supplies MemoryKeys) SharedKey :=
  Handler.init (fresh .p9sk2) none .server
    ⟨.counting, MemoryKeys.insert {} "alice" ⟨[1, 2, 3]⟩⟩

def greeting : List (Option Message) :=
  [none, some (.hello "p9sk2" "alice" (Nonce.repeated 2).bytes), none, some (.proof
    [136, 26, 39, 176, 95, 6, 34, 78, 235, 121, 75, 180, 238, 151, 190, 191, 70, 67, 111,
    218, 112, 78, 93, 252, 59, 193, 35, 217, 142, 7, 54, 73]), none]

def welcomed : List Answer × SharedKey × Supplies MemoryKeys :=
  correspond takeoverCapacity welcome.handler welcome.surroundings greeting

set_option maxRecDepth 10000 in
theorem credential_welcomed : (face welcomed.2.1).credential.isSome = true := by decide +kernel

theorem history_welcomed :
    ∃ taken, History welcome.handler welcome.surroundings taken welcomed.1 welcomed.2.1
      welcomed.2.2 :=
  history_correspond .begin takeoverCapacity greeting

theorem credential_of_proof_alice :
    ∃ taken credential user nonce key own tag afterHello afterProof,
      History welcome.handler welcome.surroundings taken welcomed.1 welcomed.2.1 welcomed.2.2 ∧
      (face welcomed.2.1).credential = some credential ∧
      Inbox.next ⟨taken⟩ = .ok (some (.hello "p9sk2" user nonce, afterHello)) ∧
      afterHello.next = .ok (some (.proof tag, afterProof)) ∧
      user ≠ "" ∧ nonce.length = nonceLength ∧
      Answered welcome.handler welcome.surroundings "p9sk2" taken welcomed.2.1 welcomed.2.2 user
        nonce key own ∧
      tag = Transcript.tag ⟨.p9sk2, .client, own.bytes, nonce, user⟩ key ∧
      credential = ⟨user, "p9sk2",
        Transcript.tag ⟨.p9sk2, .session, nonce, own.bytes, user⟩ key⟩ := by
  obtain ⟨credential, shown⟩ := Option.isSome_iff_exists.mp credential_welcomed
  obtain ⟨taken, history⟩ := history_welcomed
  have initialised : Initialises (fresh .p9sk2) _ welcome.handler welcome.surroundings :=
    .live none .server
  have server : welcome.handler.lifecycle.role ≠ some .client := by decide
  obtain ⟨user, nonce, key, own, tag, afterHello, afterProof, conclusion⟩ :=
    credential_of_proof initialised server history shown
  exact ⟨taken, credential, user, nonce, key, own, tag, afterHello, afterProof, history, shown,
    conclusion⟩

end Parley.SharedKey
