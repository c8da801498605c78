import Parley.Proofs.SharedKey.Contract

/-!
When a shared-key handler asks for a key. Only a server does, to answer an acceptable hello; all
else that handlers do comes to the same whatever keys there are. While the key is locked the hello
is put off, and nothing else is lost or gained.
-/

namespace Parley

variable {κ : Type}

def Supplies.stock (supplies : Supplies κ) (keys : κ) : Supplies κ := { supplies with keys }

def Turn.stock {σ : Type} (turn : Turn (Supplies κ) σ) (keys : κ) : Turn (Supplies κ) σ :=
  { turn with surroundings := turn.surroundings.stock keys }

def Stretch.stock {σ : Type} (stretch : Stretch (Supplies κ) σ) (keys : κ) :
    Stretch (Supplies κ) σ :=
  { stretch with surroundings := stretch.surroundings.stock keys }

def Initialised.stock {σ : Type} (initialised : Initialised (Supplies κ) σ) (keys : κ) :
    Initialised (Supplies κ) σ :=
  { initialised with surroundings := initialised.surroundings.stock keys }

theorem Supplies.drawNonce_stock (supplies : Supplies κ) (keys : κ) :
    (supplies.stock keys).drawNonce = (supplies.drawNonce.1, supplies.drawNonce.2.stock keys) := rfl

namespace SharedKey

variable (handler : SharedKey) (blob : Blob) (supplies : Supplies κ) (keys : κ)

def restock (result : SharedKey × Supplies κ × Answer) : SharedKey × Supplies κ × Answer :=
  (result.1, result.2.1.stock keys, result.2.2)

/-! ## Work that asks for no key -/

theorem sayHello_stock (user : String) :
    handler.sayHello user (supplies.stock keys) = restock keys (handler.sayHello user supplies) := by
  simp only [sayHello, Supplies.drawNonce_stock]
  rcases supplies.drawNonce with ⟨_ | own, later⟩
  · rfl
  · dsimp only
    generalize reply _ _ _ = result
    rfl

theorem prepare_stock :
    handler.prepare (supplies.stock keys) = restock keys (handler.prepare supplies) := by
  rw [prepare, prepare]
  split
  · rfl
  · split
    · rfl
    · split
      · rfl
      · exact sayHello_stock handler supplies keys _
    · rfl
    · rfl

theorem write_stock :
    handler.write blob (supplies.stock keys) = (handler.write blob supplies).stock keys := by
  rw [write, write, prepare_stock]
  rcases handler.prepare supplies with ⟨next, later, answer⟩
  dsimp only [restock]
  rcases answer with fault | mode
  · rfl
  · cases mode <;> rfl

theorem answer_write_ne_wait (seconds : Nat) :
    (handler.write blob supplies).answer ≠ .ok (.wait seconds) := by
  intro answered
  have writing := writing_write handler blob supplies
  rw [answered] at writing
  generalize (handler.write blob supplies).handler = last at writing
  generalize (handler.write blob supplies).surroundings = later at writing
  cases writing with
  | unready prepared _ =>
      cases prepared with
      | idle reason _ => rcases reason with other | other <;> cases other
  | @flushed next _ _ _ _ flushed =>
      generalize waited : Mode.wait seconds = mode at flushed
      cases flushed with
      | partly _ => cases waited
      | wholly =>
          rcases planned : next.afterSend.getD .await with _ | _ | _ | _ <;>
            simp [Lifecycle.apply, planned] at waited

/-- The user whose key a handler asks for when it is given a message. -/
def wanted? : Message → Option String
  | .hello protocol user nonce =>
    if handler.lifecycle.role = some .server ∧ handler.step = .awaitHello ∧
        handler.ownKey = none ∧ nonce.length = nonceLength ∧ protocol = handler.protocol ∧
        user.isEmpty = false then
      some user
    else none
  | _ => none

theorem challenge_stock (user : String) (nonce : Bytes) (key : SecretKey) :
    handler.challenge user nonce key (supplies.stock keys) =
      restock keys (handler.challenge user nonce key supplies) := by
  rcases drawn : supplies.drawNonce with ⟨_ | own, later⟩
  · rw [challenge, challenge, Supplies.drawNonce_stock, drawn]
    rfl
  · have again : (supplies.stock keys).drawNonce = (some own, later.stock keys) := by
      rw [Supplies.drawNonce_stock, drawn]
    rw [challenge_of_drawn handler drawn, challenge_of_drawn handler again]
    generalize reply _ _ _ = result
    rfl

variable [KeyStore κ]

def onLookup (user : String) (nonce : Bytes) :
    KeyLookup × Supplies κ → SharedKey × Supplies κ × Answer
  | (.found key, supplies) => handler.challenge user nonce key supplies
  | (.missing, supplies) =>
    ((handler.reject (.noKey user)).1, supplies, (handler.reject (.noKey user)).2)
  | (.locked seconds, supplies) =>
    ({ handler with deferred := some (.hello handler.protocol user nonce) }, supplies,
      .ok (.wait seconds))

theorem onMessage_wanted {message : Message} {user : String}
    (wanted : handler.wanted? message = some user) :
    ∃ nonce, message = .hello handler.protocol user nonce ∧ ∀ supplies : Supplies κ,
      handler.onMessage message supplies =
        handler.onLookup user nonce (supplies.lookup user) := by
  cases message with
  | hello protocol other nonce =>
      simp only [wanted?] at wanted
      split at wanted
      · rename_i acceptable
        cases wanted
        obtain ⟨role, step, unowned, sized, rfl, named⟩ := acceptable
        refine ⟨nonce, rfl, fun supplies => ?_⟩
        have looked : handler.lookup user supplies = supplies.lookup user := by
          rw [lookup, unowned]
        rw [onMessage, role]
        simp only [onServerMessage]
        rw [if_pos step]
        simp only [onHello, sized, ne_eq, not_true_eq_false, if_false, named, Bool.false_eq_true,
          looked]
        rcases supplies.lookup user with ⟨_ | _ | _, later⟩ <;> rfl
      · cases wanted
  | _ => cases wanted

theorem onHello_stock {protocol user : String} {nonce : Bytes}
    (role : handler.lifecycle.role = some .server) (step : handler.step = .awaitHello)
    (unwanted : handler.wanted? (.hello protocol user nonce) = none) :
    handler.onHello protocol user nonce (supplies.stock keys) =
      restock keys (handler.onHello protocol user nonce supplies) := by
  have without (result : SharedKey × Answer) :
      (result.1, supplies.stock keys, result.2) =
        restock keys (result.1, supplies, result.2) := rfl
  simp only [onHello]
  split
  · exact without _
  · rename_i sized
    split
    · exact without _
    · rename_i spoken
      split
      · exact without _
      · rename_i named
        rcases own : handler.ownKey with _ | key
        · have wanted : handler.wanted? (.hello protocol user nonce) = some user :=
            if_pos ⟨role, step, own, by simpa using sized, by simpa using spoken,
              by simpa using named⟩
          cases unwanted.symm.trans wanted
        · have looked (supplies : Supplies κ) :
              handler.lookup user supplies = (.found key, supplies) := by
            rw [lookup, own]
          rw [looked, looked]
          exact challenge_stock handler supplies keys user nonce key

/-- What is no acceptable hello comes to the same whatever keys there are. -/
theorem onMessage_stock {message : Message} (unwanted : handler.wanted? message = none) :
    handler.onMessage message (supplies.stock keys) =
      restock keys (handler.onMessage message supplies) := by
  have without (result : SharedKey × Answer) :
      (result.1, supplies.stock keys, result.2) =
        restock keys (result.1, supplies, result.2) := rfl
  simp only [onMessage]
  split
  · exact without _
  · rename_i role
    simp only [onServerMessage]
    split
    · split
      · rename_i step
        exact onHello_stock handler supplies keys role step unwanted
      · exact without _
    · split <;> exact without _
    · split <;> exact without _
    · exact without _
  · rfl

omit [KeyStore κ] in
theorem answer_reply_ne_wait (message : Message) (settlement : Settlement) (seconds : Nat) :
    (handler.reply message settlement).2 ≠ .ok (.wait seconds) := by
  rcases reply_cases handler message settlement with ⟨fault, replied⟩ | ⟨bytes, _, replied⟩ <;>
    simp [replied]

omit [KeyStore κ] in
theorem answer_reject_ne_wait (refusal : Refusal) (seconds : Nat) :
    (handler.reject refusal).2 ≠ .ok (.wait seconds) :=
  answer_reply_ne_wait { handler with step := .done } _ _ seconds

omit [KeyStore κ] in
theorem answer_challenge_ne_wait (user : String) (nonce : Bytes) (key : SecretKey)
    (seconds : Nat) : (handler.challenge user nonce key supplies).2.2 ≠ .ok (.wait seconds) := by
  rcases drawn : supplies.drawNonce with ⟨_ | own, later⟩
  · rw [challenge, drawn]
    simp
  · rw [challenge_of_drawn handler drawn]
    dsimp only [Prod.map]
    exact answer_reply_ne_wait _ _ _ seconds

theorem answer_onMessage_ne_wait {message : Message} (unwanted : handler.wanted? message = none)
    (seconds : Nat) : (handler.onMessage message supplies).2.2 ≠ .ok (.wait seconds) := by
  obtain ⟨said, response⟩ := response_onMessage handler supplies message
  intro answered
  rw [answered] at response
  generalize (handler.onMessage message supplies).1 = next at response
  generalize (handler.onMessage message supplies).2.1 = later at response
  cases response with
  | @delayed user nonce _ _ role step _ =>
      rw [onMessage, role] at answered
      simp only [onServerMessage] at answered
      rw [if_pos step] at answered
      simp only [onHello] at answered
      split at answered
      · cases answered
      · rename_i sized
        split at answered
        · rename_i other
          exact absurd rfl other
        · split at answered
          · dsimp only at answered
            exact answer_reject_ne_wait handler _ seconds answered
          · rename_i named
            rcases own : handler.ownKey with _ | key
            · have wanted : handler.wanted? (.hello handler.protocol user nonce) = some user :=
                if_pos ⟨role, step, own, by simpa using sized, rfl, by simpa using named⟩
              cases unwanted.symm.trans wanted
            · rw [lookup, own] at answered
              exact answer_challenge_ne_wait handler supplies user nonce key seconds answered

/-! ## Reads -/

def upcoming? (bytes : Bytes) : Option (Message × Inbox) :=
  match handler.deferred with
  | some message => some (message, ⟨handler.inbox.bytes ++ bytes⟩)
  | none =>
    match Inbox.next ⟨handler.inbox.bytes ++ bytes⟩ with
    | .ok (some found) => some found
    | _ => none

def seeks? : Option String :=
  (handler.upcoming? (pending blob)).bind fun (message, _) => handler.wanted? message

omit [KeyStore κ] in
theorem nextMessage_of_upcoming {bytes : Bytes} {message : Message} {inbox : Inbox}
    (coming : handler.upcoming? bytes = some (message, inbox)) :
    (handler.receiving bytes).nextMessage =
      .ok (some (message, { handler with inbox, deferred := none })) := by
  rcases deferred : handler.deferred with _ | held
  · simp only [upcoming?, deferred] at coming
    simp only [nextMessage, receiving, deferred]
    split at coming
    · rename_i found
      cases coming
      rw [found]
    · cases coming
  · simp only [upcoming?, deferred] at coming
    cases coming
    simp only [nextMessage, receiving, deferred]

omit [KeyStore κ] in
theorem upcoming_of_nextMessage {bytes : Bytes} {message : Message} {next : SharedKey}
    (found : (handler.receiving bytes).nextMessage = .ok (some (message, next))) :
    ∃ inbox, handler.upcoming? bytes = some (message, inbox) ∧
      next = { handler with inbox, deferred := none } := by
  rcases deferred : handler.deferred with _ | held
  · simp only [nextMessage, receiving, deferred] at found
    simp only [upcoming?, deferred]
    split at found
    · cases found
    · cases found
    · rename_i complete
      cases found
      rw [complete]
      exact ⟨_, rfl, rfl⟩
  · simp only [nextMessage, receiving, deferred] at found
    simp only [upcoming?, deferred]
    cases found
    exact ⟨_, rfl, rfl⟩

theorem read_of_next {message : Message} {next : SharedKey}
    (found : (handler.receiving (pending blob)).nextMessage = .ok (some (message, next))) :
    handler.read blob supplies =
      let (last, later, answer) := next.onMessage message supplies
      ⟨match answer with
        | .ok .needData => if last.inbox.isEmpty then .ok .needData else .ok .continue
        | answer => answer, last, blob.taken, later⟩ := by
  have received : { handler with inbox := (handler.inbox.absorb blob).1 } =
      handler.receiving (pending blob) := rfl
  simp only [read]
  rw [received, found]
  rfl

theorem read_stock (unsought : handler.seeks? blob = none) :
    handler.read blob (supplies.stock keys) = (handler.read blob supplies).stock keys := by
  have received : { handler with inbox := (handler.inbox.absorb blob).1 } =
      handler.receiving (pending blob) := rfl
  rcases found : (handler.receiving (pending blob)).nextMessage with fault | _ | ⟨message, next⟩
  · simp only [read]
    rw [received, found]
    rfl
  · simp only [read]
    rw [received, found]
    rfl
  · obtain ⟨inbox, coming, rfl⟩ := upcoming_of_nextMessage handler found
    have unwanted : handler.wanted? message = none := by rwa [seeks?, coming] at unsought
    rw [read_of_next handler blob supplies found, read_of_next handler blob _ found,
      onMessage_stock { handler with inbox, deferred := none } supplies keys unwanted]
    rfl

theorem answer_read_ne_wait (unsought : handler.seeks? blob = none) (seconds : Nat) :
    (handler.read blob supplies).answer ≠ .ok (.wait seconds) := by
  have reading := reading_read handler blob supplies
  intro answered
  rw [answered] at reading
  generalize (handler.read blob supplies).handler = last at reading
  generalize (handler.read blob supplies).surroundings = later at reading
  cases reading with
  | @handled message next _ _ given _ found handled same =>
      obtain ⟨inbox, coming, rfl⟩ := upcoming_of_nextMessage handler found
      have unwanted : handler.wanted? message = none := by
        rwa [seeks?, pending, coming] at unsought
      have stays := answer_onMessage_ne_wait { handler with inbox, deferred := none } supplies unwanted
        seconds
      rw [handled] at stays
      rcases same with same | ⟨_, other⟩
      · exact stays same.symm
      · cases other

/-! ## Calls that ask for no key -/

omit [KeyStore κ] in
theorem call_stock (work : SharedKey → Blob → Supplies κ → Turn (Supplies κ) SharedKey)
    (stocked : ∀ lifecycle, handler.lifecycle.enter .blob = (lifecycle, none) →
      work { handler with lifecycle } blob (supplies.stock keys) =
        (work { handler with lifecycle } blob supplies).stock keys) :
    handler.call work blob (supplies.stock keys) = (handler.call work blob supplies).stock keys := by
  rw [call, call]
  rcases entered : handler.lifecycle.enter .blob with ⟨lifecycle, _ | answer⟩
  · dsimp only
    rw [stocked lifecycle entered]
    rfl
  · rfl

theorem round_stock (unsought : handler.consuming = true → handler.seeks? handler.desk = none) :
    handler.round (supplies.stock keys) = (handler.round supplies).stock keys := by
  rw [round, round]
  split
  · rename_i consuming
    exact read_stock handler handler.desk supplies keys (unsought consuming)
  · exact write_stock handler handler.desk.clear supplies keys

theorem carryOn_stock (unsought : handler.consuming = true → handler.seeks? handler.desk = none) :
    handler.carryOn (supplies.stock keys) = (handler.carryOn supplies).stock keys := by
  rw [carryOn_eq, carryOn_eq, round_stock handler supplies keys unsought]
  rfl

omit [KeyStore κ] in
theorem takeOver_stock :
    handler.takeOver (supplies.stock keys) = (handler.takeOver supplies).stock keys := by
  rw [takeOver, takeOver]
  rcases handler.lifecycle.enter .takeover with ⟨lifecycle, _ | answer⟩ <;> rfl

theorem init_stock (identity : Option Identity) :
    handler.init identity .server (supplies.stock keys) =
      (handler.init identity .server supplies).stock keys := by
  simp only [init]
  split <;> rfl

omit [KeyStore κ] in
theorem role_of_configuration {attributes : Attributes} {identity : Identity} {role : Role}
    {key : Option SecretKey}
    (configured : handler.configuration attributes = .ok (identity, role, key)) :
    attributes.role = .ok role := by
  simp only [configuration] at configured
  split at configured
  · cases configured
  · split at configured
    · cases configured
    · split at configured
      · cases configured
      · rename_i given
        split at configured
        · cases configured
        · cases configured
          exact given

theorem initFrom_stock {attributes : Attributes}
    (serves : ∀ role, attributes.role = .ok role → role = .server) :
    handler.initFrom attributes (supplies.stock keys) =
      (handler.initFrom attributes supplies).stock keys := by
  simp only [initFrom]
  split
  · rfl
  · rename_i identity role key configured
    obtain rfl := serves role (handler.role_of_configuration configured)
    exact init_stock _ supplies keys _

theorem role_init {identity : Option Identity}
    (accepted : (handler.init identity .server supplies).accepted = true) :
    (handler.init identity .server supplies).handler.lifecycle.role = some .server := by
  simp only [init] at accepted ⊢
  split at accepted
  · cases accepted
  · rfl

theorem role_initFrom {attributes : Attributes}
    (serves : ∀ role, attributes.role = .ok role → role = .server)
    (accepted : (handler.initFrom attributes supplies).accepted = true) :
    (handler.initFrom attributes supplies).handler.lifecycle.role = some .server := by
  simp only [initFrom] at accepted ⊢
  split at accepted
  · cases accepted
  · rename_i identity role key configured
    obtain rfl := serves role (handler.role_of_configuration configured)
    exact role_init _ supplies accepted

end SharedKey

end Parley
