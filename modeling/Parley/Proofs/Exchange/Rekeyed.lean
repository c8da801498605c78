import Parley.Proofs.Exchange.Agreement
import Parley.Proofs.Exchange.Twofold
import Parley.Proofs.SharedKey.Rekeyed

/-!
Handshakes that are run twice, by one key and by another. Leg by leg, both runs make the same calls,
and what they send differs only in proofs.
-/

namespace Parley

namespace Exchange

open SharedKey Party ExchangeEntry

variable {κ : Type} [KeyStore κ] {leg again : Leg κ} {terms : Terms} {key key' : SecretKey}
  {name reason : String}

namespace Leg

structure Hails (terms : Terms) (key : SecretKey) (leg : Leg κ) : Prop where
  message : leg.message = terms.hello
  settlement : leg.settlement = .await
  sender : AwaitsChallenge terms key (leg.sender.sent .await)
  receiver : AwaitsHello terms.variant leg.receiver

structure Challenges (terms : Terms) (key : SecretKey) (name : String) (leg : Leg κ) : Prop where
  message : leg.message = terms.challenge name key
  settlement : leg.settlement = .await
  sender : AwaitsProof terms key (leg.sender.sent .await)
  receiver : AwaitsChallenge terms key leg.receiver

structure Proves (terms : Terms) (key : SecretKey) (name : String) (leg : Leg κ) : Prop where
  message : leg.message = .proof (terms.clientProof key)
  settlement : leg.settlement = .await
  sender : AwaitsVerdict terms key name (leg.sender.sent .await)
  receiver : AwaitsProof terms key leg.receiver

structure Accepts (terms : Terms) (key : SecretKey) (name : String) (leg : Leg κ) : Prop where
  message : leg.message = .verdict true ""
  receiver : AwaitsVerdict terms key name leg.receiver

structure Refuses (terms : Terms) (key : SecretKey) (reason : String) (leg : Leg κ) : Prop where
  message : leg.message = .verdict false reason
  receiver : AwaitsChallenge terms key leg.receiver

variable {exchange : Exchange κ SharedKey} {called : NextCall} {role : Role} {handler last : SharedKey}
  {heard : Message} {waiting later : Supplies κ} {seconds : Nat} {answer : Answer}

theorem Heard.call_again (calm : Calm role handler)
    (waits : leg.Heard called { handler with deferred := some heard } waiting (.ok (.wait seconds))
      exchange) (listens : called ≠ .produce) (await : leg.settlement = .await)
    (handled : handler.onMessage heard waiting = (last, later, answer))
    (more : answer ≠ .ok .needData) :
    ∃ turn, (exchange.party leg.side.peer).call exchange.nonces (exchange.frames leg.side.peer) =
        some turn ∧
      turn.answer = answer ∧ turn.sent = none ∧
      leg.Heard .consume last later answer (exchange.place turn leg.side.peer) := by
  have goes : react called (.ok (.wait seconds)) = (.consume, none) := by
    cases called with
    | produce => exact absurd rfl listens
    | receive => rfl
    | consume => rfl
  have facing := waits.facing await goes
  have next := facing.party.next
  obtain ⟨turn, called, same⟩ : ∃ turn, (exchange.party leg.side.peer).call exchange.nonces
      (exchange.frames leg.side.peer) = some turn ∧ turn = (exchange.party leg.side.peer).after
        ⟨answer, last.settle answer, (exchange.party leg.side.peer).blob.taken, later⟩ [] none :=
    ⟨_, call_deferred calm facing waits.unread handled more, rfl⟩
  have silent : turn.sent = none := by rw [same]; rfl
  obtain ⟨sameParty, sameFrames⟩ := party_of_peer leg exchange silent
  refine ⟨turn, called, by rw [same]; rfl, silent, ?_, ?_, ?_, ?_, ?_, ?_⟩
  · rw [sameParty]
    exact waits.sender
  · rw [party_place, same]
    refine ⟨rfl, rfl, ?_, ?_, facing.party.capacity⟩
    · simp only [Party.after, next]
    · simp only [Party.after, next]
  · rw [party_place, same]
    exact Blob.unread_taken _
  · rw [nonces_place, same]
    rfl
  · rw [sameFrames, waits.back]
  · rw [frames_place, same]
    rfl

end Leg

namespace Twofold

variable {run : Twofold κ} {count : Nat} {called : NextCall} {late : Nat}
  {last last' answering answering' : SharedKey} {later later' : Supplies κ} {answer : Answer}
  {said said' : Message} {settlement settlement' : Settlement} {bytes bytes' left left' : Bytes}

/-! ## One leg after the other -/

structure Begins (leg again : Leg κ) (run : Twofold κ) : Prop where
  one : leg.Begins run.one
  other : again.Begins run.other
  even : run.Even

theorem Even.conveys (even : run.Even) (legs : Legs leg again)
    (one : leg.Conveys bytes [] bytes late run.one)
    (other : again.Conveys bytes' [] bytes' late run.other)
    (frames : run.one.frames leg.side.peer = [])
    (frames' : run.other.frames again.side.peer = []) :
    run.Conveys leg again bytes bytes' late := by
  have veiled : Veiled bytes bytes' := by
    have encoded := one.encoded
    have encoded' := other.encoded
    rcases Message.encode_veiled legs.named legs.body with
      ⟨fault, failed, _⟩ | ⟨first, second, written, written', veiled⟩
    · rw [failed] at encoded
      cases encoded
    · obtain rfl := Except.ok.inj (written.symm.trans encoded)
      obtain rfl := Except.ok.inj (written'.symm.trans encoded')
      exact veiled
  refine ⟨⟨bytes, [], one⟩, ⟨bytes', [], other⟩, ?_, even.calls, (even.streams _).length_eq,
    (even.streams _).append veiled, even.streams _, even.parties⟩
  rw [legs.side] at frames'
  rw [frames, frames']

theorem Begins.conveys (begins : run.Begins leg again) (legs : Legs leg again) :
    ∃ left left', run.Conveys leg again left left' 0 := by
  obtain ⟨bytes, _, one, frames⟩ := begins.one.conveys
  obtain ⟨bytes', _, other, frames'⟩ := begins.other.conveys
  exact ⟨bytes, bytes', begins.even.conveys legs one other frames frames'⟩

theorem Heard.keeps (heard : run.Heard leg again called last last' later later' answer)
    (legs : Legs leg again) (ends : (react called answer).2 = some answer) (count : Nat) :
    run.Keeps count := by
  have one := heard.one.receiver
  have other := heard.other.receiver
  rw [ends] at one other
  refine keeps_of_stuck heard.even.alike (fun side => ?_) (fun side => ?_) count
  · rcases side.eq_or_peer leg.side with rfl | rfl
    · rw [heard.one.back, heard.one.sender.call_of_sent]
    · exact one.call_ended _
  · rcases side.eq_or_peer leg.side with rfl | rfl
    · rw [← legs.side, heard.other.back, heard.other.sender.call_of_sent]
    · rw [← legs.side]
      exact other.call_ended _

omit [KeyStore κ] in
theorem Heard.begins
    (heard : run.Heard leg again called (answering.sending settlement bytes)
      (answering'.sending settlement' bytes') later later' (.ok .pendingData))
    (await : leg.settlement = .await) (await' : again.settlement = .await)
    (encoded : said.encode = .ok bytes) (encoded' : said'.encode = .ok bytes') :
    run.Begins (leg.answer later answering said settlement)
      (again.answer later' answering' said' settlement') :=
  ⟨⟨bytes, encoded, heard.one.facing await rfl⟩, ⟨bytes', encoded', heard.other.facing await' rfl⟩,
    heard.even⟩

omit [KeyStore κ] in
theorem Legs.next (legs : Legs leg again) (named : said.name = said'.name)
    (body : Veiled said.body said'.body)
    (steady : (leg.answer later answering said settlement).Steady)
    (steady' : (again.answer later' answering' said' settlement').Steady)
    (sender : answering'.lifecycle = answering.lifecycle)
    (same : settlement.SameButKey settlement') :
    Legs (leg.answer later answering said settlement)
      (again.answer later' answering' said' settlement') :=
  ⟨congrArg Role.peer legs.side, legs.capacity, named, body, steady, steady', sender, same,
    legs.sender⟩

theorem Conveys.answered (conveys : run.Conveys leg again left left' late) (legs : Legs leg again)
    (await : leg.settlement = .await) (await' : again.settlement = .await)
    (replies : Replies leg.receiver ⟨leg.nonces, leg.receiverKeys⟩ leg.message answering said
      settlement later)
    (replies' : Replies again.receiver ⟨again.nonces, again.receiverKeys⟩ again.message answering'
      said' settlement' later')
    (lifecycle : answering'.lifecycle = answering.lifecycle)
    (goesOn : ∀ (count : Nat) (run : Twofold κ),
      run.Begins (leg.answer later answering said settlement)
        (again.answer later' answering' said' settlement') → run.Keeps count) (count : Nat) :
    run.Keeps count := by
  obtain ⟨bytes, encoded, handled⟩ := replies
  obtain ⟨bytes', encoded', handled'⟩ := replies'
  refine conveys.keeps legs handled handled' (by simp)
    (.of_eq (congrArg Lifecycle.face lifecycle.symm)) (fun count run heard => ?_) count
  exact goesOn count run (heard.begins await await' encoded encoded')

/-! ## The legs of a handshake -/

theorem Begins.ended {mode : Mode} (begins : run.Begins leg again) (legs : Legs leg again)
    (handled : leg.receiver.onMessage leg.message ⟨leg.nonces, leg.receiverKeys⟩ =
      (last, later, .ok mode))
    (handled' : again.receiver.onMessage again.message ⟨again.nonces, again.receiverKeys⟩ =
      (last', later', .ok mode))
    (ends : mode = .success ∨ mode = .failed)
    (shown : last.lifecycle.face.SameButKey last'.lifecycle.face) (count : Nat) :
    run.Keeps count := by
  have more : Except.ok mode ≠ (.ok .needData : Answer) := by rcases ends with rfl | rfl <;> simp
  have stops : (react .receive (.ok mode)).2 = some (.ok mode) := by
    rcases ends with rfl | rfl <;> rfl
  obtain ⟨left, left', conveys⟩ := begins.conveys legs
  exact conveys.keeps legs handled handled' more shown
    (fun count _ heard => heard.keeps legs stops count) count

theorem Begins.accepted (begins : run.Begins leg again) (legs : Legs leg again)
    (accepts : leg.Accepts terms key name) (accepts' : again.Accepts terms key' name)
    (count : Nat) : run.Keeps count := by
  obtain ⟨last, accepted, ended⟩ :=
    accepts.receiver.accepted (⟨leg.nonces, leg.receiverKeys⟩ : Supplies κ)
  obtain ⟨last', accepted', ended'⟩ :=
    accepts'.receiver.accepted (⟨again.nonces, again.receiverKeys⟩ : Supplies κ)
  rw [← accepts.message] at accepted
  rw [← accepts'.message] at accepted'
  have same := Settlement.SameButKey.of_keys name terms.variant.protocol (terms.sessionKey key)
    (terms.sessionKey key')
  have shown : last.lifecycle.face.SameButKey last'.lifecycle.face := by
    rw [ended, ended', legs.receiver]
    exact (same.apply leg.receiver.lifecycle).2
  exact begins.ended legs accepted accepted' (Or.inl rfl) shown count

theorem Begins.refused (begins : run.Begins leg again) (legs : Legs leg again)
    (refuses : leg.Refuses terms key reason) (refuses' : again.Refuses terms key' reason)
    (count : Nat) : run.Keeps count := by
  obtain ⟨last, rejected, ended⟩ :=
    refuses.receiver.rejected reason (⟨leg.nonces, leg.receiverKeys⟩ : Supplies κ)
  obtain ⟨last', rejected', ended'⟩ :=
    refuses'.receiver.rejected reason (⟨again.nonces, again.receiverKeys⟩ : Supplies κ)
  rw [← refuses.message] at rejected
  rw [← refuses'.message] at rejected'
  have shown : last.lifecycle.face = last'.lifecycle.face := by
    rw [ended, ended', legs.receiver]
  exact begins.ended legs rejected rejected' (Or.inr rfl) (.of_eq shown) count

theorem Begins.proved (begins : run.Begins leg again) (legs : Legs leg again)
    (proves : leg.Proves terms key name) (proves' : again.Proves terms key' name) (count : Nat) :
    run.Keeps count := by
  obtain ⟨left, left', conveys⟩ := begins.conveys legs
  have replies : Replies leg.receiver ⟨leg.nonces, leg.receiverKeys⟩
      (.proof (terms.clientProof key)) _ _ _ _ := proves.receiver.right rfl
  have replies' : Replies again.receiver ⟨again.nonces, again.receiverKeys⟩
      (.proof (terms.clientProof key')) _ _ _ _ := proves'.receiver.right rfl
  rw [← proves.message] at replies
  rw [← proves'.message] at replies'
  have spoken : again.receiver.protocol = leg.receiver.protocol := by
    rw [protocol, protocol, proves.receiver.variant, proves'.receiver.variant]
  have welcomed : again.receiver.welcoming terms.user = leg.receiver.welcoming terms.user := by
    rw [welcoming, welcoming, legs.receiver, spoken]
  refine conveys.answered legs proves.settlement proves'.settlement replies replies' welcomed
    (fun count run begins => ?_) count
  have same := Settlement.SameButKey.of_keys terms.user terms.variant.protocol
    (terms.sessionKey key) (terms.sessionKey key')
  refine begins.accepted (legs.next rfl (.refl _) ?_ ?_ welcomed same) ⟨rfl, proves.sender⟩
    ⟨rfl, proves'.sender⟩ count
  · exact Leg.steady_of_calm _ (engaged_welcoming proves.receiver.engaged _ _) proves.sender.toCalm
  · exact Leg.steady_of_calm _ (engaged_welcoming proves'.receiver.engaged _ _)
      proves'.sender.toCalm

theorem Begins.challenged (begins : run.Begins leg again) (legs : Legs leg again)
    (challenges : leg.Challenges terms key name) (challenges' : again.Challenges terms key' name)
    (count : Nat) : run.Keeps count := by
  obtain ⟨left, left', conveys⟩ := begins.conveys legs
  have replies : Replies leg.receiver ⟨leg.nonces, leg.receiverKeys⟩ (terms.challenge name key)
      _ _ _ _ := challenges.receiver.content fun _ => rfl
  have replies' : Replies again.receiver ⟨again.nonces, again.receiverKeys⟩
      (terms.challenge name key') _ _ _ _ := challenges'.receiver.content fun _ => rfl
  rw [← challenges.message] at replies
  rw [← challenges'.message] at replies'
  have awaits := challenges.receiver.proving name
  have awaits' := challenges'.receiver.proving name
  refine conveys.answered legs challenges.settlement challenges'.settlement replies replies'
    legs.receiver (fun count run begins => ?_) count
  have named : (Message.proof (terms.clientProof key)).name =
      (Message.proof (terms.clientProof key')).name := by rw [Message.name, Message.name]
  refine begins.proved (legs.next named (terms.veiled_clientProof key key') ?_ ?_ legs.receiver
    (.same _)) ⟨rfl, rfl, awaits, challenges.sender⟩ ⟨rfl, rfl, awaits', challenges'.sender⟩ count
  · exact Leg.steady_of_calm _ ⟨awaits.engaged.stage, awaits.engaged.exchange⟩
      challenges.sender.toCalm
  · exact Leg.steady_of_calm _ ⟨awaits'.engaged.stage, awaits'.engaged.exchange⟩
      challenges'.sender.toCalm

theorem Heard.calls_again {role : Role} {message : Message} {waiting waiting' : Supplies κ}
    {seconds : Nat} (legs : Legs leg again) (calm : Calm role leg.receiver)
    (calm' : Calm role again.receiver)
    (waits : run.Heard leg again called { leg.receiver with deferred := some message }
      { again.receiver with deferred := some message } waiting waiting' (.ok (.wait seconds)))
    (listens : called ≠ .produce) (await : leg.settlement = .await)
    (await' : again.settlement = .await)
    (handled : leg.receiver.onMessage message waiting = (last, later, answer))
    (handled' : again.receiver.onMessage message waiting' = (last', later', answer))
    (more : answer ≠ .ok .needData) (lifecycle : last'.lifecycle = last.lifecycle) :
    Calls (fun next => next.Heard leg again .consume last last' later later' answer) run
      leg.side.peer := by
  obtain ⟨turn, called, answered, silent, one⟩ :=
    waits.one.call_again calm listens await handled more
  obtain ⟨turn', called', answered', silent', other⟩ :=
    waits.other.call_again calm' listens await' handled' more
  rw [legs.side] at called' other
  have shown : (last.settle answer).lifecycle.face = (last'.settle answer).lifecycle.face := by
    rw [settle, settle, lifecycle]
  have party : AlikeParties turn.party turn'.party := by
    have stands := one.receiver
    have stands' := other.receiver
    rw [party_place] at stands
    rw [legs.side, party_place] at stands'
    exact alike_of_stands stands stands' (.of_eq shown)
  exact .turn called called'
    ⟨one, other, waits.even.after (answered.trans answered'.symm) silent silent' party⟩

theorem Heard.greeted {keys keys' : κ} {nonces : NonceSupply} (legs : Legs leg again)
    (hails : leg.Hails terms key) (hails' : again.Hails terms key')
    (named : again.receiver.serverName = leg.receiver.serverName)
    (fits : terms.hello.body.length ≤ longestBody) (listens : called ≠ .produce)
    (alike : LooksUpAlike key key' terms.user leg.receiver again.receiver keys keys')
    (handled : leg.receiver.onMessage terms.hello ⟨nonces, keys⟩ = (last, later, answer))
    (handled' : again.receiver.onMessage terms.hello ⟨nonces, keys'⟩ = (last', later', answer))
    (heard : run.Heard leg again called last last' later later' answer) (count : Nat) :
    run.Keeps count := by
  -- Each call that finds the user locked uses up one of the calls that are left.
  induction count generalizing run called keys keys' nonces last last' later later' answer with
  | zero => exact heard.even.alike
  | succ count ih =>
      have engaged := hails.receiver.engaged
      have engaged' := hails'.receiver.engaged
      have greeted := handled ▸ handled' ▸
        SharedKey.greeted hails.receiver hails'.receiver named fits alike
      cases greeted with
      | broken fault _ _ => exact heard.keeps legs rfl _
      | refused encoded =>
          have begins := heard.begins hails.settlement hails'.settlement encoded encoded
          refine begins.refused (legs.next rfl (.refl _) ?_ ?_ legs.receiver (.same _))
            ⟨rfl, hails.sender⟩ ⟨rfl, hails'.sender⟩ _
          · exact Leg.steady_of_calm _ ⟨engaged.stage, engaged.exchange⟩ hails.sender.toCalm
          · exact Leg.steady_of_calm _ ⟨engaged'.stage, engaged'.exchange⟩ hails'.sender.toCalm
      | challenged own encoded encoded' =>
          rw [named] at encoded'
          have begins := heard.begins hails.settlement hails'.settlement encoded encoded'
          have same := Terms.name_challenge { terms with serverNonce := own }
            leg.receiver.serverName key key'
          have body := Terms.veiled_challenge { terms with serverNonce := own }
            leg.receiver.serverName key key'
          have receiver : AwaitsHello { terms with serverNonce := own }.variant leg.receiver :=
            hails.receiver
          have receiver' : AwaitsHello { terms with serverNonce := own }.variant again.receiver :=
            hails'.receiver
          refine begins.challenged (legs.next same body ?_ ?_ legs.receiver (.same _))
            ⟨rfl, rfl, receiver.challenging key, hails.sender.meets own⟩
            ⟨rfl, rfl, receiver'.challenging key', hails'.sender.meets own⟩ _
          · exact Leg.steady_of_calm _ ⟨engaged.stage, engaged.exchange⟩ hails.sender.toCalm
          · exact Leg.steady_of_calm _ ⟨engaged'.stage, engaged'.exchange⟩ hails'.sender.toCalm
      | waits seconds sameNonces alike =>
          refine ⟨heard.even.alike, fun side => ?_⟩
          rcases side.eq_or_peer leg.side with rfl | rfl
          · refine .stuck ?_ ?_
            · rw [heard.one.back, heard.one.sender.call_of_sent]
            · rw [← legs.side, heard.other.back, heard.other.sender.call_of_sent]
          · rcases later with ⟨nonces, keys⟩
            rcases later' with ⟨nonces', keys'⟩
            obtain rfl : nonces' = nonces := sameNonces
            obtain ⟨last, last', later, later', answer, handled, handled', more, lifecycle⟩ :=
              same_answers hails.receiver hails'.receiver named legs.receiver fits alike
            refine (heard.calls_again legs hails.receiver.toCalm hails'.receiver.toCalm listens
              hails.settlement hails'.settlement handled handled' more lifecycle).imp
              fun next heard => ?_
            exact ih (by simp) alike handled handled' heard

theorem Conveys.greeted (conveys : run.Conveys leg again left left' late) (legs : Legs leg again)
    (hails : leg.Hails terms key) (hails' : again.Hails terms key')
    (named : again.receiver.serverName = leg.receiver.serverName)
    (nonces : again.nonces = leg.nonces)
    (alike : LooksUpAlike key key' terms.user leg.receiver again.receiver leg.receiverKeys
      again.receiverKeys) (count : Nat) : run.Keeps count := by
  obtain ⟨bytes, _, one⟩ := conveys.one
  have fits : terms.hello.body.length ≤ longestBody :=
    (Message.encode_isOk_iff _).mp ⟨bytes, by rw [← hails.message, one.encoded]⟩
  obtain ⟨last, last', later, later', answer, handled, handled', more, lifecycle⟩ :=
    same_answers hails.receiver hails'.receiver named legs.receiver fits alike
  have shown : (last.settle answer).lifecycle.face = (last'.settle answer).lifecycle.face := by
    rw [settle, settle, lifecycle]
  refine conveys.keeps legs (by rw [hails.message, handled]) (by rw [hails'.message, nonces, handled'])
    more (.of_eq shown) (fun count run heard => ?_) count
  exact heard.greeted legs hails hails' named fits (by simp) alike handled handled' count

end Twofold

end Exchange

end Parley
