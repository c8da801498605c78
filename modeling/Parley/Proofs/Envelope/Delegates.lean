import Mathlib.Data.List.DropRight
import Parley.Proofs.Envelope.Burden
import Parley.Proofs.Envelope.Contract
import Parley.Proofs.Envelope.Offers
import Parley.Proofs.Message.Chunks

/-!
Whom the envelope delegates to. It keeps a list of proper names, offers just this list, and
delegates only to what its peer chose from it, or to the first entry of it that its peer offered.
-/

namespace Parley

/-! ## Calls with what goes out -/

def Script.gained (before after : Script) : Bytes :=
  (after.written.drop before.written.length).flatten

theorem Script.given_self (script : Script) : script.given script = [] := by
  rw [Script.given, Nat.sub_self, List.take_zero]

theorem Script.gained_self (script : Script) : script.gained script = [] := by
  rw [Script.gained, List.drop_length, List.flatten_nil]

section

variable {ω σ : Type} [HasFace σ] [Handler ω σ]

/--
Any number of calls in any order, with the bytes that the handler takes from its peer, those that
it puts out, and its answers. Others may use and change the surroundings in between.
-/
inductive Traffic (start : σ) (early : ω) : Bytes → Bytes → List Answer → σ → ω → Prop
  | begin : Traffic start early [] [] [] start early
  | produce {taken given : Bytes} {answers : List Answer} {handler : σ} {now : ω} {blob : Blob}
      {turn : Turn ω σ} :
      Traffic start early taken given answers handler now →
      Handler.produce handler blob now = turn →
      Traffic start early taken (given ++ blob.gained turn.blob) (answers ++ [turn.answer])
        turn.handler turn.surroundings
  | consume {taken given : Bytes} {answers : List Answer} {handler : σ} {now : ω} {blob : Blob}
      {turn : Turn ω σ} :
      Traffic start early taken given answers handler now →
      Handler.consume handler blob now = turn →
      Traffic start early (taken ++ blob.given turn.blob) (given ++ blob.gained turn.blob)
        (answers ++ [turn.answer]) turn.handler turn.surroundings
  | process {taken given : Bytes} {answers : List Answer} {handler : σ} {now : ω}
      {script : Script} {bound : Nat} {takeover : Takeover ω σ} :
      Traffic start early taken given answers handler now →
      Takeover.run bound handler now script = some takeover →
      Traffic start early
        (taken ++ (Frame.payloads (script.given takeover.script)).flatten)
        (given ++ (Frame.payloads (script.gained takeover.script)).flatten)
        (answers ++ takeover.answer.toList) takeover.handler takeover.surroundings
  | elsewhere {taken given : Bytes} {answers : List Answer} {handler : σ} {now : ω} (later : ω) :
      Traffic start early taken given answers handler now →
      Traffic start early taken given answers handler later

end

namespace Envelope

variable {ω : Type} {handler start : Envelope} {blob : Blob} {now early : ω}
  {taken given : Bytes} {heard : List Message}

/-! ## Names -/

structure Proper (protocols : List String) : Prop where
  trimmed : ∀ name ∈ protocols, Text.trim name = name
  named : ∀ name ∈ protocols, name ≠ ""
  distinct : protocols.Nodup
  unlisted : protocol ∉ protocols

/-- A name stands in some protocols and is offered, and none that stands before it is offered. -/
def Preferred (protocols offered : List String) (name : String) : Prop :=
  ∃ earlier later, protocols = earlier ++ name :: later ∧ name ∈ offered ∧
    ∀ other ∈ earlier, other ∉ offered

/-- What an envelope must have heard in its role to delegate to a name. -/
inductive Warrants (protocols : List String) (heard : List Message) : Option Role → String → Prop
  | chosen {name : String} : name ∈ protocols → .choice name ∈ heard →
      Warrants protocols heard (some .server) name
  | offered {name : String} {names : List String} : .offer names ∈ heard →
      Preferred protocols names name → Warrants protocols heard (some .client) name

theorem trimChars_trimChars (chars : List Char) :
    Text.trimChars (Text.trimChars chars) = Text.trimChars chars := by
  have trimmed : Text.trimChars chars =
      (chars.dropWhile Text.isBlank).rdropWhile Text.isBlank := rfl
  have solid : (Text.trimChars chars).dropWhile Text.isBlank = Text.trimChars chars := by
    rcases found : Text.trimChars chars with - | ⟨first, rest⟩
    · rfl
    · obtain ⟨blanks, split⟩ : first :: rest <+: chars.dropWhile Text.isBlank := by
        rw [← found, trimmed]
        exact List.rdropWhile_prefix _ _
      have fails := List.head?_dropWhile_not Text.isBlank chars
      rw [← split, List.cons_append, List.head?_cons] at fails
      exact List.dropWhile_cons_of_neg (Bool.eq_false_iff.mp fails)
  have settled : (Text.trimChars chars).rdropWhile Text.isBlank = Text.trimChars chars := by
    rw [trimmed, List.rdropWhile_idempotent]
  calc Text.trimChars (Text.trimChars chars)
      = ((Text.trimChars chars).dropWhile Text.isBlank).rdropWhile Text.isBlank := rfl
    _ = Text.trimChars chars := by rw [solid, settled]

theorem trim_trim (name : String) : Text.trim (Text.trim name) = Text.trim name := by
  rw [Text.trim, Text.trim, String.toList_ofList, trimChars_trimChars]

theorem Proper.addProtocol {protocols : List String} (proper : Proper protocols) (name : String) :
    Proper (Envelope.addProtocol protocols name) := by
  obtain ⟨trimmed, named, distinct, unlisted⟩ := proper
  refine ⟨?_, named_addProtocol named name, ?_, not_mem_addProtocol unlisted name⟩
  · intro other member
    rw [Envelope.addProtocol] at member
    split at member
    · exact trimmed other member
    · rcases List.mem_append.mp member with old | new
      · exact trimmed other old
      · rw [List.mem_singleton.mp new, trim_trim]
  · rw [Envelope.addProtocol]
    split
    · exact distinct
    · rename_i admitted
      simp only [Bool.or_eq_true, not_or, List.contains_iff_mem] at admitted
      refine List.nodup_append.mpr ⟨distinct, List.pairwise_singleton _ _, ?_⟩
      intro old member other new same
      rw [same, List.mem_singleton.mp new] at member
      exact admitted.2 member

theorem proper_normalize (names : List String) : Proper (normalize names) := by
  have folded {protocols : List String} (proper : Proper protocols) :
      Proper (names.foldl Envelope.addProtocol protocols) := by
    induction names generalizing protocols with
    | nil => exact proper
    | cons first names ih => exact ih (proper.addProtocol first)
  exact folded ⟨nofun, nofun, List.nodup_nil, nofun⟩

theorem preferred_agreed {protocols offered : List String} {name : String}
    (found : agreed protocols offered = some name) : Preferred protocols offered name := by
  obtain ⟨listed, earlier, later, split, others⟩ := List.find?_eq_some_iff_append.mp found
  refine ⟨earlier, later, split, by simpa using listed, ?_⟩
  intro other member
  have unlisted := others other member
  simpa using unlisted

theorem Warrants.mem {protocols : List String} {role : Option Role} {name : String}
    (warrants : Warrants protocols heard role name) : name ∈ protocols := by
  cases warrants with
  | chosen listed _ => exact listed
  | offered _ preferred =>
      obtain ⟨earlier, later, rfl, -, -⟩ := preferred
      exact List.mem_append_right _ List.mem_cons_self

theorem Warrants.mono {protocols : List String} {role : Option Role} {name : String}
    {more : List Message} (warrants : Warrants protocols heard role name) (within : heard ⊆ more) :
    Warrants protocols more role name := by
  cases warrants with
  | chosen listed choice => exact .chosen listed (within choice)
  | offered offer preferred => exact .offered (within offer) preferred

/-! ## What an envelope has come to -/

/-- What was taken is what the inbox holds behind the messages that were heard. -/
def Hears (inbox : Inbox) (taken : Bytes) (heard : List Message) : Prop :=
  ∀ blobs, Inbox.Usage.Accounts taken { inbox, blobs, messages := heard }

/-- What was put out, and what is still to be, are messages that offer just some protocols. -/
def Speaks (protocols : List String) (outbox : Outbox) (given : Bytes) : Prop :=
  ∃ said, Encodes said (given ++ outbox.bytes) ∧ ∀ names, .offer names ∈ said → names = protocols

structure Stands (protocols : List String) (role : Option Role) (heard : List Message)
    (taken given : Bytes) (handler : Envelope) : Prop where
  protocols_eq : handler.protocols = protocols
  role_eq : handler.lifecycle.role = role
  hears : Hears handler.inbox taken heard
  speaks : Speaks protocols handler.outbox given
  planned {name : String} : handler.afterSend = some (.delegate name) →
    Warrants protocols heard role name
  ended : handler.lifecycle.stage = .finished .delegated →
    ∃ name, handler.lifecycle.face.info = some name ∧ Warrants protocols heard role name

theorem Hears.absorb {inbox : Inbox} (hears : Hears inbox taken heard) (blob : Blob) :
    Hears (inbox.absorb blob).1 (taken ++ blob.contents.drop blob.position) heard :=
  fun _ => (hears fun _ => blob).absorb 0

theorem Hears.next {inbox rest : Inbox} {message : Message} (hears : Hears inbox taken heard)
    (found : inbox.next = .ok (some (message, rest))) : Hears rest taken (heard ++ [message]) := by
  intro blobs
  have accounts := (hears blobs).next
  rw [Inbox.Usage.step] at accounts
  simp only [found] at accounts
  exact accounts

theorem Hears.begins {inbox : Inbox} (hears : Hears inbox taken heard) :
    heard <+: (Message.parse taken).messages := by
  obtain ⟨used, split, reads⟩ := hears fun _ => default
  rw [split, reads]
  exact List.prefix_append _ _

variable {protocols : List String} {role : Option Role}

theorem Speaks.queue {outbox next : Outbox} {message : Message}
    (speaks : Speaks protocols outbox given)
    (offers : ∀ names, message = .offer names → names = protocols)
    (queued : outbox.queue message = .ok next) : Speaks protocols next given := by
  obtain ⟨said, encodes, offered⟩ := speaks
  rw [Outbox.queue] at queued
  rcases encoded : message.encode with fault | bytes
  · rw [encoded] at queued
    cases queued
  · rw [encoded] at queued
    cases queued
    refine ⟨said ++ [message], ?_, ?_⟩
    · rw [← List.append_assoc]
      exact encodes.append (.single encoded)
    · intro names member
      rcases List.mem_append.mp member with old | new
      · exact offered names old
      · exact offers names (List.mem_singleton.mp new).symm

theorem Speaks.fill {outbox : Outbox} (speaks : Speaks protocols outbox given) (blob : Blob) :
    Speaks protocols (outbox.fill blob).1 (given ++ blob.gained (outbox.fill blob).2) := by
  obtain ⟨said, encodes, offered⟩ := speaks
  refine ⟨said, ?_, offered⟩
  rwa [List.append_assoc, outbox.gained_fill_append]

/-! ## Work -/

theorem Stands.relive (stands : Stands protocols role heard taken given handler)
    {lifecycle : Lifecycle} (roleEq : lifecycle.role = handler.lifecycle.role)
    (ended : lifecycle.stage = .finished .delegated →
      ∃ name, lifecycle.face.info = some name ∧ Warrants protocols heard role name) :
    Stands protocols role heard taken given { handler with lifecycle } :=
  ⟨stands.protocols_eq, roleEq.trans stands.role_eq, stands.hears, stands.speaks, stands.planned,
    ended⟩

theorem Stands.reply (stands : Stands protocols role heard taken given handler) {message : Message}
    {settlement : Settlement} (offers : ∀ names, message = .offer names → names = protocols)
    (planned : ∀ name, settlement = .delegate name → Warrants protocols heard role name) :
    Stands protocols role heard taken given (handler.reply message settlement).1 := by
  rw [Envelope.reply]
  split
  · exact stands
  · rename_i outbox queued
    refine ⟨stands.protocols_eq, stands.role_eq, stands.hears,
      stands.speaks.queue offers queued, ?_, stands.ended⟩
    rintro name ⟨⟩
    exact planned name rfl

theorem Stands.flush (stands : Stands protocols role heard taken given handler) (blob : Blob) :
    Stands protocols role heard taken (given ++ blob.gained (handler.flush blob).2.1)
      (handler.flush blob).1 := by
  have filled := stands.speaks.fill blob
  simp only [Envelope.flush]
  split
  · refine ⟨stands.protocols_eq, ?_, stands.hears, filled, ?_, ?_⟩
    · exact (Lifecycle.worked_apply _).role.trans stands.role_eq
    · rintro _ ⟨⟩
    · rcases plan : handler.afterSend with _ | settlement
      · exact stands.ended
      · cases settlement with
        | await => exact stands.ended
        | succeed credential => rintro ⟨⟩
        | fail reason => rintro ⟨⟩
        | delegate name => exact fun _ => ⟨name, rfl, stands.planned plan⟩
  · exact ⟨stands.protocols_eq, stands.role_eq, stands.hears, filled, stands.planned, stands.ended⟩

theorem Stands.prepare (stands : Stands protocols role heard taken given handler) :
    Stands protocols role heard taken given handler.prepare.1 := by
  obtain ⟨protocolsEq, roleEq, hears, speaks, planned, ended⟩ := stands
  have kept : Stands protocols role heard taken given { handler with started := true } :=
    ⟨protocolsEq, roleEq, hears, speaks, planned, ended⟩
  rw [Envelope.prepare]
  split
  · exact ⟨protocolsEq, roleEq, hears, speaks, planned, ended⟩
  · split
    · exact kept
    · refine kept.reply ?_ ?_
      · rintro names ⟨⟩
        exact protocolsEq
      · rintro _ ⟨⟩

theorem Stands.write (stands : Stands protocols role heard taken given handler) (blob : Blob)
    (now : ω) :
    Stands protocols role heard taken (given ++ blob.gained (handler.write blob now).blob)
      (handler.write blob now).handler := by
  have prepared := stands.prepare
  rw [Envelope.write]
  revert prepared
  rcases handler.prepare with ⟨next, answer⟩
  intro prepared
  split
  · rename_i same
    cases same
    exact prepared.flush blob
  · rename_i same
    cases same
    dsimp only
    rwa [Blob.gained_self, List.append_nil]

theorem Stands.onChoice {choice : String}
    (stands : Stands protocols (some .server) heard taken given handler)
    (said : .choice choice ∈ heard) :
    Stands protocols (some .server) heard taken given (handler.onChoice choice).1 := by
  have failed (reason : String) : Stands protocols (some .server) heard taken given
      { handler with lifecycle := handler.lifecycle.fail reason } := by
    refine stands.relive rfl ?_
    rintro ⟨⟩
  rw [Envelope.onChoice]
  split
  · exact failed _
  · split
    · rename_i listed
      refine stands.relive rfl fun _ => ⟨choice, rfl, .chosen ?_ said⟩
      rw [← stands.protocols_eq]
      exact List.contains_iff_mem.mp listed
    · exact failed _

theorem Stands.onOffer {offered : List String}
    (stands : Stands protocols (some .client) heard taken given handler)
    (said : .offer offered ∈ heard) :
    Stands protocols (some .client) heard taken given (handler.onOffer offered).1 := by
  have chooses (choice : String) : ∀ names, Message.choice choice = .offer names →
      names = protocols := by
    rintro names ⟨⟩
  rw [Envelope.onOffer]
  split
  · rename_i choice found
    refine stands.reply (chooses choice) ?_
    rintro name ⟨⟩
    rw [stands.protocols_eq] at found
    exact .offered said (preferred_agreed found)
  · refine stands.reply (chooses "") ?_
    rintro _ ⟨⟩

theorem Stands.onMessage {message : Message}
    (stands : Stands protocols role heard taken given handler) (said : message ∈ heard) :
    Stands protocols role heard taken given (handler.onMessage message).1 := by
  obtain rfl := stands.role_eq
  rw [onMessage.eq_def]
  split
  · rename_i server
    rw [server] at stands ⊢
    exact stands.onChoice said
  · rename_i client
    rw [client] at stands ⊢
    exact stands.onOffer said
  · exact stands
  · exact stands

theorem Stands.read (stands : Stands protocols role heard taken given handler) (blob : Blob)
    (now : ω) :
    ∃ more, Stands protocols role (heard ++ more)
      (taken ++ blob.given (handler.read blob now).blob)
      (given ++ blob.gained (handler.read blob now).blob) (handler.read blob now).handler := by
  have moved : (handler.read blob now).blob = (handler.inbox.absorb blob).2 := by
    simp only [Envelope.read]
    split <;> rfl
  rw [moved, Inbox.given_absorb, Inbox.gained_absorb, List.append_nil]
  have hears := stands.hears.absorb blob
  obtain ⟨protocolsEq, roleEq, -, speaks, planned, ended⟩ := stands
  have absorbed : Stands protocols role (heard ++ []) (taken ++ blob.contents.drop blob.position)
      given { handler with inbox := (handler.inbox.absorb blob).1 } := by
    rw [List.append_nil]
    exact ⟨protocolsEq, roleEq, hears, speaks, planned, ended⟩
  simp only [Envelope.read]
  split
  · exact ⟨[], absorbed⟩
  · exact ⟨[], absorbed⟩
  · rename_i message inbox found
    have next : Stands protocols role (heard ++ [message])
        (taken ++ blob.contents.drop blob.position) given { handler with inbox } := by
      refine ⟨protocolsEq, roleEq, hears.next found, speaks, ?_, ?_⟩
      · exact fun plan => (planned plan).mono (List.subset_append_left _ _)
      · intro stage
        obtain ⟨name, info, warrants⟩ := ended stage
        exact ⟨name, info, warrants.mono (List.subset_append_left _ _)⟩
    exact ⟨[message], next.onMessage (List.mem_append_right _ List.mem_cons_self)⟩

/-! ## Calls -/

theorem Stands.enter (stands : Stands protocols role heard taken given handler)
    {lifecycle : Lifecycle} {answer : Option Answer}
    (entry : handler.lifecycle.Entry lifecycle answer) :
    Stands protocols role heard taken given { handler with lifecycle } := by
  refine stands.relive entry.role ?_
  cases entry with
  | unbound => exact stands.ended
  | mixed face hidden =>
      subst hidden
      exact stands.ended
  | repeated => exact stands.ended
  | opened => rintro ⟨⟩

theorem Stands.settle (stands : Stands protocols role heard taken given handler)
    (answer : Answer) : Stands protocols role heard taken given (handler.settle answer) := by
  refine stands.relive (Lifecycle.role_settle _ _) ?_
  cases answer with
  | ok mode => exact stands.ended
  | error fault => rintro ⟨⟩

theorem call_cases (work : Envelope → Blob → ω → Turn ω Envelope) (handler : Envelope) (blob : Blob)
    (now : ω) :
    (∃ lifecycle answer, handler.lifecycle.Entry lifecycle (some answer) ∧
        handler.call work blob now = ⟨answer, { handler with lifecycle }, blob, now⟩) ∨
      ∃ lifecycle, handler.lifecycle.Entry lifecycle none ∧
        handler.call work blob now =
          { work { handler with lifecycle } blob now with
            handler := (work { handler with lifecycle } blob now).handler.settle
              (work { handler with lifecycle } blob now).answer } := by
  rw [Envelope.call]
  rcases entered : handler.lifecycle.enter .blob with ⟨lifecycle, _ | answer⟩
  · exact Or.inr ⟨lifecycle, Lifecycle.entry_enter entered, rfl⟩
  · exact Or.inl ⟨lifecycle, answer, Lifecycle.entry_enter entered, rfl⟩

theorem Stands.produce (stands : Stands protocols role heard taken given handler) (blob : Blob)
    (now : ω) :
    Stands protocols role heard taken (given ++ blob.gained (Handler.produce handler blob now).blob)
      (Handler.produce handler blob now).handler := by
  have called : Handler.produce handler blob now = handler.call Envelope.write blob now := rfl
  rw [called]
  rcases call_cases Envelope.write handler blob now with ⟨_, _, entry, same⟩ | ⟨_, entry, same⟩
  · rw [same, Blob.gained_self, List.append_nil]
    exact stands.enter entry
  · rw [same]
    exact ((stands.enter entry).write blob now).settle _

theorem Stands.consume (stands : Stands protocols role heard taken given handler) (blob : Blob)
    (now : ω) :
    ∃ more, Stands protocols role (heard ++ more)
      (taken ++ blob.given (Handler.consume handler blob now).blob)
      (given ++ blob.gained (Handler.consume handler blob now).blob)
      (Handler.consume handler blob now).handler := by
  have called : Handler.consume handler blob now = handler.call Envelope.read blob now := rfl
  rw [called]
  rcases call_cases Envelope.read handler blob now with ⟨_, _, entry, same⟩ | ⟨_, entry, same⟩
  · refine ⟨[], ?_⟩
    rw [same, Blob.given_self, Blob.gained_self, List.append_nil, List.append_nil, List.append_nil]
    exact stands.enter entry
  · obtain ⟨more, later⟩ := (stands.enter entry).read blob now
    rw [same]
    exact ⟨more, later.settle _⟩

/-- A takeover is over before anything is read or written. -/
theorem run_takeOver {script : Script} {bound : Nat} {takeover : Takeover ω Envelope}
    (ran : Takeover.run bound handler now script = some takeover) :
    takeover.script = script ∧ ∃ lifecycle answer, takeover.answer = some answer ∧
      takeover.handler = { handler with lifecycle } ∧
      (handler.lifecycle.Entry lifecycle (some answer) ∨
        ∃ opened, handler.lifecycle.Entry opened none ∧ lifecycle = opened.decline ∧
          answer = .ok .notSupported) := by
  have opening : Handler.takeOver handler now = handler.takeOver now := rfl
  rw [Takeover.run, opening] at ran
  cases bound with
  | zero => cases ran
  | succ bound =>
      rw [Takeover.follow] at ran
      rcases entered : handler.lifecycle.enter .takeover with ⟨lifecycle, _ | answer⟩
      · simp only [takeOver, entered, Script.play, Option.some.injEq] at ran
        subst ran
        exact ⟨rfl, _, _, rfl, rfl, Or.inr ⟨_, Lifecycle.entry_enter entered, rfl, rfl⟩⟩
      · simp only [takeOver, entered, Script.play, Option.some.injEq] at ran
        subst ran
        exact ⟨rfl, _, _, rfl, rfl, Or.inl (Lifecycle.entry_enter entered)⟩

theorem Stands.process (stands : Stands protocols role heard taken given handler) {script : Script}
    {bound : Nat} {takeover : Takeover ω Envelope}
    (ran : Takeover.run bound handler now script = some takeover) :
    Stands protocols role heard (taken ++ (Frame.payloads (script.given takeover.script)).flatten)
      (given ++ (Frame.payloads (script.gained takeover.script)).flatten) takeover.handler := by
  obtain ⟨same, lifecycle, answer, -, next, ends⟩ := run_takeOver ran
  have untouched : Frame.payloads [] = [] := Frame.payloads_of_short (by decide)
  rw [same, script.given_self, script.gained_self, untouched, List.flatten_nil, List.append_nil,
    List.append_nil, next]
  rcases ends with entry | ⟨opened, entry, rfl, -⟩
  · exact stands.enter entry
  · refine (stands.enter entry).relive rfl ?_
    rintro ⟨⟩

/-! ## Delegation -/

theorem delegated_of_entry {before after : Lifecycle}
    (entry : before.Entry after (some (.ok .delegated))) :
    after.stage = .finished .delegated := by
  cases entry with
  | repeated _ stage => exact stage

theorem delegated_of_worked {before after : Lifecycle}
    (worked : before.Worked after (.ok .delegated)) : after.stage = .finished .delegated := by
  rcases worked.leaves with ⟨going, _, _, _, _⟩ | ⟨_, stage, _⟩
  · exact nomatch going
  · exact stage

theorem delegated_of_call {work : Envelope → Blob → ω → Turn ω Envelope} {blob : Blob}
    (worked : ∀ (handler : Envelope) (blob : Blob) (now : ω), handler.lifecycle.Worked
      (work handler blob now).handler.lifecycle (work handler blob now).answer)
    (delegated : (handler.call work blob now).answer = .ok .delegated) :
    (handler.call work blob now).handler.lifecycle.stage = .finished .delegated := by
  rcases call_cases work handler blob now with ⟨_, _, entry, same⟩ | ⟨lifecycle, _, same⟩
  · rw [same] at delegated ⊢
    subst delegated
    exact delegated_of_entry entry
  · have leaves := worked { handler with lifecycle } blob now
    rw [same] at delegated ⊢
    dsimp only at delegated ⊢
    rw [delegated] at leaves ⊢
    exact delegated_of_worked leaves

/-! ## Traffic -/

theorem delegated_traffic {answers : List Answer}
    (traffic : Traffic start early taken given answers handler now)
    (delegated : answers.getLast? = some (.ok .delegated)) :
    handler.lifecycle.stage = .finished .delegated := by
  induction traffic with
  | begin => exact nomatch delegated
  | produce _ called =>
      subst called
      rw [List.getLast?_concat] at delegated
      exact delegated_of_call worked_write (Option.some.inj delegated)
  | consume _ called =>
      subst called
      rw [List.getLast?_concat] at delegated
      exact delegated_of_call worked_read (Option.some.inj delegated)
  | process _ ran =>
      obtain ⟨-, lifecycle, answer, answered, next, ends⟩ := run_takeOver ran
      rw [answered, Option.toList_some, List.getLast?_concat] at delegated
      obtain rfl := Option.some.inj delegated
      rcases ends with entry | ⟨_, _, _, other⟩
      · rw [next]
        exact delegated_of_entry entry
      · exact nomatch other
  | elsewhere _ _ ih => exact ih delegated

theorem stands_traffic {answers : List Answer}
    (begun : Stands protocols role [] [] [] start)
    (traffic : Traffic start early taken given answers handler now) :
    ∃ heard, Stands protocols role heard taken given handler := by
  induction traffic with
  | begin => exact ⟨[], begun⟩
  | produce _ called ih =>
      subst called
      obtain ⟨heard, stands⟩ := ih
      exact ⟨heard, stands.produce _ _⟩
  | consume _ called ih =>
      subst called
      obtain ⟨heard, stands⟩ := ih
      obtain ⟨more, later⟩ := stands.consume _ _
      exact ⟨heard ++ more, later⟩
  | process _ ran ih =>
      obtain ⟨heard, stands⟩ := ih
      exact ⟨heard, stands.process ran⟩
  | elsewhere _ _ ih => exact ih

/-! ## Initialisation -/

theorem proper_initialises {names : List String} {begun : ω}
    (initialises : Initialises (fresh names) early start begun) : Proper start.protocols := by
  rcases (initial_initialises initialises).protocols with same | ⟨others, same⟩
  · rw [same]
    exact proper_normalize names
  · rw [same]
    exact proper_normalize others

theorem stands_initialises {names : List String} {begun : ω}
    (initialises : Initialises (fresh names) early start begun) :
    Stands start.protocols start.lifecycle.role [] [] [] start := by
  have initial := initial_initialises initialises
  refine ⟨rfl, rfl, ?_, ?_, ?_, fun stage => absurd stage initial.unstarted.stage_ne⟩
  · rw [initial.inbox]
    exact fun _ => ⟨[], rfl, fun _ => rfl⟩
  · rw [initial.outbox]
    exact ⟨[], .nil, nofun⟩
  · rw [initial.afterSend]
    rintro _ ⟨⟩

/--
An envelope built from any names and initialised once keeps a proper list, whatever calls follow.
What it puts out are messages that offer just this list. Whenever it answers that it delegates, it
shows a name of the list: as the server one that its peer chose, and as the client the first one
that its peer offered.
-/
theorem delegates_listed {names : List String} {begun : ω} {answers : List Answer}
    (initialises : Initialises (fresh names) early start begun)
    (traffic : Traffic start begun taken given answers handler now) :
    Proper (fresh names).protocols ∧ Proper handler.protocols ∧
      handler.protocols = start.protocols ∧ (face handler).role = (face start).role ∧
      (∃ said, Encodes said (given ++ handler.outbox.bytes) ∧
        (Message.parse given).messages <+: said ∧
        ∀ listed, .offer listed ∈ said → listed = handler.protocols) ∧
      (answers.getLast? = some (.ok .delegated) →
        ∃ name, (face handler).info = some name ∧ name ∈ handler.protocols ∧
          Warrants handler.protocols (Message.parse taken).messages (face handler).role name) := by
  obtain ⟨heard, stands⟩ := stands_traffic (stands_initialises initialises) traffic
  obtain ⟨said, encodes, offers⟩ := stands.speaks
  obtain ⟨whole, arrived, read, -⟩ := Message.exists_arrived encodes
  have roleEq : (face handler).role = (face start).role := stands.role_eq
  rw [stands.protocols_eq, roleEq]
  refine ⟨proper_normalize names, proper_initialises initialises, rfl, rfl,
    ⟨said, encodes, read ▸ arrived.first, offers⟩, ?_⟩
  intro delegated
  obtain ⟨name, info, warrants⟩ := stands.ended (delegated_traffic traffic delegated)
  exact ⟨name, info, warrants.mem, warrants.mono stands.hears.begins.subset⟩

def lister : Envelope := ((fresh [" p9sk1", "p9any", "", "p9sk2"]).init none .server ()).handler

def offering : Turn Unit Envelope := Handler.produce lister (Blob.blank 200) ()

def secondName : Blob :=
  (Blob.blank 200).load ((Message.choice "p9sk2").encode.toOption.getD [])

/-- The server after its peer has chosen the second of the two names that are left. -/
def chosen : Turn Unit Envelope :=
  Handler.consume offering.handler secondName offering.surroundings

theorem delegates_listed_chosen :
    Initialises (fresh [" p9sk1", "p9any", "", "p9sk2"]) () lister () ∧
      ∃ taken given answers,
        Traffic lister () taken given answers chosen.handler chosen.surroundings ∧
        answers.getLast? = some (.ok .delegated) ∧ chosen.handler.protocols = ["p9sk1", "p9sk2"] ∧
        ∃ name, (face chosen.handler).info = some name ∧ name ∈ chosen.handler.protocols ∧
          Warrants chosen.handler.protocols (Message.parse taken).messages
            (face chosen.handler).role name := by
  have initialises : Initialises (fresh [" p9sk1", "p9any", "", "p9sk2"]) () lister () :=
    .live none .server
  have begun : Traffic lister () [] [] [] lister () := .begin
  have offered : Handler.produce lister (Blob.blank 200) () = offering := rfl
  have heard : Handler.consume offering.handler secondName offering.surroundings = chosen := rfl
  have traffic := (begun.produce offered).consume heard
  have listed : chosen.handler.protocols = ["p9sk1", "p9sk2"] := by decide +kernel
  have delegated :
      ([] ++ [offering.answer] ++ [chosen.answer]).getLast? = some (.ok .delegated) := by
    have shown : chosen.answer.toOption = some .delegated := by decide +kernel
    rw [List.getLast?_concat]
    generalize chosen.answer = answer at shown
    cases answer with
    | error fault => exact nomatch shown
    | ok mode => exact congrArg (some ∘ Except.ok) (Option.some.inj shown)
  obtain ⟨-, -, -, -, -, delegates⟩ := delegates_listed initialises traffic
  exact ⟨initialises, _, _, _, traffic, delegated, listed, delegates delegated⟩

end Envelope

end Parley
