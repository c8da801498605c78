import Parley.Proofs.Negotiation.Abreast
import Parley.Proofs.Negotiation.Tale
import Parley.Rehearsed

/-!
Delegation chains. Handlers may answer and show what they like, as long as they keep to their
protocol: a negotiation takes each of them from the registry once, hands the role and the identity
down from one to the next, and refuses a successor for a reason that it looks for in a fixed order.
-/

namespace Parley.Negotiation

open Journal

variable {σ : Type} [HasFace σ] {negotiation : Negotiation σ} {names : List String} {handler : σ}
  {fault : Fault} {entries : List (Entry σ)} {latest : Option Answer}

/-! ## Courses -/

inductive Told (negotiation : Negotiation σ) (registry : Registry σ) (entries : List (Entry σ)) :
    Phase σ → Prop
  | opening (drawn : negotiation.registry.Drawn [] registry) (noneYet : entries = []) :
      Told negotiation registry entries .opening
  | calling {loop : BlobLoop σ} {latest : Option Answer}
      (tale : Tale negotiation entries loop.handler latest)
      (goesOn : latest ≠ some (.ok .delegated)) (chainEq : loop.chain = chain entries)
      (drawn : negotiation.registry.Drawn (chain entries) registry) :
      Told negotiation registry entries (.calling loop)
  | obeying {loop : BlobLoop σ} {mode : Mode}
      (tale : Tale negotiation entries loop.handler (some (.ok mode)))
      (chainEq : loop.chain = chain entries)
      (drawn : negotiation.registry.Drawn (chain entries) registry) :
      Told negotiation registry entries (.obeying loop mode)
  | stopped {handler : σ} {names : List String} {mode : Mode}
      (tale : Tale negotiation entries handler (some (.ok mode))) (chainEq : names = chain entries)
      (drawn : negotiation.registry.Drawn (chain entries) registry) :
      Told negotiation registry entries (.stopped handler names mode)
  | unmade {result : Except Fault Outcome} (drawn : negotiation.registry.Drawn [] registry)
      (noneYet : entries = []) : Told negotiation registry entries (.over result)
  | ended {handler : σ} {latest : Option Answer} {result : Except Fault Outcome}
      (tale : Tale negotiation entries handler latest)
      (undelegated : latest ≠ some (.ok .delegated))
      (drawn : negotiation.registry.Drawn (chain entries) registry) :
      Told negotiation registry entries (.over result)
  | refused {handler : σ} {fault : Fault}
      (tale : Tale negotiation entries handler (some (.ok .delegated)))
      (drawn : negotiation.registry.Drawn (chain entries) registry)
      (refused : negotiation.Refused (chain entries) handler fault) :
      Told negotiation registry entries (.over (.error fault))
  /-- What a call had produced could not be sent. -/
  | unsent {previous handler : σ} {answer : Answer} {blob : Blob} {fault : Fault}
      (tale : Tale negotiation entries handler (some answer))
      (drawn : negotiation.registry.Drawn (chain entries) registry)
      (produced : entries.getLast? = some (.called previous .produce answer blob handler))
      (filled : blob.isEmpty = false)
      (lost : (Frame.send blob.contents).Leads (.error fault)) :
      Told negotiation registry entries (.over (.error fault))
  | roleless {handler : σ} {result : Except Fault Outcome}
      (tale : Tale negotiation entries handler (some (.ok .delegated)))
      (drawn : negotiation.registry.Drawn (chain entries) registry)
      (heeded : negotiation.Heeded (chain entries) handler) :
      Told negotiation registry entries (.over result)
  | mismatched {name stated : String}
      (drawn : negotiation.registry.Drawn (chain entries ++ [name]) registry)
      (before : entries = [] ∨ ∃ handler, Tale negotiation entries handler (some (.ok .delegated)) ∧
        negotiation.Heeded (chain entries) handler) :
      Told negotiation registry entries (.over (.error (.registryMismatch name stated)))

theorem Tale.told_fresh {registry : Registry σ} (tale : Tale negotiation entries handler none)
    (drawn : negotiation.registry.Drawn (chain entries) registry) (chainEq : names = chain entries)
    (accepted : Bool) :
    Told negotiation registry entries
      (if accepted then loopOf negotiation.settings handler names
        else conclude handler .noIdentity) := by
  cases accepted with
  | true => exact .calling tale (by simp) chainEq drawn
  | false => exact .ended tale (by simp) drawn

variable {ω : Type} [Handler ω σ] {registry : Registry σ} {journal : Journal ω σ} {phase : Phase σ}

theorem told_enter (steady : Handler.Steady ω σ) (drawn : negotiation.registry.Drawn [] registry)
    (noneYet : journal.entries = []) {advance : Advance (Journal ω σ) σ}
    (entered : (negotiation.proceed registry .opening).enter
      (fun handler => loopOf negotiation.settings handler [negotiation.protocol]) journal = advance)
    (leads : advance.action.Leads phase) :
    Told negotiation advance.registry advance.surroundings.entries phase := by
  have drawn' := drawn.create negotiation.protocol
  have same := drawn.create_fst (List.not_mem_nil (a := negotiation.protocol))
  obtain ⟨surroundings, entries⟩ := journal
  obtain rfl : entries = [] := noneYet
  subst entered
  revert leads
  simp only [enter, prepare, proceed]
  rcases created : registry.create negotiation.protocol with ⟨fault | handler, later⟩
  · intro leads
    obtain rfl := leads_goOn_iff.mp leads
    rw [created] at same drawn'
    rcases Registry.create_fault (congrArg Prod.fst created) with ⟨_, kept⟩ | ⟨stated, rfl⟩
    · rw [created] at kept
      obtain rfl : later = registry := kept
      exact .unmade drawn rfl
    · exact .mismatched drawn' (Or.inl rfl)
  · rw [created] at same drawn'
    have names : [negotiation.protocol] = [(face handler).protocol] := by
      rw [Registry.protocol_of_create same.symm]
    rcases start : negotiation.start with ⟨identity, role⟩ | attributes
    · intro leads
      obtain rfl := leads_goOn_iff.mp leads
      have tale : Tale negotiation _ _ none :=
        .live start same.symm (steady.init handler identity role surroundings)
      exact tale.told_fresh (names ▸ drawn') names _
    · intro leads
      obtain rfl := leads_goOn_iff.mp leads
      have tale : Tale negotiation _ _ none :=
        .declared start same.symm (steady.initFrom handler attributes surroundings)
      exact tale.told_fresh (names ▸ drawn') names _

theorem turnOf_journal (loop : BlobLoop σ) (journal : Journal ω σ) :
    turnOf loop journal =
      let turn := turnOf loop journal.surroundings
      ⟨turn.answer, turn.handler, turn.blob,
        ⟨turn.surroundings, journal.entries ++
          [.called loop.handler loop.call turn.answer turn.blob turn.handler]⟩⟩ := by
  obtain ⟨handler, names, call, blob⟩ := loop
  cases call <;> rfl

theorem protocol_turnOf (steady : Handler.Steady ω σ) (loop : BlobLoop σ) (surroundings : ω) :
    (face (turnOf loop surroundings).handler).protocol = (face loop.handler).protocol := by
  obtain ⟨handler, names, call, blob⟩ := loop
  cases call with
  | produce => exact steady.produce handler blob.clear surroundings
  | consume => exact steady.consume handler blob surroundings

omit [Handler ω σ] in
theorem told_closeTurn {loop : BlobLoop σ} {turn : Turn ω σ} {previous : σ}
    (tale : Tale negotiation entries turn.handler (some turn.answer))
    (chainEq : loop.chain = chain entries)
    (drawn : negotiation.registry.Drawn (chain entries) registry)
    (left : entries.getLast? =
      some (.called previous loop.call turn.answer turn.blob turn.handler))
    (leads : (closeTurn loop turn).Leads phase) : Told negotiation registry entries phase := by
  rw [closeTurn] at leads
  rcases answered : turn.answer with fault | mode
  · rw [answered] at leads tale
    obtain rfl := leads_goOn_iff.mp leads
    exact .ended tale (by simp) drawn
  · rw [answered] at leads tale left
    dsimp only at leads
    split at leads
    · rename_i sends
      rcases leads with ⟨leads⟩
      obtain ⟨sent, talked, later⟩ := Dialogue.leads_bind_iff.mp leads
      rcases sent with fault | _
      · obtain rfl := Dialogue.leads_done_iff.mp later
        rw [sends.1] at left
        exact .unsent tale drawn left (by simpa using sends.2) talked
      · obtain rfl := Dialogue.leads_done_iff.mp later
        exact .obeying tale chainEq drawn
    · obtain rfl := leads_goOn_iff.mp leads
      exact .obeying tale chainEq drawn

theorem told_obey {loop : BlobLoop σ} {mode : Mode}
    (tale : Tale negotiation entries loop.handler (some (.ok mode)))
    (chainEq : loop.chain = chain entries)
    (drawn : negotiation.registry.Drawn (chain entries) registry)
    (leads : (obey loop mode).Leads phase) : Told negotiation registry entries phase := by
  have calls (next : BlobLoop σ) (handler : next.handler = loop.handler)
      (names : next.chain = loop.chain) (undelegated : mode ≠ .delegated) :
      Told negotiation registry entries (.calling next) :=
    .calling (handler ▸ tale) (by simpa using undelegated) (names.trans chainEq) drawn
  have stops
      (leads : (goOn (.stopped loop.handler loop.chain mode) : Action (Phase σ)).Leads phase) :
      Told negotiation registry entries phase := by
    obtain rfl := leads_goOn_iff.mp leads
    exact .stopped tale chainEq drawn
  cases mode with
  | needData =>
      rcases leads with ⟨leads⟩
      obtain ⟨received, _, later⟩ := Dialogue.leads_bind_iff.mp leads
      rcases received with fault | frame
      · obtain rfl := Dialogue.leads_done_iff.mp later
        exact .ended tale (by simp) drawn
      · obtain rfl := Dialogue.leads_done_iff.mp later
        exact calls _ rfl rfl (by simp)
  | pendingData =>
      obtain rfl := leads_goOn_iff.mp leads
      exact calls _ rfl rfl (by simp)
  | «continue» =>
      obtain rfl := leads_goOn_iff.mp leads
      exact calls _ rfl rfl (by simp)
  | wait seconds =>
      cases leads
      exact calls _ rfl rfl (by simp)
  | _ => exact stops leads

theorem told_follow (steady : Handler.Steady ω σ) {advance : Advance (Journal ω σ) σ}
    {current : Phase σ} (tale : Tale negotiation journal.entries handler (some (.ok .delegated)))
    (drawn : negotiation.registry.Drawn (chain journal.entries) registry)
    (followed : (negotiation.proceed registry current).follow handler (chain journal.entries)
      journal = advance)
    (leads : advance.action.Leads phase) :
    Told negotiation advance.registry advance.surroundings.entries phase := by
  subst followed
  revert leads
  simp only [follow]
  rcases successor_cases drawn.contains with ⟨fault, decided, refused⟩ | ⟨decided, heeded⟩
  · rw [decided]
    intro leads
    obtain rfl := leads_goOn_iff.mp leads
    exact .refused tale drawn refused
  rw [decided]
  dsimp only
  rcases roleEq : (face handler).role with _ | role
  · intro leads
    obtain rfl := leads_goOn_iff.mp leads
    exact .roleless tale drawn heeded
  have drawn' := drawn.create (heir handler)
  have same := drawn.create_fst heeded.new
  have unfolded : (negotiation.proceed registry current).registry = registry := rfl
  rw [unfolded]
  rcases created : registry.create (heir handler) with ⟨fault | next, later⟩
  · intro leads
    obtain rfl := leads_goOn_iff.mp leads
    rw [created] at drawn'
    rcases Registry.create_fault (congrArg Prod.fst created) with ⟨missing, _⟩ | ⟨stated, rfl⟩
    · rw [drawn.contains, heeded.known] at missing
      cases missing
    · exact .mismatched drawn' (Or.inr ⟨handler, tale, heeded⟩)
  · intro leads
    obtain rfl := leads_goOn_iff.mp leads
    rw [created] at same drawn'
    have succeeded := tale.succeeded heeded roleEq same.symm
      (steady.init next ((face handler).identity.map (·.rescoped (heir handler))) role
        journal.surroundings)
    have names : chain journal.entries ++ [heir handler] =
        chain (journal.entries ++ [.initialised next
          ((face handler).identity.map (·.rescoped (heir handler))) role
          (Handler.init next ((face handler).identity.map (·.rescoped (heir handler))) role
            journal.surroundings).handler]) := by
      rw [chain_append, ← Registry.protocol_of_create same.symm]
      rfl
    exact succeeded.told_fresh (names ▸ drawn') names _

theorem Told.step (steady : Handler.Steady ω σ) (route : negotiation.route = .blobs)
    (told : Told negotiation registry journal.entries phase) {next : Phase σ}
    (leads : ((negotiation.proceed registry phase).advance journal).action.Leads next) :
    Told negotiation ((negotiation.proceed registry phase).advance journal).registry
      ((negotiation.proceed registry phase).advance journal).surroundings.entries next := by
  have ended {result : Except Fault Outcome} (isOver : phase = .over result) : False := by
    subst isOver
    have stops : Action.Leads (.stop result) next := leads
    cases stops
  cases told with
  | opening drawn noneYet =>
      refine told_enter steady drawn noneYet ?_ leads
      rw [advance]
      simp only [proceed, route]
  | @calling loop _ tale goes_on chainEq drawn =>
      rw [advance_calling journal rfl, turnOf_journal] at leads ⊢
      refine told_closeTurn (tale.called goes_on (protocol_turnOf steady loop _)) ?_ ?_
        List.getLast?_concat leads
      · rw [chain_called, chainEq]
      · rw [chain_called]
        exact drawn
  | obeying tale chainEq drawn => exact told_obey tale chainEq drawn leads
  | @stopped handler names mode tale chainEq drawn =>
      subst chainEq
      by_cases delegated : mode = .delegated
      · subst delegated
        exact told_follow steady tale drawn rfl leads
      · have advanced : (negotiation.proceed registry
            (.stopped handler (chain journal.entries) mode)).advance journal = _ :=
          advance_stopped journal rfl delegated
        rw [advanced] at leads ⊢
        obtain rfl := leads_goOn_iff.mp leads
        exact .ended tale (by simpa using delegated) drawn
  | unmade _ _ => exact (ended rfl).elim
  | ended _ _ _ => exact (ended rfl).elim
  | refused _ _ _ => exact (ended rfl).elim
  | unsent _ _ _ _ _ => exact (ended rfl).elim
  | roleless _ _ _ => exact (ended rfl).elim
  | mismatched _ _ => exact (ended rfl).elim

theorem told_course {now : Negotiation σ} {surroundings : ω} (steady : Handler.Steady ω σ)
    (route : negotiation.route = .blobs) (opening : negotiation.phase = .opening)
    (course : Course negotiation (⟨surroundings, []⟩ : Journal ω σ) now journal) :
    ∃ registry phase, now = negotiation.proceed registry phase ∧
      Told negotiation registry journal.entries phase := by
  induction course with
  | begin =>
      refine ⟨negotiation.registry, negotiation.phase, rfl, ?_⟩
      rw [opening]
      exact .opening (Registry.drawn_nil _) rfl
  | step _ leads ih =>
      obtain ⟨registry, phase, rfl, told⟩ := ih
      exact ⟨_, _, rfl, told.step steady route leads⟩

/-! ## Ends -/

/-- Nothing is sent or called any more, and this is the result. -/
inductive Settles (result : Except Fault Outcome) : Negotiation σ → ω → Prop
  | stop {now : Negotiation σ} {surroundings : ω}
      (stops : now.advance surroundings = ⟨now.registry, surroundings, .stop result⟩) :
      Settles result now surroundings
  | goOn {now : Negotiation σ} {surroundings : ω} {phase : Phase σ}
      (goes : now.advance surroundings = ⟨now.registry, surroundings, goOn phase⟩)
      (settles : Settles result (now.proceed now.registry phase) surroundings) :
      Settles result now surroundings

theorem settles_over (now : Negotiation σ) (registry : Registry σ) (surroundings : ω)
    (result : Except Fault Outcome) :
    Settles result (now.proceed registry (.over result)) surroundings :=
  .stop rfl

theorem Refused.settles (refused : negotiation.Refused names handler fault)
    (contains : ∀ name, registry.contains name = negotiation.registry.contains name)
    (surroundings : ω) :
    Settles (.error fault) (negotiation.proceed registry (.stopped handler names .delegated))
      surroundings := by
  refine .goOn ?_ (settles_over negotiation registry surroundings (.error fault))
  have followed : (negotiation.proceed registry (.stopped handler names .delegated)).advance
      surroundings = (negotiation.proceed registry (.stopped handler names .delegated)).follow
        handler names surroundings := rfl
  rw [followed, follow]
  rcases successor_cases contains with ⟨other, decided, reason⟩ | ⟨_, heeded⟩
  · rw [decided]
    obtain rfl := refused.unique reason
    rfl
  · exact absurd heeded refused.not_heeded

theorem Told.tale (told : Told negotiation registry entries phase) :
    entries = [] ∨ ∃ handler latest, Tale negotiation entries handler latest := by
  cases told with
  | opening _ noneYet => exact Or.inl noneYet
  | calling tale _ _ _ => exact Or.inr ⟨_, _, tale⟩
  | obeying tale _ _ => exact Or.inr ⟨_, _, tale⟩
  | stopped tale _ _ => exact Or.inr ⟨_, _, tale⟩
  | unmade _ noneYet => exact Or.inl noneYet
  | ended tale _ _ => exact Or.inr ⟨_, _, tale⟩
  | refused tale _ _ => exact Or.inr ⟨_, _, tale⟩
  | unsent tale _ _ _ _ => exact Or.inr ⟨_, _, tale⟩
  | roleless tale _ _ => exact Or.inr ⟨_, _, tale⟩
  | mismatched _ before => exact before.imp id fun ⟨handler, tale, _⟩ => ⟨handler, _, tale⟩

/-- The registry has made the handlers of the chain, and at most one that states another name. -/
theorem Told.drawn (told : Told negotiation registry entries phase) :
    negotiation.registry.Drawn (chain entries) registry ∨
      ∃ name stated, negotiation.registry.Drawn (chain entries ++ [name]) registry ∧
        phase = .over (.error (.registryMismatch name stated)) := by
  cases told with
  | opening drawn noneYet =>
      rw [noneYet]
      exact Or.inl drawn
  | calling _ _ _ drawn => exact Or.inl drawn
  | obeying _ _ drawn => exact Or.inl drawn
  | stopped _ _ drawn => exact Or.inl drawn
  | unmade drawn noneYet =>
      rw [noneYet]
      exact Or.inl drawn
  | ended _ _ drawn => exact Or.inl drawn
  | refused _ drawn _ => exact Or.inl drawn
  | unsent _ drawn _ _ _ => exact Or.inl drawn
  | roleless _ drawn _ => exact Or.inl drawn
  | mismatched drawn _ => exact Or.inr ⟨_, _, drawn, rfl⟩

/-- A delegation that is refused ends the negotiation, unless what came with it cannot be sent. -/
theorem Told.settles_of_refused (told : Told negotiation registry journal.entries phase)
    {early late : List (Entry σ)} {previous last : σ} {call : Call} {blob : Blob}
    (split : journal.entries = early ++ .called previous call (.ok .delegated) blob last :: late)
    (refused : negotiation.Refused (chain early) last fault) :
    late = [] ∧ (Settles (.error fault) (negotiation.proceed registry phase) journal ∨
      ∃ lost, call = .produce ∧ blob.isEmpty = false ∧
        (Frame.send blob.contents).Leads (.error lost) ∧ phase = .over (.error lost)) := by
  have nothing (noneYet : journal.entries = []) : False := by
    rw [noneYet] at split
    simp at split
  -- The delegation is the last entry, so the chain is still what it was before.
  have decided {handler : σ} {latest : Option Answer}
      (tale : Tale negotiation journal.entries handler latest) :
      late = [] ∧ last = handler ∧ latest = some (.ok .delegated) ∧
        negotiation.Refused (chain journal.entries) handler fault := by
    obtain ⟨rfl, rfl, same⟩ := tale.refused_last split refused
    rw [split, chain_called]
    exact ⟨rfl, rfl, same, refused⟩
  cases told with
  | opening _ noneYet => exact (nothing noneYet).elim
  | calling tale goes_on _ _ => exact absurd (decided tale).2.2.1 goes_on
  | obeying tale chainEq drawn =>
      obtain ⟨rfl, rfl, same, reason⟩ := decided tale
      cases same
      rw [← chainEq] at reason
      exact ⟨rfl, Or.inl (.goOn rfl (reason.settles drawn.contains journal))⟩
  | stopped tale chainEq drawn =>
      obtain ⟨rfl, rfl, same, reason⟩ := decided tale
      cases same
      rw [← chainEq] at reason
      exact ⟨rfl, Or.inl (reason.settles drawn.contains journal)⟩
  | unmade _ noneYet => exact (nothing noneYet).elim
  | ended tale undelegated _ => exact absurd (decided tale).2.2.1 undelegated
  | refused tale _ reason =>
      obtain ⟨rfl, _, _, reason'⟩ := decided tale
      obtain rfl := reason.unique reason'
      exact ⟨rfl, Or.inl (settles_over negotiation registry journal _)⟩
  | unsent tale _ produced filled lost =>
      obtain ⟨rfl, _, _, _⟩ := decided tale
      rw [split, List.getLast?_concat] at produced
      cases produced
      exact ⟨rfl, Or.inr ⟨_, rfl, filled, lost, rfl⟩⟩
  | roleless tale _ heeded => exact absurd heeded (decided tale).2.2.2.not_heeded
  | mismatched _ before =>
      rcases before with noneYet | ⟨handler, tale, heeded⟩
      · exact (nothing noneYet).elim
      · exact absurd heeded (decided tale).2.2.2.not_heeded

/--
However handlers and the channel behave, the handlers that a negotiation takes from its registry
state different protocols, at most one more than the delegations allowed, and each of them is
initialised once: the first as the negotiation starts, and a successor with the role of the handler
that has just delegated and its identity rescoped. A delegation that is refused is the last thing
that is done, and the negotiation ends for that reason, unless it has ended already because what
came with the delegation could not be sent.
-/
theorem delegation_chain_safe {now : Negotiation σ} {surroundings : ω}
    (steady : Handler.Steady ω σ) (route : negotiation.route = .blobs)
    (opening : negotiation.phase = .opening)
    (course : Course negotiation (⟨surroundings, []⟩ : Journal ω σ) now journal) :
    (chain journal.entries).Nodup ∧
    (chain journal.entries).length ≤ negotiation.settings.maxDelegations + 1 ∧
    (negotiation.registry.Drawn (chain journal.entries) now.registry ∨
      ∃ name stated, negotiation.registry.Drawn (chain journal.entries ++ [name]) now.registry ∧
        now.phase = .over (.error (.registryMismatch name stated))) ∧
    ∀ early entry late, journal.entries = early ++ entry :: late →
      negotiation.Warranted early entry ∧
      (chain (early ++ [entry])).getLast? = some (face entry.handler).protocol ∧
      (face entry.result).protocol = (face entry.handler).protocol ∧
      ∀ previous call blob last fault, entry = .called previous call (.ok .delegated) blob last →
        negotiation.Refused (chain early) last fault →
        late = [] ∧ (Settles (.error fault) now journal ∨
          ∃ lost, call = .produce ∧ blob.isEmpty = false ∧
            (Frame.send blob.contents).Leads (.error lost) ∧
            now.phase = .over (.error lost)) := by
  obtain ⟨registry, phase, rfl, told⟩ := told_course steady route opening course
  refine ⟨?_, ?_, told.drawn, fun early entry late split => ?_⟩
  · rcases told.tale with noneYet | ⟨handler, latest, tale⟩
    · rw [noneYet]
      exact List.Pairwise.nil
    · exact tale.chain_nodup
  · rcases told.tale with noneYet | ⟨handler, latest, tale⟩
    · rw [noneYet]
      exact Nat.zero_le _
    · exact tale.length_chain
  · rcases told.tale with noneYet | ⟨handler, latest, tale⟩
    · rw [noneYet] at split
      simp at split
    · refine ⟨tale.warranted split, (tale.reports split).1, (tale.reports split).2, ?_⟩
      rintro previous call blob last fault rfl refused
      exact told.settles_of_refused split refused

theorem Course.goes {negotiation now : Negotiation σ} {surroundings later after : ω}
    {registry : Registry σ} {phase : Phase σ} (course : Course negotiation surroundings now later)
    (goes : now.advance later = ⟨registry, after, goOn phase⟩) :
    Course negotiation surroundings (now.proceed registry phase) after := by
  have leads : (now.advance later).action.Leads phase := by
    rw [goes]
    exact leads_goOn_iff.mpr rfl
  have step := course.step leads
  rw [goes] at step
  exact step

theorem steady_rehearsed : Handler.Steady ω Rehearsed where
  init _ _ _ _ := rfl
  initFrom _ _ _ := rfl
  produce _ _ _ := rfl
  consume _ _ _ := rfl

def delegating (protocol successor : String) : Rehearsed :=
  { face := { protocol }
    producing := { cues := [{ answer := .ok .delegated, info := some (some successor) }] } }

def circle : Negotiation Rehearsed :=
  { protocol := "a"
    start := .live (some ⟨"alice", "a"⟩) .client
    route := .blobs
    settings := { Settings.default with blobCapacity := Settings.smallestBlob }
    registry :=
      ((({} : Registry Rehearsed).register "a" (.constant (delegating "a" "b"))).2.register "b"
        (.constant (delegating "b" "a"))).2 }

def engaged (protocol successor : String) (info : Option String) : Rehearsed :=
  { delegating protocol successor with
    face := { protocol, identity := some ⟨"alice", protocol⟩, role := some .client, info } }

def circleEntries (protocol successor : String) : List (Entry Rehearsed) :=
  [.initialised (delegating protocol successor) (some ⟨"alice", protocol⟩) .client
      (engaged protocol successor none),
    .called (engaged protocol successor none) .produce (.ok .delegated)
      (Blob.blank Settings.smallestBlob) (engaged protocol successor (some successor))]

theorem delegation_chain_safe_circle :
    ∃ now, Course circle (⟨(), []⟩ : Journal Unit Rehearsed) now
        ⟨(), circleEntries "a" "b" ++ circleEntries "b" "a"⟩ ∧
      (chain (circleEntries "a" "b" ++ circleEntries "b" "a")).Nodup ∧
      Settles (.error (.delegationCycle ["a", "b", "a"])) now
        (⟨(), circleEntries "a" "b" ++ circleEntries "b" "a"⟩ : Journal Unit Rehearsed) := by
  have opened : Course circle (⟨(), []⟩ : Journal Unit Rehearsed) _ _ := Course.begin.goes rfl
  have first := ((opened.goes rfl).goes rfl).goes rfl
  have course : Course circle (⟨(), []⟩ : Journal Unit Rehearsed) _
      ⟨(), circleEntries "a" "b" ++ circleEntries "b" "a"⟩ := (first.goes rfl).goes rfl
  obtain ⟨distinct, _, _, entries⟩ := delegation_chain_safe steady_rehearsed rfl rfl course
  have refused : circle.Refused (chain (circleEntries "a" "b" ++ (circleEntries "b" "a").take 1))
      (engaged "b" "a" (some "a")) (.delegationCycle ["a", "b", "a"]) :=
    .cycle (by decide) (by decide)
  obtain ⟨_, settles | ⟨_, _, filled, _⟩⟩ := (entries _ _ [] rfl).2.2.2 _ _ _ _ _ rfl refused
  · exact ⟨_, course, distinct, settles⟩
  · cases filled

def parting : Negotiation Rehearsed :=
  { protocol := "a"
    start := .live (some ⟨"alice", "a"⟩) .client
    route := .blobs
    settings := { Settings.default with blobCapacity := Settings.smallestBlob }
    registry := (({} : Registry Rehearsed).register "a" (.constant
      { face := { protocol := "a" }
        producing := { cues :=
          [{ answer := .ok .delegated, data := [0], info := some (some "a") }] } })).2 }

/-- What came with a delegation cannot be sent: that is the result, whatever the delegation was. -/
theorem unsent_before_refused :
    ∃ ended early previous blob last,
      parting.run 3 none (⟨(), []⟩ : Journal Unit Rehearsed)
        { shared := { channel := { writeLimit := some (0, .brokenPipe) } } } = some ended ∧
      ended.surroundings.entries =
        early ++ [.called previous .produce (.ok .delegated) blob last] ∧
      parting.Refused (chain early) last (.selfDelegation "a") ∧
      ended.result = .error (.transport { kind := .brokenPipe }) ∧
      ended.result ≠ .error (.selfDelegation "a") := by
  refine ⟨_, [_], _, _, _, rfl, rfl, .itself rfl, rfl, ?_⟩
  intro same
  cases same

end Parley.Negotiation
