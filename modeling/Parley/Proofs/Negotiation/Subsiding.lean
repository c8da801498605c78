import Mathlib.Tactic.Choose
import Parley.Proofs.BuiltIn.Burden
import Parley.Proofs.Negotiation.Contract

/-!
Drivers through blobs come to rest. With keys that are locked only so often, and blobs that are not
empty, a driver calls a handler only finitely often before it needs a frame or is over; and if the
channel gives only so many bytes, it is over in the end.
-/

namespace Parley

open KeyStore

def BlobLoop.unread {σ : Type} (loop : BlobLoop σ) : Nat :=
  match loop.call with
  | .produce => 0
  | .consume => (SharedKey.pending loop.blob).length

namespace Negotiation

variable {κ : Type} [KeyStore κ] {now : Negotiation BuiltIn} {supplies : Supplies κ}
  {phase : Phase BuiltIn} {chain : List String} {handler : BuiltIn} {loop : BlobLoop BuiltIn}
  {mode : Mode} {burden : Burden} {spare : Nat}

/-! ## States of a driver through blobs -/

def Tidy : Phase BuiltIn → Prop
  | .calling loop => 0 < loop.blob.capacity
  | .obeying loop _ => 0 < loop.blob.capacity ∧ loop.unread = 0
  | .opening | .stopped .. | .over _ => True
  | .claiming _ | .takingOver .. | .tookOver .. | .tookOverFree .. => False

/-- A negotiation through blobs, whose keys are locked only so often. -/
structure Orderly (now : Negotiation BuiltIn) (supplies : Supplies κ) : Prop where
  furnished : now.registry.Furnished
  sound : Sound now.protocol now.phase
  route : now.route = .blobs
  room : 0 < now.settings.blobCapacity
  tidy : Tidy now.phase
  relents : Relents supplies.keys

def Fresh (settings : Settings) (chain : List String) (next : Phase BuiltIn) : Prop :=
  (∃ result, next = .over result) ∨ ∃ handler, next = loopOf settings handler chain

theorem Fresh.tidy {settings : Settings} {next : Phase BuiltIn} (fresh : Fresh settings chain next)
    (room : 0 < settings.blobCapacity) : Tidy next := by
  rcases fresh with ⟨result, rfl⟩ | ⟨handler, rfl⟩
  · trivial
  · rw [loopOf, Tidy, Blob.capacity_blank]
    exact room

theorem relents_begin (start : Start) (handler : BuiltIn) (relents : Relents supplies.keys) :
    Relents (begin start supplies handler).surroundings.keys := by
  cases start with
  | live identity role => exact handler.relents_init identity role relents
  | declared attributes => exact handler.relents_initFrom attributes relents

theorem fresh_enter (now : Negotiation BuiltIn) (relents : Relents supplies.keys) :
    let advanced := now.enter (fun handler => loopOf now.settings handler [now.protocol]) supplies
    Relents advanced.surroundings.keys ∧
      ∃ next, advanced.action = goOn next ∧ Fresh now.settings [now.protocol] next := by
  dsimp only
  rw [enter, prepare_eq]
  rcases (now.registry.create now.protocol).1 with fault | handler
  · exact ⟨relents, _, rfl, Or.inl ⟨_, rfl⟩⟩
  · refine ⟨relents_begin now.start handler relents, _, rfl, ?_⟩
    split
    · exact Or.inr ⟨_, rfl⟩
    · exact Or.inl ⟨_, rfl⟩

theorem fresh_follow (now : Negotiation BuiltIn) (handler : BuiltIn) (chain : List String)
    (relents : Relents supplies.keys) :
    Relents (now.follow handler chain supplies).surroundings.keys ∧
      ∃ name next, (now.follow handler chain supplies).action = goOn next ∧
        Fresh now.settings (chain ++ [name]) next := by
  rw [follow]
  split
  · exact ⟨relents, "", _, rfl, Or.inl ⟨_, rfl⟩⟩
  · rename_i name _
    dsimp only
    split
    · exact ⟨relents, "", _, rfl, Or.inl ⟨_, rfl⟩⟩
    · split
      · exact ⟨relents, "", _, rfl, Or.inl ⟨_, rfl⟩⟩
      · refine ⟨BuiltIn.relents_init _ _ _ relents, name, _, rfl, ?_⟩
        split
        · exact Or.inr ⟨_, rfl⟩
        · exact Or.inl ⟨_, rfl⟩

/-! ## Turns -/

structure Poised (loop : BlobLoop BuiltIn) (supplies : Supplies κ) : Prop where
  holding : Holding loop.chain loop.handler
  still : loop.handler.lifecycle.Open .blob
  room : 0 < loop.blob.capacity
  relents : Relents supplies.keys

theorem Orderly.poised (orderly : Orderly now supplies) (calling : now.phase = .calling loop) :
    Poised loop supplies := by
  have sound := orderly.sound
  have tidy := orderly.tidy
  rw [calling] at sound tidy
  cases sound with
  | calling holding still => exact ⟨holding, still, tidy, orderly.relents⟩

theorem Poised.eased (poised : Poised loop supplies)
    (bears : loop.handler.Bears supplies.keys loop.unread burden) :
    BuiltIn.Eased (turnOf loop supplies) loop.blob.capacity burden ∧
      (loop.after (turnOf loop supplies)).unread = 0 := by
  rcases loop with ⟨handler, chain, call, blob⟩
  cases call with
  | produce =>
      exact ⟨BuiltIn.eased_produce poised.still poised.room poised.relents bears, rfl⟩
  | consume =>
      obtain ⟨eased, taken⟩ := BuiltIn.eased_consume poised.still poised.relents bears
      refine ⟨eased, ?_⟩
      have noneLeft : SharedKey.pending (Handler.consume handler blob supplies).blob = [] := by
        rw [taken]
        exact Blob.unread_taken blob
      exact congrArg List.length noneLeft

theorem Orderly.proceed (orderly : Orderly now supplies)
    (leads : (now.advance supplies).action.Leads phase) :
    Orderly (now.proceed (now.advance supplies).registry phase)
      (now.advance supplies).surroundings := by
  have steps : Steps _ _ (now.advance supplies) := orderly.sound.steps orderly.furnished
  have sound := (steps.onward leads).sound
  have kept : Tidy phase ∧ Relents (now.advance supplies).surroundings.keys := by
    have tidy := orderly.tidy
    have relents := orderly.relents
    rcases shown : now.phase with _ | next | loop | ⟨loop, mode⟩ | ⟨handler, chain, mode⟩ | _ | _ |
      _ | result
    · rw [advance, shown, orderly.route] at leads ⊢
      obtain ⟨still, next, acts, fresh⟩ := now.fresh_enter relents
      rw [acts] at leads
      obtain rfl := leads_goOn_iff.mp leads
      exact ⟨fresh.tidy orderly.room, still⟩
    · rw [shown] at tidy
      exact tidy.elim
    · rw [advance_calling supplies shown] at leads ⊢
      have poised := orderly.poised shown
      obtain ⟨burden, bears⟩ := loop.handler.exists_bears relents loop.unread
      obtain ⟨eased, unread⟩ := poised.eased bears
      refine ⟨?_, eased.relents⟩
      cases closed_of_leads leads with
      | broken answered => trivial
      | unsent sent => trivial
      | obeying answered =>
          have sized : (loop.after (turnOf loop supplies)).blob.capacity = loop.blob.capacity :=
            eased.capacity_eq
          rw [Tidy, sized]
          exact ⟨poised.room, unread⟩
    · rw [advance_obeying supplies shown] at leads ⊢
      rw [shown] at tidy
      refine ⟨?_, relents⟩
      cases obeyed_of_leads leads with
      | unread received => trivial
      | reads frame =>
          rw [Tidy, Blob.capacity_load]
          exact tidy.1
      | writes => exact tidy.1
      | again => exact tidy.1
      | waits seconds => exact tidy.1
      | stops halts => trivial
    · by_cases delegated : mode = .delegated
      · subst delegated
        rw [advance, shown] at leads ⊢
        obtain ⟨still, name, next, acts, fresh⟩ := now.fresh_follow handler chain relents
        rw [acts] at leads
        obtain rfl := leads_goOn_iff.mp leads
        exact ⟨fresh.tidy orderly.room, still⟩
      · rw [advance_stopped supplies shown delegated] at leads ⊢
        obtain rfl := leads_goOn_iff.mp leads
        exact ⟨trivial, relents⟩
    · rw [shown] at tidy
      exact tidy.elim
    · rw [shown] at tidy
      exact tidy.elim
    · rw [shown] at tidy
      exact tidy.elim
    · rw [advance, shown] at leads
      cases leads
  exact ⟨steps.furnished, sound, orderly.route, orderly.room, kept.1, kept.2⟩

/-! ## Coming to rest -/

def receiving (loop : BlobLoop BuiltIn) (frame : Bytes) : Phase BuiltIn :=
  .calling { loop with blob := loop.blob.load frame, call := .consume }

/--
Whatever the channel answers, as long as it gives no more than so many bytes in all, a negotiation
is over in the end. Up to the next frame, or to the end without one, it makes at most so many steps.
-/
inductive Subsides : Nat → Nat → Negotiation BuiltIn → Supplies κ → Prop
  | over {spare count : Nat} {now : Negotiation BuiltIn} {supplies : Supplies κ}
      {result : Except Fault Outcome} (ended : now.phase = .over result) :
      Subsides spare count now supplies
  | reading {spare count : Nat} {now : Negotiation BuiltIn} {supplies : Supplies κ}
      {loop : BlobLoop BuiltIn} (asks : now.phase = .obeying loop .needData)
      (steps : ∀ (frame : Bytes) (fewer : Nat), frame.length + fewer < spare →
        frame.length ≤ loop.blob.capacity →
        (obey loop .needData).Leads (receiving loop frame) → Nat)
      (later : ∀ frame fewer few short leads, Subsides fewer (steps frame fewer few short leads)
        (now.proceed now.registry (receiving loop frame)) supplies) :
      Subsides spare count now supplies
  | step {spare count : Nat} {now : Negotiation BuiltIn} {supplies : Supplies κ}
      (busy : ∀ loop, now.phase ≠ .obeying loop .needData)
      (later : ∀ phase, (now.advance supplies).action.Leads phase →
        Subsides spare count (now.proceed (now.advance supplies).registry phase)
          (now.advance supplies).surroundings) :
      Subsides spare (count + 1) now supplies

theorem subsides_of_only (next : Phase BuiltIn)
    (busy : ∀ loop, now.phase ≠ .obeying loop .needData)
    (only : ∀ phase, (now.advance supplies).action.Leads phase → phase = next)
    (later : ∃ count, Subsides spare count (now.proceed (now.advance supplies).registry next)
      (now.advance supplies).surroundings) :
    ∃ count, Subsides spare count now supplies := by
  obtain ⟨count, subsides⟩ := later
  refine ⟨count + 1, .step busy fun phase leads => ?_⟩
  rw [only phase leads]
  exact subsides

def CallsSubside (κ : Type) [KeyStore κ] (spare length : Nat) : Prop :=
  ∀ (now : Negotiation BuiltIn) (supplies : Supplies κ) (loop : BlobLoop BuiltIn),
    Orderly now supplies → now.phase = .calling loop → loop.chain.length = length →
    ∃ count, Subsides spare count now supplies

theorem subsides_stopped (orderly : Orderly now supplies)
    (stopped : now.phase = .stopped handler chain mode)
    (heirs : chain.length + 1 ≤ 2 → CallsSubside κ spare (chain.length + 1)) :
    ∃ count, Subsides spare count now supplies := by
  have busy (loop : BlobLoop BuiltIn) : now.phase ≠ .obeying loop .needData := by simp [stopped]
  by_cases delegated : mode = .delegated
  · subst delegated
    have follows : now.advance supplies = now.follow handler chain supplies := by
      rw [advance, stopped]
    obtain ⟨_, name, next, acts, fresh⟩ := now.fresh_follow handler chain orderly.relents
    rw [← follows] at acts
    have only (phase : Phase BuiltIn) (leads : (now.advance supplies).action.Leads phase) :
        phase = next := by
      rw [acts] at leads
      exact leads_goOn_iff.mp leads
    refine subsides_of_only next busy only ?_
    have going : (now.advance supplies).action.Leads next := by
      rw [acts]
      exact leads_goOn_iff.mpr rfl
    have later := orderly.proceed going
    rcases fresh with ⟨result, rfl⟩ | ⟨heir, rfl⟩
    · exact ⟨0, .over rfl⟩
    · have short := (later.poised rfl).holding.linked.short
      rw [List.length_append, List.length_singleton] at short
      exact heirs short _ _ _ later rfl (by rw [List.length_append, List.length_singleton])
  · have concludes := advance_stopped supplies stopped delegated
    refine subsides_of_only (conclude handler mode) busy (fun phase leads => ?_)
      ⟨0, .over rfl⟩
    rw [concludes] at leads
    exact leads_goOn_iff.mp leads

def BurdenSubsides (κ : Type) [KeyStore κ] (spare length : Nat) (burden : Burden) : Prop :=
  ∀ (now : Negotiation BuiltIn) (supplies : Supplies κ) (loop : BlobLoop BuiltIn),
    Orderly now supplies → now.phase = .calling loop → loop.chain.length = length →
    loop.handler.Bears supplies.keys loop.unread burden →
    ∃ count, Subsides spare count now supplies

/-- What the calls after the present one come to: they have less to do, or fewer bytes to come. -/
structure Ahead (κ : Type) [KeyStore κ] (spare length : Nat) (burden : Burden) : Prop where
  heirs (short : length + 1 ≤ 2) : CallsSubside κ spare (length + 1)
  lighter (next : Burden) (less : next.Less burden) : BurdenSubsides κ spare length next
  received (fewer : Nat) (next : Burden) (less : fewer + next.bytes < spare + burden.bytes) :
    BurdenSubsides κ fewer length next

variable {length : Nat}

theorem subsides_reading (orderly : Orderly now supplies)
    (obeying : now.phase = .obeying loop .needData) (long : loop.chain.length = length)
    (relieved : Relieved (loop.handler.Bears supplies.keys 0) burden (.ok .needData))
    (ahead : Ahead κ spare length burden) : ∃ count, Subsides spare count now supplies := by
  obtain ⟨next, few, bears⟩ := relieved.reads
  have advanced := advance_obeying supplies obeying
  have each (frame : Bytes) (fewer : Nat) (less : frame.length + fewer < spare)
      (short : frame.length ≤ loop.blob.capacity)
      (leads : (obey loop .needData).Leads (receiving loop frame)) :
      ∃ count, Subsides fewer count (now.proceed now.registry (receiving loop frame)) supplies := by
    have going : (now.advance supplies).action.Leads (receiving loop frame) := by
      rw [advanced]
      exact leads
    have later := orderly.proceed going
    rw [advanced] at later
    have unread : (SharedKey.pending (loop.blob.load frame)).length = frame.length :=
      congrArg List.length (Blob.unread_load short)
    refine ahead.received fewer { next with bytes := next.bytes + frame.length } ?_ _ supplies
      { loop with blob := loop.blob.load frame, call := .consume } later rfl long ?_
    · dsimp only
      omega
    · rw [BlobLoop.unread, unread]
      exact bears.giving frame.length
  choose steps later using each
  exact ⟨0, .reading obeying steps later⟩

theorem subsides_obeying (orderly : Orderly now supplies) (obeying : now.phase = .obeying loop mode)
    (long : loop.chain.length = length)
    (relieved : Relieved (loop.handler.Bears supplies.keys 0) burden (.ok mode))
    (ahead : Ahead κ spare length burden) : ∃ count, Subsides spare count now supplies := by
  by_cases reads : mode = .needData
  · subst reads
    exact subsides_reading orderly obeying long relieved ahead
  · have unread : loop.unread = 0 := by
      have tidy := orderly.tidy
      rw [obeying] at tidy
      exact tidy.2
    have busy (other : BlobLoop BuiltIn) : now.phase ≠ .obeying other .needData := by
      rw [obeying]
      rintro ⟨⟩
      exact reads rfl
    have advanced := advance_obeying supplies obeying
    -- Each mode but that one has one phase after it.
    have going (next : Phase BuiltIn) (leads : (obey loop mode).Leads next)
        (only : ∀ phase, (obey loop mode).Leads phase → phase = next)
        (later : Orderly (now.proceed now.registry next) supplies →
          ∃ count, Subsides spare count (now.proceed now.registry next) supplies) :
        ∃ count, Subsides spare count now supplies := by
      have led : (now.advance supplies).action.Leads next := by
        rw [advanced]
        exact leads
      have orderly' := orderly.proceed led
      refine subsides_of_only next busy (fun phase leads => ?_) ?_
      · rw [advanced] at leads
        exact only phase leads
      · rw [advanced] at orderly' ⊢
        exact later orderly'
    have calls {next : BlobLoop BuiltIn} (goes : ¬ Halts mode)
        (handler : next.handler = loop.handler) (chain : next.chain = loop.chain)
        (noneUnread : next.unread = 0)
        (orderly' : Orderly (now.proceed now.registry (.calling next)) supplies) :
        ∃ count, Subsides spare count (now.proceed now.registry (.calling next)) supplies := by
      obtain ⟨lighter, less, bears⟩ := relieved.goes goes reads
      refine ahead.lighter lighter less _ supplies next orderly' rfl (by rw [chain, long]) ?_
      rw [noneUnread, handler]
      exact bears
    have stops (same : obey loop mode = goOn (.stopped loop.handler loop.chain mode)) :
        ∃ count, Subsides spare count now supplies := by
      refine going (.stopped loop.handler loop.chain mode) ?_ (fun phase leads => ?_)
        fun orderly' => ?_
      · rw [same]
        exact leads_goOn_iff.mpr rfl
      · rw [same] at leads
        exact leads_goOn_iff.mp leads
      · refine subsides_stopped orderly' rfl fun short => ?_
        rw [long] at short ⊢
        exact ahead.heirs short
    cases mode with
    | needData => exact absurd rfl reads
    | pendingData =>
        exact going _ (leads_goOn_iff.mpr rfl) (fun phase leads => leads_goOn_iff.mp leads)
          (calls id rfl rfl rfl)
    | «continue» =>
        exact going _ (leads_goOn_iff.mpr rfl) (fun phase leads => leads_goOn_iff.mp leads)
          (calls id rfl rfl unread)
    | wait seconds =>
        refine going _ (.pause seconds _) (fun phase leads => ?_) (calls id rfl rfl unread)
        cases leads
        rfl
    | _ => exact stops rfl

theorem subsides_calling (ahead : Ahead κ spare length burden) :
    BurdenSubsides κ spare length burden := by
  intro now supplies loop orderly calling long bears
  obtain ⟨eased, _⟩ := (orderly.poised calling).eased bears
  have advanced := advance_calling supplies calling
  have busy (other : BlobLoop BuiltIn) : now.phase ≠ .obeying other .needData := by simp [calling]
  -- All that may come after the turn is over, except the mode to be obeyed.
  have subsides (mode : Mode) (answered : (turnOf loop supplies).answer = .ok mode) :
      ∃ count, ∀ leads : (now.advance supplies).action.Leads
          (.obeying (loop.after (turnOf loop supplies)) mode),
        Subsides spare count (now.proceed (now.advance supplies).registry
          (.obeying (loop.after (turnOf loop supplies)) mode))
          (now.advance supplies).surroundings := by
    by_cases leads : (now.advance supplies).action.Leads
      (.obeying (loop.after (turnOf loop supplies)) mode)
    · have later := orderly.proceed leads
      have relieved := eased.relieved
      rw [answered] at relieved
      rw [advanced] at later ⊢
      obtain ⟨count, subsides⟩ := subsides_obeying later rfl long relieved ahead
      exact ⟨count, fun _ => subsides⟩
    · exact ⟨0, fun led => absurd led leads⟩
  rcases answered : (turnOf loop supplies).answer with fault | mode
  · refine ⟨1, .step busy fun phase leads => ?_⟩
    rw [advanced] at leads ⊢
    cases closed_of_leads leads with
    | broken _ => exact .over rfl
    | unsent _ => exact .over rfl
    | obeying other => cases answered.symm.trans other
  · obtain ⟨count, later⟩ := subsides mode answered
    refine ⟨count + 1, .step busy fun phase leads => ?_⟩
    have led := leads
    rw [advanced] at leads
    cases closed_of_leads leads with
    | broken _ => exact .over rfl
    | unsent _ => exact .over rfl
    | obeying other =>
        cases answered.symm.trans other
        exact later led

/-- By induction on the bytes to come, and then on what there is to do before more are needed. -/
theorem burdenSubsides (heirs : ∀ spare, length + 1 ≤ 2 → CallsSubside κ spare (length + 1))
    (spare : Nat) (burden : Burden) : BurdenSubsides κ spare length burden := by
  induction total : spare + burden.bytes using Nat.strongRecOn generalizing spare burden with
  | ind total more =>
      subst total
      revert more
      refine Burden.wellFounded_less.induction
        (C := fun burden => (∀ fewer, fewer < spare + burden.bytes → ∀ less (next : Burden),
          less + next.bytes = fewer → BurdenSubsides κ less length next) →
          BurdenSubsides κ spare length burden) burden fun burden lighter more => ?_
      refine subsides_calling ⟨heirs spare, fun next less => lighter next less ?_, ?_⟩
      · intro fewer few
        have fewest := less.le_bytes
        exact more fewer (by omega)
      · intro fewer next less
        exact more _ less fewer next rfl

/-- By induction on the delegations that are left. -/
theorem callsSubside (spare length : Nat) : CallsSubside κ spare length := by
  induction left : 2 - length generalizing length spare with
  | zero =>
      intro now supplies loop orderly calling long
      obtain ⟨burden, bears⟩ := loop.handler.exists_bears orderly.relents loop.unread
      exact burdenSubsides (fun _ more => by omega) spare burden now supplies loop orderly calling
        long bears
  | succ left ih =>
      intro now supplies loop orderly calling long
      obtain ⟨burden, bears⟩ := loop.handler.exists_bears orderly.relents loop.unread
      exact burdenSubsides (fun spare more => ih spare _ (by omega)) spare burden now supplies loop
        orderly calling long bears

theorem Orderly.subsides_opening (orderly : Orderly now supplies) (opening : now.phase = .opening)
    (spare : Nat) : ∃ count, Subsides spare count now supplies := by
  have entered : now.advance supplies =
      now.enter (fun handler => loopOf now.settings handler [now.protocol]) supplies := by
    rw [advance, opening, orderly.route]
  obtain ⟨_, next, acts, fresh⟩ := now.fresh_enter orderly.relents
  rw [← entered] at acts
  have leads : (now.advance supplies).action.Leads next := by
    rw [acts]
    exact leads_goOn_iff.mpr rfl
  have later := orderly.proceed leads
  refine subsides_of_only next (by simp [opening]) (fun phase leads => ?_) ?_
  · rw [acts] at leads
    exact leads_goOn_iff.mp leads
  · rcases fresh with ⟨result, rfl⟩ | ⟨handler, rfl⟩
    · exact ⟨0, .over rfl⟩
    · exact callsSubside spare 1 _ _ _ later rfl rfl

theorem ahead (spare length : Nat) (burden : Burden) : Ahead κ spare length burden := by
  have subsides (spare : Nat) (burden : Burden) : BurdenSubsides κ spare length burden :=
    burdenSubsides (fun spare _ => callsSubside spare (length + 1)) spare burden
  exact ⟨fun _ => callsSubside spare (length + 1), fun next _ => subsides spare next,
    fun fewer next _ => subsides fewer next⟩

theorem Orderly.subsides (orderly : Orderly now supplies) (spare : Nat) :
    ∃ count, Subsides spare count now supplies := by
  have tidy := orderly.tidy
  rcases shown : now.phase with _ | next | loop | ⟨loop, mode⟩ | ⟨handler, chain, mode⟩ | _ | _ |
    _ | result
  · exact orderly.subsides_opening shown spare
  · rw [shown] at tidy
    exact tidy.elim
  · exact callsSubside spare loop.chain.length now supplies loop orderly shown rfl
  · -- The mode has not come of a call here, so the handler bears what it has to do and one byte.
    obtain ⟨burden, bears⟩ := loop.handler.exists_bears orderly.relents 0
    have lighter : burden.Less { burden with bytes := burden.bytes + 1 } :=
      .bytes (Nat.lt_succ_self burden.bytes)
    exact subsides_obeying orderly shown rfl (.going lighter bears) (ahead spare _ _)
  · exact subsides_stopped orderly shown fun _ => callsSubside spare _
  · rw [shown] at tidy
    exact tidy.elim
  · rw [shown] at tidy
    exact tidy.elim
  · rw [shown] at tidy
    exact tidy.elim
  · exact ⟨0, .over shown⟩

inductive Rests : Nat → Negotiation BuiltIn → Supplies κ → Prop
  | over {count : Nat} {now : Negotiation BuiltIn} {supplies : Supplies κ}
      {result : Except Fault Outcome} (ended : now.phase = .over result) : Rests count now supplies
  | reading {count : Nat} {now : Negotiation BuiltIn} {supplies : Supplies κ}
      {loop : BlobLoop BuiltIn} (asks : now.phase = .obeying loop .needData) :
      Rests count now supplies
  | step {count : Nat} {now : Negotiation BuiltIn} {supplies : Supplies κ}
      (later : ∀ phase, (now.advance supplies).action.Leads phase →
        Rests count (now.proceed (now.advance supplies).registry phase)
          (now.advance supplies).surroundings) :
      Rests (count + 1) now supplies

theorem Subsides.rests {count : Nat} (subsides : Subsides spare count now supplies) :
    Rests count now supplies := by
  induction subsides with
  | «over» ended => exact .over ended
  | reading asks _ _ _ => exact .reading asks
  | step _ _ ih => exact .step ih

end Negotiation

end Parley
