import Parley.Proofs.Negotiation.Abreast
import Parley.Proofs.Negotiation.Journal

/-!
Steps of drivers. Whatever the channel answers, a call through blobs, obedience to a mode and a
stretch of a takeover come to one of a few phases each.
-/

namespace Parley

inductive Alarms.Rings (alarms : Alarms) : Fault → Prop
  | cancelled : Rings alarms .cancelled
  | timedOut : Rings alarms alarms.timeoutFault

namespace Negotiation

variable {ω σ : Type} {phase : Phase σ} {loop : BlobLoop σ}

inductive Closed (loop : BlobLoop σ) (turn : Turn ω σ) : Phase σ → Prop
  | broken {fault : Fault} (answered : turn.answer = .error fault) :
      Closed loop turn (.over (.error fault))
  | unsent {fault : Fault} (sent : (Frame.send turn.blob.contents).Leads (.error fault)) :
      Closed loop turn (.over (.error fault))
  | obeying {mode : Mode} (answered : turn.answer = .ok mode) :
      Closed loop turn (.obeying (loop.after turn) mode)

theorem closed_of_leads {turn : Turn ω σ} (leads : (closeTurn loop turn).Leads phase) :
    Closed loop turn phase := by
  rw [closeTurn] at leads
  rcases answered : turn.answer with fault | mode
  · rw [answered] at leads
    obtain rfl := leads_goOn_iff.mp leads
    exact .broken answered
  · rw [answered] at leads
    dsimp only at leads
    split at leads
    · rcases leads with ⟨leads⟩
      obtain ⟨sent, talked, later⟩ := Dialogue.leads_bind_iff.mp leads
      rcases sent with fault | _
      · obtain rfl := Dialogue.leads_done_iff.mp later
        exact .unsent talked
      · obtain rfl := Dialogue.leads_done_iff.mp later
        exact .obeying answered
    · obtain rfl := leads_goOn_iff.mp leads
      exact .obeying answered

theorem exists_leads_closeTurn (loop : BlobLoop σ) (turn : Turn ω σ) :
    ∃ phase, (closeTurn loop turn).Leads phase := by
  rw [closeTurn]
  split
  · exact ⟨_, leads_goOn_iff.mpr rfl⟩
  · split
    · exact (Dialogue.exists_leads _).imp fun _ leads => .talk leads
    · exact ⟨_, leads_goOn_iff.mpr rfl⟩

/-- The modes at which a driver through blobs stops. -/
def Halts : Mode → Prop
  | .needData | .pendingData | .continue | .wait _ => False
  | _ => True

inductive Obeyed (loop : BlobLoop σ) : Mode → Phase σ → Prop
  | unread {fault : Fault} (received : (Frame.receive loop.blob.capacity).Leads (.error fault)) :
      Obeyed loop .needData (.over (.error fault))
  | reads (frame : Bytes) :
      Obeyed loop .needData
        (.calling { loop with blob := loop.blob.load frame, call := .consume })
  | writes : Obeyed loop .pendingData (.calling { loop with call := .produce })
  | again : Obeyed loop .continue (.calling loop)
  | waits (seconds : Nat) : Obeyed loop (.wait seconds) (.calling loop)
  | stops {mode : Mode} (halts : Halts mode) :
      Obeyed loop mode (.stopped loop.handler loop.chain mode)

theorem obeyed_of_leads {mode : Mode} (leads : (obey loop mode).Leads phase) :
    Obeyed loop mode phase := by
  cases mode with
  | needData =>
      rcases leads with ⟨leads⟩
      obtain ⟨received, talked, later⟩ := Dialogue.leads_bind_iff.mp leads
      rcases received with fault | frame
      · obtain rfl := Dialogue.leads_done_iff.mp later
        exact .unread talked
      · obtain rfl := Dialogue.leads_done_iff.mp later
        exact .reads frame
  | pendingData =>
      obtain rfl := leads_goOn_iff.mp leads
      exact .writes
  | «continue» =>
      obtain rfl := leads_goOn_iff.mp leads
      exact .again
  | wait seconds =>
      cases leads
      exact .waits seconds
  | _ =>
      obtain rfl := leads_goOn_iff.mp leads
      exact .stops trivial

def afterStretch (handler : σ) : Option Answer → Phase σ
  | none => .takingOver handler false
  | some (.error fault) => .over (.error fault)
  | some (.ok mode) => .tookOver handler mode

theorem stretch_of_leads [HasFace σ] [Handler ω σ] {handler : σ} {fresh : Bool} {surroundings : ω}
    (leads : (takeOver handler fresh surroundings).2.Leads phase) :
    ∃ next answer,
      (if fresh then Handler.takeOver handler surroundings
        else Handler.carryOn handler surroundings : Stretch ω σ).dialogue.Leads (next, answer) ∧
      phase = afterStretch next answer := by
  rcases leads with ⟨leads⟩
  obtain ⟨⟨next, answer⟩, talked, later⟩ := Dialogue.leads_bind_iff.mp leads
  refine ⟨next, answer, talked, ?_⟩
  rcases answer with _ | _ | _ <;> exact Dialogue.leads_done_iff.mp later

/-! ## How negotiations end -/

theorem rings_of_rung {alarms : Alarms} {now : Nat} {fault : Fault}
    (rung : alarms.rung now = some fault) : alarms.Rings fault := by
  rw [Alarms.rung] at rung
  split at rung
  · cases rung
    exact .cancelled
  · split at rung
    · cases rung
      exact .timedOut
    · cases rung

theorem rings_ring (alarms : Alarms) (now : Nat) : alarms.Rings (alarms.ring now).2 := by
  rw [Alarms.ring]
  rcases rung : alarms.rung (max now alarms.first) with _ | fault
  · exact .timedOut
  · exact rings_of_rung rung

theorem stop_of_perform {clock : Clock} {alarms : Alarms} {scene later : Scene}
    {action : Action (Phase σ)} {result : Except Fault Outcome}
    (performed : perform clock alarms scene action = .inr (result, later)) :
    (∃ fault, result = .error fault ∧ alarms.Rings fault) ∨ action = .stop result := by
  cases action with
  | stop given =>
      cases performed
      exact Or.inr rfl
  | lease _ => cases performed
  | release _ => cases performed
  | pause seconds next =>
      simp only [perform] at performed
      split at performed
      · rename_i fault rung
        cases performed
        exact Or.inl ⟨fault, rfl, rings_of_rung rung⟩
      · cases performed
  | talk dialogue =>
      simp only [perform] at performed
      split at performed
      · cases performed
      · cases performed
        exact Or.inl ⟨_, rfl, rings_ring alarms _⟩

section Stopping

variable [HasFace σ] [Handler ω σ]

theorem phase_of_stop {now : Negotiation σ} {surroundings : ω} {result : Except Fault Outcome}
    (stops : (now.advance surroundings).action = .stop result) : now.phase = .over result := by
  have notEnter (after : σ → Phase σ) : (now.enter after surroundings).action ≠ .stop result := by
    rw [enter]
    split <;> rintro ⟨⟩
  have notFollow (handler : σ) (chain : List String) :
      (now.follow handler chain surroundings).action ≠ .stop result := by
    rw [follow]
    split
    · rintro ⟨⟩
    · dsimp only
      split
      · rintro ⟨⟩
      · split <;> rintro ⟨⟩
  rw [advance] at stops
  dsimp only at stops
  split at stops
  · split at stops <;> exact absurd stops (notEnter _)
  · cases stops
  · rename_i loop phase
    have closed : closeTurn loop (turnOf loop surroundings) = .stop result := stops
    rw [closeTurn] at closed
    split at closed
    · cases closed
    · split at closed <;> cases closed
  · rename_i loop mode phase
    cases mode <;> cases stops
  · exact absurd stops (notFollow _ _)
  · cases stops
  · cases stops
  · cases stops
  · cases stops
  · exact absurd stops (notEnter _)
  · cases stops
  · cases stops
  · rename_i phase
    cases stops
    exact phase

theorem Course.result_of_end? {negotiation : Negotiation σ} {surroundings : ω} {alarms : Alarms}
    {bound : Nat} {moment : Moment ω σ} {ended : Ended ω σ}
    (course : Course negotiation surroundings moment.negotiation moment.surroundings)
    (ends : moment.end? alarms bound = some ended) :
    (∃ fault, ended.result = .error fault ∧ alarms.Rings fault) ∨
      ∃ now later, Course negotiation surroundings now later ∧ now.phase = .over ended.result := by
  obtain ⟨last, later, scene, after, course, performed, _⟩ := course.of_end? ends
  rcases stop_of_perform performed with rung | stops
  · exact Or.inl rung
  · exact Or.inr ⟨last, later, course, phase_of_stop stops⟩

end Stopping

end Negotiation

end Parley
