import Parley.Channel.Lease
import Parley.Channel.Script
import Parley.Negotiation
import Parley.Negotiation.Alarms

/-!
Running a negotiation against a scripted channel on a clock of its own. Only pauses and silence
take time. The run is cut short when its deadline comes due or when it is cancelled.
-/

namespace Parley

/-- What a negotiation runs against; times are in milliseconds. -/
structure Scene where
  shared : Shared Script
  leased : Bool := false
  now : Nat := 0
  pauses : List Nat := []

namespace Scene

def holder : String := "negotiation"

def lease (scene : Scene) : Bool × Scene :=
  match scene.shared.lease holder with
  | (.ok (), shared) => (true, { scene with shared, leased := true })
  | (.error _, _) => (false, scene)

def release (scene : Scene) : Scene :=
  if scene.leased then
    { scene with shared := { scene.shared with holder := none }, leased := false }
  else scene

def play {α : Type} (scene : Scene) (dialogue : Dialogue α) : Option α × Scene :=
  let (value, channel) := scene.shared.channel.play dialogue
  (value, { scene with shared := { scene.shared with channel } })

end Scene

structure Ended (ω σ : Type) where
  result : Except Fault Outcome
  registry : Registry σ
  surroundings : ω
  scene : Scene

namespace Negotiation

variable {ω σ : Type} [HasFace σ] [Handler ω σ]

def finish (result : Except Fault Outcome) (registry : Registry σ) (surroundings : ω)
    (scene : Scene) : Ended ω σ :=
  ⟨result, registry, surroundings, scene.release⟩

/-- Runs a negotiation to its end; nothing means that the bound on its phases is too small. -/
def runPhases (alarms : Alarms) :
    Nat → Negotiation σ → ω → Scene → Option (Ended ω σ)
  | 0, _, _, _ => none
  | bound + 1, negotiation, surroundings, scene =>
    let advanced := negotiation.advance surroundings
    let registry := advanced.registry
    let surroundings := advanced.surroundings
    let goOn (phase : Phase σ) (scene : Scene) :=
      runPhases alarms bound { negotiation with registry, phase } surroundings scene
    match advanced.action with
    | .stop result => some (finish result registry surroundings scene)
    | .lease next =>
      let (granted, scene) := scene.lease
      goOn (next granted) scene
    | .release phase => goOn phase scene.release
    | .pause seconds phase =>
      let (now, fault) := alarms.sleep scene.now (negotiation.clock.wake scene.now (1000 * seconds))
      let scene := { scene with now, pauses := scene.pauses ++ [seconds] }
      match fault with
      | some fault => some (finish (.error fault) registry surroundings scene)
      | none => goOn phase scene
    | .talk dialogue =>
      match scene.play dialogue with
      | (some phase, scene) => goOn phase scene
      | (none, scene) =>
        let (now, fault) := alarms.ring scene.now
        some (finish (.error fault) registry surroundings { scene with now })

def run (bound : Nat) (cancelAt : Option Nat) (negotiation : Negotiation σ) (surroundings : ω)
    (scene : Scene) : Option (Ended ω σ) :=
  let alarms := Alarms.starting cancelAt negotiation.settings scene.now
  match alarms.rung scene.now with
  | some fault => some ⟨.error fault, negotiation.registry, surroundings, scene⟩
  | none => runPhases alarms bound negotiation surroundings scene

end Negotiation

end Parley
