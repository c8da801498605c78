import Parley.Negotiation.Pair
import Parley.Proofs.Channel.Pipe
import Parley.Proofs.Conversation.Turns
import Parley.Proofs.Negotiation.Asking

/-!
Pairs byte by byte. Either side goes on whenever it likes, and it writes and reads as few bytes at a
time as it likes. Over a pipe of any size such a pair is a conversation of its sides, and what is
shown of it holds of the run in which each side goes on for as long as it can.
-/

namespace Parley

open Conversation

def End.across : End → End
  | .left => .right
  | .right => .left

section

variable {κ σ : Type} [HasFace σ] [Handler (Supplies κ) σ]

/-- A side goes on: it does what it can at once, or it writes or reads less than that. -/
inductive Side.Goes (side : Side κ σ) (common : Common) : Side κ σ → Common → Prop
  | step {next : Side κ σ} {later : Common} (stepped : side.step common = some (next, later)) :
      Goes side common next later
  | write {first rest : Bytes} {next : Except TransportError Unit → Dialogue (Phase σ)}
      {duplex : Duplex} (writing : side.activity = .talking (.write (first ++ rest) next))
      (someFirst : first ≠ []) (someRest : rest ≠ [])
      (taken : common.duplex.write side.shared.channel first = ([], some (.ok ()), duplex)) :
      Goes side common
        { side with activity := .talking (.write rest next), partly := side.partly ++ first }
        { common with duplex }
  | read {limit fewer : Nat} {next : Except TransportError Bytes → Dialogue (Phase σ)}
      {bytes : Bytes} {duplex : Duplex} (reading : side.activity = .talking (.read limit next))
      (positive : 0 < fewer) (less : fewer ≤ limit)
      (given : common.duplex.read side.shared.channel fewer = some (bytes, duplex)) :
      Goes side common { side with activity := .talking (next (.ok bytes)) } { common with duplex }

inductive Pair.Goes (pair : Pair κ σ) : Pair κ σ → Prop
  | left {left : Side κ σ} {common : Common} (goes : pair.left.Goes pair.common left common) :
      Goes pair { pair with left, common }
  | right {right : Side κ σ} {common : Common} (goes : pair.right.Goes pair.common right common) :
      Goes pair { pair with right, common }

def Side.Asks (side : Side κ σ) : Prop :=
  ∀ dialogue, side.activity = .talking dialogue → dialogue.Asks

namespace Side

def proceed (side : Side κ σ) (phase : Phase σ) (now : Nat) (nonces : NonceSupply) :
    Side κ σ × NonceSupply :=
  let advanced : Advance (Supplies κ) σ :=
    { side.negotiation with phase }.advance ⟨nonces, side.keys⟩
  let side :=
    { side with
      negotiation := { side.negotiation with registry := advanced.registry }
      keys := advanced.surroundings.keys }
  (side.setOut now advanced.action, advanced.surroundings.nonces)

/-- What a side does, apart from whether there is room for it or anything to read. -/
inductive Acts (now : Nat) (side : Side κ σ) (nonces : NonceSupply) :
    Act UInt8 → Side κ σ → NonceSupply → Prop
  | proceeds {phase : Phase σ} (ready : side.activity = .ready phase) :
      Acts now side nonces .quiet (side.proceed phase now nonces).1
        (side.proceed phase now nonces).2
  | passes {phase : Phase σ} (done : side.activity = .talking (.done phase)) :
      Acts now side nonces .quiet { side with activity := .ready phase } nonces
  | writes {part rest : Bytes} {next : Except TransportError Unit → Dialogue (Phase σ)}
      (writing : side.activity = .talking (.write (part ++ rest) next)) (somePart : part ≠ [])
      (someRest : rest ≠ []) :
      Acts now side nonces (.send part)
        { side with activity := .talking (.write rest next), partly := side.partly ++ part } nonces
  | wrote {bytes : Bytes} {next : Except TransportError Unit → Dialogue (Phase σ)}
      (writing : side.activity = .talking (.write bytes next)) :
      Acts now side nonces (.send bytes)
        { side with
          activity := .talking (next (.ok ()))
          partly := []
          written := side.written ++ [side.partly ++ bytes] } nonces
  | reads {limit : Nat} {bytes : Bytes} {next : Except TransportError Bytes → Dialogue (Phase σ)}
      (reading : side.activity = .talking (.read limit next)) (someBytes : bytes ≠ [])
      (short : bytes.length ≤ limit) :
      Acts now side nonces (.receive bytes) { side with activity := .talking (next (.ok bytes)) }
        nonces

variable {side next other : Side κ σ} {common later : Common} {phase : Phase σ}
  {nonces : NonceSupply} {now : Nat}

theorem step_ready (ready : side.activity = .ready phase) :
    side.step common =
      some ((side.proceed phase common.now common.nonces).1,
        { common with nonces := (side.proceed phase common.now common.nonces).2 }) := by
  rcases side with ⟨_, _, _, _, _, activity, _, _, _⟩
  obtain rfl : activity = .ready phase := ready
  rfl

theorem step_done (done : side.activity = .talking (.done phase)) :
    side.step common = some ({ side with activity := .ready phase }, common) := by
  rw [step, done]

theorem step_write {bytes : Bytes} {next : Except TransportError Unit → Dialogue (Phase σ)}
    {duplex : Duplex} (writing : side.activity = .talking (.write bytes next))
    (taken : common.duplex.write side.shared.channel bytes = ([], some (.ok ()), duplex)) :
    side.step common =
      some ({ side with
          activity := .talking (next (.ok ()))
          partly := []
          written := side.written ++ [side.partly ++ bytes] },
        { common with duplex }) := by
  simp only [step, writing, taken]

omit [HasFace σ] [Handler (Supplies κ) σ] in
theorem channel_setOut (side : Side κ σ) (now : Nat) (action : Action (Phase σ)) :
    (side.setOut now action).shared.channel = side.shared.channel := by
  have released : side.release.shared.channel = side.shared.channel := by
    rw [release]
    split <;> rfl
  cases action with
  | talk dialogue => rfl
  | pause seconds phase => rfl
  | lease next =>
      simp only [setOut]
      split <;> rfl
  | release phase => exact released
  | stop result => exact released

omit [HasFace σ] [Handler (Supplies κ) σ] in
theorem asks_setOut (side : Side κ σ) (now : Nat) {action : Action (Phase σ)}
    (asks : action.Asks) : (side.setOut now action).Asks := by
  cases action with
  | talk dialogue =>
      rintro _ ⟨⟩
      exact asks dialogue rfl
  | pause seconds phase =>
      simp only [setOut]
      split <;> exact nofun
  | lease next =>
      rw [setOut]
      split <;> exact nofun
  | release phase => exact nofun
  | stop result => exact nofun

/-! ## What a side does, at its pipes -/

variable {capacity : Nat} {place : End} {here there : Bytes}

structure Stands (capacity now : Nat) (place : End) (here there : Bytes) (side : Side κ σ)
    (common : Common) : Prop where
  channel : side.shared.channel = place
  asks : side.Asks
  now : common.now = now
  duplex : common.duplex = Duplex.between capacity place here there
  arriving : here.length ≤ capacity
  leaving : there.length ≤ capacity

def sight (side other : Side κ σ) (common : Common) (here there : Bytes) :
    Link (Side κ σ) NonceSupply UInt8 :=
  ⟨side, other, common.nonces, here, there⟩

def Moved (capacity now : Nat) (place : End) (here there : Bytes) (side other : Side κ σ)
    (common : Common) (next : Side κ σ) (later : Common) : Prop :=
  ∃ arriving leaving, next.Stands capacity now place arriving leaving later ∧
    Conversation.Step (Acts now) (fun items => items.length ≤ capacity)
      (sight side other common here there) (sight next other later arriving leaving)

variable (other : Side κ σ) {part rest : Bytes}
  {answered : Except TransportError Unit → Dialogue (Phase σ)}
  {given : Except TransportError Bytes → Dialogue (Phase σ)}

theorem Stands.writes (stands : side.Stands capacity now place here there common)
    (writing : side.activity = .talking (.write (part ++ rest) answered)) (somePart : part ≠ [])
    (someRest : rest ≠ []) (room : (there ++ part).length ≤ capacity) :
    Moved capacity now place here there side other common
      { side with activity := .talking (.write rest answered), partly := side.partly ++ part }
      { common with duplex := .between capacity place here (there ++ part) } := by
  obtain ⟨channel, asks, sameNow, joined, arriving, _⟩ := stands
  refine ⟨here, there ++ part, ⟨channel, ?_, sameNow, rfl, arriving, room⟩,
    .send (.writes writing somePart someRest) room⟩
  rintro _ ⟨⟩
  cases asks _ writing with
  | write later => exact .write later

theorem Stands.wrote (stands : side.Stands capacity now place here there common)
    (writing : side.activity = .talking (.write part answered))
    (room : (there ++ part).length ≤ capacity) :
    Moved capacity now place here there side other common
      { side with
        activity := .talking (answered (.ok ()))
        partly := []
        written := side.written ++ [side.partly ++ part] }
      { common with duplex := .between capacity place here (there ++ part) } := by
  obtain ⟨channel, asks, sameNow, joined, arriving, _⟩ := stands
  refine ⟨here, there ++ part, ⟨channel, ?_, sameNow, rfl, arriving, room⟩,
    .send (.wrote writing) room⟩
  rintro _ ⟨⟩
  cases asks _ writing with
  | write later => exact later _

theorem Stands.reads (stands : side.Stands capacity now place here there common)
    {limit fewer : Nat} (reading : side.activity = .talking (.read limit given))
    (positive : 0 < fewer) (less : fewer ≤ limit) (someHere : here ≠ []) :
    Moved capacity now place here there side other common
      { side with activity := .talking (given (.ok (here.take fewer))) }
      { common with duplex := .between capacity place (here.drop fewer) there } := by
  obtain ⟨channel, asks, sameNow, joined, arriving, leaving⟩ := stands
  have someTaken : here.take fewer ≠ [] := by
    have length := List.length_pos_iff.mpr someHere
    rw [← List.length_pos_iff, List.length_take]
    omega
  have shortTaken : (here.take fewer).length ≤ limit := by
    rw [List.length_take]
    omega
  have fewerLeft : (here.drop fewer).length ≤ capacity := by
    rw [List.length_drop]
    omega
  refine ⟨here.drop fewer, there, ⟨channel, ?_, sameNow, rfl, fewerLeft, leaving⟩,
    .receive (.reads reading someTaken shortTaken) (List.take_append_drop _ _).symm⟩
  rintro _ ⟨⟩
  cases asks _ reading with
  | read _ later => exact later _

theorem Stands.stepped_write (stands : side.Stands capacity now place here there common)
    {bytes : Bytes} (writing : side.activity = .talking (.write bytes answered))
    (stepped : side.step common = some (next, later)) :
    Moved capacity now place here there side other common next later := by
  simp only [Side.step, writing, stands.channel, stands.duplex] at stepped
  rcases written : (Duplex.between capacity place here there).write place bytes with
    ⟨rest, answer, duplex⟩
  rw [written] at stepped
  obtain ⟨part, rfl, rfl, room, rfl⟩ := Duplex.write_split written
  rcases rest with _ | ⟨byte, rest⟩
  · simp only [List.isEmpty_nil, if_true, List.append_nil, Option.some.injEq,
      Prod.mk.injEq] at stepped writing
    obtain ⟨rfl, rfl⟩ := stepped
    exact stands.wrote other writing (room stands.leaving)
  · simp only [List.isEmpty_cons, Bool.false_eq_true, if_false] at stepped
    split at stepped
    · cases stepped
    · rename_i moved
      have somePart : part ≠ [] := by
        rintro rfl
        exact moved rfl
      have taken : (part ++ byte :: rest).take
          ((part ++ byte :: rest).length - (byte :: rest).length) = part := by
        simp
      simp only [taken, Option.some.injEq, Prod.mk.injEq] at stepped
      obtain ⟨rfl, rfl⟩ := stepped
      exact stands.writes other writing somePart (by simp) (room stands.leaving)

theorem Stands.stepped_read (stands : side.Stands capacity now place here there common)
    {limit : Nat} (reading : side.activity = .talking (.read limit given))
    (stepped : side.step common = some (next, later)) :
    Moved capacity now place here there side other common next later := by
  simp only [Side.step, reading, stands.channel, stands.duplex] at stepped
  rw [Duplex.read_between] at stepped
  cases stands.asks _ reading with
  | read positive _ =>
      split at stepped
      · cases stepped
      · rename_i taken
        split at taken
        · cases taken
        · rename_i someHere
          cases taken
          cases stepped
          exact stands.reads other reading positive (Nat.le_refl _) someHere

theorem Stands.stepped (asking : Handler.Asking (Supplies κ) σ)
    (stands : side.Stands capacity now place here there common)
    (stepped : side.step common = some (next, later)) :
    Moved capacity now place here there side other common next later := by
  have channel := stands.channel
  have joined := stands.duplex
  obtain rfl := stands.now
  cases activity : side.activity with
  | ended result => simp [Side.step, activity] at stepped
  | asleep wake phase => simp [Side.step, activity] at stepped
  | ready phase =>
      rw [step_ready activity] at stepped
      cases stepped
      refine ⟨here, there, ⟨?_, ?_, rfl, joined, stands.arriving, stands.leaving⟩,
        .quiet (.proceeds activity)⟩
      · exact (channel_setOut _ _ _).trans channel
      · exact asks_setOut _ _ (Negotiation.asks_advance asking _ _)
  | talking dialogue =>
      cases dialogue with
      | done phase =>
          simp only [Side.step, activity, Option.some.injEq, Prod.mk.injEq] at stepped
          obtain ⟨rfl, rfl⟩ := stepped
          exact ⟨here, there, ⟨channel, nofun, rfl, joined, stands.arriving, stands.leaving⟩,
            .quiet (.passes activity)⟩
      | write bytes answered => exact stands.stepped_write other activity stepped
      | read limit given => exact stands.stepped_read other activity stepped

theorem Goes.moved (asking : Handler.Asking (Supplies κ) σ)
    (stands : side.Stands capacity now place here there common)
    (goes : side.Goes common next later) :
    Moved capacity now place here there side other common next later := by
  have channel := stands.channel
  have joined := stands.duplex
  cases goes with
  | step stepped => exact stands.stepped other asking stepped
  | write writing someFirst someRest taken =>
      rw [channel, joined] at taken
      obtain ⟨part, split, rfl, room, _⟩ := Duplex.write_split taken
      rw [List.append_nil] at split
      subst split
      exact stands.writes other writing someFirst someRest (room stands.leaving)
  | read reading positive less taken =>
      rw [channel, joined, Duplex.read_between] at taken
      split at taken
      · cases taken
      · rename_i someHere
        cases taken
        exact stands.reads other reading positive less someHere

theorem Stands.goes (stands : side.Stands capacity now place here there common)
    {after : Link (Side κ σ) NonceSupply UInt8}
    (step : Conversation.Step (Acts now) (fun items => items.length ≤ capacity)
      (sight side other common here there) after) :
    ∃ next later, side.Goes common next later := by
  have channel := stands.channel
  have joined := stands.duplex
  cases step with
  | quiet act =>
      cases act with
      | proceeds ready => exact ⟨_, _, .step (step_ready ready)⟩
      | passes done => exact ⟨_, _, .step (step_done done)⟩
  | send act room =>
      have taken : (Duplex.between capacity place here there).write place _ = _ :=
        Duplex.write_of_room room
      rw [← joined, ← channel] at taken
      cases act with
      | writes writing somePart someRest =>
          exact ⟨_, _, .write writing somePart someRest taken⟩
      | wrote writing =>
          exact ⟨_, _, .step (step_write writing taken)⟩
  | @receive _ _ bytes _ act split =>
      cases act with
      | reads reading someBytes short =>
          have someHere : here ≠ [] := by
            rintro rfl
            exact someBytes (List.append_eq_nil_iff.mp split.symm).1
          have given : (Duplex.between capacity place here there).read place bytes.length = _ :=
            Duplex.read_between bytes.length
          rw [if_neg someHere, ← joined, ← channel] at given
          exact ⟨_, _, .read reading (List.length_pos_iff.mpr someBytes) short given⟩

/-- A side that can go on at all can do what it could do at once. -/
theorem Goes.step_ne_none (stands : side.Stands capacity now place here there common)
    (goes : side.Goes common next later) : side.step common ≠ none := by
  have channel := stands.channel
  have joined := stands.duplex
  cases goes with
  | step stepped =>
      rw [stepped]
      simp
  | @write first rest _ _ writing someFirst someRest taken =>
      rw [channel, joined] at taken
      obtain ⟨part, split, _, room, _⟩ := Duplex.write_split taken
      rw [List.append_nil] at split
      subst split
      have roomy := room stands.leaving
      have positive := List.length_pos_iff.mpr someFirst
      rw [List.length_append] at roomy
      intro stuck
      simp only [Side.step, writing, channel, joined, Duplex.write_between] at stuck
      split at stuck
      · cases stuck
      · cases stuck
      · split at stuck
        · rename_i result unmoved
          have left := congrArg (fun written => written.1.length) result
          simp only [List.length_drop, List.length_append] at left unmoved
          omega
        · cases stuck
  | read reading positive less taken =>
      rw [channel, joined, Duplex.read_between] at taken
      split at taken
      · cases taken
      · rename_i someHere
        simp [Side.step, reading, channel, joined, Duplex.read_between, someHere]

end Side

namespace Pair

variable {pair : Pair κ σ} {capacity now : Nat}

def link (pair : Pair κ σ) : Link (Side κ σ) NonceSupply UInt8 where
  one := pair.left
  other := pair.right
  shared := pair.common.nonces
  toOne := pair.common.duplex.fromRight.queued
  toOther := pair.common.duplex.fromLeft.queued

def Joined (capacity now : Nat) (pair : Pair κ σ) : Prop :=
  ∃ here there, pair.left.Stands capacity now .left here there pair.common ∧
    pair.right.Stands capacity now .right there here pair.common

omit [HasFace σ] [Handler (Supplies κ) σ] in
theorem link_left {here there : Bytes}
    (stands : pair.left.Stands capacity now .left here there pair.common) :
    pair.link = pair.left.sight pair.right pair.common here there := by
  rw [link, stands.duplex]
  rfl

omit [HasFace σ] [Handler (Supplies κ) σ] in
theorem link_right {here there : Bytes}
    (stands : pair.right.Stands capacity now .right here there pair.common) :
    pair.link = (pair.right.sight pair.left pair.common here there).swap := by
  rw [link, stands.duplex]
  rfl

omit [HasFace σ] [Handler (Supplies κ) σ] in
theorem stands_across {side other : Side κ σ} {common later : Common} {place across : End}
    {here there arriving leaving : Bytes}
    (stands : side.Stands capacity now place here there common)
    (moved : other.Stands capacity now across arriving leaving later)
    (opposite : place ≠ across) : side.Stands capacity now place leaving arriving later := by
  have same : Duplex.between capacity across arriving leaving =
      Duplex.between capacity place leaving arriving := by
    cases place <;> cases across <;> first | rfl | exact absurd rfl opposite
  exact ⟨stands.channel, stands.asks, moved.now, moved.duplex.trans same, moved.leaving,
    moved.arriving⟩

theorem Joined.moved (asking : Handler.Asking (Supplies κ) σ) {next : Pair κ σ}
    (joined : pair.Joined capacity now) (goes : pair.Goes next) :
    next.Joined capacity now ∧
      Move (Side.Acts now) (fun items => items.length ≤ capacity) pair.link next.link := by
  obtain ⟨here, there, left, right⟩ := joined
  cases goes with
  | @left moved common goes =>
      obtain ⟨arriving, leaving, stands, step⟩ := goes.moved pair.right asking left
      refine ⟨⟨arriving, leaving, stands, stands_across right stands nofun⟩, ?_⟩
      have after : Pair.link { pair with left := moved, common } = _ := link_left stands
      rw [link_left left, after]
      exact .here step
  | @right moved common goes =>
      obtain ⟨arriving, leaving, stands, step⟩ := goes.moved pair.left asking right
      refine ⟨⟨leaving, arriving, stands_across left stands nofun, stands⟩, ?_⟩
      have after : Pair.link { pair with right := moved, common } = _ := link_right stands
      rw [link_right right, after]
      exact .there step

theorem Joined.goes {after : Link (Side κ σ) NonceSupply UInt8} (joined : pair.Joined capacity now)
    (moved : Move (Side.Acts now) (fun items => items.length ≤ capacity) pair.link after) :
    ∃ next, pair.Goes next := by
  obtain ⟨here, there, left, right⟩ := joined
  cases moved with
  | here step =>
      rw [link_left left] at step
      obtain ⟨_, _, goes⟩ := left.goes pair.right step
      exact ⟨_, .left goes⟩
  | there step =>
      rw [link_right right] at step
      obtain ⟨_, _, goes⟩ := right.goes pair.left step
      exact ⟨_, .right goes⟩

theorem Joined.settles (asking : Handler.Asking (Supplies κ) σ)
    {goal : Link (Side κ σ) NonceSupply UInt8 → Prop} (joined : pair.Joined capacity now)
    (settles : Settles (Move (Side.Acts now) fun items => items.length ≤ capacity) goal pair.link) :
    Settles Pair.Goes (fun last => goal last.link) pair := by
  refine settles.of_map Pair.link (Joined capacity now)
    (fun _ _ joined goes => joined.moved asking goes) (fun _ joined stuck _ moved => ?_) joined
  obtain ⟨next, goes⟩ := joined.goes moved
  exact stuck next goes

/-! ## Turns that last as long as they can -/

theorem goes_of_step {turn : End} {waiting : Bool} {next : Pair κ σ}
    (stepped : { pair with turn, waiting }.step = some next) :
    ∃ after, pair.Goes after ∧ next = { after with turn, waiting := false } := by
  cases turn with
  | left =>
      obtain ⟨⟨moved, common⟩, taken, rfl⟩ := Option.map_eq_some_iff.mp stepped
      exact ⟨{ pair with left := moved, common }, .left (.step taken), rfl⟩
  | right =>
      obtain ⟨⟨moved, common⟩, taken, rfl⟩ := Option.map_eq_some_iff.mp stepped
      exact ⟨{ pair with right := moved, common }, .right (.step taken), rfl⟩

theorem Joined.stuck (joined : pair.Joined capacity now) (waiting otherWaiting : Bool)
    (leftStuck : { pair with turn := .left, waiting }.step = none)
    (rightStuck : { pair with turn := .right, waiting := otherWaiting }.step = none) :
    ∀ next, ¬ pair.Goes next := by
  obtain ⟨here, there, left, right⟩ := joined
  intro next goes
  cases goes with
  | left goes => exact goes.step_ne_none left (Option.map_eq_none_iff.mp leftStuck)
  | right goes => exact goes.step_ne_none right (Option.map_eq_none_iff.mp rightStuck)

omit [HasFace σ] [Handler (Supplies κ) σ] in
theorem passTime_of_ended (left : pair.left.result? ≠ none) (right : pair.right.result? ≠ none) :
    pair.passTime = none := by
  have times (side : Side κ σ) (ended : side.result? ≠ none) : side.times = [] := by
    rw [Side.result?] at ended
    rw [Side.times]
    split at ended
    · rename_i result activity
      rw [activity]
    · exact absurd rfl ended
  rw [passTime, times _ left, times _ right]
  rfl

/-- What every way to go on comes to is what comes of turns that last as long as they can. -/
theorem Joined.run (asking : Handler.Asking (Supplies κ) σ)
    {goal : Link (Side κ σ) NonceSupply UInt8 → Prop} (joined : pair.Joined capacity now)
    (settles : Settles Pair.Goes (fun last => goal last.link) pair)
    (ended : ∀ last : Pair κ σ, goal last.link →
      last.left.result? ≠ none ∧ last.right.result? ≠ none)
    (turn : End) :
    ∃ bound last, Pair.run bound { pair with turn, waiting := false } = some last ∧
      goal last.link := by
  induction settles generalizing turn with
  | @intro pair moves ends ih =>
      have onward {turn : End} {waiting : Bool} {next : Pair κ σ}
          (stepped : { pair with turn, waiting }.step = some next) :
          ∃ bound last, Pair.run bound next = some last ∧ goal last.link := by
        obtain ⟨after, goes, rfl⟩ := goes_of_step stepped
        exact ih after goes (joined.moved asking goes).1 turn
      rcases stepped : { pair with turn, waiting := false }.step with _ | next
      · have switched (bound : Nat) : Pair.run (bound + 1) { pair with turn, waiting := false } =
            Pair.run bound { pair with turn := turn.across, waiting := true } := by
          rw [Pair.run, stepped]
          rfl
        rcases others : { pair with turn := turn.across, waiting := true }.step with _ | next
        · have stuck : ∀ next, ¬ pair.Goes next := by
            cases turn with
            | left => exact joined.stuck false true stepped others
            | right => exact joined.stuck true false others stepped
          obtain ⟨left, right⟩ := ended _ (ends stuck)
          refine ⟨2, { pair with turn := turn.across, waiting := true }, ?_, ends stuck⟩
          have timeless : { pair with turn := turn.across, waiting := true }.passTime = none :=
            passTime_of_ended left right
          rw [switched, Pair.run, others]
          simp only [if_true]
          rw [timeless]
        · obtain ⟨bound, last, ran, reached⟩ := onward others
          refine ⟨bound + 2, last, ?_, reached⟩
          rw [switched, Pair.run, others]
          exact ran
      · obtain ⟨bound, last, ran, reached⟩ := onward stepped
        refine ⟨bound + 1, last, ?_, reached⟩
        rw [Pair.run, stepped]
        exact ran

end Pair

end

end Parley
