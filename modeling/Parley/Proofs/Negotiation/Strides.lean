import Parley.Proofs.Bytes.RoundTrip
import Parley.Proofs.Channel.Frame
import Parley.Proofs.Conversation.Leads
import Parley.Proofs.Negotiation.Bytewise

/-!
Strides of a side: from a phase to the next one, and through a frame that it sends or receives, byte
by byte.
-/

namespace Parley.Side

open Conversation

variable {κ σ : Type}

/-- How a side stands: what it negotiates, with which keys and with or without the lease. -/
structure At (negotiation : Negotiation σ) (keys : κ) (leased : Bool) (activity : Activity σ)
    (side : Side κ σ) : Prop where
  negotiation : side.negotiation = negotiation
  keys : side.keys = keys
  held : side.shared.isLeased = leased
  leased : side.leased = leased
  activity : side.activity = activity

variable [HasFace σ] [Handler (Supplies κ) σ] {side : Side κ σ} {negotiation : Negotiation σ}
  {keys kept : κ} {leased : Bool} {phase next : Phase σ} {registry : Registry σ}
  {nonces after : NonceSupply} {now : Nat} {later : Supplies κ} {dialogue : Dialogue (Phase σ)}
  {action : Action (Phase σ)} {goal : Side κ σ → Prop}

/-- What a side can do that stands in an activity, and what comes of it. -/
def Does (side : Side κ σ) (now : Nat) (nonces : NonceSupply) (act : Act UInt8)
    (other : Side κ σ) (later : NonceSupply) : Activity σ → Prop
  | .ready phase => act = .quiet ∧ (other, later) = side.proceed phase now nonces
  | .talking (.done phase) =>
    act = .quiet ∧ other = { side with activity := .ready phase } ∧ later = nonces
  | .talking (.write bytes answered) =>
    later = nonces ∧
      ((∃ part rest, part ≠ [] ∧ rest ≠ [] ∧ bytes = part ++ rest ∧ act = .send part ∧
        other =
          { side with
            activity := .talking (.write rest answered)
            partly := side.partly ++ part }) ∨
      (act = .send bytes ∧
        other =
          { side with
            activity := .talking (answered (.ok ()))
            partly := []
            written := side.written ++ [side.partly ++ bytes] }))
  | .talking (.read limit given) =>
    later = nonces ∧ ∃ part, part ≠ [] ∧ part.length ≤ limit ∧ act = .receive part ∧
      other = { side with activity := .talking (given (.ok part)) }
  | .asleep _ _ | .ended _ => False

theorem Acts.does {act : Act UInt8} {other : Side κ σ} {last : NonceSupply}
    (acts : Acts now side nonces act other last) :
    side.Does now nonces act other last side.activity := by
  cases acts with
  | proceeds ready =>
      rw [ready]
      exact ⟨rfl, rfl⟩
  | passes done =>
      rw [done]
      exact ⟨rfl, rfl, rfl⟩
  | @writes part rest _ writing somePart someRest =>
      rw [writing]
      exact ⟨rfl, Or.inl ⟨part, rest, somePart, someRest, rfl, rfl, rfl⟩⟩
  | wrote writing =>
      rw [writing]
      exact ⟨rfl, Or.inr ⟨rfl, rfl⟩⟩
  | @reads _ bytes _ reading someBytes short =>
      rw [reading]
      exact ⟨rfl, bytes, someBytes, short, rfl, rfl⟩

theorem At.does {activity : Activity σ} (stands : At negotiation keys leased activity side)
    {act : Act UInt8} {other : Side κ σ} {last : NonceSupply}
    (acts : Acts now side nonces act other last) : side.Does now nonces act other last activity :=
  stands.activity ▸ acts.does

/-! ## From phase to phase -/

theorem At.proceed (stands : At negotiation keys leased (.ready phase) side)
    (advance : { negotiation with phase }.advance (⟨nonces, keys⟩ : Supplies κ) =
      ⟨registry, later, action⟩) :
    side.proceed phase now nonces =
      (({ side with negotiation := { negotiation with registry }, keys := later.keys }).setOut now
        action, later.nonces) := by
  obtain ⟨rfl, rfl, _, _, _⟩ := stands
  simp only [Side.proceed, advance]

theorem At.acts_iff (stands : At negotiation keys leased (.ready phase) side)
    (advance : { negotiation with phase }.advance (⟨nonces, keys⟩ : Supplies κ) =
      ⟨registry, later, action⟩)
    (act : Act UInt8) (other : Side κ σ) (last : NonceSupply) :
    Acts now side nonces act other last ↔ act = .quiet ∧
      other = ({ side with
        negotiation := { negotiation with registry }
        keys := later.keys }).setOut now action ∧ last = later.nonces := by
  have proceeds : side.proceed phase now nonces = _ := stands.proceed advance
  constructor
  · intro acts
    obtain ⟨quiet, same⟩ := stands.does acts
    rw [proceeds] at same
    exact ⟨quiet, congrArg Prod.fst same, congrArg Prod.snd same⟩
  · rintro ⟨rfl, rfl, rfl⟩
    have acts : Acts now side nonces .quiet _ _ := .proceeds stands.activity
    rwa [proceeds] at acts

theorem At.quiet_at (stands : At negotiation keys leased (.ready phase) side)
    (advance : { negotiation with phase }.advance (⟨nonces, keys⟩ : Supplies κ) =
      ⟨registry, later, action⟩) :
    QuietAt (Acts now) nonces side later.nonces
      (({ side with negotiation := { negotiation with registry }, keys := later.keys }).setOut now
        action) :=
  stands.acts_iff advance

theorem At.leads (stands : At negotiation keys leased (.ready phase) side)
    (advance : ∀ nonces, ∃ registry kept action,
      { negotiation with phase }.advance (⟨nonces, keys⟩ : Supplies κ) =
        ⟨registry, ⟨nonces, kept⟩, action⟩ ∧
      Leads (Acts now) goal (({ side with
        negotiation := { negotiation with registry }
        keys := kept }).setOut now action)) : Leads (Acts now) goal side := by
  refine .of_each fun nonces => ?_
  obtain ⟨_, _, _, advance, leads⟩ := advance nonces
  exact ⟨_, stands.quiet_at advance, leads⟩

theorem At.leads_talk (stands : At negotiation keys leased (.ready phase) side)
    (advance : ∀ nonces, { negotiation with phase }.advance (⟨nonces, keys⟩ : Supplies κ) =
      ⟨registry, ⟨nonces, kept⟩, .talk dialogue⟩)
    (onward : ∀ side, At { negotiation with registry } kept leased (.talking dialogue) side →
      Leads (Acts now) goal side) : Leads (Acts now) goal side :=
  stands.leads fun nonces => ⟨_, _, _, advance nonces,
    onward _ ⟨rfl, rfl, stands.held, stands.leased, rfl⟩⟩

theorem At.leads_done (stands : At negotiation keys leased (.talking (.done phase)) side)
    (onward : ∀ side, At negotiation keys leased (.ready phase) side → Leads (Acts now) goal side) :
    Leads (Acts now) goal side := by
  refine .quiet (y := fun _ => { side with activity := .ready phase })
    (fun nonces act other last => ⟨stands.does, ?_⟩) fun _ =>
      onward _ ⟨stands.negotiation, stands.keys, stands.held, stands.leased, rfl⟩
  rintro ⟨rfl, rfl, rfl⟩
  exact .passes stands.activity

theorem At.leads_goOn (stands : At negotiation keys leased (.ready phase) side) (next : Phase σ)
    (advance : ∀ nonces, { negotiation with phase }.advance (⟨nonces, keys⟩ : Supplies κ) =
      ⟨registry, ⟨nonces, kept⟩, Negotiation.goOn next⟩)
    (onward : ∀ side, At { negotiation with registry } kept leased (.ready next) side →
      Leads (Acts now) goal side) : Leads (Acts now) goal side :=
  stands.leads_talk advance fun _ stands => stands.leads_done onward

theorem At.leads_lease {next : Bool → Phase σ}
    (stands : At negotiation keys false (.ready phase) side)
    (advance : ∀ nonces, { negotiation with phase }.advance (⟨nonces, keys⟩ : Supplies κ) =
      ⟨registry, ⟨nonces, kept⟩, .lease next⟩)
    (onward : ∀ side, At { negotiation with registry } kept true (.ready (next true)) side →
      Leads (Acts now) goal side) : Leads (Acts now) goal side := by
  refine stands.leads fun nonces => ⟨_, _, _, advance nonces, onward _ ?_⟩
  have held := stands.held
  simp only [setOut, held]
  exact ⟨rfl, rfl, rfl, rfl, rfl⟩

theorem At.leads_release {next : Phase σ}
    (stands : At negotiation keys leased (.ready phase) side)
    (advance : ∀ nonces, { negotiation with phase }.advance (⟨nonces, keys⟩ : Supplies κ) =
      ⟨registry, ⟨nonces, kept⟩, .release next⟩)
    (onward : ∀ side, At { negotiation with registry } kept false (.ready next) side →
      Leads (Acts now) goal side) : Leads (Acts now) goal side := by
  refine stands.leads fun nonces => ⟨_, _, _, advance nonces, onward _ ?_⟩
  have held := stands.held
  have leased := stands.leased
  simp only [setOut, release]
  split
  · exact ⟨rfl, rfl, rfl, rfl, rfl⟩
  · rename_i free
    rw [Bool.not_eq_true] at free
    rw [← leased, free] at held
    exact ⟨rfl, rfl, held, free, rfl⟩

theorem At.over_stop {result : Except Fault Outcome}
    (stands : At negotiation keys leased (.ready (.over result)) side) :
    Over (Acts now) (fun last => last.result? = some result) side := by
  have advance (nonces : NonceSupply) :
      { negotiation with phase := .over result }.advance (⟨nonces, keys⟩ : Supplies κ) =
        ⟨negotiation.registry, ⟨nonces, keys⟩, .stop result⟩ := rfl
  exact .quiet (fun nonces => stands.quiet_at (advance nonces)) fun _ =>
    .rests (fun _ _ _ _ acts => acts.does) rfl

/-! ## Frames -/

variable {bytes rest frame : Bytes} {answered : Except TransportError Unit → Dialogue (Phase σ)}

theorem At.speaks_write
    (stands : At negotiation keys leased (.talking (.write bytes answered)) side)
    (someBytes : bytes ≠ [])
    (onward : ∀ side, At negotiation keys leased (.talking (answered (.ok ()))) side →
      Speaks (Acts now) goal after rest nonces side) :
    Speaks (Acts now) goal after (bytes ++ rest) nonces side := by
  generalize size : bytes.length = count
  induction count using Nat.strongRecOn generalizing bytes side with
  | ind count ih =>
      subst size
      refine .sends (by simp [someBytes]) (fun act other later acts => ?_) ?_
        fun part left other later somePart split acts => ?_
      · obtain ⟨_, ⟨part, more, somePart, _, rfl, named, _⟩ | ⟨named, _⟩⟩ := stands.does acts
        · exact ⟨part, more ++ rest, somePart, by rw [List.append_assoc], named⟩
        · exact ⟨bytes, rest, someBytes, rfl, named⟩
      · obtain ⟨byte, more, rfl⟩ := List.exists_cons_of_ne_nil someBytes
        by_cases last : more = []
        · subst last
          exact ⟨byte, _, nonces, .wrote stands.activity⟩
        · have writing : side.activity = .talking (.write ([byte] ++ more) answered) :=
            stands.activity
          exact ⟨byte, _, nonces, .writes writing (by simp) last⟩
      · obtain ⟨rfl, ⟨_, more, _, someMore, rfl, named, rfl⟩ | ⟨named, rfl⟩⟩ := stands.does acts
        · cases named
          rw [List.append_assoc, List.append_cancel_left_eq] at split
          subst split
          have shorter : more.length < (part ++ more).length := by
            have positive := List.length_pos_iff.mpr somePart
            rw [List.length_append]
            omega
          exact ih _ shorter
            ⟨stands.negotiation, stands.keys, stands.held, stands.leased, rfl⟩ someMore rfl
        · cases named
          rw [List.append_cancel_left_eq] at split
          subst split
          exact onward _ ⟨stands.negotiation, stands.keys, stands.held, stands.leased, rfl⟩

theorem At.speaks_send {further : Except Fault Unit → Dialogue (Phase σ)}
    (stands : At negotiation keys leased (.talking ((Frame.send frame).bind further)) side)
    (short : frame.length ≤ Frame.longestPayload)
    (onward : ∀ side, At negotiation keys leased (.talking (further (.ok ()))) side →
      Speaks (Acts now) goal after rest nonces side) :
    Speaks (Acts now) goal after (Frame.encode frame ++ rest) nonces side := by
  rw [Frame.send, if_neg (by omega)] at stands
  exact stands.speaks_write (Frame.encode_ne_nil frame) onward

theorem At.hears_gather {further : Except Fault Bytes → Dialogue (Phase σ)} {bound : Nat}
    {gathered : Bytes}
    (stands : At negotiation keys leased
      (.talking ((Frame.gather bound bytes.length gathered).bind further)) side)
    (enough : bytes.length ≤ bound)
    (onward : ∀ side,
      At negotiation keys leased (.talking (further (.ok (gathered ++ bytes)))) side →
      Hears (Acts now) goal rest side) :
    Hears (Acts now) goal (bytes ++ rest) side := by
  induction bound generalizing bytes gathered side with
  | zero =>
      obtain rfl : bytes = [] := List.length_eq_zero_iff.mp (by omega)
      rw [List.append_nil] at onward
      exact onward side stands
  | succ bound ih =>
      rw [Frame.gather] at stands
      by_cases complete : bytes = []
      · subst complete
        rw [List.append_nil] at onward
        exact onward side stands
      · rw [if_neg (by simpa using complete)] at stands
        have heard {part left : Bytes} {shared later : NonceSupply} {other : Side κ σ}
            (somePart : part ≠ []) (split : bytes ++ rest = part ++ left)
            (acts : Acts now side shared (.receive part) other later) :
            later = shared ∧ Hears (Acts now) goal left other := by
          obtain ⟨rfl, _, _, short, named, rfl⟩ := stands.does acts
          cases named
          have first : part <+: bytes :=
            List.prefix_of_prefix_length_le ⟨left, split.symm⟩ (List.prefix_append bytes rest) short
          obtain ⟨more, rfl⟩ := first
          rw [List.append_assoc, List.append_cancel_left_eq] at split
          subst split
          have positive := List.length_pos_iff.mpr somePart
          rw [List.length_append] at enough
          rw [← List.append_assoc] at onward
          refine ⟨rfl, ih ⟨stands.negotiation, stands.keys, stands.held, stands.leased, ?_⟩
            (by omega) onward⟩
          obtain ⟨byte, others, rfl⟩ := List.exists_cons_of_ne_nil somePart
          have left : (byte :: others ++ more).length - (byte :: others).length =
              more.length := by simp
          dsimp only
          rw [left]
        refine .hears (by simp [complete]) (fun shared act other later acts => ?_)
          (fun shared item left split => ?_)
          (fun _ _ _ _ _ somePart split acts => (heard somePart split acts).1)
          fun _ _ _ _ _ somePart split acts => (heard somePart split acts).2
        · obtain ⟨_, part, somePart, _, named, _⟩ := stands.does acts
          exact ⟨part, somePart, named⟩
        · have positive := List.length_pos_iff.mpr complete
          exact ⟨_, .reads stands.activity (by simp) positive⟩

theorem At.hears_receive {further : Except Fault Bytes → Dialogue (Phase σ)} {limit : Nat}
    (stands : At negotiation keys leased (.talking ((Frame.receive limit).bind further)) side)
    (short : frame.length ≤ limit) (small : frame.length ≤ Frame.longestPayload)
    (onward : ∀ side, At negotiation keys leased (.talking (further (.ok frame))) side →
      Hears (Acts now) goal rest side) :
    Hears (Acts now) goal (Frame.encode frame ++ rest) side := by
  have stated : Bytes.number (Bytes.word32 frame.length) = frame.length :=
    Bytes.number_word32 (by rw [Frame.longestPayload] at small; omega)
  rw [Frame.receive, Dialogue.bind_bind, Frame.readExactly] at stands
  rw [Frame.encode, List.append_assoc]
  have header : At negotiation keys leased (.talking
      ((Frame.gather 4 (Bytes.word32 frame.length).length []).bind _)) side := stands
  refine header.hears_gather (Nat.le_refl _) fun side stands => ?_
  simp only [List.nil_append, stated] at stands
  rw [if_neg (by omega), Frame.readExactly] at stands
  exact stands.hears_gather (Nat.le_refl _) onward

end Parley.Side
