import Parley.BuiltIn
import Parley.Proofs.Message.RoundTrip
import Parley.Proofs.Negotiation.Drives

/-!
Messages between sides that drive built-in handlers. A message goes over the channel in frames, each
with its header; the side whose handler has it to send says them, and the other side hears them and
gives its handler the last one.
-/

namespace Parley

open Conversation

/-- The bytes of a message on the channel, through blobs of a given capacity. -/
def Message.wire (capacity : Nat) (message : Message) : Bytes :=
  match message.encode with
  | .ok bytes => (Bytes.frames capacity bytes).flatMap Frame.encode
  | .error _ => []

theorem Message.wire_of_encode {capacity : Nat} {message : Message} {bytes : Bytes}
    (encoded : message.encode = .ok bytes) :
    message.wire capacity = (Bytes.frames capacity bytes).flatMap Frame.encode := by
  rw [wire, encoded]

theorem Message.short_frames (capacity : Nat) {message : Message} {bytes : Bytes}
    (encoded : message.encode = .ok bytes) :
    ∀ frame ∈ Bytes.frames capacity bytes, frame.length ≤ Frame.longestPayload := by
  intro frame listed
  have shorter := Bytes.length_le_of_mem_frames listed
  have short : bytes.length ≤ 2 + longestBody := by
    rw [Message.encode] at encoded
    split at encoded
    · cases encoded
    · cases encoded
      rw [List.length_append]
      simp only [Bytes.word16, List.length_cons, List.length_nil]
      omega
  rw [Frame.longestPayload]
  rw [longestBody] at short
  omega

theorem Message.flatMap_encode_ne_nil {frames : List Bytes} (someFrames : frames ≠ []) :
    frames.flatMap Frame.encode ≠ [] := by
  obtain ⟨frame, others, rfl⟩ := List.exists_cons_of_ne_nil someFrames
  rw [List.flatMap_cons]
  exact List.append_ne_nil_of_left_ne_nil (Frame.encode_ne_nil frame) _

theorem Message.wire_ne_nil (capacity : Nat) {message : Message} {bytes : Bytes}
    (encoded : message.encode = .ok bytes) : message.wire capacity ≠ [] := by
  rw [wire_of_encode encoded]
  exact flatMap_encode_ne_nil (Bytes.frames_ne_nil capacity bytes)

theorem Message.wire_ne_nil_of_fits (capacity : Nat) {message : Message}
    (fits : message.body.length ≤ longestBody) : message.wire capacity ≠ [] :=
  wire_ne_nil capacity (encode_of_fits fits)

namespace Drive

variable {κ : Type} [KeyStore κ] {drive : Drive BuiltIn} {handler middle last : BuiltIn}
  {frame final bytes rest : Bytes} {frames parts : List Bytes} {message : Message} {mode : Mode}
  {call : Call} {keys : κ} {now later : Supplies κ} {after nonces : NonceSupply} {time : Nat}
  {side : Side κ BuiltIn} {goal : Side κ BuiltIn → Prop}

def Calling (drive : Drive BuiltIn) (handler : BuiltIn) (keys : κ) (side : Side κ BuiltIn) : Prop :=
  ∃ blob : Blob, blob.capacity = drive.capacity ∧
    drive.Calls .inl ⟨handler, drive.chain, .produce, blob⟩ keys side

def Feeding (drive : Drive BuiltIn) (handler : BuiltIn) (frame : Bytes) (keys : κ)
    (side : Side κ BuiltIn) : Prop :=
  ∃ blob : Blob, blob.capacity = drive.capacity ∧
    drive.Calls .inl ⟨handler, drive.chain, .consume, blob.load frame⟩ keys side

def Obeying (drive : Drive BuiltIn) (call : Call) (handler : BuiltIn) (mode : Mode) (keys : κ)
    (side : Side κ BuiltIn) : Prop :=
  ∃ blob : Blob, blob.capacity = drive.capacity ∧
    drive.Obeys .inl ⟨handler, drive.chain, call, blob⟩ mode keys side

/-! ## Frames -/

theorem Calling.speaks
    (sends : Sends drive.capacity mode last later frames handler now)
    (short : ∀ frame ∈ frames, frame.length ≤ Frame.longestPayload)
    (calling : drive.Calling handler now.keys side)
    (onward : ∀ side, drive.Obeying .produce last mode later.keys side →
      Speaks (Side.Acts time) goal after rest later.nonces side) :
    Speaks (Side.Acts time) goal after (frames.flatMap Frame.encode ++ rest) now.nonces side := by
  induction sends generalizing side with
  | @last frame handler now fits produces =>
      obtain ⟨blob, sized, calls⟩ := calling
      obtain ⟨filled, contents, kept, produced⟩ := produces blob sized
      rw [List.flatMap_singleton]
      exact calls.speaks Handler.carries_inl (fun _ => rfl) produced rfl rfl contents
        fits.someBytes (short frame (by simp)) fun side obeys => onward side ⟨filled, kept, obeys⟩
  | @part frame frames handler next now middle fits produces sends ih =>
      obtain ⟨blob, sized, calls⟩ := calling
      obtain ⟨filled, contents, kept, produced⟩ := produces blob sized
      have someMore := List.append_ne_nil_of_left_ne_nil
        (Message.flatMap_encode_ne_nil sends.some_frames) rest
      rw [List.flatMap_cons, List.append_assoc]
      refine calls.speaks Handler.carries_inl (fun _ => rfl) produced rfl rfl contents
        fits.someBytes (short frame (by simp)) fun side obeys => ?_
      refine Leads.speaks someMore (obeys.leads_continue fun side calls => .here ?_)
      exact ih (fun frame listed => short frame (List.mem_cons_of_mem _ listed))
        ⟨filled, kept, calls⟩

theorem Calling.leads_waiting {next : BuiltIn}
    (waits : ∀ (blob : Blob) (now : Supplies κ),
      Handler.produce handler blob now = ⟨.ok .needData, next, blob, now⟩)
    (calling : drive.Calling handler keys side) :
    Leads (Side.Acts time) (drive.Obeying .produce next .needData keys) side := by
  obtain ⟨blob, sized, calls⟩ := calling
  refine .of_each fun nonces => ?_
  obtain ⟨other, quiet, obeys⟩ := calls.quiet_at Handler.carries_inl (fun _ => rfl)
    (waits blob.clear ⟨nonces, keys⟩) rfl (Or.inr (Blob.contents_clear blob))
  exact ⟨other, quiet, .here ⟨blob.clear, (Blob.capacity_clear blob).trans sized, obeys⟩⟩

theorem Feeding.quiet_at (feeding : drive.Feeding handler frame keys side)
    (consumes : Consumes drive.capacity handler ⟨nonces, keys⟩ frame mode last later) :
    ∃ next, QuietAt (Side.Acts time) nonces side later.nonces next ∧
      drive.Obeying .consume last mode later.keys next := by
  obtain ⟨blob, sized, calls⟩ := feeding
  obtain ⟨emptied, kept, consumed⟩ := consumes blob sized
  obtain ⟨next, quiet, obeys⟩ :=
    calls.quiet_at Handler.carries_inl (fun _ => rfl) consumed rfl (Or.inl rfl)
  exact ⟨next, quiet, emptied, kept, obeys⟩

theorem Obeying.hears (takes : Takes (Supplies κ) drive.capacity middle parts handler)
    (fits : ∀ frame ∈ parts ++ [final],
      frame.length ≤ drive.capacity ∧ frame.length ≤ Frame.longestPayload)
    (obeying : drive.Obeying call handler .needData keys side)
    (onward : ∀ side, Leads (Side.Acts time) (drive.Feeding middle final keys) side →
      Hears (Side.Acts time) goal rest side) :
    Hears (Side.Acts time) goal ((parts ++ [final]).flatMap Frame.encode ++ rest) side := by
  induction takes generalizing side call with
  | nothing =>
      obtain ⟨blob, sized, obeys⟩ := obeying
      obtain ⟨short, small⟩ := fits final (by simp)
      rw [List.nil_append, List.flatMap_singleton]
      exact obeys.hears (by rwa [sized]) small fun side leads =>
        onward side (leads.imp fun side calls => ⟨blob, sized, calls⟩)
  | @frame frame frames handler next consumes takes ih =>
      obtain ⟨blob, sized, obeys⟩ := obeying
      obtain ⟨short, small⟩ := fits frame (by simp)
      have someMore := List.append_ne_nil_of_left_ne_nil
        (Message.flatMap_encode_ne_nil (by simp : frames ++ [final] ≠ [])) rest
      rw [List.cons_append, List.flatMap_cons, List.append_assoc]
      refine obeys.hears (by rwa [sized]) small fun side leads => ?_
      refine Leads.hears someMore (leads.imp fun side calls => ?_)
      refine Leads.hears someMore (.of_each fun nonces => ?_)
      have feeding : drive.Feeding handler frame keys side := ⟨blob, sized, calls⟩
      obtain ⟨other, quiet, obeying⟩ := feeding.quiet_at (consumes _)
      refine ⟨other, quiet, .here ?_⟩
      exact ih (fun frame listed => fits frame (List.mem_cons_of_mem _ listed)) obeying

/-! ## Whole messages -/

theorem Calling.says (encoded : message.encode = .ok bytes)
    (sends : Sends drive.capacity mode last later (Bytes.frames drive.capacity bytes) handler now)
    (calling : drive.Calling handler now.keys side)
    (onward : ∀ side, drive.Obeying .produce last mode later.keys side →
      Speaks (Side.Acts time) goal after rest later.nonces side) :
    Speaks (Side.Acts time) goal after (message.wire drive.capacity ++ rest) now.nonces side := by
  rw [Message.wire_of_encode encoded]
  exact calling.speaks sends (Message.short_frames _ encoded) onward

variable {τ : Type} {into : τ → BuiltIn} {ends : Supplies κ → Mode → τ → Supplies κ → Prop}
  {gathered : Bytes → τ} {next : τ}

def Heard (drive : Drive BuiltIn) (into : τ → BuiltIn)
    (ends : Supplies κ → Mode → τ → Supplies κ → Prop) (keys : κ) (side : Side κ BuiltIn) : Prop :=
  ∃ middle final, drive.Feeding middle final keys side ∧
    ∀ {now later : Supplies κ} {mode : Mode} {next : τ}, ends now mode next later →
      Consumes drive.capacity middle now final mode (into next) later

theorem Heard.quiet_at (nonces : NonceSupply) (heard : drive.Heard into ends keys side)
    (ended : ends ⟨nonces, keys⟩ mode next later) :
    ∃ other, QuietAt (Side.Acts time) nonces side later.nonces other ∧
      drive.Obeying .consume (into next) mode later.keys other := by
  obtain ⟨middle, final, feeding, consumes⟩ := heard
  exact feeding.quiet_at (consumes ended)

theorem Obeying.hears_message [HasFace τ] [Handler (Supplies κ) τ]
    (carries : Handler.Carries (Supplies κ) into)
    (gathers : Gathers drive.capacity bytes ends gathered) (encoded : message.encode = .ok bytes)
    (room : 0 < drive.capacity)
    (obeying : drive.Obeying call (into (gathered [])) .needData keys side)
    (onward : ∀ side, Leads (Side.Acts time) (drive.Heard into ends keys) side →
      Hears (Side.Acts time) goal rest side) :
    Hears (Side.Acts time) goal (message.wire drive.capacity ++ rest) side := by
  have someBytes := Inbox.ne_nil_of_encode encoded
  have fits := Bytes.fits_frames room someBytes
  have short := Message.short_frames drive.capacity encoded
  have whole := Bytes.flatten_frames drive.capacity bytes
  rw [Message.wire_of_encode encoded]
  have someFrames := Bytes.frames_ne_nil drive.capacity bytes
  generalize Bytes.frames drive.capacity bytes = frames at fits short whole someFrames ⊢
  obtain ⟨parts, final, middle, rfl, takes, consumes⟩ :=
    gathers.takes [] fits someFrames whole.symm
  refine obeying.hears (takes.carried carries)
    (fun frame listed => ⟨(fits frame listed).short, short frame listed⟩) fun side leads =>
      onward side (leads.imp fun side feeding => ⟨_, _, feeding, fun ended => ?_⟩)
  exact (consumes ended).carried carries

end Drive

end Parley
