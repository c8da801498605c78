import Parley.Proofs.Handler.Sum

/-!
Frames. A handler hands a message out in frames, one with each call on an empty blob, and takes one
in from frames that come in blobs of the same capacity.
-/

namespace Parley

/-- The frames of a byte string: as many full ones as there are, and then the rest. -/
def Bytes.frames (capacity : Nat) (bytes : Bytes) : List Bytes :=
  if capacity = 0 ∨ bytes.length ≤ capacity then [bytes]
  else bytes.take capacity :: frames capacity (bytes.drop capacity)
termination_by bytes.length
decreasing_by
  rw [List.length_drop]
  omega

theorem Bytes.frames_ne_nil (capacity : Nat) (bytes : Bytes) : frames capacity bytes ≠ [] := by
  rw [frames]
  split <;> simp

theorem Bytes.flatten_frames (capacity : Nat) (bytes : Bytes) :
    (frames capacity bytes).flatten = bytes := by
  induction bytes using frames.induct capacity with
  | case1 bytes few => rw [frames, if_pos few, List.flatten_singleton]
  | case2 bytes many ih =>
      rw [frames, if_neg many, List.flatten_cons, ih, List.take_append_drop]

theorem Bytes.length_le_of_mem_frames {capacity : Nat} {bytes frame : Bytes}
    (listed : frame ∈ frames capacity bytes) : frame.length ≤ bytes.length := by
  induction bytes using frames.induct capacity with
  | case1 bytes few =>
      rw [frames, if_pos few, List.mem_singleton] at listed
      exact Nat.le_of_eq (congrArg List.length listed)
  | case2 bytes many ih =>
      rw [frames, if_neg many, List.mem_cons] at listed
      rcases listed with rfl | later
      · exact List.length_take_le' _ _
      · have shorter := ih later
        rw [List.length_drop] at shorter
        omega

variable {ω σ τ : Type} [HasFace σ] [Handler ω σ] [HasFace τ] [Handler ω τ]

def Produces (capacity : Nat) (handler : σ) (now : ω) (frame : Bytes) (mode : Mode) (next : σ)
    (later : ω) : Prop :=
  ∀ blob : Blob, blob.capacity = capacity → ∃ filled : Blob, filled.contents = frame ∧
    filled.capacity = capacity ∧
    Handler.produce handler blob.clear now = ⟨.ok mode, next, filled, later⟩

def Consumes (capacity : Nat) (handler : σ) (now : ω) (frame : Bytes) (mode : Mode) (next : σ)
    (later : ω) : Prop :=
  ∀ blob : Blob, blob.capacity = capacity → ∃ emptied : Blob, emptied.capacity = capacity ∧
    Handler.consume handler (blob.load frame) now = ⟨.ok mode, next, emptied, later⟩

structure Fits (capacity : Nat) (frame : Bytes) : Prop where
  someBytes : frame ≠ []
  short : frame.length ≤ capacity

theorem Bytes.fits_frames {capacity : Nat} (room : 0 < capacity) {bytes : Bytes}
    (someBytes : bytes ≠ []) : ∀ frame ∈ frames capacity bytes, Fits capacity frame := by
  induction bytes using frames.induct capacity with
  | case1 bytes few =>
      rw [frames, if_pos few]
      have short : bytes.length ≤ capacity := few.resolve_left (Nat.ne_of_gt room)
      simpa using ⟨someBytes, short⟩
  | case2 bytes many ih =>
      have exceeds : capacity < bytes.length := by omega
      have someMore : bytes.drop capacity ≠ [] := by
        rw [← List.length_pos_iff, List.length_drop]
        omega
      have full : Fits capacity (bytes.take capacity) := by
        constructor
        · rw [← List.length_pos_iff, List.length_take]
          omega
        · rw [List.length_take]
          omega
      rw [frames, if_neg many]
      simpa using ⟨full, ih someMore⟩

/-- A handler hands out frames, and with the last of them it has done so. -/
inductive Sends (capacity : Nat) (mode : Mode) (last : σ) (later : ω) : List Bytes → σ → ω → Prop
  | last {frame : Bytes} {handler : σ} {now : ω} (fits : Fits capacity frame)
      (produces : Produces capacity handler now frame mode last later) :
      Sends capacity mode last later [frame] handler now
  | part {frame : Bytes} {frames : List Bytes} {handler next : σ} {now middle : ω}
      (fits : Fits capacity frame)
      (produces : Produces capacity handler now frame .continue next middle)
      (sends : Sends capacity mode last later frames next middle) :
      Sends capacity mode last later (frame :: frames) handler now

inductive Takes (ω : Type) [Handler ω σ] (capacity : Nat) (last : σ) : List Bytes → σ → Prop
  | nothing : Takes ω capacity last [] last
  | frame {frame : Bytes} {frames : List Bytes} {handler next : σ}
      (consumes : ∀ now : ω, Consumes capacity handler now frame .needData next now)
      (takes : Takes ω capacity last frames next) : Takes ω capacity last (frame :: frames) handler

variable {capacity : Nat} {mode : Mode} {handler last : σ} {now middle later : ω}
  {frame : Bytes} {frames : List Bytes} {inject : σ → τ}

/-! ## Sending -/

/-- How a handler fills blobs that still has so many bytes to send. -/
structure Drains (capacity : Nat) (mode : Mode) (last : σ) (now : ω) (holding : Bytes → σ) :
    Prop where
  part (left : Bytes) (exceeds : capacity < left.length) :
    Produces capacity (holding left) now (left.take capacity) .continue
      (holding (left.drop capacity)) now
  rest (left : Bytes) (fits : left.length ≤ capacity) :
    Produces capacity (holding left) now left mode last now

theorem Drains.sends {holding : Bytes → σ} (drains : Drains capacity mode last now holding)
    (room : 0 < capacity) {left : Bytes} (someLeft : left ≠ []) :
    Sends capacity mode last now (Bytes.frames capacity left) (holding left) now := by
  have fits := Bytes.fits_frames room someLeft
  induction left using Bytes.frames.induct capacity with
  | case1 left few =>
      rw [Bytes.frames, if_pos few] at fits ⊢
      have whole : Fits capacity left := fits left (by simp)
      exact .last whole (drains.rest left whole.short)
  | case2 left many ih =>
      have someMore : left.drop capacity ≠ [] := by
        rw [← List.length_pos_iff, List.length_drop]
        omega
      rw [Bytes.frames, if_neg many] at fits ⊢
      refine .part (fits _ List.mem_cons_self) (drains.part left (by omega)) (ih someMore ?_)
      exact fun frame listed => fits frame (List.mem_cons_of_mem _ listed)

theorem Sends.some_frames (sends : Sends capacity mode last later frames handler now) :
    frames ≠ [] := by
  cases sends <;> simp

theorem Sends.fits (sends : Sends capacity mode last later frames handler now) :
    ∀ frame ∈ frames, Fits capacity frame := by
  induction sends with
  | last fits _ => simpa using fits
  | part fits _ _ ih => simpa using ⟨fits, ih⟩

theorem Sends.of_same {start : σ} {early : ω}
    (same : ∀ blob : Blob,
      (Handler.produce start blob.clear early : Turn ω σ) = Handler.produce handler blob.clear now)
    (sends : Sends capacity mode last later frames handler now) :
    Sends capacity mode last later frames start early := by
  have produces {frame : Bytes} {mode : Mode} {next : σ} {later : ω}
      (produces : Produces capacity handler now frame mode next later) :
      Produces capacity start early frame mode next later := by
    intro blob sized
    rw [same]
    exact produces blob sized
  cases sends with
  | last fits filled => exact .last fits (produces filled)
  | part fits filled sends => exact .part fits (produces filled) sends

/-! ## Receiving -/

/-- How a handler takes a message out of blobs; `ends` says what it comes to. -/
structure Gathers (capacity : Nat) (bytes : Bytes) (ends : ω → Mode → σ → ω → Prop)
    (gathered : Bytes → σ) : Prop where
  part (now : ω) {got frame missing : Bytes} (split : bytes = got ++ frame ++ missing)
    (someMissing : missing ≠ []) (short : frame.length ≤ capacity) :
    Consumes capacity (gathered got) now frame .needData (gathered (got ++ frame)) now
  whole {now later : ω} {mode : Mode} {next : σ} {got frame : Bytes} (split : bytes = got ++ frame)
    (short : frame.length ≤ capacity) (ended : ends now mode next later) :
    Consumes capacity (gathered got) now frame mode next later

theorem Gathers.takes {bytes : Bytes} {ends : ω → Mode → σ → ω → Prop} {gathered : Bytes → σ}
    (gathers : Gathers capacity bytes ends gathered) (got : Bytes)
    (fits : ∀ frame ∈ frames, Fits capacity frame) (someFrames : frames ≠ [])
    (split : bytes = got ++ frames.flatten) :
    ∃ parts final middle, frames = parts ++ [final] ∧
      Takes ω capacity middle parts (gathered got) ∧
      ∀ {now later : ω} {mode : Mode} {next : σ}, ends now mode next later →
        Consumes capacity middle now final mode next later := by
  induction frames generalizing got with
  | nil => exact absurd rfl someFrames
  | cons frame frames ih =>
      have here := fits frame List.mem_cons_self
      have others (frame : Bytes) (member : frame ∈ frames) : Fits capacity frame :=
        fits frame (List.mem_cons_of_mem _ member)
      cases frames with
      | nil =>
          refine ⟨[], frame, gathered got, rfl, .nothing, fun ended => ?_⟩
          exact gathers.whole (by simpa using split) here.short ended
      | cons second frames =>
          have splitMore : bytes = got ++ frame ++ (second :: frames).flatten := by
            rw [split, List.flatten_cons, List.append_assoc]
          have someMissing : (second :: frames).flatten ≠ [] := by
            simp [(others second List.mem_cons_self).someBytes]
          obtain ⟨parts, final, middle, same, takes, endsSo⟩ :=
            ih (got ++ frame) others (by simp) splitMore
          refine ⟨frame :: parts, final, middle, by rw [same]; rfl, ?_, endsSo⟩
          exact .frame (fun now => gathers.part now splitMore someMissing here.short) takes

/-! ## Handlers within a larger type -/

theorem Produces.carried {next : σ} (carries : Handler.Carries ω inject)
    (produces : Produces capacity handler now frame mode next later) :
    Produces capacity (inject handler) now frame mode (inject next) later := by
  intro blob sized
  obtain ⟨filled, contents, kept, produced⟩ := produces blob sized
  refine ⟨filled, contents, kept, ?_⟩
  rw [carries.produce, produced]
  rfl

theorem Consumes.carried {next : σ} (carries : Handler.Carries ω inject)
    (consumes : Consumes capacity handler now frame mode next later) :
    Consumes capacity (inject handler) now frame mode (inject next) later := by
  intro blob sized
  obtain ⟨emptied, kept, consumed⟩ := consumes blob sized
  refine ⟨emptied, kept, ?_⟩
  rw [carries.consume, consumed]
  rfl

theorem Sends.carried (carries : Handler.Carries ω inject)
    (sends : Sends capacity mode last later frames handler now) :
    Sends capacity mode (inject last) later frames (inject handler) now := by
  induction sends with
  | last fits produces => exact .last fits (produces.carried carries)
  | part fits produces _ ih => exact .part fits (produces.carried carries) ih

theorem Takes.carried (carries : Handler.Carries ω inject)
    (takes : Takes ω capacity last frames handler) :
    Takes ω capacity (inject last) frames (inject handler) := by
  induction takes with
  | nothing => exact .nothing
  | frame consumes _ ih => exact .frame (fun now => (consumes now).carried carries) ih

end Parley
