import Parley.Channel.Frame
import Parley.Proofs.Channel.Script

/-!
Frames on scripted channels. Whatever a script does, a received frame accounts for all the bytes
that were read for it, and a frame that was not received leaves only a part of one behind.
-/

namespace Parley.Frame

theorem encode_ne_nil (payload : Bytes) : encode payload ≠ [] := by
  simp [encode, Bytes.word32, Bytes.word16]

/-- The payloads of the whole frames that a byte string starts with. -/
def payloads (bytes : Bytes) : List Bytes :=
  let rest := bytes.drop headerLength
  let length := Bytes.number (bytes.take headerLength)
  if headerLength ≤ bytes.length ∧ length ≤ rest.length then
    rest.take length :: payloads (rest.drop length)
  else []
termination_by bytes.length
decreasing_by
  rename_i whole
  have := whole.1
  simp only [headerLength] at this
  simp only [List.length_drop, headerLength]
  omega

theorem payloads_append {header frame : Bytes} (rest : Bytes)
    (fits : header.length = headerLength) (stated : Bytes.number header = frame.length) :
    payloads (header ++ (frame ++ rest)) = frame :: payloads rest := by
  rw [payloads]
  simp only [← fits, List.drop_left, List.take_left, stated, List.length_append]
  rw [if_pos (by omega)]

theorem payloads_of_short {bytes : Bytes} (short : bytes.length < headerLength) :
    payloads bytes = [] := by
  rw [payloads, if_neg (by omega)]

theorem payloads_of_partial {header rest : Bytes} (fits : header.length = headerLength)
    (short : rest.length < Bytes.number header) : payloads (header ++ rest) = [] := by
  rw [payloads]
  simp only [← fits, List.drop_left, List.take_left, List.length_append]
  rw [if_neg (by omega)]

/-- What gathering bytes comes to: all that were missing, or fewer. -/
def Gathered (missing : Nat) (before after : Script) (gathered : Bytes) :
    Option (Except Fault Bytes) → Prop
  | some (.ok bytes) =>
      ∃ more, bytes = gathered ++ more ∧ more.length = missing ∧
        Script.supply before.reads = more ++ Script.supply after.reads
  | _ =>
      ∃ more, more.length < missing ∧
        Script.supply before.reads = more ++ Script.supply after.reads

theorem Gathered.extend {missing : Nat} {before middle after : Script} {bytes gathered : Bytes}
    {result : Option (Except Fault Bytes)}
    (later : Gathered (missing - bytes.length) middle after (gathered ++ bytes) result)
    (short : bytes.length ≤ missing)
    (lost : Script.supply before.reads = bytes ++ Script.supply middle.reads) :
    Gathered missing before after gathered result := by
  have extended {more : Bytes} (supplied : Script.supply middle.reads =
      more ++ Script.supply after.reads) :
      Script.supply before.reads = bytes ++ more ++ Script.supply after.reads := by
    rw [lost, supplied, List.append_assoc]
  rcases result with _ | fault | all
  · obtain ⟨more, less, supplied⟩ := later
    exact ⟨bytes ++ more, by simp only [List.length_append]; omega, extended supplied⟩
  · obtain ⟨more, less, supplied⟩ := later
    exact ⟨bytes ++ more, by simp only [List.length_append]; omega, extended supplied⟩
  · obtain ⟨more, same, complete, supplied⟩ := later
    refine ⟨bytes ++ more, ?_, ?_, extended supplied⟩
    · rw [same, List.append_assoc]
    · simp only [List.length_append]
      omega

theorem gathered_play (bound : Nat) {missing : Nat} (enough : missing ≤ bound)
    (gathered : Bytes) (script : Script) :
    Gathered missing script (script.play (gather bound missing gathered)).2 gathered
      (script.play (gather bound missing gathered)).1 := by
  induction bound generalizing missing gathered script with
  | zero =>
      obtain rfl : missing = 0 := by omega
      exact ⟨[], by simp, rfl, rfl⟩
  | succ bound ih =>
      rw [gather]
      by_cases complete : missing = 0
      · subst complete
        exact ⟨[], by simp, rfl, rfl⟩
      · rw [if_neg complete]
        have lost := Script.supply_read script missing
        have noneMore : ([] : Bytes).length < missing := by
          simp only [List.length_nil]
          omega
        simp only [Script.play]
        rcases found : script.read missing with ⟨_ | _ | _ | ⟨byte, bytes⟩, later⟩
        · rw [found] at lost
          exact ⟨[], noneMore, lost⟩
        · rw [found] at lost
          exact ⟨[], noneMore, lost⟩
        · rw [found] at lost
          exact ⟨[], noneMore, lost⟩
        · rw [found] at lost
          have short := Script.length_read found
          exact (ih (by simp only [List.length_cons]; omega) _ later).extend short lost

def Received (limit : Nat) (before after : Script) : Option (Except Fault Bytes) → Prop
  | some (.ok frame) =>
      frame.length ≤ limit ∧ ∃ header, header.length = headerLength ∧
        Bytes.number header = frame.length ∧
        Script.supply before.reads = header ++ (frame ++ Script.supply after.reads)
  | _ =>
      ∃ part, payloads part = [] ∧
        Script.supply before.reads = part ++ Script.supply after.reads

theorem received_play (limit : Nat) (script : Script) :
    Received limit script (script.play (receive limit)).2 (script.play (receive limit)).1 := by
  rw [receive, Script.play_bind]
  have opening := gathered_play headerLength (Nat.le_refl _) [] script
  simp only [readExactly]
  revert opening
  generalize script.play (gather headerLength headerLength []) = opened
  rcases opened with ⟨_ | fault | header, middle⟩
  · rintro ⟨part, short, supplied⟩
    exact ⟨part, payloads_of_short short, supplied⟩
  · rintro ⟨part, short, supplied⟩
    exact ⟨part, payloads_of_short short, supplied⟩
  · rintro ⟨_, rfl, fits, supplied⟩
    by_cases tooLong : limit < Bytes.number header
    · simp only [tooLong, if_true]
      refine ⟨header, ?_, supplied⟩
      rw [← List.append_nil header]
      exact payloads_of_partial fits (by simp only [List.length_nil]; omega)
    · simp only [tooLong, if_false]
      have payload := gathered_play (Bytes.number header) (Nat.le_refl _) [] middle
      revert payload
      generalize middle.play (gather (Bytes.number header) (Bytes.number header) []) = closed
      rcases closed with ⟨_ | fault | frame, later⟩
      · rintro ⟨part, short, rest⟩
        exact ⟨header ++ part, payloads_of_partial fits short, by
          rw [supplied, rest, List.append_assoc]⟩
      · rintro ⟨part, short, rest⟩
        exact ⟨header ++ part, payloads_of_partial fits short, by
          rw [supplied, rest, List.append_assoc]⟩
      · rintro ⟨_, rfl, length, rest⟩
        exact ⟨by omega, header, fits, length.symm, by rw [supplied, rest]⟩

/-- A channel that has given whole frames so far, whose payloads make up the bytes. -/
def Accounts (before after : Script) (taken : Bytes) : Prop :=
  ∃ used frames, Script.supply before.reads = used ++ Script.supply after.reads ∧
    frames.flatten = taken ∧ ∀ rest, payloads (used ++ rest) = frames ++ payloads rest

theorem Accounts.begin (script : Script) : Accounts script script [] :=
  ⟨[], [], rfl, rfl, fun _ => rfl⟩

theorem Accounts.received {before middle after : Script} {taken header frame : Bytes}
    (accounts : Accounts before middle taken) (fits : header.length = headerLength)
    (stated : Bytes.number header = frame.length)
    (lost : Script.supply middle.reads = header ++ (frame ++ Script.supply after.reads)) :
    Accounts before after (taken ++ frame) := by
  obtain ⟨used, frames, supplied, rfl, whole⟩ := accounts
  refine ⟨used ++ (header ++ frame), frames ++ [frame], ?_, by simp, fun rest => ?_⟩
  · rw [supplied, lost]
    simp only [List.append_assoc]
  · rw [List.append_assoc, whole, List.append_assoc, payloads_append rest fits stated,
      List.append_assoc]
    rfl

theorem Accounts.close {before middle after : Script} {taken part : Bytes}
    (accounts : Accounts before middle taken) (noneWhole : payloads part = [])
    (lost : Script.supply middle.reads = part ++ Script.supply after.reads) :
    (payloads (before.given after)).flatten = taken := by
  obtain ⟨used, frames, supplied, rfl, whole⟩ := accounts
  have given : before.given after = used ++ part := by
    apply Script.given_eq
    rw [supplied, lost, List.append_assoc]
  rw [given, whole, noneWhole, List.append_nil]

theorem payloads_nil : payloads [] = [] := payloads_of_short (by decide)

theorem reads_play_send (payload : Bytes) (script : Script) :
    (script.play (send payload)).2.reads = script.reads := by
  rw [send]
  split
  · rfl
  · simp only [Script.play]
    have kept := Script.reads_write script (encode payload)
    revert kept
    generalize script.write (encode payload) = wrote
    rcases wrote with ⟨_ | _, later⟩ <;> exact id

theorem isSome_play_send (payload : Bytes) (script : Script) :
    ∃ answer, (script.play (send payload)).1 = some answer := by
  rw [send]
  split
  · exact ⟨_, rfl⟩
  · simp only [Script.play]
    generalize script.write (encode payload) = wrote
    rcases wrote with ⟨_ | _, later⟩ <;> exact ⟨_, rfl⟩

end Parley.Frame
