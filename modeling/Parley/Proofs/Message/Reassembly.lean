import Mathlib.Data.List.Induction
import Parley.Proofs.Message.Inbox

/-!
Reassembly. Whatever blobs bring bytes to an inbox, and whenever messages are taken out of it in
between, they are the messages that the bytes spell when they are read from the first one on.
-/

namespace Parley

namespace Message

structure Parse where
  messages : List Message
  rest : Bytes
  fault : Option Fault
  deriving DecidableEq

/--
Reads messages as long as there are whole ones. A length that exceeds the longest is a fault at
once, before any of its body is there.
-/
def parse : Bytes → Parse
  | high :: low :: stored =>
    let length := high.toNat * 256 + low.toNat
    if longestBody < length then
      ⟨[], high :: low :: stored, some (.malformed (.longDeclaredBody length))⟩
    else if stored.length < length then ⟨[], high :: low :: stored, none⟩
    else
      match decode (stored.take length) with
      | .error fault => ⟨[], high :: low :: stored, some fault⟩
      | .ok message =>
        let later := parse (stored.drop length)
        { later with messages := message :: later.messages }
  | short => ⟨[], short, none⟩
termination_by bytes => bytes.length
decreasing_by
  simp only [List.length_drop, List.length_cons]
  omega

namespace Parse

def behind (parse : Parse) (earlier : List Message) : Parse :=
  { parse with messages := earlier ++ parse.messages }

/-- What is next after so many messages: another one, the fault, or nothing yet. -/
def answer (parse : Parse) (count : Nat) : Except Fault (Option Message) :=
  match parse.messages[count]?, parse.fault with
  | some message, _ => .ok (some message)
  | none, some fault => .error fault
  | none, none => .ok none

theorem behind_behind (parse : Parse) (first second : List Message) :
    (parse.behind second).behind first = parse.behind (first ++ second) := by
  simp only [behind, List.append_assoc]

theorem answer_behind (parse : Parse) (earlier : List Message) :
    (parse.behind earlier).answer earlier.length = parse.answer 0 := by
  simp only [answer, behind]
  rw [List.getElem?_append_right (Nat.le_refl _), Nat.sub_self]

end Parse

def Incomplete (bytes : Bytes) : Prop :=
  bytes.length < 2 ∨ ∃ high low stored, bytes = high :: low :: stored ∧
    high.toNat * 256 + low.toNat ≤ longestBody ∧ stored.length < high.toNat * 256 + low.toNat

end Message

namespace Inbox

open Message

theorem number_pair (high low : UInt8) :
    Bytes.number [high, low] = high.toNat * 256 + low.toNat := by
  simp [Bytes.number]

theorem parse_of_next {inbox rest : Inbox} {message : Message}
    (found : inbox.next = .ok (some (message, rest))) :
    ∃ used, inbox.bytes = used ++ rest.bytes ∧
      ∀ more, parse (used ++ more) = (parse more).behind [message] := by
  obtain ⟨high, low, body, same, length, short, decoded⟩ := next_eq_some_iff.mp found
  rw [number_pair] at length
  refine ⟨high :: low :: body, by rw [same]; simp, ?_⟩
  intro more
  rw [List.cons_append, List.cons_append, parse]
  simp only [← length, List.length_append, List.take_left, List.drop_left, decoded]
  rw [if_neg (by omega), if_neg (by omega)]
  rfl

theorem next_eq_none_iff (inbox : Inbox) :
    inbox.next = .ok none ↔ Incomplete inbox.bytes := by
  rcases inbox with ⟨bytes⟩
  rw [next.eq_def, Incomplete]
  rcases bytes with _ | ⟨high, _ | ⟨low, stored⟩⟩
  · simp
  · simp
  · simp only [number_pair]
    constructor
    · intro nothing
      split at nothing
      · cases nothing
      · split at nothing
        · rename_i accepted short
          exact Or.inr ⟨high, low, stored, rfl, by omega, short⟩
        · split at nothing <;> cases nothing
    · rintro (short | ⟨_, _, _, same, accepted, short⟩)
      · simp only [List.length_cons] at short
        omega
      · cases same
        rw [if_neg (by omega), if_pos short]

theorem answer_next (inbox : Inbox) :
    inbox.next.map (Option.map Prod.fst) = (parse inbox.bytes).answer 0 := by
  rcases inbox with ⟨bytes⟩
  rw [next.eq_def]
  rcases bytes with _ | ⟨high, _ | ⟨low, stored⟩⟩
  · simp [parse, Parse.answer, Except.map]
  · simp [parse, Parse.answer, Except.map]
  · rw [parse]
    simp only [number_pair]
    split
    · rfl
    · split
      · rfl
      · rcases decode (stored.take (high.toNat * 256 + low.toNat)) with fault | message
        · rfl
        · rfl

theorem next_error_append {inbox : Inbox} {fault : Fault} (broken : inbox.next = .error fault)
    (more : Bytes) : next ⟨inbox.bytes ++ more⟩ = .error fault := by
  rcases inbox with ⟨bytes⟩
  rw [next.eq_def] at broken
  rcases bytes with _ | ⟨high, _ | ⟨low, stored⟩⟩
  · cases broken
  · cases broken
  · dsimp only at broken
    simp only [next, List.cons_append]
    split at broken
    · rename_i long
      rw [if_pos long]
      exact broken
    · rename_i accepted
      split at broken
      · cases broken
      · rename_i whole
        rw [if_neg accepted, if_neg (by rw [List.length_append]; omega),
          List.take_append_of_le_length (by omega)]
        revert broken
        rcases decode (stored.take (Bytes.number [high, low])) with problem | message
        · exact id
        · intro read
          cases read

/-! ## Runs -/

inductive Use where
  | absorb (place : Nat)
  | next
  deriving DecidableEq, Repr

structure Usage where
  inbox : Inbox := {}
  blobs : Nat → Blob
  messages : List Message := []

namespace Usage

def step (usage : Usage) : Use → Usage
  | .absorb place =>
    let (inbox, blob) := usage.inbox.absorb (usage.blobs place)
    { usage with inbox, blobs := fun other => if other = place then blob else usage.blobs other }
  | .next =>
    match usage.inbox.next with
    | .ok (some (message, inbox)) => { usage with inbox, messages := usage.messages ++ [message] }
    | _ => usage

def run (usage : Usage) (uses : List Use) : Usage := uses.foldl step usage

def unread (blob : Blob) : Bytes := blob.contents.drop blob.position

/-- The blobs that were given to the inbox, in the order in which each was first given. -/
def places (uses : List Use) : List Nat :=
  (uses.filterMap fun | .absorb place => some place | .next => none).eraseDups

/-- The unread bytes of the blobs that were given, once each. -/
def brought (blobs : Nat → Blob) (uses : List Use) : Bytes :=
  (places uses).flatMap fun place => unread (blobs place)

theorem run_concat (usage : Usage) (uses : List Use) (use : Use) :
    usage.run (uses ++ [use]) = (usage.run uses).step use := by
  rw [run, List.foldl_append]
  rfl

theorem places_next (uses : List Use) : places (uses ++ [.next]) = places uses := by
  simp [places]

theorem places_absorb (uses : List Use) (place : Nat) :
    places (uses ++ [.absorb place]) =
      if place ∈ places uses then places uses else places uses ++ [place] := by
  have once : [place].eraseDups = [place] := rfl
  simp only [places, List.filterMap_append, List.filterMap_cons, List.filterMap_nil,
    List.eraseDups_append, List.mem_eraseDups, List.removeAll]
  split <;> simp_all

theorem unread_run (blobs : Nat → Blob) (uses : List Use) (place : Nat) :
    unread ((run { blobs } uses).blobs place) =
      if place ∈ places uses then [] else unread (blobs place) := by
  induction uses using List.reverseRecOn with
  | nil => simp [run, places]
  | append_singleton uses use ih =>
      rw [run_concat]
      cases use with
      | next =>
          rw [places_next, ← ih, step]
          split <;> rfl
      | absorb other =>
          rw [places_absorb, step]
          by_cases same : place = other
          · subst same
            have given : place ∈ if place ∈ places uses then places uses
                else places uses ++ [place] := by
              split <;> simp_all
            rw [if_pos given]
            simp only [if_true]
            apply List.drop_of_length_le
            rw [Blob.length_contents]
            exact Nat.le_refl _
          · have unchanged : (place ∈ if other ∈ places uses then places uses
                else places uses ++ [other]) ↔ place ∈ places uses := by
              split <;> simp [same]
            simp only [if_neg same, ih, unchanged]

def Accounts (brought : Bytes) (usage : Usage) : Prop :=
  ∃ used, brought = used ++ usage.inbox.bytes ∧
    ∀ more, parse (used ++ more) = (parse more).behind usage.messages

theorem Accounts.absorb {taken : Bytes} {usage : Usage} (accounts : Accounts taken usage)
    (place : Nat) : Accounts (taken ++ unread (usage.blobs place)) (usage.step (.absorb place)) := by
  obtain ⟨used, split, reads⟩ := accounts
  refine ⟨used, ?_, reads⟩
  rw [split, List.append_assoc]
  rfl

theorem Accounts.next {taken : Bytes} {usage : Usage} (accounts : Accounts taken usage) :
    Accounts taken (usage.step .next) := by
  rw [step]
  split
  · rename_i message rest found
    obtain ⟨used, split, reads⟩ := accounts
    obtain ⟨whole, same, first⟩ := parse_of_next found
    refine ⟨used ++ whole, ?_, fun more => ?_⟩
    · rw [split, same, List.append_assoc]
    · rw [List.append_assoc, reads, first, Parse.behind_behind]
  · exact accounts

theorem accounts_run (blobs : Nat → Blob) (uses : List Use) :
    Accounts (brought blobs uses) (run { blobs } uses) := by
  induction uses using List.reverseRecOn with
  | nil => exact ⟨[], rfl, fun _ => rfl⟩
  | append_singleton uses use ih =>
      rw [run_concat]
      cases use with
      | next =>
          rw [brought, places_next]
          exact ih.next
      | absorb place =>
          have absorbed := ih.absorb place
          rw [unread_run] at absorbed
          rw [brought, places_absorb]
          split
          · rename_i given
            rw [if_pos given, List.append_nil] at absorbed
            exact absorbed
          · rename_i fresh
            rw [if_neg fresh] at absorbed
            rw [List.flatMap_append, List.flatMap_singleton]
            exact absorbed

theorem stuck_run {usage : Usage} {fault : Fault} (broken : usage.inbox.next = .error fault)
    (uses : List Use) :
    (usage.run uses).inbox.next = .error fault ∧ (usage.run uses).messages = usage.messages := by
  induction uses using List.reverseRecOn with
  | nil => exact ⟨broken, rfl⟩
  | append_singleton uses use ih =>
      obtain ⟨still, kept⟩ := ih
      rw [run_concat]
      cases use with
      | next =>
          rw [step, still]
          exact ⟨still, kept⟩
      | absorb place => exact ⟨next_error_append still _, kept⟩

end Usage

open Usage

/--
However blobs and takes follow each other, an inbox has by then got each unread byte of the blobs
once. The messages taken from it are the first of those that all these bytes spell, and it goes on
with the next of them. It gives nothing exactly while a part of a message is left, and once it gives
a fault it gives no message any more, only that fault again.
-/
theorem messages_run (blobs : Nat → Blob) (uses : List Use) :
    let last := run { blobs } uses
    let reading := parse (brought blobs uses)
    last.messages = reading.messages.take last.messages.length ∧
      last.inbox.next.map (Option.map Prod.fst) = reading.answer last.messages.length ∧
      (last.inbox.next = .ok none ↔ Incomplete last.inbox.bytes) ∧
      (∃ used, brought blobs uses = used ++ last.inbox.bytes ∧
        parse used = ⟨last.messages, [], none⟩) ∧
      ∀ fault, last.inbox.next = .error fault →
        last.step .next = last ∧
        ∀ more, (last.run more).inbox.next = .error fault ∧
          (last.run more).messages = last.messages := by
  intro last reading
  obtain ⟨used, split, reads⟩ := accounts_run blobs uses
  have whole : reading = (parse last.inbox.bytes).behind last.messages := by
    rw [← reads, ← split]
  refine ⟨?_, ?_, next_eq_none_iff _, ⟨used, split, ?_⟩, fun fault broken => ⟨?_, ?_⟩⟩
  · rw [whole]
    exact List.take_left.symm
  · rw [whole, Parse.answer_behind, answer_next]
  · have alone := reads []
    rw [List.append_nil] at alone
    rw [alone, Parse.behind, parse, List.append_nil]
    simp
  · rw [step, broken]
  · exact stuck_run broken

/-- A message in two blobs, the second of which goes on with a length that is too long. -/
theorem messages_run_overlong :
    ∃ bytes, (Message.choice "p9sk1").encode = .ok bytes ∧
      let blobs : Nat → Blob := fun place =>
        if place = 0 then (Blob.blank 3).load (bytes.take 3)
        else (Blob.blank 99).load (bytes.drop 3 ++ [255, 255])
      let last := run { blobs } [.absorb 0, .next, .absorb 0, .absorb 1, .next]
      last.messages = [.choice "p9sk1"] ∧
        last.inbox.next = .error (.malformed (.longDeclaredBody 65535)) ∧
        (last.run [.absorb 2, .next]).inbox.next =
          .error (.malformed (.longDeclaredBody 65535)) := by
  refine ⟨_, rfl, ?_⟩
  intro blobs last
  have taken : last.messages = [.choice "p9sk1"] := by decide +kernel
  have broken : last.inbox.next = .error (.malformed (.longDeclaredBody 65535)) := by
    have left : last.inbox = ⟨[255, 255]⟩ := by decide +kernel
    have refused : next ⟨[255, 255]⟩ = .error (.malformed (.longDeclaredBody 65535)) := by
      simp [next, Bytes.number, longestBody]
    exact (congrArg next left).trans refused
  obtain ⟨_, _, _, _, stuck⟩ := messages_run blobs [.absorb 0, .next, .absorb 0, .absorb 1, .next]
  exact ⟨taken, broken, ((stuck _ broken).2 [.absorb 2, .next]).1⟩

end Inbox

end Parley
