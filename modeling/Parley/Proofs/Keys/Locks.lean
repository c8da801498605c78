import Parley.Keys

/-!
Locks that end. A user who is locked only so often, whatever is looked up in between, is no longer
locked once the key has been asked for often enough in a row.
-/

namespace Parley.KeyStore

variable {κ : Type} [KeyStore κ] {keys : κ} {user : String}

def after (keys : κ) (users : Nat → String) : Nat → κ
  | 0 => keys
  | count + 1 => (lookup (after keys users count) (users count)).2

def Locks (keys : κ) (user : String) : Prop := ∃ seconds, (lookup keys user).1 = .locked seconds

/-- Whoever is looked up in whatever order, each user is locked only finitely often. -/
def Relents (keys : κ) : Prop :=
  ∀ (users : Nat → String) (user : String), ∃ bound, ∀ count, bound ≤ count →
    users count = user → ¬ Locks (after keys users count) user

inductive Unlocks (user : String) : Nat → κ → Prop
  | free {keys : κ} (count : Nat) (free : ¬ Locks keys user) : Unlocks user count keys
  | later {keys : κ} {count : Nat} (unlocks : Unlocks user count (lookup keys user).2) :
      Unlocks user (count + 1) keys

theorem after_lookup (keys : κ) (user : String) (users : Nat → String) (count : Nat) :
    after (lookup keys user).2 users count =
      after keys (fun place => if place = 0 then user else users (place - 1)) (count + 1) := by
  induction count with
  | zero => rfl
  | succ count ih =>
      rw [after, ih, after.eq_2 keys _ (count + 1), if_neg (Nat.succ_ne_zero count),
        Nat.add_sub_cancel]

theorem Relents.lookup (relents : Relents keys) (user : String) :
    Relents (KeyStore.lookup keys user).2 := by
  intro users locked
  obtain ⟨bound, free⟩ := relents (fun place => if place = 0 then user else users (place - 1)) locked
  refine ⟨bound, fun count later named => ?_⟩
  rw [after_lookup]
  exact free (count + 1) (by omega) (by simpa using named)

theorem Relents.unlocks (relents : Relents keys) (user : String) :
    ∃ count, Unlocks user count keys := by
  obtain ⟨bound, free⟩ := relents (fun _ => user) user
  have fromThen (left place : Nat) (sum : place + left = bound) :
      Unlocks user left (after keys (fun _ => user) place) := by
    induction left generalizing place with
    | zero => exact .free 0 (free place (by omega) rfl)
    | succ left ih => exact .later (ih (place + 1) (by omega))
  exact ⟨bound, fromThen bound 0 (by omega)⟩

end Parley.KeyStore

namespace Parley.MemoryKeys

open KeyStore

def left (store : MemoryKeys) (user : String) : Nat :=
  ((store.locks.get? user).bind KeyLock.remaining).getD 0

def Counted (store : MemoryKeys) : Prop :=
  ∀ user lock, store.locks.get? user = some lock → lock.remaining.isSome

variable {store : MemoryKeys}

/-- What a lookup does to a store without lasting locks: a lock that answers has one answer less. -/
structure Counts (store later : MemoryKeys) (user : String) (answer : KeyLookup) : Prop where
  counted : later.Counted
  others (other : String) : later.left other ≤ store.left other
  locked (seconds : Nat) (locked : answer = .locked seconds) : later.left user < store.left user

theorem Counted.lookup (counted : store.Counted) (user : String) :
    store.Counts (store.lookup user).2 user (store.lookup user).1 := by
  rw [MemoryKeys.lookup]
  split
  · rename_i seconds found
    cases counted user _ found
  · rename_i seconds left found
    have before : store.left user = left + 1 := by rw [MemoryKeys.left, found]; rfl
    dsimp only
    split
    · rename_i last
      have after (other : String) :
          (store.unlock user).left other = if other = user then 0 else store.left other := by
        rw [MemoryKeys.left, unlock, Dictionary.get?_erase]
        split <;> rfl
      refine ⟨fun other lock kept => ?_, fun other => ?_, fun _ _ => ?_⟩
      · rw [unlock, Dictionary.get?_erase] at kept
        split at kept
        · cases kept
        · exact counted other lock kept
      · rw [after]
        split <;> omega
      · rw [after, if_pos rfl]
        omega
    · have after (other : String) : (store.lock user ⟨seconds, some left⟩).left other =
          if other = user then left else store.left other := by
        rw [MemoryKeys.left, lock, Dictionary.get?_insert]
        split <;> rfl
      refine ⟨fun other given kept => ?_, fun other => ?_, fun _ _ => ?_⟩
      · rw [lock, Dictionary.get?_insert] at kept
        split at kept
        · cases kept
          rfl
        · exact counted other given kept
      · rw [after]
        split
        · rename_i same
          rw [same]
          omega
        · omega
      · rw [after, if_pos rfl]
        omega
  · split <;> exact ⟨counted, fun _ => Nat.le_refl _, fun _ locked => by cases locked⟩

theorem Counted.relents (counted : store.Counted) : Relents store := by
  intro users user
  have steps (count : Nat) : (after store users count).Counted ∧
      (after store users (count + 1)).left user ≤ (after store users count).left user := by
    induction count with
    | zero => exact ⟨counted, (counted.lookup (users 0)).others user⟩
    | succ count ih =>
        have next := ih.1.lookup (users count)
        exact ⟨next.counted, (next.counted.lookup (users (count + 1))).others user⟩
  have antitone (place more : Nat) :
      (after store users (place + more)).left user ≤ (after store users place).left user := by
    induction more with
    | zero => exact Nat.le_refl _
    | succ more ih => exact Nat.le_trans (steps (place + more)).2 ih
  -- Each time that the user is locked there are fewer such times left.
  have fromThen (few place : Nat) (short : (after store users place).left user ≤ few) :
      ∃ bound, ∀ count, bound ≤ count → users count = user →
        ¬ Locks (after store users count) user := by
    induction few using Nat.strongRecOn generalizing place with
    | ind few ih =>
        by_cases again : ∃ count, place ≤ count ∧ users count = user ∧
          Locks (after store users count) user
        · obtain ⟨count, late, named, seconds, locked⟩ := again
          have fewer : (after store users (count + 1)).left user <
              (after store users count).left user := by
            have looked := ((steps count).1.lookup (users count)).locked seconds
            rw [named] at looked
            rw [after, named]
            exact looked locked
          have before := antitone place (count - place)
          rw [Nat.add_sub_cancel' late] at before
          exact ih _ (by omega) (count + 1) (Nat.le_refl _)
        · refine ⟨place, fun count late named locked => ?_⟩
          exact again ⟨count, late, named, locked⟩
  exact fromThen _ 0 (Nat.le_refl _)

end Parley.MemoryKeys
