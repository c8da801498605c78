import Parley.Channel.Lease

/-!
Leases of a shared channel over time. Which leases are live is told by what was granted and dropped
so far, without a look at the channel. There is never more than one, and whoever is refused leaves
the channel as it was.
-/

namespace Parley

namespace Shared

/--
A use of a shared channel by any of those who share it: to lease it, to drop a lease, or to work on
it, through a lease or through one that is taken for the work alone.
-/
inductive Use (χ α : Type) where
  | lease (holder : String)
  | drop (holder : String)
  | work (holder : Option String) (work : χ → α × χ)

inductive Reply (α : Type) where
  | leased
  | dropped (held : Bool)
  | worked (value : α)

variable {χ α : Type}

def liveAfter (live : List String) : Use χ α × Except Fault (Reply α) → List String
  | (.lease holder, .ok _) => holder :: live
  | (.drop holder, _) => live.erase holder
  | _ => live

/-- The leases that were granted in a row of uses and that were not dropped since. -/
def live (log : List (Use χ α × Except Fault (Reply α))) : List String :=
  log.foldl liveAfter []

def use (shared : Shared χ) : Use χ α → Except Fault (Reply α) × Shared χ
  | .lease holder =>
    let (answer, shared) := shared.lease holder
    (answer.map fun _ => .leased, shared)
  | .drop holder =>
    let (held, shared) := shared.release holder
    (.ok (.dropped held), shared)
  | .work holder work =>
    let (answer, shared) := shared.through holder work
    (answer.map .worked, shared)

inductive Used (channel : χ) : List (Use χ α × Except Fault (Reply α)) → Shared χ → Prop
  | unused : Used channel [] { channel }
  | more {log : List (Use χ α × Except Fault (Reply α))} {shared : Shared χ}
      (used : Used channel log shared) (next : Use χ α) :
      Used channel (log ++ [(next, (shared.use next).1)]) (shared.use next).2

variable {channel : χ} {shared : Shared χ} {log : List (Use χ α × Except Fault (Reply α))}
  {holder : String} {work : χ → α × χ}

/-! ## Single uses -/

theorem use_lease_free (free : shared.holder = none) :
    (shared.use (.lease holder) : Except Fault (Reply α) × Shared χ) =
      (.ok .leased, { shared with holder := some holder }) := by
  simp only [use, lease, isLeased, free]
  rfl

theorem use_lease_held {other : String} (held : shared.holder = some other) :
    (shared.use (.lease holder) : Except Fault (Reply α) × Shared χ) =
      (.error .channelBusy, shared) := by
  simp only [use, lease, isLeased, held]
  rfl

theorem use_drop (shared : Shared χ) (holder : String) :
    (shared.use (.drop holder) : Except Fault (Reply α) × Shared χ).2 =
      if shared.holder = some holder then { shared with holder := none } else shared := by
  simp only [use, release]
  split <;> rfl

theorem use_work {through : Option String} (same : shared.holder = through) :
    shared.use (.work through work) =
      (.ok (.worked (work shared.channel).1),
        { shared with channel := (work shared.channel).2 }) := by
  simp only [use, Shared.through, if_pos same]
  rfl

theorem use_work_busy {through : Option String} (other : shared.holder ≠ through) :
    shared.use (.work through work) = (.error .channelBusy, shared) := by
  simp only [use, Shared.through, if_neg other]
  rfl

theorem use_refused {next : Use χ α} {fault : Fault} (refused : (shared.use next).1 = .error fault) :
    fault = .channelBusy ∧ (shared.use next).2 = shared := by
  cases next with
  | lease holder =>
      rcases held : shared.holder with _ | other
      · rw [use_lease_free held] at refused
        cases refused
      · rw [use_lease_held held] at refused ⊢
        cases refused
        exact ⟨rfl, rfl⟩
  | drop holder => cases refused
  | work through work =>
      by_cases same : shared.holder = through
      · rw [use_work same] at refused
        cases refused
      · rw [use_work_busy same] at refused ⊢
        cases refused
        exact ⟨rfl, rfl⟩

/-! ## Uses in a row -/

theorem live_append (log : List (Use χ α × Except Fault (Reply α)))
    (entry : Use χ α × Except Fault (Reply α)) :
    live (log ++ [entry]) = liveAfter (live log) entry := by
  rw [live, List.foldl_append]
  rfl

theorem Used.live_eq (used : Used channel log shared) : live log = shared.holder.toList := by
  induction used with
  | unused => rfl
  | @more log shared _ next ih =>
      rw [live_append, ih]
      cases next with
      | lease holder =>
          rcases held : shared.holder with _ | other
          · rw [use_lease_free held]
            rfl
          · rw [use_lease_held held, held]
            rfl
      | drop holder =>
          rw [use_drop]
          rcases held : shared.holder with _ | other
          · rw [if_neg (by simp), held]
            rfl
          · by_cases same : other = holder
            · subst same
              rw [if_pos rfl]
              exact List.erase_cons_head ..
            · rw [if_neg (by simpa using same), held]
              exact List.erase_of_not_mem (by simpa using Ne.symm same)
      | work through work =>
          by_cases same : shared.holder = through
          · rw [use_work same]
            rfl
          · rw [use_work_busy same]
            rfl

theorem Used.one_live (used : Used channel log shared) : (live log).length ≤ 1 := by
  rw [used.live_eq]
  cases shared.holder <;> simp

theorem Used.free_iff (used : Used channel log shared) : live log = [] ↔ shared.holder = none := by
  rw [used.live_eq]
  cases shared.holder <;> simp

theorem Used.holder_of_live (used : Used channel log shared) (member : holder ∈ live log) :
    shared.holder = some holder := by
  rw [used.live_eq] at member
  simpa using member

theorem Used.leases_iff (used : Used channel log shared) (holder : String) :
    (shared.use (.lease holder : Use χ α)).1 = .ok .leased ↔ live log = [] := by
  rw [used.free_iff]
  rcases held : shared.holder with _ | other
  · rw [use_lease_free held]
    exact ⟨fun _ => rfl, fun _ => rfl⟩
  · rw [use_lease_held held]
    exact ⟨nofun, nofun⟩

theorem Used.works_iff (used : Used channel log shared) (work : χ → α × χ) :
    (∃ reply, (shared.use (.work none work)).1 = .ok reply) ↔ live log = [] := by
  rw [used.free_iff]
  by_cases free : shared.holder = none
  · rw [use_work free]
    exact ⟨fun _ => free, fun _ => ⟨_, rfl⟩⟩
  · rw [use_work_busy free]
    exact ⟨nofun, fun same => absurd same free⟩

/-- One holder at a time has the channel, and whoever is refused leaves it as it was. -/
structure Exclusive (log : List (Use χ α × Except Fault (Reply α))) (shared : Shared χ) : Prop where
  one_live : (live log).length ≤ 1
  leases_iff (holder : String) :
    (shared.use (.lease holder : Use χ α)).1 = .ok .leased ↔ live log = []
  works_iff (work : χ → α × χ) :
    (∃ reply, (shared.use (.work none work)).1 = .ok reply) ↔ live log = []
  worksThrough (holder : String) (member : holder ∈ live log) (work : χ → α × χ) :
    shared.use (.work (some holder) work) =
      (.ok (.worked (work shared.channel).1),
        { shared with channel := (work shared.channel).2 })
  refused (next : Use χ α) (fault : Fault) (refused : (shared.use next).1 = .error fault) :
    fault = .channelBusy ∧ (shared.use next).2 = shared

theorem Used.exclusive (used : Used channel log shared) : Exclusive log shared where
  one_live := used.one_live
  leases_iff := used.leases_iff
  works_iff := used.works_iff
  worksThrough _ member _ := use_work (used.holder_of_live member)
  refused _ _ := use_refused

end Shared

end Parley
