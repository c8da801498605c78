import Parley.Fault

/-!
Leases: a shared channel is driven by one holder at a time.
-/

namespace Parley

/-- A channel together with the holder of its lease, if it is leased. -/
structure Shared (χ : Type) where
  channel : χ
  holder : Option String := none

namespace Shared

variable {χ α : Type}

def isLeased (shared : Shared χ) : Bool := shared.holder.isSome

def lease (shared : Shared χ) (holder : String) : Except Fault Unit × Shared χ :=
  if shared.isLeased then (.error .channelBusy, shared)
  else (.ok (), { shared with holder := some holder })

def release (shared : Shared χ) (holder : String) : Bool × Shared χ :=
  if shared.holder = some holder then (true, { shared with holder := none }) else (false, shared)

/--
Works on the channel through the lease of a holder, or through a lease of its own that lasts as
long as the work. Without a lease the work is refused.
-/
def through (shared : Shared χ) (holder : Option String) (work : χ → α × χ) :
    Except Fault α × Shared χ :=
  if shared.holder = holder then
    let (value, channel) := work shared.channel
    (.ok value, { shared with channel })
  else (.error .channelBusy, shared)

end Shared

end Parley
