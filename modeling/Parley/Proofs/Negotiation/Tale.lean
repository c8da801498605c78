import Parley.Proofs.Negotiation.Journal
import Parley.Proofs.Registry.Drawn

/-!
Tales of delegation: what the journal of a negotiation through blobs may hold. The registry makes
each handler once, a handler is called as it was left until it delegates, and its successor takes
its role and its identity.
-/

namespace Parley

/-- Handlers that keep to the protocol they state; all else is up to them. -/
structure Handler.Steady (ω σ : Type) [HasFace σ] [Handler ω σ] : Prop where
  init (handler : σ) (identity : Option Identity) (role : Role) (surroundings : ω) :
    (face (Handler.init handler identity role surroundings).handler).protocol =
      (face handler).protocol
  initFrom (handler : σ) (attributes : Attributes) (surroundings : ω) :
    (face (Handler.initFrom handler attributes surroundings).handler).protocol =
      (face handler).protocol
  produce (handler : σ) (blob : Blob) (surroundings : ω) :
    (face (Handler.produce handler blob surroundings).handler).protocol = (face handler).protocol
  consume (handler : σ) (blob : Blob) (surroundings : ω) :
    (face (Handler.consume handler blob surroundings).handler).protocol = (face handler).protocol

namespace Negotiation

open Journal

variable {σ : Type} [HasFace σ]

def heir (handler : σ) : String := (face handler).info.getD ""

/--
Why a delegation is not followed: the handler names itself, a handler before it or one that is not
registered, or as many delegations as are allowed have been followed. The first reason counts.
-/
inductive Refused (negotiation : Negotiation σ) (chain : List String) (handler : σ) : Fault → Prop
  | itself (same : heir handler = (face handler).protocol) :
      Refused negotiation chain handler (.selfDelegation (heir handler))
  | cycle (differs : heir handler ≠ (face handler).protocol) (member : heir handler ∈ chain) :
      Refused negotiation chain handler (.delegationCycle (chain ++ [heir handler]))
  | tooMany (differs : heir handler ≠ (face handler).protocol) (new : heir handler ∉ chain)
      (exhausted : negotiation.settings.maxDelegations < chain.length) :
      Refused negotiation chain handler
        (.tooManyDelegations negotiation.settings.maxDelegations (chain ++ [heir handler]))
  | unknown (differs : heir handler ≠ (face handler).protocol) (new : heir handler ∉ chain)
      (within : chain.length ≤ negotiation.settings.maxDelegations)
      (missing : negotiation.registry.contains (heir handler) = false) :
      Refused negotiation chain handler (.unknownProtocol (heir handler))

structure Heeded (negotiation : Negotiation σ) (chain : List String) (handler : σ) : Prop where
  differs : heir handler ≠ (face handler).protocol
  new : heir handler ∉ chain
  within : chain.length ≤ negotiation.settings.maxDelegations
  known : negotiation.registry.contains (heir handler) = true

variable {negotiation : Negotiation σ} {names : List String} {handler : σ} {fault : Fault}

theorem Refused.not_heeded (refused : negotiation.Refused names handler fault) :
    ¬ negotiation.Heeded names handler := by
  rintro ⟨differs, new, within, known⟩
  cases refused with
  | itself same => exact differs same
  | cycle _ member => exact new member
  | tooMany _ _ exhausted => omega
  | unknown _ _ _ missing => simp [missing] at known

theorem Refused.unique {other : Fault} (refused : negotiation.Refused names handler fault)
    (refused' : negotiation.Refused names handler other) : fault = other := by
  cases refused <;> cases refused' <;> first | rfl | contradiction | omega

theorem successor_cases {registry : Registry σ} {phase : Phase σ}
    (contains : ∀ name, registry.contains name = negotiation.registry.contains name) :
    (∃ fault, (negotiation.proceed registry phase).successor handler names = .error fault ∧
      negotiation.Refused names handler fault) ∨
    (negotiation.proceed registry phase).successor handler names = .ok (heir handler) ∧
      negotiation.Heeded names handler := by
  have unfolded : (negotiation.proceed registry phase).successor handler names =
      if heir handler = (face handler).protocol then .error (.selfDelegation (heir handler))
      else if names.contains (heir handler) then
        .error (.delegationCycle (names ++ [heir handler]))
      else if negotiation.settings.maxDelegations < names.length then
        .error (.tooManyDelegations negotiation.settings.maxDelegations (names ++ [heir handler]))
      else if !registry.contains (heir handler) then .error (.unknownProtocol (heir handler))
      else .ok (heir handler) := rfl
  rw [unfolded, contains]
  split
  · rename_i same
    exact Or.inl ⟨_, rfl, .itself same⟩
  · rename_i differs
    split
    · rename_i member
      exact Or.inl ⟨_, rfl, .cycle differs (by simpa using member)⟩
    · rename_i absent
      have new : heir handler ∉ names := by simpa using absent
      split
      · rename_i exhausted
        exact Or.inl ⟨_, rfl, .tooMany differs new exhausted⟩
      · rename_i within
        split
        · rename_i missing
          have unregistered : negotiation.registry.contains (heir handler) = false := by
            simpa using missing
          exact Or.inl ⟨_, rfl, .unknown differs new (Nat.le_of_not_lt within) unregistered⟩
        · rename_i known
          exact Or.inr ⟨rfl, differs, new, Nat.le_of_not_lt within, by simpa using known⟩

/-! ## Journals -/

theorem chain_append (early late : List (Entry σ)) :
    chain (early ++ late) = chain early ++ chain late := by
  rw [chain, List.filterMap_append, List.map_append]
  rfl

theorem chain_called (entries : List (Entry σ)) (handler : σ) (call : Call) (answer : Answer)
    (blob : Blob) (result : σ) :
    chain (entries ++ [.called handler call answer blob result]) = chain entries := by
  rw [chain_append]
  exact List.append_nil _

/--
What may be in a journal, with the handler that comes of it and its latest answer, which a handler
that has just been initialised has not given yet.
-/
inductive Tale (negotiation : Negotiation σ) : List (Entry σ) → σ → Option Answer → Prop
  | live {identity : Option Identity} {role : Role} {handler result : σ}
      (start : negotiation.start = .live identity role)
      (made : (negotiation.registry.create negotiation.protocol).1 = .ok handler)
      (steady : (face result).protocol = (face handler).protocol) :
      Tale negotiation [.initialised handler identity role result] result none
  | declared {attributes : Attributes} {handler result : σ}
      (start : negotiation.start = .declared attributes)
      (made : (negotiation.registry.create negotiation.protocol).1 = .ok handler)
      (steady : (face result).protocol = (face handler).protocol) :
      Tale negotiation [.declared handler attributes result] result none
  | called {entries : List (Entry σ)} {handler result : σ} {latest : Option Answer} {call : Call}
      {answer : Answer} {blob : Blob} (tale : Tale negotiation entries handler latest)
      (goesOn : latest ≠ some (.ok .delegated))
      (steady : (face result).protocol = (face handler).protocol) :
      Tale negotiation (entries ++ [.called handler call answer blob result]) result (some answer)
  | succeeded {entries : List (Entry σ)} {last handler result : σ} {role : Role}
      (tale : Tale negotiation entries last (some (.ok .delegated)))
      (heeded : negotiation.Heeded (chain entries) last)
      (roleEq : (face last).role = some role)
      (made : (negotiation.registry.create (heir last)).1 = .ok handler)
      (steady : (face result).protocol = (face handler).protocol) :
      Tale negotiation
        (entries ++ [.initialised handler ((face last).identity.map (·.rescoped (heir last))) role
          result])
        result none

variable {entries : List (Entry σ)} {latest : Option Answer}

theorem Tale.current (tale : Tale negotiation entries handler latest) :
    (chain entries).getLast? = some (face handler).protocol := by
  induction tale with
  | live _ _ steady => exact congrArg some steady.symm
  | declared _ _ steady => exact congrArg some steady.symm
  | called _ _ steady ih =>
      rw [chain_called, ih, steady]
  | succeeded _ _ _ _ steady _ =>
      rw [chain_append, steady]
      exact List.getLast?_concat

theorem Tale.chain_nodup (tale : Tale negotiation entries handler latest) :
    (chain entries).Nodup := by
  induction tale with
  | live _ _ _ => exact List.pairwise_singleton _ _
  | declared _ _ _ => exact List.pairwise_singleton _ _
  | called _ _ _ ih =>
      rw [chain_called]
      exact ih
  | @succeeded entries last next _ _ _ heeded _ made _ ih =>
      rw [chain_append]
      refine List.nodup_append.mpr ⟨ih, List.pairwise_singleton _ _, ?_⟩
      intro name early other lastOne same
      obtain rfl : other = (face next).protocol := by simpa [chain, Entry.made?] using lastOne
      rw [Registry.protocol_of_create made] at same
      exact heeded.new (same ▸ early)

theorem Tale.length_chain (tale : Tale negotiation entries handler latest) :
    (chain entries).length ≤ negotiation.settings.maxDelegations + 1 := by
  induction tale with
  | live _ _ _ => exact Nat.le_add_left 1 _
  | declared _ _ _ => exact Nat.le_add_left 1 _
  | called _ _ _ ih =>
      rw [chain_called]
      exact ih
  | succeeded _ heeded _ _ _ _ =>
      rw [chain_append, List.length_append]
      exact Nat.succ_le_succ heeded.within

theorem Tale.last (tale : Tale negotiation entries handler latest) :
    ∃ entry, entries.getLast? = some entry ∧ entry.result = handler ∧
      ∀ answer, latest = some answer → ∃ previous call blob,
        entry = .called previous call answer blob handler := by
  cases tale with
  | live _ _ _ => exact ⟨_, rfl, rfl, by simp⟩
  | declared _ _ _ => exact ⟨_, rfl, rfl, by simp⟩
  | called _ _ _ =>
      refine ⟨_, List.getLast?_concat, rfl, fun answer same => ?_⟩
      cases same
      exact ⟨_, _, _, rfl⟩
  | succeeded _ _ _ _ _ => exact ⟨_, List.getLast?_concat, rfl, by simp⟩

inductive Warranted (negotiation : Negotiation σ) (early : List (Entry σ)) : Entry σ → Prop
  | live {identity : Option Identity} {role : Role} {handler result : σ} (first : early = [])
      (start : negotiation.start = .live identity role)
      (made : (negotiation.registry.create negotiation.protocol).1 = .ok handler) :
      Warranted negotiation early (.initialised handler identity role result)
  | declared {attributes : Attributes} {handler result : σ} (first : early = [])
      (start : negotiation.start = .declared attributes)
      (made : (negotiation.registry.create negotiation.protocol).1 = .ok handler) :
      Warranted negotiation early (.declared handler attributes result)
  /-- A handler is called as the entry before has left it. -/
  | called {entry : Entry σ} {call : Call} {answer : Answer} {blob : Blob} {result : σ}
      (left : early.getLast? = some entry) :
      Warranted negotiation early (.called entry.result call answer blob result)
  /-- A successor takes the role and the identity of the handler that has just delegated to it. -/
  | succeeded {previous last handler result : σ} {call : Call} {blob : Blob} {role : Role}
      (delegated : early.getLast? = some (.called previous call (.ok .delegated) blob last))
      (made : (negotiation.registry.create (heir last)).1 = .ok handler)
      (roleEq : (face last).role = some role) :
      Warranted negotiation early
        (.initialised handler ((face last).identity.map (·.rescoped (heir last))) role result)

theorem split_concat {α : Type} {whole early late : List α} {last item : α}
    (split : whole ++ [last] = early ++ item :: late) :
    (late = [] ∧ early = whole ∧ item = last) ∨
      ∃ rest, late = rest ++ [last] ∧ whole = early ++ item :: rest := by
  rcases List.eq_nil_or_concat late with rfl | ⟨rest, other, rfl⟩
  · obtain ⟨same, items⟩ := List.append_inj' split rfl
    exact Or.inl ⟨rfl, same.symm, (List.cons.inj items).1.symm⟩
  · rw [List.concat_eq_append, ← List.cons_append, ← List.append_assoc] at split
    obtain ⟨same, items⟩ := List.append_inj' split rfl
    obtain rfl := (List.cons.inj items).1
    exact Or.inr ⟨rest, List.concat_eq_append, same⟩

theorem split_singleton {α : Type} {early late : List α} {last item : α}
    (split : [last] = early ++ item :: late) : early = [] ∧ item = last := by
  cases early with
  | nil => exact ⟨rfl, (List.cons.inj split).1.symm⟩
  | cons => simp at split

theorem Tale.warranted (tale : Tale negotiation entries handler latest)
    {early late : List (Entry σ)} {entry : Entry σ} (split : entries = early ++ entry :: late) :
    negotiation.Warranted early entry := by
  induction tale generalizing late with
  | live start made _ =>
      obtain ⟨rfl, rfl⟩ := split_singleton split
      exact .live rfl start made
  | declared start made _ =>
      obtain ⟨rfl, rfl⟩ := split_singleton split
      exact .declared rfl start made
  | called tale _ _ ih =>
      obtain ⟨rfl, rfl, rfl⟩ | ⟨rest, _, before⟩ := split_concat split
      · obtain ⟨entry, left, rfl, _⟩ := tale.last
        exact .called left
      · exact ih before
  | succeeded tale heeded roleEq made _ ih =>
      obtain ⟨rfl, rfl, rfl⟩ | ⟨rest, _, before⟩ := split_concat split
      · obtain ⟨entry, left, _, answered⟩ := tale.last
        obtain ⟨_, _, _, rfl⟩ := answered _ rfl
        exact .succeeded left made roleEq
      · exact ih before

/-- Whatever is done is done with the handler whose protocol is the last of the chain by then. -/
theorem Tale.reports (tale : Tale negotiation entries handler latest) {early late : List (Entry σ)}
    {entry : Entry σ} (split : entries = early ++ entry :: late) :
    (chain (early ++ [entry])).getLast? = some (face entry.handler).protocol ∧
      (face entry.result).protocol = (face entry.handler).protocol := by
  induction tale generalizing late with
  | live _ _ steady =>
      obtain ⟨rfl, rfl⟩ := split_singleton split
      exact ⟨rfl, steady⟩
  | declared _ _ steady =>
      obtain ⟨rfl, rfl⟩ := split_singleton split
      exact ⟨rfl, steady⟩
  | called tale _ steady ih =>
      obtain ⟨rfl, rfl, rfl⟩ | ⟨rest, _, before⟩ := split_concat split
      · rw [chain_called]
        exact ⟨tale.current, steady⟩
      · exact ih before
  | succeeded _ _ _ _ steady ih =>
      obtain ⟨rfl, rfl, rfl⟩ | ⟨rest, _, before⟩ := split_concat split
      · rw [chain_append]
        exact ⟨List.getLast?_concat, steady⟩
      · exact ih before

theorem Tale.refused_last (tale : Tale negotiation entries handler latest)
    {early late : List (Entry σ)} {previous last : σ} {call : Call} {blob : Blob}
    (split : entries = early ++ .called previous call (.ok .delegated) blob last :: late)
    (refused : negotiation.Refused (chain early) last fault) :
    late = [] ∧ last = handler ∧ latest = some (.ok .delegated) := by
  induction tale generalizing late with
  | live _ _ _ => cases (split_singleton split).2
  | declared _ _ _ => cases (split_singleton split).2
  | called _ goes_on _ ih =>
      obtain ⟨rfl, _, same⟩ | ⟨rest, _, before⟩ := split_concat split
      · cases same
        exact ⟨rfl, rfl, rfl⟩
      · exact absurd (ih before).2.2 goes_on
  | succeeded _ heeded _ _ _ ih =>
      obtain ⟨_, _, same⟩ | ⟨rest, _, before⟩ := split_concat split
      · cases same
      · obtain ⟨rfl, rfl, _⟩ := ih before
        rw [before, chain_called] at heeded
        exact absurd heeded refused.not_heeded

end Negotiation

end Parley
