import Parley.Proofs.SharedKey.Lives
import Parley.Proofs.SharedKey.Transcript

/-!
Any number of handlers on a network. They move in any order, and what reaches them may be anything.
If tags cannot be forged, then a handler that has heard a tag has heard it from the handler that
made it, and that one goes by the same terms.
-/

namespace Parley

def Message.tag? : Message → Option Bytes
  | .challenge _ _ tag => tag
  | .proof tag => some tag
  | _ => none

namespace Terms

def transcript (terms : Terms) : Role → Transcript
  | .client =>
    ⟨terms.variant, .client, terms.serverNonce.bytes, terms.clientNonce.bytes, terms.user⟩
  | .server =>
    ⟨terms.variant, .server, terms.clientNonce.bytes, terms.serverNonce.bytes, terms.user⟩

def deeds (terms : Terms) (key : SecretKey) (server : String) : Role → List Deed
  | .client => terms.clientDeeds key server
  | .server => terms.serverDeeds key server

theorem framed_transcript (terms : Terms) (role : Role) : (terms.transcript role).Framed := by
  have small : nonceLength < 65536 := by decide
  cases role <;>
    exact ⟨by simpa only [transcript, Nonce.length_eq], by simpa only [transcript, Nonce.length_eq]⟩

theorem eq_of_transcript_eq {terms other : Terms} {role side : Role}
    (same : terms.transcript role = other.transcript side) : terms = other ∧ role = side := by
  obtain ⟨variant, user, ⟨own, _⟩, ⟨nonce, _⟩⟩ := terms
  obtain ⟨variant', user', ⟨own', _⟩, ⟨nonce', _⟩⟩ := other
  cases role <;> cases side <;> simp_all [transcript]

theorem eq_of_memory_eq {terms other : Terms} {key known : SecretKey}
    (same : terms.memory key = other.memory known) : terms = other ∧ key = known := by
  obtain ⟨variant, user, ⟨own, _⟩, ⟨nonce, _⟩⟩ := terms
  obtain ⟨variant', user', ⟨own', _⟩, ⟨nonce', _⟩⟩ := other
  simp_all [memory]

end Terms

theorem Deed.Idle.tag?_eq_none {message : Message} (idle : (Deed.said message).Idle) :
    message.tag? = none := by
  cases message with
  | challenge _ _ _ => exact idle.elim
  | proof _ => exact idle.elim
  | _ => rfl

theorem prefix_of_mem {α : Type} {front early whole : List α} {deed : α}
    (before : front ++ [deed] <+: whole) (within : early <+: whole) (member : deed ∈ early)
    (first : deed ∉ front) : front ++ [deed] <+: early := by
  rcases List.prefix_or_prefix_of_prefix before within with done | short
  · exact done
  · rcases List.prefix_concat_iff.mp short with same | shorter
    · subst same
      exact List.prefix_refl _
    · exact absurd (shorter.subset member) first

namespace SharedKey

/-- A handler has shown a tag: what it has done up to that, and what it goes by. -/
structure Shown (start : SharedKey) (memory : Memory) (log : List Deed) (sent : Message)
    (role : Role) (terms : Terms) (key : SecretKey) : Prop where
  holds : Holds start role terms key memory
  /-- Only the mutual variant has servers show tags. -/
  mutualServer : role = .server → terms.variant.isMutual = true
  tag_eq : sent.tag? = some ((terms.transcript role).tag key)
  deeds : ∃ server front, terms.deeds key server role = front ++ [.said sent] ∧
    .said sent ∉ front ∧ front ++ [.said sent] <+: log

variable {κ : Type} {start handler : SharedKey} {log : List Deed}

theorem Standing.shown (standing : Standing start handler log) {sent : Message} {tag : Bytes}
    (said : .said sent ∈ log) (tagged : sent.tag? = some tag) :
    ∃ role terms key, Shown start handler.memory log sent role terms key := by
  obtain ⟨story, rest, rfl, storyEq, idle⟩ := standing.told
  have told : Deed.said sent ∈ story := by
    rcases List.mem_append.mp said with early | late
    · exact early
    · rw [(idle _ late).tag?_eq_none] at tagged
      cases tagged
  -- A server has shown its tag by the time of its challenge, whether or not more came of it.
  have challenged {terms : Terms} {key : SecretKey} {server : String} {more : List Deed}
      (holds : Holds start .server terms key handler.memory)
      (same : sent = terms.challenge server key) :
      Shown start handler.memory (terms.serverDeeds key server ++ more) sent .server terms key := by
    have asked : terms.variant.isMutual = true := by
      rcases asks : terms.variant.isMutual
      · simp [same, Terms.challenge, Message.tag?, asks] at tagged
      · rfl
    refine ⟨holds, fun _ => asked, ?_, server, [.heard terms.hello, .drew terms.serverNonce], ?_,
      by simp, ?_⟩
    · rw [same, Terms.challenge, if_pos asked]
      rfl
    · rw [same]
      rfl
    · rw [same]
      exact List.prefix_append _ _
  cases storyEq with
  | silent => simp at told
  | @proved terms key holds server =>
      have same : sent = .proof (terms.clientProof key) := by
        simp only [Terms.clientDeeds, List.mem_cons, Deed.said.injEq, reduceCtorEq, false_or,
          List.not_mem_nil, or_false] at told
        refine told.resolve_left fun hello => ?_
        rw [hello] at tagged
        cases tagged
      subst same
      exact ⟨.client, terms, key, holds, by simp, rfl, server,
        [.drew terms.clientNonce, .said terms.hello, .heard (terms.challenge server key)], rfl,
        by simp [Terms.hello], List.prefix_append _ _⟩
  | @challenged terms key holds server =>
      have same : sent = terms.challenge server key := by
        simpa [Terms.serverDeeds] using told
      exact ⟨.server, terms, key, challenged holds same⟩
  | @accepted terms key holds server =>
      have same : sent = terms.challenge server key := by
        simp only [Terms.serverDeeds, Terms.acceptance, List.mem_append, List.mem_cons,
          Deed.said.injEq, reduceCtorEq, false_or, List.not_mem_nil, or_false] at told
        refine told.resolve_right fun verdict => ?_
        rw [verdict] at tagged
        cases tagged
      rw [List.append_assoc]
      exact ⟨.server, terms, key, challenged holds same⟩

/-! ## Tags -/

variable {ι : Type} {trace : List (ι × Deed)} {now : ι → Posture}

/--
A tag of this transcript under this key occurs: some handler makes it or compares with it. What is
compared with a server's tag occurs in the mutual variant only.
-/
def Occurs (now : ι → Posture) (key : SecretKey) (transcript : Transcript) : Prop :=
  ∃ i terms role, (now i).handler.memory = Terms.memory terms key ∧
    (role = .server → terms.variant.isMutual = true) ∧ transcript = terms.transcript role

/-- What is asked of tags: they tell apart what they are made of, and nobody else makes them. -/
structure Unforgeable (honest : SecretKey → Prop) (trace : List (ι × Deed)) (now : ι → Posture) :
    Prop where
  distinct {key other : SecretKey} {transcript another : Transcript}
    (occurs : Occurs now key transcript) (occurs' : Occurs now other another)
    (same : transcript.tag key = another.tag other) :
    key = other ∧ transcript.encode = another.encode
  /-- A tag that is delivered under an honest key was sent by some handler before. -/
  unforged {early late : List (ι × Deed)} {i : ι} {message : Message} {key : SecretKey}
    {transcript : Transcript} (split : trace = early ++ (i, .heard message) :: late)
    (occurs : Occurs now key transcript) (honest : honest key)
    (tagged : message.tag? = some (transcript.tag key)) :
    ∃ j sent, (j, .said sent) ∈ early ∧ sent.tag? = some (transcript.tag key)

theorem Unforgeable.eq_of_tag_eq {honest : SecretKey → Prop}
    (unforgeable : Unforgeable honest trace now) {terms other : Terms} {role side : Role}
    {key known : SecretKey} (occurs : Occurs now key (terms.transcript role))
    (occurs' : Occurs now known (other.transcript side))
    (same : (terms.transcript role).tag key = (other.transcript side).tag known) :
    terms = other ∧ role = side ∧ key = known := by
  obtain ⟨keys, encoded⟩ := unforgeable.distinct occurs occurs' same
  obtain ⟨sameTerms, roles⟩ := Terms.eq_of_transcript_eq
    (Transcript.eq_of_encode_eq (terms.framed_transcript role) (other.framed_transcript side)
      encoded)
  exact ⟨sameTerms, roles, keys⟩

/-! ## Runs -/

variable [DecidableEq ι]

def deedsOf (i : ι) (trace : List (ι × Deed)) : List Deed :=
  trace.filterMap fun event => if event.1 = i then some event.2 else none

/--
Handlers that take turns in any order. Nothing ties what a handler takes in to what others have
sent, so the network may lose, reorder, repeat, change and make up whatever it likes.
-/
inductive Run (κ : Type) [KeyStore κ] (starts : ι → SharedKey) :
    List (ι × Deed) → (ι → Posture) → Prop
  | begin : Run κ starts [] fun i => ⟨starts i, false⟩
  | move {trace : List (ι × Deed)} {now : ι → Posture} {more : List Deed} {next : Posture} {i : ι}
      (run : Run κ starts trace now) (move : Move κ (now i) more next) :
      Run κ starts (trace ++ more.map (i, ·)) fun j => if j = i then next else now j

variable {starts : ι → SharedKey}

theorem deedsOf_append (i : ι) (first second : List (ι × Deed)) :
    deedsOf i (first ++ second) = deedsOf i first ++ deedsOf i second :=
  List.filterMap_append

theorem deedsOf_map (i j : ι) (more : List Deed) :
    deedsOf i (more.map (j, ·)) = if i = j then more else [] := by
  rw [deedsOf, List.filterMap_map]
  change more.filterMap (fun deed => if j = i then some deed else none) = _
  by_cases same : i = j
  · simp [same]
  · simp [same, Ne.symm same]

theorem mem_deedsOf_iff {i : ι} {deed : Deed} : deed ∈ deedsOf i trace ↔ (i, deed) ∈ trace := by
  simp only [deedsOf, List.mem_filterMap, Prod.exists]
  constructor
  · rintro ⟨j, other, member, same⟩
    split at same
    · rename_i sameSide
      obtain rfl := Option.some.inj same
      exact sameSide ▸ member
    · cases same
  · exact fun member => ⟨i, deed, member, if_pos rfl⟩

theorem deedsOf_sublist (i : ι) (trace : List (ι × Deed)) :
    ((deedsOf i trace).map (i, ·)).Sublist trace := by
  induction trace with
  | nil => exact List.Sublist.slnil
  | cons event trace ih =>
      obtain ⟨j, deed⟩ := event
      rw [deedsOf, List.filterMap_cons]
      dsimp only
      by_cases same : j = i
      · rw [if_pos same, same]
        exact ih.cons_cons _
      · rw [if_neg same]
        exact ih.cons _

variable [KeyStore κ]

theorem Run.life (run : Run κ starts trace now) (i : ι) :
    Life κ (starts i) (deedsOf i trace) (now i) := by
  induction run with
  | begin => exact .begin
  | @move trace now more next j _ move ih =>
      rw [deedsOf_append, deedsOf_map]
      by_cases same : i = j
      · subst same
        simp only [if_true]
        exact ih.move move
      · simp only [if_neg same, List.append_nil]
        exact ih

def Prepared (κ : Type) [KeyStore κ] (starts : ι → SharedKey) : Prop :=
  ∀ i, ∃ (variant : Variant) (supplies began : Supplies κ),
    Initialises (fresh variant) supplies (starts i) began

theorem Run.standing (run : Run κ starts trace now) (prepared : Prepared κ starts) (i : ι) :
    Standing (starts i) (now i).handler (deedsOf i trace) := by
  obtain ⟨variant, supplies, began, initialised⟩ := prepared i
  exact ((standing_initialises initialised).life (run.life i)).1

/-- A handler that hears a tag has it from one that has shown it before, on the same terms. -/
theorem Run.origin (run : Run κ starts trace now) (prepared : Prepared κ starts)
    {honest : SecretKey → Prop} (unforgeable : Unforgeable honest trace now) {i : ι} {role : Role}
    {message : Message} {terms : Terms} {key : SecretKey} (heard : (i, .heard message) ∈ trace)
    (occurs : Occurs now key (terms.transcript role)) (honest : honest key)
    (tagged : message.tag? = some ((terms.transcript role).tag key)) :
    ∃ j server, Holds (starts j) role terms key (now j).handler.memory ∧
      ((terms.deeds key server role).map (j, ·) ++ [(i, Deed.heard message)]).Sublist trace := by
  obtain ⟨early, late, split⟩ := List.append_of_mem heard
  obtain ⟨j, sent, said, tagEq⟩ := unforgeable.unforged split occurs honest tagged
  have within : deedsOf j early <+: deedsOf j trace := by
    rw [split, deedsOf_append]
    exact List.prefix_append _ _
  have told := mem_deedsOf_iff.mpr said
  obtain ⟨side, other, known, shown⟩ :=
    (run.standing prepared j).shown (within.subset told) tagEq
  have occurs' : Occurs now known (other.transcript side) :=
    ⟨j, other, side, shown.holds.memory, shown.mutualServer, rfl⟩
  obtain ⟨rfl, rfl, rfl⟩ := unforgeable.eq_of_tag_eq occurs occurs'
    (Option.some.inj (tagEq.symm.trans shown.tag_eq))
  obtain ⟨server, front, deeds, first, before⟩ := shown.deeds
  refine ⟨j, server, shown.holds, ?_⟩
  have done : ((terms.deeds key server role).map (j, ·)).Sublist early := by
    rw [deeds]
    exact ((prefix_of_mem before within told first).sublist.map _).trans (deedsOf_sublist j early)
  rw [split]
  exact done.append ((List.nil_sublist late).cons_cons _)

end SharedKey

end Parley
