import Mathlib.Logic.Relation

/-!
Two sides that two queues join and that take turns. What one side says in its turn the other one
hears, and in between either may do something of its own. In whatever order they go on, and wherever
what is said is divided, they come to their ends.
-/

namespace Parley.Conversation

inductive Act (α : Type) where
  | quiet
  | send (items : List α)
  | receive (items : List α)

/-- Every way to go on from a state comes to an end, in a state of the given kind. -/
inductive Settles {σ : Type} (move : σ → σ → Prop) (kind : σ → Prop) : σ → Prop
  | intro {state : σ} (moves : ∀ next, move state next → Settles move kind next)
      (ends : (∀ next, ¬ move state next) → kind state) : Settles move kind state

variable {X S α : Type}

structure Link (X S α : Type) where
  one : X
  other : X
  shared : S
  toOne : List α := []
  toOther : List α := []

namespace Link

def swap (link : Link X S α) : Link X S α :=
  { one := link.other
    other := link.one
    shared := link.shared
    toOne := link.toOther
    toOther := link.toOne }

end Link

section

variable (acts : X → S → Act α → X → S → Prop) (fits : List α → Prop)

/-- The first side does something; it sends only what there is room for. -/
inductive Step (link : Link X S α) : Link X S α → Prop
  | quiet {one : X} {shared : S} (act : acts link.one link.shared .quiet one shared) :
      Step link { link with one, shared }
  | send {one : X} {shared : S} {items : List α}
      (act : acts link.one link.shared (.send items) one shared)
      (room : fits (link.toOther ++ items)) :
      Step link { link with one, shared, toOther := link.toOther ++ items }
  | receive {one : X} {shared : S} {items rest : List α}
      (act : acts link.one link.shared (.receive items) one shared)
      (split : link.toOne = items ++ rest) :
      Step link { link with one, shared, toOne := rest }

inductive Move (link : Link X S α) : Link X S α → Prop
  | here {next : Link X S α} (step : Step acts fits link next) : Move link next
  | there {next : Link X S α} (step : Step acts fits link.swap next) : Move link next.swap

/-- A side can do one thing only, which is of its own. -/
def QuietAt (now : S) (x : X) (later : S) (y : X) : Prop :=
  ∀ act z after, acts x now act z after ↔ act = .quiet ∧ z = y ∧ after = later

def Quiet (x : X) (y : S → X) : Prop := ∀ shared, QuietAt acts shared x shared (y shared)

inductive Over (good : X → Prop) : X → Prop
  | rests {x : X} (still : ∀ shared act y later, ¬ acts x shared act y later) (goodEnd : good x) :
      Over good x
  | quiet {x : X} {y : S → X} (quiet : Quiet acts x y) (onward : ∀ shared, Over good (y shared)) :
      Over good x

/-- A side says so much, and then it goes on as it should. -/
inductive Speaks (next : X → Prop) (after : S) : List α → S → X → Prop
  | done {x : X} (goes : next x) : Speaks next after [] after x
  | quiet {left : List α} {now later : S} {x y : X} (someLeft : left ≠ [])
      (quiet : QuietAt acts now x later y) (speaks : Speaks next after left later y) :
      Speaks next after left now x
  | sends {left : List α} {now : S} {x : X} (someLeft : left ≠ [])
      (only : ∀ act y later, acts x now act y later →
        ∃ part rest, part ≠ [] ∧ left = part ++ rest ∧ act = .send part)
      (able : ∃ item y later, acts x now (.send [item]) y later)
      (speaks : ∀ part rest y later, part ≠ [] → left = part ++ rest →
        acts x now (.send part) y later → Speaks next after rest later y) :
      Speaks next after left now x

inductive Hears (next : X → Prop) : List α → X → Prop
  | done {x : X} (goes : next x) : Hears next [] x
  | quiet {left : List α} {x : X} {y : S → X} (someLeft : left ≠ []) (quiet : Quiet acts x y)
      (hears : ∀ shared, Hears next left (y shared)) : Hears next left x
  | hears {left : List α} {x : X} (someLeft : left ≠ [])
      (only : ∀ shared act y later, acts x shared act y later →
        ∃ part, part ≠ [] ∧ act = .receive part)
      (able : ∀ shared item rest, left = item :: rest →
        ∃ y, acts x shared (.receive [item]) y shared)
      (kept : ∀ shared part rest y later, part ≠ [] → left = part ++ rest →
        acts x shared (.receive part) y later → later = shared)
      (hears : ∀ shared part rest y later, part ≠ [] → left = part ++ rest →
        acts x shared (.receive part) y later → Hears next rest y) : Hears next left x

/--
A side follows turns if it says what is to be said in its own ones, hears what is said in the
others, and then comes to a good end. With each turn stands what is shared once it is over.
-/
def Follows (good : X → Prop) : Bool → List (List α × S) → S → X → Prop
  | _, [], _, x => Over acts good x
  | true, (said, after) :: turns, now, x =>
    Speaks acts (Follows good false turns after) after said now x
  | false, (said, after) :: turns, _, x => Hears acts (Follows good true turns after) said x

end

/-! ## Settling -/

section

variable {σ τ : Type} {move : σ → σ → Prop} {kind : σ → Prop} {start : σ}

theorem Settles.imp {other : σ → Prop} (settles : Settles move kind start)
    (implies : ∀ last, kind last → other last) : Settles move other start := by
  induction settles with
  | intro _ ends ih => exact .intro ih fun stuck => implies _ (ends stuck)

theorem Settles.no_infinite_run (settles : Settles move kind start) :
    ¬ ∃ run : Nat → σ, run 0 = start ∧ ∀ count, move (run count) (run (count + 1)) := by
  induction settles with
  | intro _ _ ih =>
      rintro ⟨run, rfl, goes⟩
      exact ih (run 1) (goes 0) ⟨fun count => run (count + 1), rfl, fun count => goes (count + 1)⟩

theorem Settles.of_stuck {last : σ} (settles : Settles move kind start)
    (reaches : Relation.ReflTransGen move start last) (stuck : ∀ next, ¬ move last next) :
    kind last := by
  have settled : Settles move kind last := by
    clear stuck
    induction reaches with
    | refl => exact settles
    | tail _ moved ih =>
        cases ih with
        | intro moves _ => exact moves _ moved
  cases settled with
  | intro _ ends => exact ends stuck

theorem Settles.of_map {other : τ → τ → Prop} {goal : τ → Prop} (image : σ → τ) (good : σ → Prop)
    (kept : ∀ state next, good state → move state next →
      good next ∧ other (image state) (image next))
    (lifted : ∀ state, good state → (∀ next, ¬ move state next) →
      ∀ next, ¬ other (image state) next)
    (goodStart : good start) (settles : Settles other goal (image start)) :
    Settles move (fun last => goal (image last)) start := by
  generalize same : image start = origin at settles
  induction settles generalizing start with
  | intro _ ends ih =>
      subst same
      refine .intro (fun next moved => ?_) fun stuck => ends (lifted start goodStart stuck)
      obtain ⟨goodNext, moved⟩ := kept start next goodStart moved
      exact ih (image next) moved goodNext rfl

end

variable {acts : X → S → Act α → X → S → Prop} {fits : List α → Prop} {link : Link X S α}

theorem Move.swap {next : Link X S α} (moved : Move acts fits link next) :
    Move acts fits link.swap next.swap := by
  cases moved with
  | here step => exact .there step
  | there step => exact .here step

theorem Settles.swap {kind : Link X S α → Prop} (settles : Settles (Move acts fits) kind link) :
    Settles (Move acts fits) (fun last => kind last.swap) link.swap := by
  refine settles.of_map Link.swap (fun _ => True)
    (fun _ _ _ moved => ⟨trivial, moved.swap⟩) (fun _ _ stuck next moved => ?_) trivial
  exact stuck next.swap moved.swap

/-! ## Waiting for a turn to end -/

variable {good holds : X → Prop} {x y z : X} {now after later : S} {items : List α}

theorem QuietAt.able (quiet : QuietAt acts now x later y) : acts x now .quiet y later :=
  (quiet _ _ _).mpr ⟨rfl, rfl, rfl⟩

theorem QuietAt.not_send (quiet : QuietAt acts now x later y) :
    ¬ acts x now (.send items) z after :=
  fun act => nomatch ((quiet _ _ _).mp act).1

theorem QuietAt.not_receive (quiet : QuietAt acts now x later y) :
    ¬ acts x now (.receive items) z after :=
  fun act => nomatch ((quiet _ _ _).mp act).1

/-- A side that may do things of its own meanwhile, and that no longer says anything. -/
inductive Idles (acts : X → S → Act α → X → S → Prop) (holds : X → Prop) : X → Prop
  | idles {x : X} (here : holds x)
      (only : ∀ shared act y later, acts x shared act y later →
        act = .quiet ∧ later = shared ∨ ∃ part, part ≠ [] ∧ act = .receive part)
      (idles : ∀ shared y later, acts x shared .quiet y later → Idles acts holds y) :
      Idles acts holds x

theorem Idles.same_shared (idles : Idles acts holds x) (act : acts x now .quiet z later) :
    later = now := by
  cases idles with
  | idles _ only _ =>
      rcases only _ _ _ _ act with ⟨_, same⟩ | ⟨_, _, named⟩
      · exact same
      · cases named

theorem Idles.not_send (idles : Idles acts holds x) : ¬ acts x now (.send items) z later := by
  intro act
  cases idles with
  | idles _ only _ => rcases only _ _ _ _ act with ⟨named, _⟩ | ⟨_, _, named⟩ <;> cases named

theorem Idles.some_received (idles : Idles acts holds x)
    (act : acts x now (.receive items) z later) : items ≠ [] := by
  cases idles with
  | idles _ only _ =>
      rcases only _ _ _ _ act with ⟨named, _⟩ | ⟨_, somePart, named⟩
      · cases named
      · cases named
        exact somePart

theorem Over.idles (comes : Over acts good x) : Idles acts (Over acts good) x := by
  induction comes with
  | rests still goodEnd =>
      exact .idles (.rests still goodEnd) (fun _ _ _ _ act => absurd act (still _ _ _ _))
        fun _ _ _ act => absurd act (still _ _ _ _)
  | quiet quiet onward ih =>
      refine .idles (.quiet quiet onward) (fun _ _ _ _ act => ?_) fun _ _ _ act => ?_
      · obtain ⟨rfl, _, rfl⟩ := (quiet _ _ _ _).mp act
        exact Or.inl ⟨rfl, rfl⟩
      · obtain ⟨_, rfl, _⟩ := (quiet _ _ _ _).mp act
        exact ih _

theorem Hears.idles {next : X → Prop} {left : List α} (hears : Hears acts next left x)
    (someLeft : left ≠ []) : Idles acts (Hears acts next left) x := by
  induction hears with
  | done _ => exact absurd rfl someLeft
  | quiet _ quiet hears ih =>
      refine .idles (.quiet someLeft quiet hears) (fun _ _ _ _ act => ?_) fun _ _ _ act => ?_
      · obtain ⟨rfl, _, rfl⟩ := (quiet _ _ _ _).mp act
        exact Or.inl ⟨rfl, rfl⟩
      · obtain ⟨_, rfl, _⟩ := (quiet _ _ _ _).mp act
        exact ih _ someLeft
  | hears _ only able kept hears _ =>
      refine .idles (.hears someLeft only able kept hears) (fun _ _ _ _ act => ?_)
        fun _ _ _ act => ?_
      · exact Or.inr (only _ _ _ _ act)
      · obtain ⟨part, _, quiet⟩ := only _ _ _ _ act
        cases quiet

/-! ## Turns -/

variable {kind : Link X S α → Prop} {queue : List α}

theorem settles_forth
    (oneQuiet : ∀ z later, acts x now .quiet z later →
      Settles (Move acts fits) kind ⟨z, y, later, [], queue⟩)
    (oneSend : ∀ items z later, acts x now (.send items) z later →
      Settles (Move acts fits) kind ⟨z, y, later, [], queue ++ items⟩)
    (oneReceive : ∀ items z later, acts x now (.receive items) z later → items ≠ [])
    (otherQuiet : ∀ z later, acts y now .quiet z later →
      Settles (Move acts fits) kind ⟨x, z, later, [], queue⟩)
    (otherSilent : ∀ items z later, ¬ acts y now (.send items) z later)
    (otherReceive : ∀ items rest z later, acts y now (.receive items) z later →
      queue = items ++ rest → Settles (Move acts fits) kind ⟨x, z, later, [], rest⟩)
    (ends : (∀ next, ¬ Move acts fits ⟨x, y, now, [], queue⟩ next) →
      kind ⟨x, y, now, [], queue⟩) : Settles (Move acts fits) kind ⟨x, y, now, [], queue⟩ := by
  refine .intro (fun next moved => ?_) ends
  cases moved with
  | here step =>
      cases step with
      | quiet act => exact oneQuiet _ _ act
      | send act _ => exact oneSend _ _ _ act
      | receive act split =>
          exact absurd (List.append_eq_nil_iff.mp split.symm).1 (oneReceive _ _ _ act)
  | there step =>
      cases step with
      | quiet act => exact otherQuiet _ _ act
      | send act _ => exact absurd act (otherSilent _ _ _)
      | receive act split => exact otherReceive _ _ _ _ act split

theorem settles_heard {next : X → Prop}
    (goesOn : ∀ x y, holds x → next y → Settles (Move acts fits) kind ⟨x, y, now, [], []⟩)
    (idles : Idles acts holds x) (hears : Hears acts next queue y) :
    Settles (Move acts fits) kind ⟨x, y, now, [], queue⟩ := by
  induction hears generalizing x with
  | done goes =>
      cases idles with
      | idles here _ _ => exact goesOn _ _ here goes
  | @quiet queue y z someLeft quiet hears ih =>
      induction idles with
      | @idles x here only idles ihIdles =>
          have idling : Idles acts holds x := .idles here only idles
          refine settles_forth (fun _ _ act => ?_) (fun _ _ _ act => absurd act idling.not_send)
            (fun _ _ _ act => idling.some_received act) (fun _ _ act => ?_)
            (fun _ _ _ => (quiet now).not_send)
            (fun _ _ _ _ act => absurd act (quiet now).not_receive) fun stuck => ?_
          · obtain rfl := idling.same_shared act
            exact ihIdles _ _ _ act
          · obtain ⟨_, rfl, rfl⟩ := (quiet _ _ _ _).mp act
            exact ih _ idling
          · exact absurd (.there (.quiet (quiet now).able)) (stuck _)
  | @hears queue y someLeft onlyY able kept hears ih =>
      induction idles with
      | @idles x here only idles ihIdles =>
          have idling : Idles acts holds x := .idles here only idles
          refine settles_forth (fun _ _ act => ?_) (fun _ _ _ act => absurd act idling.not_send)
            (fun _ _ _ act => idling.some_received act) (fun _ _ act => ?_) (fun _ _ _ act => ?_)
            (fun items rest z _ act split => ?_) fun stuck => ?_
          · obtain rfl := idling.same_shared act
            exact ihIdles _ _ _ act
          · obtain ⟨_, _, named⟩ := onlyY _ _ _ _ act
            cases named
          · obtain ⟨_, _, named⟩ := onlyY _ _ _ _ act
            cases named
          · obtain ⟨_, someItems, named⟩ := onlyY _ _ _ _ act
            cases named
            obtain rfl := kept _ _ _ _ _ someItems split act
            exact ih _ _ _ _ _ someItems split act idling
          · obtain ⟨item, rest, rfl⟩ := List.exists_cons_of_ne_nil someLeft
            obtain ⟨z, act⟩ := able now item rest rfl
            exact absurd (.there (.receive act rfl)) (stuck _)

theorem settles_hearing {next : X → Prop} {left : List α} (someLeft : left ≠ [])
    (oneFits : ∀ item, fits [item])
    (able : (∃ z later, acts x now .quiet z later) ∨
      ∃ item z later, acts x now (.send [item]) z later)
    (oneQuiet : ∀ y queue, Hears acts next (queue ++ left) y → ∀ z later,
      acts x now .quiet z later → Settles (Move acts fits) kind ⟨z, y, later, [], queue⟩)
    (oneSend : ∀ y queue, Hears acts next (queue ++ left) y → ∀ items z later,
      acts x now (.send items) z later →
      Settles (Move acts fits) kind ⟨z, y, later, [], queue ++ items⟩)
    (oneReceive : ∀ items z later, ¬ acts x now (.receive items) z later)
    (hears : Hears acts next (queue ++ left) y) :
    Settles (Move acts fits) kind ⟨x, y, now, [], queue⟩ := by
  have deaf (items : List α) (z : X) (later : S) (act : acts x now (.receive items) z later) :
      items ≠ [] := absurd act (oneReceive items z later)
  generalize same : queue ++ left = heard at hears
  induction hears generalizing queue with
  | done _ => exact absurd (List.append_eq_nil_iff.mp same).2 someLeft
  | @quiet heard y w someHeard quiet hears ih =>
      have hearsNow : Hears acts next (queue ++ left) y := by
        rw [same]
        exact .quiet someHeard quiet hears
      refine settles_forth (oneQuiet y queue hearsNow) (oneSend y queue hearsNow) deaf
        (fun _ _ act => ?_) (fun _ _ _ => (quiet now).not_send)
        (fun _ _ _ _ act => absurd act (quiet now).not_receive) fun stuck => ?_
      · obtain ⟨_, rfl, rfl⟩ := (quiet _ _ _ _).mp act
        exact ih _ same
      · exact absurd (.there (.quiet (quiet now).able)) (stuck _)
  | @hears heard y someHeard only ableY kept hears ih =>
      have hearsNow : Hears acts next (queue ++ left) y := by
        rw [same]
        exact .hears someHeard only ableY kept hears
      refine settles_forth (oneQuiet y queue hearsNow) (oneSend y queue hearsNow) deaf
        (fun _ _ act => ?_) (fun _ _ _ act => ?_) (fun items rest _ _ act split => ?_)
        fun stuck => ?_
      · obtain ⟨_, _, same⟩ := only _ _ _ _ act
        cases same
      · obtain ⟨_, _, same⟩ := only _ _ _ _ act
        cases same
      · obtain ⟨_, someItems, named⟩ := only _ _ _ _ act
        cases named
        subst split
        rw [List.append_assoc] at same
        obtain rfl := kept _ items (rest ++ left) _ _ someItems same.symm act
        exact ih _ items (rest ++ left) _ _ someItems same.symm act rfl
      · -- With nothing on its way there is room to say more.
        rcases queue with _ | ⟨item, rest⟩
        · rcases able with ⟨z, later, act⟩ | ⟨item, z, later, act⟩
          · exact absurd (.here (.quiet act)) (stuck _)
          · exact absurd (.here (.send act (oneFits item))) (stuck _)
        · obtain ⟨z, act⟩ := ableY now item (rest ++ left) same.symm
          exact absurd (.there (.receive act rfl)) (stuck _)

theorem settles_said {next : X → Prop} {left : List α}
    (goesOn : ∀ x y, holds x → next y → Settles (Move acts fits) kind ⟨x, y, after, [], []⟩)
    (calm : ∀ x, holds x → Idles acts holds x) (oneFits : ∀ item, fits [item])
    (speaks : Speaks acts holds after left now x) (hears : Hears acts next (queue ++ left) y) :
    Settles (Move acts fits) kind ⟨x, y, now, [], queue⟩ := by
  induction speaks generalizing y queue with
  | done goes =>
      rw [List.append_nil] at hears
      exact settles_heard goesOn (calm _ goes) hears
  | quiet someLeft quiet _ ih =>
      refine settles_hearing someLeft oneFits (Or.inl ⟨_, _, quiet.able⟩)
        (fun y queue hears z later act => ?_) (fun _ _ _ _ _ _ act => absurd act quiet.not_send)
        (fun _ _ _ => quiet.not_receive) hears
      obtain ⟨_, rfl, rfl⟩ := (quiet _ _ _).mp act
      exact ih hears
  | @sends left now x someLeft only able _ ih =>
      refine settles_hearing someLeft oneFits (Or.inr able)
        (fun y queue hears z later act => ?_) (fun y queue hears items z later act => ?_)
        (fun _ _ _ act => ?_) hears
      · obtain ⟨_, _, _, _, named⟩ := only _ _ _ act
        cases named
      · obtain ⟨part, rest, somePart, split, named⟩ := only _ _ _ act
        cases named
        refine ih items rest z later somePart split act ?_
        rw [List.append_assoc, ← split]
        exact hears
      · obtain ⟨_, _, _, _, named⟩ := only _ _ _ act
        cases named

theorem settles_over {otherGood : X → Prop}
    (ends : ∀ x y, good x → otherGood y → kind ⟨x, y, now, [], []⟩) (one : Over acts good x)
    (other : Over acts otherGood y) : Settles (Move acts fits) kind ⟨x, y, now, [], []⟩ := by
  induction one generalizing y with
  | @rests x still goodX =>
      induction other with
      | rests stillY goodY =>
          exact settles_forth (fun _ _ act => absurd act (still _ _ _ _))
            (fun _ _ _ act => absurd act (still _ _ _ _))
            (fun _ _ _ act => absurd act (still _ _ _ _))
            (fun _ _ act => absurd act (stillY _ _ _ _)) (fun _ _ _ => stillY _ _ _ _)
            (fun _ _ _ _ act => absurd act (stillY _ _ _ _)) fun _ => ends _ _ goodX goodY
      | quiet quiet _ ih =>
          refine settles_forth (fun _ _ act => absurd act (still _ _ _ _))
            (fun _ _ _ act => absurd act (still _ _ _ _))
            (fun _ _ _ act => absurd act (still _ _ _ _)) (fun _ _ act => ?_)
            (fun _ _ _ => (quiet now).not_send)
            (fun _ _ _ _ act => absurd act (quiet now).not_receive) fun stuck => ?_
          · obtain ⟨_, rfl, rfl⟩ := (quiet _ _ _ _).mp act
            exact ih _
          · exact absurd (.there (.quiet (quiet now).able)) (stuck _)
  | quiet quiet _ ih =>
      have idles := other.idles
      clear other
      induction idles with
      | @idles y here only idles ihIdles =>
          have idling : Idles acts (Over acts otherGood) y := .idles here only idles
          refine settles_forth (fun _ _ act => ?_)
            (fun _ _ _ act => absurd act (quiet now).not_send)
            (fun _ _ _ act => absurd act (quiet now).not_receive) (fun _ _ act => ?_)
            (fun _ _ _ => idling.not_send) (fun _ _ _ _ act split => ?_) fun stuck => ?_
          · obtain ⟨_, rfl, rfl⟩ := (quiet _ _ _ _).mp act
            exact ih _ here
          · obtain rfl := idling.same_shared act
            exact ihIdles _ _ _ act
          · exact absurd (List.append_eq_nil_iff.mp split.symm).1 (idling.some_received act)
          · exact absurd (.here (.quiet (quiet now).able)) (stuck _)

structure Ended (good otherGood : X → Prop) (link : Link X S α) : Prop where
  one : good link.one
  other : otherGood link.other
  toOne : link.toOne = []
  toOther : link.toOther = []

theorem Follows.idles {turns : List (List α × S)} (said : ∀ turn ∈ turns, turn.1 ≠ [])
    (follows : Follows acts good false turns now x) :
    Idles acts (Follows acts good false turns now) x := by
  cases turns with
  | nil => exact Over.idles follows
  | cons turn turns => exact Hears.idles follows (said turn List.mem_cons_self)

/--
A side that follows turns as the speaker and one that follows them as the hearer come to their good
ends, however they go on.
-/
theorem settles_follows (oneFits : ∀ item, fits [item]) {otherGood : X → Prop}
    {turns : List (List α × S)} (said : ∀ turn ∈ turns, turn.1 ≠ [])
    (speaker : Follows acts good true turns now x)
    (hearer : Follows acts otherGood false turns now y) :
    Settles (Move acts fits) (Ended good otherGood) ⟨x, y, now, [], []⟩ := by
  induction turns generalizing good otherGood now x y with
  | nil => exact settles_over (fun _ _ one other => ⟨one, other, rfl, rfl⟩) speaker hearer
  | cons turn turns ih =>
      have later (turn : List α × S) (member : turn ∈ turns) : turn.1 ≠ [] :=
        said turn (List.mem_cons_of_mem _ member)
      refine settles_said (fun x y one other => ?_) (fun x follows => follows.idles later) oneFits
        speaker hearer
      refine (ih later other one).swap.imp fun last ended => ?_
      obtain ⟨one, other, toOne, toOther⟩ := ended
      exact ⟨other, one, toOther, toOne⟩

end Parley.Conversation
