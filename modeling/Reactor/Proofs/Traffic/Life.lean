import Reactor.Proofs.Traffic.Sound

/-!
# The life of a handler

The state of a handler says what has happened in the run so far, and all of it
that matters to the handler: whether work was accepted for it, whether its
removal was called for, and whether that was in the middle of a delivery to it
that has not ended.  The history is read off the moves and their answers; the
states, the queue and the mark of the running callback are not looked at.
-/

namespace Reactor

/-- What the state of a handler says: whether work was accepted for it, whether its removal was
called for, and whether that was inside a delivery that goes on. -/
def HandlerState.Tells (state : HandlerState) (worked called inside : Prop) : Prop :=
  match state with
  | .constructed => ¬ worked ∧ ¬ called ∧ ¬ inside
  | .active => worked ∧ ¬ called ∧ ¬ inside
  | .removing => called ∧ inside
  | .removed => called ∧ ¬ inside

/-- The history that a state tells of determines the state. -/
theorem HandlerState.Tells.eq_iff {state : HandlerState} {worked called inside : Prop}
    (h : state.Tells worked called inside) (hcalled : inside -> called) :
    (state = .constructed ↔ ¬ worked ∧ ¬ called) ∧ (state = .active ↔ worked ∧ ¬ called) ∧
      (state = .removing ↔ inside) ∧ (state = .removed ↔ called ∧ ¬ inside) := by
  cases state <;> simp_all [Tells]

namespace Traffic

variable {ε : Type} {traffic next last : Traffic ε} {past later : List (Move ε × Answer ε)}
  {move : Move ε} {answer : Answer ε} {step : Move ε × Answer ε} {handler : HandlerId}

/-! ## History -/

/-- Whether an answer says that an event or a timer was accepted. -/
def takesWork : Answer ε -> Bool
  | .sent accepted => accepted
  | .armed id => id.isSome
  | .replaced _ id => id.isSome
  | _ => false

/-- The handler for which a step has had work accepted. -/
def worked : Move ε × Answer ε -> Option HandlerId
  | (.call _ _ call, answer) => if takesWork answer then call.handler? else none
  | _ => none

/-- The handler that a step has called to be removed. -/
def removes : Move ε × Answer ε -> Option HandlerId
  | (.call _ _ (.remove handler), _) => some handler
  | _ => none

/-- The handler to which a step has begun a delivery. -/
def begins : Move ε × Answer ε -> Option HandlerId
  | (_, .round (.deliver handler _)) => some handler
  | _ => none

/-- Whether a step has ended a delivery. -/
def endsDelivery : Move ε × Answer ε -> Bool
  | (_, .ended _ _ _) => true
  | _ => false

def HasWorked (past : List (Move ε × Answer ε)) (handler : HandlerId) : Prop :=
  ∃ step ∈ past, worked step = some handler

def IsRemoved (past : List (Move ε × Answer ε)) (handler : HandlerId) : Prop :=
  ∃ step ∈ past, removes step = some handler

/-- A delivery to the handler has begun, and none has ended since. -/
def UnderWay (past : List (Move ε × Answer ε)) (handler : HandlerId) : Prop :=
  ∃ front first back, past = front ++ first :: back ∧ begins first = some handler ∧
    ∀ step ∈ back, endsDelivery step = false

/-- The removal of the handler was called for after a delivery to it had begun, and no
delivery has ended since this delivery began. -/
def RemovedInside (past : List (Move ε × Answer ε)) (handler : HandlerId) : Prop :=
  ∃ front call back, past = front ++ call :: back ∧
    (removes call = some handler ∧ UnderWay front handler) ∧
    ∀ step ∈ back, endsDelivery step = false

section Snoc

theorem exists_mem_snoc {p : Move ε × Answer ε -> Prop} :
    (∃ other ∈ past ++ [step], p other) ↔ (∃ other ∈ past, p other) ∨ p step := by
  simp only [List.mem_append, List.mem_singleton, or_and_right, exists_or, exists_eq_left]

theorem hasWorked_snoc :
    HasWorked (past ++ [step]) handler ↔ HasWorked past handler ∨ worked step = some handler :=
  exists_mem_snoc

theorem isRemoved_snoc :
    IsRemoved (past ++ [step]) handler ↔ IsRemoved past handler ∨ removes step = some handler :=
  exists_mem_snoc

/-- Something that happened with no delivery ending since has happened in the last step,
or before it, and then the last step has not ended a delivery. -/
theorem exists_since_snoc {p : List (Move ε × Answer ε) -> Move ε × Answer ε -> Prop} :
    (∃ front first back, past ++ [step] = front ++ first :: back ∧ p front first ∧
        ∀ other ∈ back, endsDelivery other = false) ↔
      p past step ∨ endsDelivery step = false ∧
        ∃ front first back, past = front ++ first :: back ∧ p front first ∧
          ∀ other ∈ back, endsDelivery other = false := by
  constructor
  · rintro ⟨front, first, back, hpast, hp, hback⟩
    rcases List.eq_nil_or_concat back with rfl | ⟨back, final, rfl⟩
    · obtain ⟨rfl, hstep⟩ := List.append_inj' hpast rfl
      cases hstep
      exact .inl hp
    · rw [List.concat_eq_append, ← List.cons_append, ← List.append_assoc] at hpast
      obtain ⟨rfl, hstep⟩ := List.append_inj' hpast rfl
      cases hstep
      refine .inr ⟨hback _ (by simp), front, first, back, rfl, hp, fun other hmem => ?_⟩
      exact hback other (by simp [hmem])
  · rintro (hp | ⟨quiet, front, first, back, rfl, hp, hback⟩)
    · exact ⟨past, step, [], rfl, hp, fun _ hmem => absurd hmem List.not_mem_nil⟩
    · refine ⟨front, first, back ++ [step], by simp, hp, fun other hmem => ?_⟩
      rcases List.mem_append.1 hmem with hmem | hmem
      · exact hback other hmem
      · rw [List.mem_singleton.1 hmem, quiet]

theorem underWay_snoc :
    UnderWay (past ++ [step]) handler ↔
      begins step = some handler ∨ endsDelivery step = false ∧ UnderWay past handler :=
  exists_since_snoc (p := fun _ first => begins first = some handler)

theorem removedInside_snoc :
    RemovedInside (past ++ [step]) handler ↔
      removes step = some handler ∧ UnderWay past handler ∨
        endsDelivery step = false ∧ RemovedInside past handler :=
  exists_since_snoc (p := fun front call => removes call = some handler ∧ UnderWay front handler)

/-- A removal in the middle of a delivery is a removal, and the delivery goes on. -/
theorem RemovedInside.isRemoved (h : RemovedInside past handler) : IsRemoved past handler := by
  obtain ⟨front, call, back, rfl, ⟨hcall, -⟩, -⟩ := h
  exact ⟨call, by simp, hcall⟩

end Snoc

/-! ## Steps -/

/-- What a step has done to the state of a handler. -/
inductive Lives (traffic next : Traffic ε) (step : Move ε × Answer ε) (handler : HandlerId) : Prop
  /-- Work has been accepted, so the handler was not on its way out and is active now. -/
  | works (accepted : worked step = some handler) (unremoved : removes step = none)
      (quiet : endsDelivery step = false)
      (open_ : (traffic.loop.stateOf handler).acceptsWork = true)
      (active : next.loop.stateOf handler = .active)
  | leaves (refused : worked step = none) (removed : removes step = some handler)
      (quiet : endsDelivery step = false)
      (state : next.loop.stateOf handler =
        if traffic.loop.stateOf handler ≠ .removed ∧ traffic.loop.marks handler = true then
          .removing
        else
          .removed)
  /-- A delivery has ended, to this handler or to another one. -/
  | ends {other : HandlerId} (refused : worked step = none) (unremoved : removes step = none)
      (ended : endsDelivery step = true) (marked : traffic.loop.marks other = true)
      (state : next.loop.stateOf handler =
        if handler = other then (traffic.loop.stateOf other).afterCallback
        else traffic.loop.stateOf handler)
  | stays (refused : worked step ≠ some handler) (unremoved : removes step ≠ some handler)
      (quiet : endsDelivery step = false)
      (state : next.loop.stateOf handler = traffic.loop.stateOf handler)

/-- Work for some handler is accepted, or not. -/
theorem Lives.of_offer {loop : Loop ε} {other : HandlerId}
    (hworked : worked step = if loop.accepts other then some other else none)
    (unremoved : removes step = none) (quiet : endsDelivery step = false)
    (before : loop.stateOf handler = traffic.loop.stateOf handler)
    (after : next.loop.stateOf handler =
      if loop.accepts other = true ∧ handler = other then .active else loop.stateOf handler) :
    Lives traffic next step handler := by
  by_cases accepted : loop.accepts other = true ∧ handler = other
  · obtain ⟨accepts, rfl⟩ := accepted
    rw [if_pos accepts] at hworked
    rw [if_pos ⟨accepts, rfl⟩] at after
    exact .works hworked unremoved quiet (before ▸ (Loop.accepts_iff.1 accepts).2) after
  · rw [if_neg accepted] at after
    refine .stays ?_ (by rw [unremoved]; exact nofun) quiet (after.trans before)
    rw [hworked]
    split
    · next accepts => exact fun same => accepted ⟨accepts, (Option.some.inj same).symm⟩
    · exact nofun

theorem Lives.of_beginRemoval {other : HandlerId} {remover : Remover}
    (refused : worked step = none) (removed : removes step = some other)
    (quiet : endsDelivery step = false)
    (after : next.loop.stateOf handler =
      (traffic.loop.beginRemoval other remover).2.stateOf handler) :
    Lives traffic next step handler := by
  rw [Loop.stateOf_beginRemoval] at after
  by_cases same : handler = other
  · subst same
    rw [if_pos rfl] at after
    exact .leaves refused removed quiet after
  · rw [if_neg same] at after
    refine .stays (by rw [refused]; exact nofun) ?_ quiet after
    rw [removed]
    exact fun h => same (Option.some.inj h).symm

theorem Step.lives (step : Step traffic move answer next) (h : traffic.Sound)
    (handler : HandlerId) : Lives traffic next (move, answer) handler := by
  -- A step that has nothing to do with any handler's work or removal.
  have stays : worked (move, answer) = none -> removes (move, answer) = none ->
      endsDelivery (move, answer) = false ->
      next.loop.stateOf handler = traffic.loop.stateOf handler ->
      Lives traffic next (move, answer) handler := by
    intro refused unremoved quiet state
    exact .stays (by rw [refused]; exact nofun) (by rw [unremoved]; exact nofun) quiet state
  cases step with
  | bind new => exact stays rfl rfl rfl (h.stateOf_bind new _ handler)
  | complete => exact stays rfl rfl rfl (Loop.stateOf_complete _ _ handler)
  | lose => exact stays rfl rfl rfl (Loop.stateOf_lose _ _ handler)
  | send => exact .of_offer (by rw [← Loop.send_fst]; rfl) rfl rfl rfl (Loop.stateOf_send ..)
  | addTimer =>
      exact .of_offer (by rw [← Loop.isSome_addTimer]; rfl) rfl rfl rfl (Loop.stateOf_addTimer ..)
  | stopTimer => exact stays rfl rfl rfl (Loop.stateOf_stopTimer _ _ handler _)
  | stopAddTimer =>
      exact .of_offer (by rw [← Loop.isSome_addTimer]; rfl) rfl rfl
        (Loop.stateOf_stopTimer _ _ handler _) (Loop.stateOf_addTimer ..)
  | filter => exact stays rfl rfl rfl rfl
  | filterFor => exact stays rfl rfl rfl rfl
  | remove => exact .of_beginRemoval rfl rfl rfl rfl
  | removeBlocked => exact .of_beginRemoval rfl rfl rfl rfl
  | stop =>
      refine stays rfl rfl rfl ?_
      show traffic.loop.requestStop.stateOf handler = traffic.loop.stateOf handler
      rw [Loop.requestStop_eq]
      rfl
  | stopRefused => exact stays rfl rfl rfl rfl
  | resume => exact stays rfl rfl rfl rfl
  | resumeLost waits lost => exact absurd (h.mem_waiters_of_mem_blocked waits) lost
  | join => exact stays rfl rfl rfl rfl
  | leave => exact stays rfl rfl rfl rfl
  | fire => exact stays rfl rfl rfl rfl
  | deliver => exact stays rfl rfl rfl rfl
  | again => exact stays rfl rfl rfl rfl
  | sleep => exact stays rfl rfl rfl rfl
  | wake => exact stays rfl rfl rfl rfl
  | endCallback calls =>
      exact .ends rfl rfl rfl ((h.marked _).1 calls) (Loop.stateOf_endDelivery _ _ handler)
  | failCallback calls =>
      exact .ends rfl rfl rfl ((h.marked _).1 calls) (Loop.stateOf_endDelivery _ _ handler)
  | exit => exact stays rfl rfl rfl rfl

/-- The worker runs a callback from where its delivery begins to where it ends. -/
theorem Step.calling_iff (step : Step traffic move answer next) (handler : HandlerId) :
    next.eventLoop.phase = .calling handler ↔
      begins (move, answer) = some handler ∨
        endsDelivery (move, answer) = false ∧ traffic.eventLoop.phase = .calling handler := by
  have keeps : begins (move, answer) = none -> endsDelivery (move, answer) = false ->
      next.eventLoop.phase = traffic.eventLoop.phase ->
      (next.eventLoop.phase = .calling handler ↔
        begins (move, answer) = some handler ∨
          endsDelivery (move, answer) = false ∧ traffic.eventLoop.phase = .calling handler) := by
    intro unbegun quiet phase
    simp [unbegun, quiet, phase]
  have neither : begins (move, answer) = none -> traffic.eventLoop.phase.Away ->
      next.eventLoop.phase.Away ->
      (next.eventLoop.phase = .calling handler ↔
        begins (move, answer) = some handler ∨
          endsDelivery (move, answer) = false ∧ traffic.eventLoop.phase = .calling handler) := by
    intro unbegun before after
    simp [unbegun, before handler, after handler]
  cases step with
  | leave choosing => exact neither rfl (choosing ▸ .choosing) (.leaving _)
  | fire => simp [begins, endsDelivery, *]
  | deliver => simp [begins, endsDelivery, *]
  | again choosing => exact neither rfl (choosing ▸ .choosing) .choosing
  | sleep choosing => exact neither rfl (choosing ▸ .choosing) (.asleep _)
  | wake sleeps => exact neither rfl (sleeps ▸ .asleep _) .choosing
  | endCallback => simp [begins, endsDelivery, notify]
  | failCallback => simp [begins, endsDelivery, notify]
  | exit leaves => exact neither rfl (leaves ▸ .leaving _) .exited
  | _ => exact keeps rfl rfl rfl

/-! ## Runs -/

/-- A step changes the state of a handler as it changes the history. -/
theorem Lives.tells (h : Lives traffic next step handler) (consistent : traffic.loop.Consistent)
    (delivery : UnderWay past handler ↔ traffic.loop.marks handler = true)
    (told : (traffic.loop.stateOf handler).Tells (HasWorked past handler)
      (IsRemoved past handler) (RemovedInside past handler)) :
    (next.loop.stateOf handler).Tells (HasWorked (past ++ [step]) handler)
      (IsRemoved (past ++ [step]) handler) (RemovedInside (past ++ [step]) handler) := by
  rw [hasWorked_snoc, isRemoved_snoc, removedInside_snoc, delivery]
  cases h with
  | works accepted unremoved quiet open_ active =>
      rw [active, accepted, unremoved, quiet]
      cases hs : traffic.loop.stateOf handler with
      | constructed => rw [hs] at told; simp_all [HandlerState.Tells]
      | active => rw [hs] at told; simp_all [HandlerState.Tells]
      | removing => rw [hs] at open_; cases open_
      | removed => rw [hs] at open_; cases open_
  | leaves refused removed quiet state =>
      rw [state, refused, removed, quiet]
      by_cases marked : traffic.loop.marks handler = true
      · have unfinished : traffic.loop.stateOf handler ≠ .removed := by
          obtain ⟨active, hactive, rfl⟩ := Loop.marks_iff.1 marked
          rcases consistent.marked active hactive with ⟨hs, -⟩ | hs <;> rw [hs] <;> decide
        rw [if_pos ⟨unfinished, marked⟩]
        simp [HandlerState.Tells, marked]
      · rw [if_neg fun both => marked both.2]
        -- No removal has been called for inside a delivery that goes on, for there is none.
        have outside : ¬ RemovedInside past handler := by
          intro inside
          have removing := (told.eq_iff RemovedInside.isRemoved).2.2.1.2 inside
          exact marked (consistent.removing handler removing)
        simp [HandlerState.Tells, marked, outside]
  | @ends other refused unremoved ended marked state =>
      rw [state, refused, unremoved, ended]
      by_cases same : handler = other
      · subst same
        cases hs : traffic.loop.stateOf handler <;> rw [hs] at told <;>
          simp_all [HandlerState.Tells, HandlerState.afterCallback]
      · rw [if_neg same]
        cases hs : traffic.loop.stateOf handler with
        | removing => exact absurd (Loop.marks_unique (consistent.removing handler hs) marked) same
        | _ => rw [hs] at told; simp_all [HandlerState.Tells]
  | stays refused unremoved quiet state =>
      rw [state, quiet]
      simpa [refused, unremoved] using told

theorem Runs.underWay_iff (runs : Runs past traffic) :
    ∀ handler, UnderWay past handler ↔ traffic.eventLoop.phase = .calling handler := by
  refine runs.induction (P := fun past traffic =>
    ∀ handler, UnderWay past handler ↔ traffic.eventLoop.phase = .calling handler) ?_ ?_
  · intro eventLoop new choosing handler
    constructor
    · rintro ⟨front, first, back, hpast, -⟩
      simp at hpast
    · intro calls
      exact nomatch choosing.symm.trans calls
  · intro past traffic move answer next runs step ih handler
    rw [underWay_snoc, step.calling_iff, ih]

theorem Runs.tells (runs : Runs past traffic) :
    ∀ handler, (traffic.loop.stateOf handler).Tells (HasWorked past handler)
      (IsRemoved past handler) (RemovedInside past handler) := by
  refine runs.induction (P := fun past traffic =>
    ∀ handler, (traffic.loop.stateOf handler).Tells (HasWorked past handler)
      (IsRemoved past handler) (RemovedInside past handler)) ?_ ?_
  · intro eventLoop new choosing handler
    have fresh : (start eventLoop).loop.stateOf handler = .constructed := by
      rw [loop, start, new]
      rfl
    rw [fresh]
    simp [HandlerState.Tells, HasWorked, IsRemoved, RemovedInside]
  · intro past traffic move answer next runs step ih handler
    have delivery := (runs.underWay_iff handler).trans (runs.sound.marked handler)
    exact (step.lives runs.sound handler).tells runs.sound.loop delivery (ih handler)

/-- The states of the handlers reflect the history, and only active handlers have work. -/
structure Reflects (past : List (Move ε × Answer ε)) (traffic : Traffic ε) : Prop where
  constructed : ∀ handler, traffic.loop.stateOf handler = .constructed ↔
    ¬ HasWorked past handler ∧ ¬ IsRemoved past handler
  active : ∀ handler, traffic.loop.stateOf handler = .active ↔
    HasWorked past handler ∧ ¬ IsRemoved past handler
  /-- The removal was called for during a delivery that has not ended. -/
  removing : ∀ handler, traffic.loop.stateOf handler = .removing ↔ RemovedInside past handler
  removed : ∀ handler, traffic.loop.stateOf handler = .removed ↔
    IsRemoved past handler ∧ ¬ RemovedInside past handler
  /-- The mark names the handler to which a delivery is under way. -/
  marked : ∀ handler, traffic.loop.marks handler = true ↔ UnderWay past handler
  closing : ∀ handler, traffic.loop.stateOf handler = .removing ->
    traffic.loop.marks handler = true
  queued : ∀ entry ∈ traffic.loop.queue, traffic.loop.stateOf entry.handler = .active
  armed : ∀ timer ∈ traffic.loop.timers.agenda, traffic.loop.stateOf timer.owner = .active
  busy : ∀ handler, traffic.loop.marks handler = true ->
    traffic.loop.stateOf handler = .active ∨ traffic.loop.stateOf handler = .removing
  /-- No later state of the run has a handler at an earlier point of its life. -/
  onward : ∀ later last, Reaches traffic later last -> ∀ handler,
    (traffic.loop.stateOf handler).rank <= (last.loop.stateOf handler).rank

theorem handler_state_reflects_history (runs : Runs past traffic) : Reflects past traffic where
  constructed handler := ((runs.tells handler).eq_iff RemovedInside.isRemoved).1
  active handler := ((runs.tells handler).eq_iff RemovedInside.isRemoved).2.1
  removing handler := ((runs.tells handler).eq_iff RemovedInside.isRemoved).2.2.1
  removed handler := ((runs.tells handler).eq_iff RemovedInside.isRemoved).2.2.2
  marked handler := (runs.sound.marked handler).symm.trans (runs.underWay_iff handler).symm
  closing := runs.sound.loop.removing
  queued := runs.sound.loop.queued
  armed := runs.sound.loop.armed
  busy handler marked := by
    obtain ⟨active, hactive, rfl⟩ := Loop.marks_iff.1 marked
    exact (runs.sound.loop.marked active hactive).imp_left And.left
  onward later last reaches := reaches.advances runs.sound

/-- Of four handlers one has not been used, one is in use, one is being removed during its
callback, and one has been removed. -/
theorem four_handlers_in_four_states :
    ∃ (past : List (Move Nat × Answer Nat)) (traffic : Traffic Nat), Runs past traffic ∧
      [0, 1, 2, 3].map (fun id => traffic.loop.stateOf ⟨id⟩) =
        [.constructed, .active, .removing, .removed] ∧
      Reflects past traffic := by
  have runs : Runs _ _ := runs_of_moves? "worker" none
    [.bind ⟨0⟩ .alive, .bind ⟨1⟩ .alive, .bind ⟨2⟩ .alive, .bind ⟨3⟩ .alive,
      .call (.thread ⟨1⟩) .first (.send ⟨2⟩ (7 : Nat)), .round .first,
      .call (.thread ⟨1⟩) .first (.send ⟨1⟩ 8), .call (.thread ⟨2⟩) .first (.send ⟨3⟩ 9),
      .call (.thread ⟨1⟩) .first (.remove ⟨2⟩), .call .worker .first (.remove ⟨3⟩)] rfl rfl
  exact ⟨_, _, runs, rfl, handler_state_reflects_history runs⟩

end Traffic

end Reactor
