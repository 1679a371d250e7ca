import Reactor.Proofs.Custody.Debt

/-!
# Objects that are built

The object of a handler can still be under way when the handler is bound to its
loop and has work.  It can be called from when it is complete until its destruction
begins, which the history of a run tells.  Apart from these two moves nothing that
is done with a loop has anything to do with the objects of its handlers.
-/

namespace Reactor

namespace Loop

variable {ε σ : Type} {loop : Loop ε} {handler other : HandlerId}

/-- What there is of the object of a handler. -/
def targetOf (loop : Loop ε) (handler : HandlerId) : Target :=
  (loop.slots handler).target

theorem targetOf_updateSlot {f : HandlerSlot -> HandlerSlot}
    (h : ∀ slot, (f slot).target = slot.target) :
    (loop.updateSlot handler f).targetOf other = loop.targetOf other := by
  unfold targetOf
  rw [slots_updateSlot]
  split
  · next same => rw [same, h]
  · rfl

theorem targetOf_send (event : ε) :
    (loop.send handler event).2.targetOf other = loop.targetOf other := by
  unfold send
  split
  · exact targetOf_updateSlot fun _ => rfl
  · rfl

theorem targetOf_addTimer (now : Instant) (interval : Duration) (mode : TimerMode) :
    (loop.addTimer handler now interval mode).2.targetOf other = loop.targetOf other := by
  unfold addTimer
  split
  · exact targetOf_updateSlot fun _ => rfl
  · rfl

theorem targetOf_stopTimer (id : TimerId) :
    (loop.stopTimer handler id).2.targetOf other = loop.targetOf other := by
  rw [stopTimer_snd]
  rfl

theorem targetOf_beginRemoval (remover : Remover) :
    (loop.beginRemoval handler remover).2.targetOf other = loop.targetOf other := by
  by_cases removed : loop.stateOf handler = .removed
  · rw [beginRemoval_of_removed _ removed]
  · rw [beginRemoval_eq _ removed]
    unfold targetOf
    simp only [slots_updateSlot]
    split
    · next same => rw [same]; rfl
    · rfl

theorem targetOf_requestStop : loop.requestStop.targetOf other = loop.targetOf other := by
  rw [requestStop_eq]
  rfl

theorem targetOf_complete :
    (loop.complete handler).targetOf other =
      if other = handler then .alive else loop.targetOf other := by
  unfold targetOf complete
  rw [slots_updateSlot]
  split <;> rfl

theorem targetOf_lose :
    (loop.lose handler).targetOf other =
      if other = handler then .gone else loop.targetOf other := by
  unfold targetOf lose
  rw [slots_updateSlot]
  split <;> rfl

end Loop

namespace Traffic

variable {ε : Type} {traffic next last : Traffic ε} {past later : List (Move ε × Answer ε)}
  {move : Move ε} {answer : Answer ε} {handler : HandlerId}

/-- What a move makes of the object of a handler. -/
inductive Shapes (handler : HandlerId) (before after : Target) : Move ε -> Prop
  | completes (building : before = .building) (alive : after = .alive) :
      Shapes handler before after (.complete handler)
  | loses (gone : after = .gone) : Shapes handler before after (.lose handler)
  | keeps {move : Move ε} (same : after = before) (uncompleted : move ≠ .complete handler)
      (unlost : move ≠ .lose handler) : Shapes handler before after move

theorem Step.shapes (step : Step traffic move answer next) (known : handler ∈ traffic.bound) :
    Shapes handler (traffic.loop.targetOf handler) (next.loop.targetOf handler) move := by
  cases step with
  | @bind other target new =>
      have hne : handler ≠ other := fun same => new (same ▸ known)
      refine .keeps ?_ nofun nofun
      unfold Loop.targetOf
      rw [loop_setLoop, Loop.bind, Loop.slots_updateSlot, if_neg hne]
  | @complete other building =>
      rw [loop_setLoop, Loop.targetOf_complete]
      by_cases same : handler = other
      · subst same
        rw [if_pos rfl]
        exact .completes building rfl
      · rw [if_neg same]
        exact .keeps rfl (fun again => same (Move.complete.inj again).symm) nofun
  | @lose other =>
      rw [loop_setLoop, Loop.targetOf_lose]
      by_cases same : handler = other
      · subst same
        rw [if_pos rfl]
        exact .loses rfl
      · rw [if_neg same]
        exact .keeps rfl nofun (fun again => same (Move.lose.inj again).symm)
  | send => exact .keeps (Loop.targetOf_send _) nofun nofun
  | addTimer => exact .keeps (Loop.targetOf_addTimer ..) nofun nofun
  | stopTimer => exact .keeps (Loop.targetOf_stopTimer _) nofun nofun
  | stopAddTimer =>
      refine .keeps ?_ nofun nofun
      exact (Loop.targetOf_addTimer ..).trans (Loop.targetOf_stopTimer _)
  | remove => exact .keeps (Loop.targetOf_beginRemoval _) nofun nofun
  | removeBlocked => exact .keeps (Loop.targetOf_beginRemoval _) nofun nofun
  | stop => exact .keeps Loop.targetOf_requestStop nofun nofun
  | resumeLost => exact .keeps (Loop.targetOf_updateSlot fun _ => rfl) nofun nofun
  | endCallback => exact .keeps (Loop.targetOf_updateSlot fun _ => rfl) nofun nofun
  | failCallback =>
      refine .keeps ?_ nofun nofun
      show (traffic.loop.updateSlot _ _).targetOf handler = _
      exact Loop.targetOf_updateSlot fun _ => rfl
  | _ => exact .keeps rfl nofun nofun

/-! ## The object of a handler in a run -/

/-- A handler was bound to the loop while its object was being built. -/
def IsCreated (past : List (Move ε × Answer ε)) (handler : HandlerId) : Prop :=
  ∃ answer, (.bind handler .building, answer) ∈ past

/-- The object has been completed since, and its destruction has not begun. -/
def IsComplete (past : List (Move ε × Answer ε)) (handler : HandlerId) : Prop :=
  ∃ front answer back, past = front ++ (.bind handler .building, answer) :: back ∧
    (∃ step ∈ back, step.1 = .complete handler) ∧ ∀ step ∈ back, step.1 ≠ .lose handler

/-- What there is of an object after some moves, if it was being built before them. -/
inductive Built (handler : HandlerId) (back : List (Move ε × Answer ε)) : Target -> Prop
  | building (uncompleted : ∀ step ∈ back, step.1 ≠ .complete handler)
      (unlost : ∀ step ∈ back, step.1 ≠ .lose handler) : Built handler back .building
  | alive (completed : ∃ step ∈ back, step.1 = .complete handler)
      (unlost : ∀ step ∈ back, step.1 ≠ .lose handler) : Built handler back .alive
  | gone (lost : ∃ step ∈ back, step.1 = .lose handler) : Built handler back .gone

theorem forall_mem_snoc {p : Move ε × Answer ε -> Prop} {step : Move ε × Answer ε}
    (h : ∀ other ∈ past, p other) (hstep : p step) : ∀ other ∈ past ++ [step], p other := by
  intro other hmem
  rcases List.mem_append.1 hmem with hmem | hmem
  · exact h other hmem
  · rwa [List.mem_singleton.1 hmem]

theorem Built.snoc {before after : Target} (h : Built handler past before)
    (shapes : Shapes handler before after move) (answer : Answer ε) :
    Built handler (past ++ [(move, answer)]) after := by
  cases shapes with
  | completes building alive =>
      subst building alive
      cases h with
      | building uncompleted unlost =>
          exact .alive (exists_mem_snoc.2 (.inr rfl)) (forall_mem_snoc unlost nofun)
  | loses gone =>
      subst gone
      exact .gone (exists_mem_snoc.2 (.inr rfl))
  | keeps same uncompleted' unlost' =>
      subst same
      cases h with
      | building uncompleted unlost =>
          exact .building (forall_mem_snoc uncompleted uncompleted') (forall_mem_snoc unlost unlost')
      | alive completed unlost =>
          exact .alive (exists_mem_snoc.2 (.inl completed)) (forall_mem_snoc unlost unlost')
      | gone lost => exact .gone (exists_mem_snoc.2 (.inl lost))

theorem Reaches.built (reaches : Reaches traffic later last) (known : handler ∈ traffic.bound)
    (building : traffic.loop.targetOf handler = .building) :
    handler ∈ last.bound ∧ Built handler later (last.loop.targetOf handler) := by
  induction reaches with
  | refl =>
      rw [building]
      exact ⟨known, .building (fun _ hmem => absurd hmem List.not_mem_nil)
        (fun _ hmem => absurd hmem List.not_mem_nil)⟩
  | snoc _ made ih =>
      obtain ⟨known, built⟩ := ih
      have step := step_of_move? made
      exact ⟨step.bound known, built.snoc (step.shapes known) _⟩

theorem Runs.built {front back : List (Move ε × Answer ε)}
    (runs : Runs (front ++ (.bind handler .building, answer) :: back) traffic) :
    Built handler back (traffic.loop.targetOf handler) := by
  obtain ⟨before, -, reaches⟩ := runs.split
  obtain ⟨after, made, more⟩ := reaches.head
  cases step_of_move? made with
  | bind new =>
      refine (more.built List.mem_cons_self ?_).2
      show ((before.loop.bind handler .building).slots handler).target = _
      rw [Loop.bind, Loop.slots_updateSlot, if_pos rfl]
      rfl

/-- The object can be called from when it is complete until its destruction begins. -/
theorem Runs.callable_iff (runs : Runs past traffic) (created : IsCreated past handler) :
    (traffic.loop.slots handler).callable = true ↔ IsComplete past handler := by
  have callable : (traffic.loop.slots handler).callable = true ↔
      traffic.loop.targetOf handler = .alive := decide_eq_true_iff
  rw [callable]
  constructor
  · intro alive
    obtain ⟨answer, hmem⟩ := created
    obtain ⟨front, back, rfl⟩ := List.append_of_mem hmem
    have built := runs.built
    rw [alive] at built
    cases built with
    | alive completed unlost => exact ⟨front, answer, back, rfl, completed, unlost⟩
  · rintro ⟨front, answer, back, rfl, ⟨step, hmem, completes⟩, unlost⟩
    have built := runs.built
    generalize traffic.loop.targetOf handler = target at built
    cases built with
    | building uncompleted => exact absurd completes (uncompleted step hmem)
    | alive => rfl
    | gone lost =>
        obtain ⟨step, hmem, loses⟩ := lost
        exact absurd loses (unlost step hmem)

end Traffic

end Reactor
