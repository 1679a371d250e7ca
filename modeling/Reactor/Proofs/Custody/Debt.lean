import Reactor.Proofs.Custody.Run
import Reactor.Proofs.Traffic.Failure
import Reactor.Proofs.Traffic.Life

/-!
# Removals that are due

A handler comes into use, and goes out of use, by calls through it only.  So one
that is not in use when it is given up stays as it is.  One that is in use stays
so until whoever gave it up has removed it, which is the next thing that it does;
nobody else can, and nothing prevents it.
-/

namespace Reactor

namespace HandlerSlot

variable {slot : HandlerSlot} {unwinding : Bool}

theorem parting_eq_nothing_iff : slot.parting unwinding = .nothing ↔ slot.state ≠ .active := by
  unfold parting
  cases unwinding <;> split <;> simp_all

theorem parting_eq_removeNow_iff :
    slot.parting unwinding = .removeNow ↔ slot.state = .active ∧ unwinding = true := by
  unfold parting
  cases unwinding <;> split <;> simp_all

theorem parting_eq_abort_iff :
    slot.parting unwinding = .abort ↔ slot.state = .active ∧ unwinding = false := by
  unfold parting
  cases unwinding <;> split <;> simp_all

end HandlerSlot

/-! ## What calls through a handler are needed for -/

namespace Traffic

variable {ε : Type} {traffic next : Traffic ε} {move : Move ε} {answer : Answer ε}
  {handler : HandlerId} {caller : Remover}

theorem subject?_of_worked (h : worked (move, answer) = some handler) :
    move.subject? = some handler := by
  cases move with
  | call caller now made =>
      simp only [worked] at h
      split at h
      · exact h
      · cases h
  | _ => cases h

theorem subject?_of_removes (h : removes (move, answer) = some handler) :
    move.subject? = some handler := by
  cases move with
  | call caller now made =>
      cases made with
      | remove other => exact h
      | _ => cases h
  | _ => cases h

/-- A handler comes into use only when work is accepted for it. -/
theorem Step.unused (step : Step traffic move answer next) (sound : traffic.Sound)
    (refused : worked (move, answer) ≠ some handler)
    (unused : traffic.loop.stateOf handler ≠ .active) : next.loop.stateOf handler ≠ .active := by
  cases step.lives sound handler with
  | works accepted => exact absurd accepted refused
  | leaves _ _ _ state =>
      rw [state]
      split <;> decide
  | ends _ _ _ _ state =>
      rw [state]
      split
      · next same =>
          subst same
          cases hs : traffic.loop.stateOf handler with
          | active => exact absurd hs unused
          | _ => decide
      · exact unused
  | stays _ _ _ state =>
      rw [state]
      exact unused

/-- A handler goes out of use only when its removal is called for. -/
theorem Step.inUse (step : Step traffic move answer next) (sound : traffic.Sound)
    (unremoved : removes (move, answer) ≠ some handler)
    (active : traffic.loop.stateOf handler = .active) : next.loop.stateOf handler = .active := by
  cases step.lives sound handler with
  | works _ _ _ _ state => exact state
  | leaves _ removed => exact absurd removed unremoved
  | ends _ _ _ _ state =>
      rw [state]
      split
      · next same =>
          subst same
          rw [active]
          rfl
      · exact active
  | stays _ _ _ state =>
      rw [state]
      exact active

theorem Step.bound (step : Step traffic move answer next) (known : handler ∈ traffic.bound) :
    handler ∈ next.bound := by
  cases step with
  | bind => exact .tail _ known
  | _ => exact known

/-- Where the worker is changes only by moves of the worker that need no handler. -/
theorem Step.phase_eq (step : Step traffic move answer next)
    (other : move.subject? ≠ none ∨ move.actor? ≠ some .worker) :
    next.eventLoop.phase = traffic.eventLoop.phase := by
  cases step with
  | leave | fire | deliver | again | sleep | wake | endCallback | failCallback | exit =>
      rcases other with held | foreign
      · exact absurd rfl held
      · exact absurd rfl foreign
  | _ => rfl

/-- A move that needs a handler, or is another one's, leaves the caller able to call. -/
theorem Step.canCall (step : Step traffic move answer next)
    (other : move.subject? ≠ none ∨ move.actor? ≠ some caller)
    (able : traffic.canCall caller = true) : next.canCall caller = true := by
  cases caller with
  | worker =>
      unfold Traffic.canCall
      rw [step.phase_eq other]
      exact able
  | thread id => rfl

/-- A handler whose removal is not complete can be removed, and there is something to do. -/
theorem move?_remove (now : Instant) (able : traffic.canCall caller = true)
    (known : handler ∈ traffic.bound) (unfinished : traffic.loop.stateOf handler ≠ .removed) :
    ∃ removal next, traffic.move? (.call caller now (.remove handler)) =
      some (.removed (some removal), next) := by
  rw [move?_call now able known rfl, call, Loop.beginRemoval_eq _ unfinished]
  dsimp only
  split
  · exact ⟨_, _, rfl⟩
  · exact ⟨_, _, rfl⟩

theorem Step.closed_of_remove {now : Instant}
    (step : Step traffic (.call caller now (.remove handler)) answer next) :
    next.loop.Closed handler := by
  cases step with
  | remove => exact Loop.closed_beginRemoval _ _ _
  | removeBlocked => exact Loop.closed_beginRemoval _ _ _

end Traffic

namespace CustodyMove

/-- Who makes a move, where it matters who. -/
def actor? {ε : Type} : CustodyMove ε -> Option Remover
  | .traffic move => move.actor?
  | .drop caller _ _ | .close caller _ _ => some caller

end CustodyMove

namespace Custody

variable {ε : Type} {state next first last : Custody ε} {move : CustodyMove ε}
  {answer : CustodyAnswer ε} {past later : List (CustodyMove ε × CustodyAnswer ε)}
  {handler : HandlerId} {caller : Remover}

/-! ## Handlers that are not in use when they are given up -/

/-- A handler that has been given up, and is not in use, does not come into use. -/
theorem Step.unused (step : Step state move answer next) (sound : state.traffic.Sound)
    (dropped : handler ∈ state.dropped) (unused : state.loop.stateOf handler ≠ .active) :
    handler ∈ next.dropped ∧ next.loop.stateOf handler ≠ .active := by
  cases step with
  | traffic running kept free made =>
      refine ⟨dropped, (Traffic.step_of_move? made).unused sound ?_ unused⟩
      intro accepted
      exact kept handler (Traffic.subject?_of_worked accepted) dropped
  | @drop caller other unwinding =>
      cases (state.loop.slots other).parting unwinding with
      | nothing => exact ⟨.tail _ dropped, unused⟩
      | removeNow => exact ⟨.tail _ dropped, unused⟩
      | abort => exact ⟨dropped, unused⟩
  | close running owed made =>
      have removal := Traffic.step_of_move? made
      refine ⟨dropped, removal.unused sound ?_ unused⟩
      cases removal with
      | remove => exact nofun
      | removeBlocked => exact nofun

theorem Reaches.unused (reaches : Reaches first later last) (sound : first.traffic.Sound)
    (dropped : handler ∈ first.dropped) (unused : first.loop.stateOf handler ≠ .active) :
    handler ∈ last.dropped ∧ last.loop.stateOf handler ≠ .active := by
  induction reaches with
  | refl => exact ⟨dropped, unused⟩
  | snoc reaches made ih =>
      exact (step_of_move? made).unused (reaches.simulates.sound sound) ih.1 ih.2

/-! ## Handlers that still have to be removed -/

/-- Whoever has to remove a handler can do so, and the handler is in use until then. -/
structure Orderly (state : Custody ε) : Prop where
  sound : state.traffic.Sound
  able : ∀ entry ∈ state.closing, state.traffic.canCall entry.1 = true
  known : ∀ entry ∈ state.closing, entry.2 ∈ state.traffic.bound
  dropped : ∀ entry ∈ state.closing, entry.2 ∈ state.dropped
  active : ∀ entry ∈ state.closing, state.loop.stateOf entry.2 = .active
  /-- Nobody has to remove two handlers, and no handler has to be removed twice. -/
  distinct : state.closing.Pairwise fun entry other =>
    entry.1 ≠ other.1 ∧ entry.2 ≠ other.2

theorem orderly_start {eventLoop : EventLoop ε} (new : eventLoop.loop = .new)
    (choosing : eventLoop.phase = .choosing) : (start eventLoop).Orderly where
  sound := Traffic.sound_start new choosing
  able _ hmem := absurd hmem List.not_mem_nil
  known _ hmem := absurd hmem List.not_mem_nil
  dropped _ hmem := absurd hmem List.not_mem_nil
  active _ hmem := absurd hmem List.not_mem_nil
  distinct := .nil

/-- An entry that is left when another one is closed has nothing in common with it. -/
theorem Orderly.apart (h : state.Orderly) {entry owed : Remover × HandlerId}
    (howed : owed ∈ state.closing) (hmem : entry ∈ state.closing.erase owed) :
    entry.1 ≠ owed.1 ∧ entry.2 ≠ owed.2 := by
  have distinct := ((List.perm_cons_erase howed).pairwise_iff
    fun apart => ⟨apart.1.symm, apart.2.symm⟩).1 h.distinct
  have apart := (List.pairwise_cons.1 distinct).1 entry hmem
  exact ⟨apart.1.symm, apart.2.symm⟩

/-- A move of the traffic keeps the order if no handler that still has to be removed, and
nobody who has to remove one, has a part in it. -/
theorem Orderly.traffic (h : state.Orderly) {made : Move ε} {answer : Answer ε}
    {after : Traffic ε} (step : Traffic.Step state.traffic made answer after)
    {closing : List (Remover × HandlerId)} (sublist : closing.Sublist state.closing)
    (kept : ∀ entry ∈ closing, made.subject? ≠ some entry.2)
    (free : ∀ entry ∈ closing, made.subject? ≠ none ∨ made.actor? ≠ some entry.1) :
    Orderly { state with traffic := after, closing } where
  sound := h.sound.step step
  able entry hmem := step.canCall (free entry hmem) (h.able entry (sublist.subset hmem))
  known entry hmem := step.bound (h.known entry (sublist.subset hmem))
  dropped entry hmem := h.dropped entry (sublist.subset hmem)
  active entry hmem := by
    refine step.inUse h.sound ?_ (h.active entry (sublist.subset hmem))
    intro removed
    exact kept entry hmem (Traffic.subject?_of_removes removed)
  distinct := h.distinct.sublist sublist

theorem Orderly.step (h : state.Orderly) (step : Step state move answer next) : next.Orderly := by
  cases step with
  | traffic running kept free made =>
      refine h.traffic (Traffic.step_of_move? made) (List.Sublist.refl _) ?_ ?_
      · intro entry hmem same
        exact kept _ same (h.dropped entry hmem)
      · intro entry hmem
        exact .inr fun same => free _ same entry hmem rfl
  | @drop caller handler unwinding running able known kept free unheld =>
      cases hparting : (state.loop.slots handler).parting unwinding with
      | nothing =>
          exact
            { h with dropped := fun entry hmem => .tail _ (h.dropped entry hmem) }
      | removeNow =>
          have active := (HandlerSlot.parting_eq_removeNow_iff.1 hparting).1
          have apart : ∀ entry ∈ state.closing, caller ≠ entry.1 ∧ handler ≠ entry.2 := by
            intro entry hmem
            refine ⟨(free entry hmem).symm, fun same => kept ?_⟩
            rw [same]
            exact h.dropped entry hmem
          exact
            { sound := h.sound
              able := List.forall_mem_cons.2 ⟨able, h.able⟩
              known := List.forall_mem_cons.2 ⟨known, h.known⟩
              dropped := List.forall_mem_cons.2
                ⟨.head _, fun entry hmem => .tail _ (h.dropped entry hmem)⟩
              active := List.forall_mem_cons.2 ⟨active, h.active⟩
              distinct := List.pairwise_cons.2 ⟨apart, h.distinct⟩ }
      | abort => exact { h with }
  | close running owed made =>
      refine h.traffic (Traffic.step_of_move? made) List.erase_sublist ?_ ?_
      · intro entry hmem same
        exact (h.apart owed hmem).2 (Option.some.inj same).symm
      · intro entry hmem
        exact .inl nofun

theorem Reaches.orderly (reaches : Reaches first later last) (h : first.Orderly) :
    last.Orderly := by
  induction reaches with
  | refl => exact h
  | snoc reaches made ih => exact ih.step (step_of_move? made)

theorem Runs.orderly (runs : Runs past state) : state.Orderly := by
  obtain ⟨name, stackSize, eventLoop, started, reaches⟩ := runs
  obtain ⟨new, choosing⟩ := Traffic.of_started name stackSize started
  exact reaches.orderly (orderly_start new choosing)

/-- The removal that is due can be made, and leaves the handler without work. -/
theorem Orderly.close (h : state.Orderly) (running : state.aborted = false)
    (owed : (caller, handler) ∈ state.closing) (now : Instant) :
    ∃ removal next, state.move? (.close caller now handler) =
      some (.closed (.removed (some removal)), next) := by
  have unfinished : state.loop.stateOf handler ≠ .removed := by
    rw [h.active _ owed]
    decide
  obtain ⟨removal, after, made⟩ :=
    Traffic.move?_remove now (h.able _ owed) (h.known _ owed) unfinished
  simp [move?, running, owed, made]

/-- Who has to remove a handler does that next.  Then the handler is not in use any more. -/
theorem Step.due (step : Step state move answer next) (h : state.Orderly)
    (owed : (caller, handler) ∈ state.closing) :
    (caller, handler) ∈ next.closing ∧ move.actor? ≠ some caller ∨
      (∃ now, move = .close caller now handler) ∧ handler ∈ next.dropped ∧
        next.loop.stateOf handler ≠ .active := by
  cases step with
  | traffic running kept free made =>
      exact .inl ⟨owed, fun same => free _ same _ owed rfl⟩
  | @drop other given unwinding running able known kept free unheld =>
      have foreign : some other ≠ some caller := by
        intro same
        exact free _ owed (Option.some.inj same).symm
      cases (state.loop.slots given).parting unwinding with
      | nothing => exact .inl ⟨owed, foreign⟩
      | removeNow => exact .inl ⟨.tail _ owed, foreign⟩
      | abort => exact .inl ⟨owed, foreign⟩
  | @close other now closed answer after running due made =>
      by_cases same : (caller, handler) = (other, closed)
      · cases same
        have gone := (Traffic.step_of_move? made).closed_of_remove
        exact .inr ⟨⟨now, rfl⟩, h.dropped _ owed, gone.ne_active⟩
      · have stays := (List.mem_erase_of_ne same).2 owed
        have foreign := (h.apart due stays).1
        exact .inl ⟨stays, fun actor => foreign (Option.some.inj actor).symm⟩

theorem Reaches.due (reaches : Reaches first later last) (h : first.Orderly)
    (owed : (caller, handler) ∈ first.closing) :
    (caller, handler) ∈ last.closing ∧ (∀ step ∈ later, step.1.actor? ≠ some caller) ∨
      (∃ now answer, (.close caller now handler, answer) ∈ later) ∧ handler ∈ last.dropped ∧
        last.loop.stateOf handler ≠ .active := by
  induction reaches with
  | refl => exact .inl ⟨owed, fun _ hmem => absurd hmem List.not_mem_nil⟩
  | snoc reaches made ih =>
      have orderly := reaches.orderly h
      have step := step_of_move? made
      rcases ih with ⟨owed, idle⟩ | ⟨⟨now, answer, hmem⟩, dropped, unused⟩
      · rcases step.due orderly owed with ⟨stays, foreign⟩ | ⟨⟨now, rfl⟩, gone⟩
        · refine .inl ⟨stays, List.forall_mem_append.2 ⟨idle, ?_⟩⟩
          exact List.forall_mem_singleton.2 foreign
        · exact .inr ⟨⟨now, _, List.mem_append_right _ (.head _)⟩, gone⟩
      · have gone := step.unused orderly.sound dropped unused
        exact .inr ⟨⟨now, answer, List.mem_append_left _ hmem⟩, gone⟩

end Custody

end Reactor
