import Reactor.Proofs.Custody.Debt
import Reactor.Proofs.Traffic.Alarm

/-!
# Handlers that were given up leave no work behind

Only a handler that is in use has work in its loop.  Giving up one that is not in
use is therefore all there is to do, and one that is in use has no work from its
removal on.  Which of the two it is, or whether the program ends, depends on what
was called through the handler before.
-/

namespace Reactor

namespace Loop

variable {ε : Type} {loop : Loop ε} {handler : HandlerId}

/-- Neither the queue nor one of the two forms of the set of timers has anything of a handler. -/
structure Rid (loop : Loop ε) (handler : HandlerId) : Prop extends loop.Clear handler where
  index : ∀ entry ∈ loop.timers.index, ∃ timer ∈ loop.timers.agenda,
    timer.id = entry.1 ∧ timer.owner ≠ handler

theorem Clear.rid (h : loop.Clear handler) (indexed : loop.timers.Indexed) :
    loop.Rid handler where
  toClear := h
  index entry hmem := by
    obtain ⟨timer, htimer, rfl⟩ := List.mem_map.1 (indexed.entries.mem_iff.1 hmem)
    exact ⟨timer, htimer, rfl, h.timers timer htimer⟩

end Loop

namespace Custody

variable {ε : Type} {state before after : Custody ε}
  {past : List (CustodyMove ε × CustodyAnswer ε)} {handler : HandlerId} {caller : Remover}

/-- What becomes of a handler that is given up, and of the program. -/
structure Parted (past : List (Move ε × Answer ε)) (after : Custody ε) (caller : Remover)
    (handler : HandlerId) (unwinding : Bool) (parting : HandlerSlot.Parting) : Prop where
  /-- Work was accepted for the handler, its removal was not called for, and nothing unwinds. -/
  aborts : parting = .abort ↔
    Traffic.HasWorked past handler ∧ ¬ Traffic.IsRemoved past handler ∧ unwinding = false
  removes : parting = .removeNow ↔
    Traffic.HasWorked past handler ∧ ¬ Traffic.IsRemoved past handler ∧ unwinding = true
  ended : parting = .abort -> ∀ move, after.move? move = none
  /-- At once and in every later state there is no work for the handler. -/
  rid : parting = .nothing -> ∀ later last, Reaches after later last -> last.loop.Rid handler
  /-- So it is when the caller has removed the handler.  Until then the caller does nothing else,
  and nothing keeps it from removing the handler. -/
  closes : parting = .removeNow -> ∀ later last, Reaches after later last ->
    (∃ now answer, (.close caller now handler, answer) ∈ later) ∧ last.loop.Rid handler ∨
      (∀ step ∈ later, step.1.actor? ≠ some caller) ∧
        (last.aborted = false -> ∀ now, ∃ removal next,
          last.move? (.close caller now handler) = some (.closed (.removed (some removal)), next))

theorem Runs.rid (runs : Runs past state) (unused : state.loop.stateOf handler ≠ .active) :
    state.loop.Rid handler :=
  (runs.traffic.sound.loop.clear unused).rid runs.traffic.indexed

theorem move?_of_aborted (ended : state.aborted = true) (move : CustodyMove ε) :
    state.move? move = none := by
  cases move <;> simp [move?, ended]

theorem Runs.parted {unwinding : Bool} {parting : HandlerSlot.Parting} (runs : Runs past before)
    (made : before.move? (.drop caller handler unwinding) = some (.dropped parting, after)) :
    Parted (trafficOf past) after caller handler unwinding parting := by
  have active := ((runs.traffic.tells handler).eq_iff Traffic.RemovedInside.isRemoved).2.1
  have orderly := runs.orderly.step (step_of_move? made)
  cases step_of_move? made with
  | drop running able known kept free unheld =>
      refine ⟨?_, ?_, ?_, ?_, ?_⟩
      · rw [HandlerSlot.parting_eq_abort_iff, ← and_assoc, ← active]
        rfl
      · rw [HandlerSlot.parting_eq_removeNow_iff, ← and_assoc, ← active]
        rfl
      · intro aborts
        rw [aborts]
        exact move?_of_aborted rfl
      · intro nothing later last reaches
        have whole := runs.through made reaches
        have unused := HandlerSlot.parting_eq_nothing_iff.1 nothing
        rw [nothing] at reaches orderly
        exact whole.rid (reaches.unused orderly.sound (.head _) unused).2
      · intro removeNow later last reaches
        have whole := runs.through made reaches
        rw [removeNow] at reaches orderly
        rcases reaches.due orderly (.head _) with ⟨owed, idle⟩ | ⟨closed, -, unused⟩
        · exact .inr ⟨idle, fun running => (reaches.orderly orderly).close running owed⟩
        · exact .inl ⟨closed, whole.rid unused⟩

/-- Handlers can be given up in any state of a run, and none of them leaves work behind. -/
structure Tidy (past : List (CustodyMove ε × CustodyAnswer ε)) (before : Custody ε) : Prop where
  answers : before.aborted = false -> ∀ caller handler unwinding,
    before.canDrop caller handler = true ->
      ∃ parting after, before.move? (.drop caller handler unwinding) =
        some (.dropped parting, after)
  parted : ∀ caller handler unwinding parting after,
    before.move? (.drop caller handler unwinding) = some (.dropped parting, after) ->
      Parted (trafficOf past) after caller handler unwinding parting

theorem no_work_is_left_for_dropped_handler (runs : Runs past before) : Tidy past before where
  answers running caller handler unwinding able := by
    simp [move?, running, able]
  parted caller handler unwinding parting after made := runs.parted made

/-- A thread that unwinds gives up a handler whose callback is running.  It removes the handler
and leaves an event of another handler alone. -/
theorem unwinding_owner_removes_handler :
    ∃ (past later : List (CustodyMove Nat × CustodyAnswer Nat)) (before after last : Custody Nat)
      (parting : HandlerSlot.Parting),
      Runs past before ∧
      before.move? (.drop (.thread ⟨1⟩) ⟨0⟩ true) = some (.dropped parting, after) ∧
      Reaches after later last ∧
      before.loop.queue.map (·.handler) = [⟨0⟩, ⟨1⟩] ∧ parting = .removeNow ∧
      last.loop.queue.map (·.handler) = [⟨1⟩] ∧ last.loop.Rid ⟨0⟩ := by
  obtain ⟨past, later, before, after, last, parting, runs, made, reaches, queued, removes, left,
      now, answer, closed⟩ :
      ∃ (past later : List (CustodyMove Nat × CustodyAnswer Nat)) (before after last : Custody Nat)
        (parting : HandlerSlot.Parting),
        Runs past before ∧
        before.move? (.drop (.thread ⟨1⟩) ⟨0⟩ true) = some (.dropped parting, after) ∧
        Reaches after later last ∧
        before.loop.queue.map (·.handler) = [⟨0⟩, ⟨1⟩] ∧ parting = .removeNow ∧
        last.loop.queue.map (·.handler) = [⟨1⟩] ∧
        ∃ now answer, (.close (.thread ⟨1⟩) now ⟨0⟩, answer) ∈ later :=
    ⟨_, _, _, _, _, _, runs_of_moves? "worker" none
      [.traffic (.bind ⟨0⟩ .alive), .traffic (.bind ⟨1⟩ .alive),
        .traffic (.call (.thread ⟨1⟩) .first (.send ⟨0⟩ 6)), .traffic (.round .first),
        .traffic (.call (.thread ⟨1⟩) .first (.send ⟨0⟩ 7)),
        .traffic (.call (.thread ⟨1⟩) .first (.send ⟨1⟩ 8))] rfl rfl, rfl,
      reaches_of_moves?
        [.close (.thread ⟨1⟩) .first ⟨0⟩, .traffic (.endCallback none)] rfl,
      rfl, rfl, rfl, _, _, .head _⟩
  have parted := (no_work_is_left_for_dropped_handler runs).parted _ _ _ _ _ made
  rcases parted.closes removes _ _ reaches with ⟨-, rid⟩ | ⟨idle, -⟩
  · exact ⟨past, later, before, after, last, parting, runs, made, reaches, queued, removes, left,
      rid⟩
  · exact absurd rfl (idle _ closed)

end Custody

end Reactor
