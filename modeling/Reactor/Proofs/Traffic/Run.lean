import Mathlib.Data.List.Induction
import Reactor.Proofs.Traffic.Step

/-!
# Runs of the traffic

A run can be cut at any step, and what holds at the start of a worker and is kept
by every step holds of all runs.
-/

namespace Reactor

namespace Traffic

variable {ε : Type} {first middle last traffic next : Traffic ε}
  {past later : List (Move ε × Answer ε)} {move : Move ε} {answer : Answer ε}

theorem Reaches.preserves {P : Traffic ε -> Prop}
    (kept : ∀ {traffic next move answer}, P traffic -> Step traffic move answer next -> P next)
    (reaches : Reaches first past last) (h : P first) : P last := by
  induction reaches with
  | refl => exact h
  | snoc _ made ih => exact kept ih (step_of_move? made)

theorem Reaches.eq_of_nil (reaches : Reaches first [] last) : last = first := by
  generalize hnil : ([] : List (Move ε × Answer ε)) = past at reaches
  cases reaches with
  | refl => rfl
  | snoc => simp at hnil

theorem Reaches.unsnoc (reaches : Reaches first (past ++ [(move, answer)]) next) :
    ∃ last, Reaches first past last ∧ last.move? move = some (answer, next) := by
  generalize hall : past ++ [(move, answer)] = all at reaches
  cases reaches with
  | refl => simp at hall
  | snoc reaches made =>
      obtain ⟨rfl, hstep⟩ := List.append_inj' hall rfl
      cases hstep
      exact ⟨_, reaches, made⟩

/-- A run passes through a state wherever it is cut. -/
theorem Reaches.split (reaches : Reaches first (past ++ later) last) :
    ∃ middle, Reaches first past middle ∧ Reaches middle later last := by
  induction later using List.reverseRecOn generalizing last with
  | nil =>
      rw [List.append_nil] at reaches
      exact ⟨last, reaches, .refl last⟩
  | append_singleton front step ih =>
      rw [← List.append_assoc] at reaches
      obtain ⟨before, hbefore, made⟩ := reaches.unsnoc
      obtain ⟨middle, hpast, hfront⟩ := ih hbefore
      exact ⟨middle, hpast, .snoc hfront made⟩

theorem Reaches.head (reaches : Reaches first ((move, answer) :: later) last) :
    ∃ next, first.move? move = some (answer, next) ∧ Reaches next later last := by
  obtain ⟨next, hfirst, hlater⟩ :=
    (show Reaches first ([(move, answer)] ++ later) last from reaches).split
  obtain ⟨same, hnil, made⟩ :=
    (show Reaches first ([] ++ [(move, answer)]) next from hfirst).unsnoc
  rw [hnil.eq_of_nil] at made
  exact ⟨next, made, hlater⟩

theorem Runs.split (runs : Runs (past ++ later) last) :
    ∃ middle, Runs past middle ∧ Reaches middle later last := by
  obtain ⟨name, stackSize, eventLoop, started, reaches⟩ := runs
  obtain ⟨middle, hpast, hlater⟩ := reaches.split
  exact ⟨middle, ⟨name, stackSize, eventLoop, started, hpast⟩, hlater⟩

theorem Runs.trans (runs : Runs past middle) (reaches : Reaches middle later last) :
    Runs (past ++ later) last := by
  obtain ⟨name, stackSize, eventLoop, started, hpast⟩ := runs
  exact ⟨name, stackSize, eventLoop, started, hpast.trans reaches⟩

theorem Runs.snoc (runs : Runs past traffic) (made : traffic.move? move = some (answer, next)) :
    Runs (past ++ [(move, answer)]) next :=
  runs.trans (.snoc (.refl traffic) made)

theorem Runs.through (runs : Runs past traffic) (made : traffic.move? move = some (answer, next))
    (reaches : Reaches next later last) : Runs (past ++ (move, answer) :: later) last := by
  rw [List.append_cons]
  exact (runs.snoc made).trans reaches

/-- A step of a run is made from a state that the run has reached before. -/
theorem Runs.exists_before (runs : Runs past traffic) {number : Nat}
    (hstep : past[number]? = some (move, answer)) :
    ∃ before next, Runs (past.take number) before ∧ Step before move answer next := by
  obtain ⟨hlt, hget⟩ := List.getElem?_eq_some_iff.1 hstep
  have hpast : past.take number ++ (move, answer) :: past.drop (number + 1) = past := by
    rw [← hget, List.getElem_cons_drop, List.take_append_drop]
  rw [← hpast] at runs
  obtain ⟨before, hbefore, rest⟩ := runs.split
  obtain ⟨next, made, -⟩ := rest.head
  exact ⟨before, next, hbefore, step_of_move? made⟩

/-- A worker that has been started is about to choose, and its loop is new. -/
theorem of_started (name : String) (stackSize : Option Nat) {eventLoop : EventLoop ε}
    (started : (EventLoop.new name stackSize).start = .ok eventLoop) :
    eventLoop.loop = .new ∧ eventLoop.phase = .choosing := by
  unfold EventLoop.start at started
  split at started
  · cases started
    exact ⟨rfl, rfl⟩
  · cases started

/-- What holds at the start, and is kept by every step of a run, holds of all runs. -/
theorem Runs.induction {P : List (Move ε × Answer ε) -> Traffic ε -> Prop}
    (start : ∀ {eventLoop}, eventLoop.loop = .new -> eventLoop.phase = .choosing ->
      P [] (start eventLoop))
    (step : ∀ {past traffic move answer next}, Runs past traffic ->
      Step traffic move answer next -> P past traffic -> P (past ++ [(move, answer)]) next)
    (runs : Runs past traffic) : P past traffic := by
  obtain ⟨name, stackSize, eventLoop, started, reaches⟩ := runs
  induction reaches with
  | refl =>
      obtain ⟨new, choosing⟩ := of_started name stackSize started
      exact start new choosing
  | snoc reaches made ih =>
      exact step ⟨name, stackSize, eventLoop, started, reaches⟩ (step_of_move? made) ih

theorem reaches_of_moves? (moves : List (Move ε))
    (h : first.moves? moves = some (past, last)) : Reaches first past last := by
  induction moves generalizing first past with
  | nil =>
      cases h
      exact .refl _
  | cons move rest ih =>
      simp only [moves?, Option.bind_eq_bind, Option.bind_eq_some_iff] at h
      obtain ⟨⟨answer, next⟩, made, ⟨steps, last'⟩, hrest, hlast⟩ := h
      cases hlast
      exact (Reaches.snoc (.refl _) made).trans (ih hrest)

theorem runs_of_moves? (name : String) (stackSize : Option Nat) (moves : List (Move ε))
    {eventLoop : EventLoop ε} (started : (EventLoop.new name stackSize).start = .ok eventLoop)
    (h : (start eventLoop).moves? moves = some (past, last)) : Runs past last :=
  ⟨name, stackSize, eventLoop, started, reaches_of_moves? moves h⟩

/-- Moves that can be made one after another make a run, with one of its steps singled out. -/
theorem exists_run_through {β : Type} (name : String) (stackSize : Option Nat)
    (front : List (Move ε)) (move : Move ε) (rest : List (Move ε)) {eventLoop : EventLoop ε}
    (started : (EventLoop.new name stackSize).start = .ok eventLoop)
    {f : List (Move ε × Answer ε) -> Answer ε -> List (Move ε × Answer ε) -> β} {b : β}
    (h : (((start eventLoop).moves? front).bind fun run =>
      (run.2.move? move).bind fun made =>
        (made.2.moves? rest).map fun run' => f run.1 made.1 run'.1) = some b) :
    ∃ past before answer after later last,
      Runs past before ∧ before.move? move = some (answer, after) ∧ Reaches after later last ∧
        f past answer later = b := by
  obtain ⟨⟨past, before⟩, hpast, h⟩ := Option.bind_eq_some_iff.1 h
  obtain ⟨⟨answer, after⟩, made, h⟩ := Option.bind_eq_some_iff.1 h
  obtain ⟨⟨later, last⟩, hlater, h⟩ := Option.map_eq_some_iff.1 h
  exact ⟨past, before, answer, after, later, last, runs_of_moves? name stackSize front started hpast,
    made, reaches_of_moves? rest hlater, h⟩

end Traffic

end Reactor
