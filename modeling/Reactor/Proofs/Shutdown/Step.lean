import Reactor.EventLoop.Shutdown
import Reactor.Machine
import Reactor.Proofs.Traffic.Run

/-!
# Steps and runs of a shutdown

`Step` has one rule for everything that a move can do.  A run can be cut at any
step, and its history has in it the history of the traffic, which the parts of a
move that was taken apart give back as one move.
-/

namespace Reactor

namespace Shutdown

variable {ε : Type}

/-! ## Steps -/

inductive Step (state : Shutdown ε) : ShutdownMove ε -> ShutdownAnswer ε -> Shutdown ε -> Prop
  | traffic {move : Move ε} {answer : Answer ε} {after : Traffic ε}
      (ordinary : move.isOrdinary = true)
      (made : state.traffic.move? move = some (answer, after)) :
      Step state (.traffic move) (.traffic answer) { state with traffic := after }
  | stop {thread : ThreadId} {unwinding last : Bool} (kept : state.givenUp = false)
      (alone : last = true -> ∀ call ∈ state.calls, call.outcome ≠ none) :
      Step state (.stop thread unwinding last) .told
        { state with
          traffic := (state.traffic.call (.thread thread) .first .stop).2
          calls := state.calls ++ [⟨thread, unwinding, none⟩]
          givenUp := last }
  | hold {number : Nat} {call : StopCall} (free : state.holder = none)
      (calls : state.calls[number]? = some call) (unended : call.outcome = none)
      (joinable : state.eventLoop.thread.isJoinable = true) :
      Step state (.take number) .waits { state with holder := some number }
  /-- The thread has been joined before. -/
  | pass {number : Nat} {call : StopCall} (free : state.holder = none)
      (calls : state.calls[number]? = some call) (unended : call.outcome = none)
      (spent : state.eventLoop.thread.isJoinable = false) :
      Step state (.take number) (state.finish number call).1 (state.finish number call).2
  | collect {number : Nat} {call : StopCall} (holds : state.holder = some number)
      (calls : state.calls[number]? = some call) (gone : state.eventLoop.hasExited = true) :
      Step state .collect (state.finish number call).1 (state.finish number call).2
  | release {failure : Option String} {discarded : List (QueuedEvent ε)} {entry : QueuedEvent ε}
      (leaves : state.eventLoop.phase = .leaving discarded)
      (oldest : discarded[state.released.length]? = some entry)
      (once : failure = none ∨ state.lapse = none) :
      Step state (.release failure) (.released entry)
        { state with
          released := state.released ++ [entry]
          lapse := state.lapse.or failure }
  | exit {discarded : List (QueuedEvent ε)}
      (leaves : state.eventLoop.phase = .leaving discarded)
      (all : state.released.length = discarded.length) :
      Step state .exit (.exited state.lapse)
        { state with
          traffic := { state.traffic with eventLoop := state.eventLoop.exit state.lapse } }

variable {state next first middle last : Shutdown ε} {move : ShutdownMove ε}
  {answer : ShutdownAnswer ε} {past later : List (ShutdownMove ε × ShutdownAnswer ε)}
  {step : ShutdownMove ε × ShutdownAnswer ε}

/-- Every possible move goes by one of the rules. -/
theorem step_of_move? (h : state.move? move = some (answer, next)) :
    Step state move answer next := by
  cases move with
  | traffic move =>
      simp only [move?] at h
      split at h
      · next ordinary =>
          obtain ⟨⟨answer, after⟩, made, hnext⟩ := Option.map_eq_some_iff.1 h
          cases hnext
          exact .traffic ordinary made
      · cases h
  | stop thread unwinding last =>
      simp only [move?] at h
      split at h
      · cases h
      · next allowed =>
          cases h
          simp only [Bool.or_eq_true, Bool.and_eq_true, List.any_eq_true, not_or, not_and,
            not_exists, Option.isNone_iff_eq_none, Bool.not_eq_true] at allowed
          exact .stop allowed.1 allowed.2
  | take number =>
      simp only [move?] at h
      split at h
      · next call free calls =>
          split at h
          · cases h
          · next unended =>
              have unended := Option.not_isSome_iff_eq_none.1 unended
              split at h
              · next joinable => cases h; exact .hold free calls unended joinable
              · next spent =>
                  have passed := Step.pass free calls unended (Bool.eq_false_iff.2 spent)
                  rwa [Option.some.inj h] at passed
      · cases h
  | collect =>
      simp only [move?] at h
      split at h
      · next number holds =>
          split at h
          · next call calls =>
              split at h
              · next gone =>
                  have collected := Step.collect holds calls gone
                  rwa [Option.some.inj h] at collected
              · cases h
          · cases h
      · cases h
  | release failure =>
      simp only [move?] at h
      split at h
      · next discarded leaves =>
          split at h
          · next entry oldest =>
              split at h
              · cases h
              · next once =>
                  cases h
                  refine .release leaves oldest ?_
                  cases failure <;> simp_all
          · cases h
      all_goals cases h
  | exit =>
      simp only [move?] at h
      split at h
      · next discarded leaves =>
          split at h
          · next all => cases h; exact .exit leaves all
          · cases h
      all_goals cases h

/-! ## Runs -/

/-- A run passes through a state before each of its steps, and through one after it. -/
theorem Reaches.cut (reaches : Reaches first (past ++ (move, answer) :: later) last) :
    ∃ before after, Reaches first past before ∧ before.move? move = some (answer, after) ∧
      Reaches after later last := by
  induction later using List.reverseRecOn generalizing last with
  | nil =>
      generalize hall : past ++ [(move, answer)] = all at reaches
      cases reaches with
      | refl => simp at hall
      | snoc reaches made =>
          obtain ⟨rfl, hstep⟩ := List.append_inj' hall rfl
          cases hstep
          exact ⟨_, last, reaches, made, .refl last⟩
  | append_singleton back final ih =>
      rw [← List.cons_append, ← List.append_assoc] at reaches
      generalize hall : past ++ (move, answer) :: back ++ [final] = all at reaches
      cases reaches with
      | refl => simp at hall
      | snoc reaches made =>
          obtain ⟨rfl, hstep⟩ := List.append_inj' hall rfl
          cases hstep
          obtain ⟨before, after, hpast, hmade, hlater⟩ := ih reaches
          exact ⟨before, after, hpast, hmade, .snoc hlater made⟩

theorem Runs.cut (runs : Runs (past ++ (move, answer) :: later) last) :
    ∃ before after, Runs past before ∧ before.move? move = some (answer, after) ∧
      Reaches after later last := by
  obtain ⟨name, stackSize, eventLoop, started, reaches⟩ := runs
  obtain ⟨before, after, hpast, made, hlater⟩ := reaches.cut
  exact ⟨before, after, ⟨name, stackSize, eventLoop, started, hpast⟩, made, hlater⟩

theorem Runs.snoc (runs : Runs past state) (made : state.move? move = some (answer, next)) :
    Runs (past ++ [(move, answer)]) next := by
  obtain ⟨name, stackSize, eventLoop, started, reaches⟩ := runs
  exact ⟨name, stackSize, eventLoop, started, .snoc reaches made⟩

theorem Runs.trans (runs : Runs past state) (reaches : Reaches state later last) :
    Runs (past ++ later) last := by
  obtain ⟨name, stackSize, eventLoop, started, hpast⟩ := runs
  exact ⟨name, stackSize, eventLoop, started, hpast.trans reaches⟩

/-- What holds at the start, and is kept by every step of a run, holds of all runs. -/
theorem Runs.induction
    {P : List (ShutdownMove ε × ShutdownAnswer ε) -> Shutdown ε -> Prop}
    (start : ∀ {name stackSize eventLoop}, (EventLoop.new name stackSize).start = .ok eventLoop ->
      P [] (start eventLoop))
    (step : ∀ {past state move answer next}, Runs past state -> Step state move answer next ->
      P past state -> P (past ++ [(move, answer)]) next)
    (runs : Runs past state) : P past state := by
  obtain ⟨name, stackSize, eventLoop, started, reaches⟩ := runs
  induction reaches with
  | refl => exact start started
  | snoc reaches made ih =>
      exact step ⟨name, stackSize, eventLoop, started, reaches⟩ (step_of_move? made) ih

theorem reaches_of_moves? (moves : List (ShutdownMove ε))
    (h : first.moves? moves = some (past, last)) : Reaches first past last := by
  induction moves generalizing first past with
  | nil =>
      cases h
      exact .refl _
  | cons move rest ih =>
      simp only [moves?, Option.bind_eq_bind, Option.bind_eq_some_iff] at h
      obtain ⟨⟨answer, next⟩, made, ⟨steps, last'⟩, hrest, hlast⟩ := h
      cases hlast
      exact (Reaches.snoc (.refl _) made).trans (ih hrest)

theorem runs_of_moves? (name : String) (stackSize : Option Nat) (moves : List (ShutdownMove ε))
    {eventLoop : EventLoop ε} (started : (EventLoop.new name stackSize).start = .ok eventLoop)
    (h : (Shutdown.start eventLoop).moves? moves = some (past, last)) : Runs past last :=
  ⟨name, stackSize, eventLoop, started, reaches_of_moves? moves h⟩

/-! ## Histories -/

/-- What a step is as a move of the traffic: nothing, if it is only a part of one. -/
def project : ShutdownMove ε × ShutdownAnswer ε -> Option (Move ε × Answer ε)
  | (.traffic move, .traffic answer) => some (move, answer)
  | (.stop thread _ _, _) => some (.call (.thread thread) .first .stop, .done)
  | (_, .joined thread result _) => some (.join thread, .joined result)
  | (_, .exited failure) => some (.exit failure, .done)
  | _ => none

/-- The history of the traffic. -/
def trafficOf (past : List (ShutdownMove ε × ShutdownAnswer ε)) : List (Move ε × Answer ε) :=
  past.filterMap project

theorem trafficOf_append : trafficOf (past ++ later) = trafficOf past ++ trafficOf later :=
  List.filterMap_append

end Shutdown

end Reactor
