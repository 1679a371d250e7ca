import Reactor.EventLoop.Traffic

/-!
# Stopping an event loop

A thread that stops a loop tells it to quit.  Then it takes hold of the worker
thread object and joins the thread that was started there, which may take long;
whoever else stops the loop has to wait for the object, and then finds nothing
left to join.  To give a loop up is to stop it, and nobody can stop it later.
The worker for its part releases one by one the events that it will not deliver,
and exits after the last of them.

`Traffic` has one move for each of the two: a thread joins, the worker exits.
Here they are taken apart, and all other moves go on in between.  The handle of
the thread leaves its object when the join is over; nobody sees the object
before, since it is held.
-/

namespace Reactor

/-- A call that stops a loop. -/
structure StopCall where
  thread : ThreadId
  /-- The thread is unwinding when it makes the call. -/
  unwinding : Bool
  /-- How the call has ended, if it has. -/
  outcome : Option StopOutcome

inductive ShutdownMove (ε : Type) where
  /-- A move that has nothing to do with those below. -/
  | traffic (move : Move ε)
  /-- A thread tells the loop to quit.  It may be about to give the loop up. -/
  | stop (thread : ThreadId) (unwinding last : Bool)
  /-- The call with this number takes hold of the worker thread object. -/
  | take (number : Nat)
  /-- The call that holds the object finds that the thread has ended. -/
  | collect
  /-- The worker has destroyed the next event, which may fail. -/
  | release (failure : Option String)
  | exit

inductive ShutdownAnswer (ε : Type) where
  | traffic (answer : Answer ε)
  | told
  /-- The call has something to join, and waits for it. -/
  | waits
  | joined (thread : ThreadId) (result : Option (Option String)) (outcome : StopOutcome)
  | released (entry : QueuedEvent ε)
  | exited (failure : Option String)

/-- The traffic on an event loop, and the calls that stop it. -/
structure Shutdown (ε : Type) where
  traffic : Traffic ε
  /-- The calls by their numbers, those that have ended among them. -/
  calls : List StopCall
  /-- The number of the call that holds the worker thread object. -/
  holder : Option Nat
  givenUp : Bool
  /-- The events that the worker has released. -/
  released : List (QueuedEvent ε)
  /-- The failure of the destruction of one of them. -/
  lapse : Option String

/-- Whether a move is one of those that are not taken apart. -/
def Move.isOrdinary {ε : Type} : Move ε -> Bool
  | .call caller _ .stop => caller = .worker
  | .join _ | .exit _ => false
  | _ => true

namespace Shutdown

variable {ε : Type}

def start (eventLoop : EventLoop ε) : Shutdown ε :=
  ⟨.start eventLoop, [], none, false, [], none⟩

abbrev loop (state : Shutdown ε) : Loop ε :=
  state.traffic.loop

abbrev eventLoop (state : Shutdown ε) : EventLoop ε :=
  state.traffic.eventLoop

/-- Join the worker, let go of its object and end the call that has done so. -/
def finish (state : Shutdown ε) (number : Nat) (call : StopCall) :
    ShutdownAnswer ε × Shutdown ε :=
  let (result, eventLoop) := state.eventLoop.join
  let outcome := StopOutcome.of result.join call.unwinding
  (.joined call.thread result outcome,
    { state with
      traffic :=
        { state.traffic with
          eventLoop
          stopping := state.traffic.stopping.erase call.thread }
      calls := state.calls.set number { call with outcome := some outcome }
      holder := none })

def move? (state : Shutdown ε) :
    ShutdownMove ε -> Option (ShutdownAnswer ε × Shutdown ε)
  | .traffic move =>
      if move.isOrdinary then
        (state.traffic.move? move).map fun (answer, traffic) =>
          (.traffic answer, { state with traffic })
      else
        none
  | .stop thread unwinding last =>
      -- Whoever gives the loop up is the only one left to use it.
      if state.givenUp || last && state.calls.any (·.outcome.isNone) then
        none
      else
        let (_, traffic) := state.traffic.call (.thread thread) .first .stop
        some (.told,
          { state with
            traffic
            calls := state.calls ++ [⟨thread, unwinding, none⟩]
            givenUp := last })
  | .take number =>
      match state.holder, state.calls[number]? with
      | none, some call =>
          if call.outcome.isSome then
            none
          else if state.eventLoop.thread.isJoinable then
            some (.waits, { state with holder := some number })
          else
            some (state.finish number call)
      | _, _ => none
  | .collect =>
      match state.holder with
      | some number =>
          match state.calls[number]? with
          | some call =>
              if state.eventLoop.hasExited then
                some (state.finish number call)
              else
                none
          | none => none
      | none => none
  | .release failure =>
      match state.eventLoop.phase with
      | .leaving discarded =>
          match discarded[state.released.length]? with
          | some entry =>
              -- A second failure at this point would end the program.
              if failure.isSome && state.lapse.isSome then
                none
              else
                some (.released entry,
                  { state with
                    released := state.released ++ [entry]
                    lapse := state.lapse.or failure })
          | none => none
      | .choosing | .asleep _ | .calling _ | .exited => none
  | .exit =>
      match state.eventLoop.phase with
      | .leaving discarded =>
          if state.released.length = discarded.length then
            let eventLoop := state.eventLoop.exit state.lapse
            some (.exited state.lapse,
              { state with traffic := { state.traffic with eventLoop } })
          else
            none
      | .choosing | .asleep _ | .calling _ | .exited => none

/-- Moves with their answers, in order, that lead from one state to another. -/
inductive Reaches :
    Shutdown ε -> List (ShutdownMove ε × ShutdownAnswer ε) -> Shutdown ε -> Prop
  | refl (state : Shutdown ε) : Reaches state [] state
  | snoc {first last next : Shutdown ε}
      {past : List (ShutdownMove ε × ShutdownAnswer ε)} {move : ShutdownMove ε}
      {answer : ShutdownAnswer ε} :
      Reaches first past last -> last.move? move = some (answer, next) ->
      Reaches first (past ++ [(move, answer)]) next

/-- Moves with their answers that lead from the start of a worker to a state. -/
def Runs (past : List (ShutdownMove ε × ShutdownAnswer ε)) (state : Shutdown ε) : Prop :=
  ∃ (name : String) (stackSize : Option Nat) (eventLoop : EventLoop ε),
    (EventLoop.new name stackSize).start = .ok eventLoop ∧
      Reaches (.start eventLoop) past state

def moves? (state : Shutdown ε) :
    List (ShutdownMove ε) ->
    Option (List (ShutdownMove ε × ShutdownAnswer ε) × Shutdown ε)
  | [] => some ([], state)
  | move :: rest => do
      let (answer, next) ← state.move? move
      let (steps, last) ← next.moves? rest
      return ((move, answer) :: steps, last)

theorem Reaches.trans {first middle last : Shutdown ε}
    {past present : List (ShutdownMove ε × ShutdownAnswer ε)}
    (h : Reaches first past middle) (h' : Reaches middle present last) :
    Reaches first (past ++ present) last := by
  induction h' with
  | refl => simpa using h
  | snoc _ move ih =>
      rw [← List.append_assoc]
      exact .snoc ih move

end Shutdown

end Reactor
