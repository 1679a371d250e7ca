import Reactor.EventLoop.Basic

/-!
# Traffic on an event loop

Any number of threads use one event loop while its worker goes on.  Each move
below is one critical section, so what threads do is an interleaving of moves,
in any order in which each of them is possible.  `Traffic.move?` makes a move,
and `Traffic.Reaches` says which moves with which answers lead from one state to
another.

A thread that removes a handler may have to wait for the end of a callback.  It
is listed as blocked until it is notified, and as notified until it goes on.
One that stops the loop is listed until it has joined the worker.  The worker
itself makes calls from inside callbacks, and while it releases what it will not
deliver.  A thread that waits may still make calls: what it has taken out of the
queue is destroyed before the waiting begins, and destruction can act.
-/

namespace Reactor

inductive Call (ε : Type) where
  | send (handler : HandlerId) (event : ε)
  | addTimer (handler : HandlerId) (interval : Duration) (mode : TimerMode)
  | stopTimer (handler : HandlerId) (id : TimerId)
  | stopAddTimer (handler : HandlerId) (old : TimerId) (interval : Duration)
      (mode : TimerMode)
  /-- The filter may remember everything it has looked at. -/
  | filter (visit : Visit (List (QueuedEvent ε)) ε)
  | filterFor (handler : HandlerId) (visit : Visit (List (QueuedEvent ε)) ε)
  | remove (handler : HandlerId)
  | stop

/-- One critical section of a thread or of the worker. -/
inductive Move (ε : Type) where
  /-- A handler is bound to the loop; its object may still be under way. -/
  | bind (handler : HandlerId) (target : Target)
  | complete (handler : HandlerId)
  /-- The destruction of the object of a handler begins. -/
  | lose (handler : HandlerId)
  /-- A call, at a reading of the clock. -/
  | call (caller : Remover) (now : Instant) (call : Call ε)
  /-- A thread goes on that has waited for the callback of a handler to end. -/
  | resume (thread : ThreadId) (handler : HandlerId)
  /-- A thread that stops the loop joins the worker. -/
  | join (thread : ThreadId)
  /-- The worker chooses what to do and begins it. -/
  | round (now : Instant)
  | wake (now : Instant)
  | endCallback (failure : Option String)
  /-- The worker has released all that was left, and exits. -/
  | exit (failure : Option String)

inductive Answer (ε : Type) where
  | done
  | sent (accepted : Bool)
  | armed (id : Option TimerId)
  | stopped (found : Bool)
  | replaced (found : Bool) (id : Option TimerId)
  | filtered (filtering : Filtering (List (QueuedEvent ε)) ε)
  | removed (removal : Option (Removal ε))
  /-- The thread was notified, or nobody was left who could notify it. -/
  | resumed (notified : Bool)
  | joined (result : Option (Option String))
  | round (round : Round ε)
  | ended (handler : HandlerId) (released : List ThreadId)
      (farewell : Option (Farewell ε))

/-- An event loop and the threads that wait for it. -/
structure Traffic (ε : Type) where
  eventLoop : EventLoop ε
  bound : List HandlerId
  /-- Threads that wait for the callback of a handler to end. -/
  blocked : List (ThreadId × HandlerId)
  /-- Threads that have been notified of such an end and have not gone on. -/
  notified : List (ThreadId × HandlerId)
  /-- Threads that have told the loop to quit and have not joined the worker. -/
  stopping : List ThreadId

namespace Call

variable {ε : Type}

/-- The handler through which a call is made. -/
def handler? : Call ε -> Option HandlerId
  | send handler _ => some handler
  | addTimer handler _ _ => some handler
  | stopTimer handler _ => some handler
  | stopAddTimer handler _ _ _ => some handler
  | filter _ => none
  | filterFor handler _ => some handler
  | remove handler => some handler
  | stop => none

end Call

namespace Traffic

variable {ε : Type}

def start (eventLoop : EventLoop ε) : Traffic ε :=
  ⟨eventLoop, [], [], [], []⟩

abbrev loop (traffic : Traffic ε) : Loop ε :=
  traffic.eventLoop.loop

def setLoop (traffic : Traffic ε) (loop : Loop ε) : Traffic ε :=
  { traffic with eventLoop := { traffic.eventLoop with loop } }

/-- Whether the caller is at a point where it can call into the loop. -/
def canCall (traffic : Traffic ε) : Remover -> Bool
  | .thread _ => true
  | .worker =>
      match traffic.eventLoop.phase with
      | .calling _ | .leaving _ => true
      | .choosing | .asleep _ | .exited => false

def call (traffic : Traffic ε) (caller : Remover) (now : Instant) :
    Call ε -> Answer ε × Traffic ε
  | .send handler event =>
      let (accepted, loop) := traffic.loop.send handler event
      (.sent accepted, traffic.setLoop loop)
  | .addTimer handler interval mode =>
      let (id, loop) :=
        traffic.loop.addTimer handler now interval mode
      (.armed id, traffic.setLoop loop)
  | .stopTimer handler id =>
      let (found, loop) := traffic.loop.stopTimer handler id
      (.stopped found, traffic.setLoop loop)
  | .stopAddTimer handler old interval mode =>
      let (found, id, loop) :=
        traffic.loop.stopAddTimer handler old now interval mode
      (.replaced found id, traffic.setLoop loop)
  | .filter visit =>
      let (filtering, loop) := traffic.loop.filter visit []
      (.filtered filtering, traffic.setLoop loop)
  | .filterFor handler visit =>
      let (filtering, loop) :=
        traffic.loop.filterFor handler visit []
      (.filtered filtering, traffic.setLoop loop)
  | .remove handler =>
      let (removal, loop) := traffic.loop.beginRemoval handler caller
      let after := traffic.setLoop loop
      match caller, removal.any (·.waiting) with
      | .thread id, true =>
          (.removed removal,
            { after with blocked := traffic.blocked ++ [(id, handler)] })
      | _, _ => (.removed removal, after)
  | .stop =>
      let after := traffic.setLoop traffic.loop.requestStop
      match caller with
      | .thread id =>
          (.done, { after with stopping := traffic.stopping ++ [id] })
      | .worker => (.done, traffic)

def move? (traffic : Traffic ε) : Move ε -> Option (Answer ε × Traffic ε)
  | .bind handler target =>
      if handler ∈ traffic.bound then
        none
      else
        some (.done,
          { traffic.setLoop (traffic.loop.bind handler target) with
            bound := handler :: traffic.bound })
  | .complete handler =>
      if (traffic.loop.slots handler).target = .building then
        some (.done,
          traffic.setLoop (traffic.loop.complete handler))
      else
        none
  | .lose handler =>
      some (.done, traffic.setLoop (traffic.loop.lose handler))
  | .call caller now call =>
      if traffic.canCall caller ∧ call.handler?.all (· ∈ traffic.bound) then
        some (traffic.call caller now call)
      else
        none
  | .resume thread handler =>
      if (thread, handler) ∈ traffic.notified then
        some (.resumed true,
          { traffic with
            notified := traffic.notified.erase (thread, handler) })
      else if (thread, handler) ∈ traffic.blocked ∧
          thread ∉ traffic.loop.waiters then
        some (.resumed false,
          { traffic.setLoop (traffic.loop.finishRemoval handler) with
            blocked := traffic.blocked.erase (thread, handler) })
      else
        none
  | .join thread =>
      if thread ∈ traffic.stopping ∧ traffic.eventLoop.hasExited then
        let (result, eventLoop) := traffic.eventLoop.join
        some (.joined result,
          { traffic with
            eventLoop
            stopping := traffic.stopping.erase thread })
      else
        none
  | .round now =>
      match traffic.eventLoop.phase with
      | .choosing =>
          let (round, eventLoop) := traffic.eventLoop.round now
          some (.round round, { traffic with eventLoop })
      | .asleep _ | .calling _ | .leaving _ | .exited => none
  | .wake now =>
      (traffic.eventLoop.wake? now).map fun eventLoop =>
        (.done, { traffic with eventLoop })
  | .endCallback failure =>
      match traffic.eventLoop.phase with
      | .calling handler =>
          let (released, farewell, eventLoop) :=
            traffic.eventLoop.endCallback handler failure
          some (.ended handler released farewell,
            { traffic with
              eventLoop
              blocked := traffic.blocked.filter fun wait =>
                wait.1 ∉ released
              notified := traffic.notified ++ traffic.blocked.filter fun wait =>
                wait.1 ∈ released })
      | .choosing | .asleep _ | .leaving _ | .exited => none
  | .exit failure =>
      match traffic.eventLoop.phase with
      | .leaving _ =>
          some (.done,
            { traffic with eventLoop := traffic.eventLoop.exit failure })
      | .choosing | .asleep _ | .calling _ | .exited => none

/-- Moves with their answers, in order, that lead from one state to another. -/
inductive Reaches : Traffic ε -> List (Move ε × Answer ε) -> Traffic ε -> Prop
  | refl (traffic : Traffic ε) : Reaches traffic [] traffic
  | snoc {first last next : Traffic ε} {past : List (Move ε × Answer ε)}
      {move : Move ε} {answer : Answer ε} :
      Reaches first past last -> last.move? move = some (answer, next) ->
      Reaches first (past ++ [(move, answer)]) next

/-- Moves with their answers that lead from the start of a worker to a state. -/
def Runs (past : List (Move ε × Answer ε)) (traffic : Traffic ε) : Prop :=
  ∃ (name : String) (stackSize : Option Nat) (eventLoop : EventLoop ε),
    (EventLoop.new name stackSize).start = .ok eventLoop ∧
      Reaches (.start eventLoop) past traffic

def moves? (traffic : Traffic ε) :
    List (Move ε) -> Option (List (Move ε × Answer ε) × Traffic ε)
  | [] => some ([], traffic)
  | move :: rest => do
      let (answer, next) ← traffic.move? move
      let (steps, last) ← next.moves? rest
      return ((move, answer) :: steps, last)

theorem Reaches.trans {first middle last : Traffic ε}
    {past present : List (Move ε × Answer ε)}
    (h : Reaches first past middle) (h' : Reaches middle present last) :
    Reaches first (past ++ present) last := by
  induction h' with
  | refl => simpa using h
  | snoc _ move ih =>
      rw [← List.append_assoc]
      exact .snoc ih move

end Traffic

end Reactor
