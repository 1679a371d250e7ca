import Reactor.EventLoop.Traffic
import Reactor.Proofs.Loop.Frame

/-!
# Steps of the traffic

`Step` has one rule for everything that a move can do, with what has to hold for
it and what it leaves.  `step_of_move?` says that there is nothing else, so a
property of all runs follows from one case for each rule.
-/

namespace Reactor

namespace WorkerPhase

variable {ε : Type}

def Away (phase : WorkerPhase ε) : Prop :=
  ∀ handler, phase ≠ .calling handler

theorem Away.choosing : (choosing : WorkerPhase ε).Away := by
  intro handler same
  cases same

theorem Away.asleep (deadline : Option Instant) : (asleep deadline : WorkerPhase ε).Away := by
  intro handler same
  cases same

theorem Away.leaving (discarded : List (QueuedEvent ε)) : (leaving discarded).Away := by
  intro handler same
  cases same

theorem Away.exited : (exited : WorkerPhase ε).Away := by
  intro handler same
  cases same

end WorkerPhase

namespace Traffic

variable {ε : Type}

/-- The traffic when the loop of its worker, and what the worker does, are others. -/
def onWorker (traffic : Traffic ε) (loop : Loop ε) (phase : WorkerPhase ε) : Traffic ε :=
  { traffic with eventLoop := { traffic.eventLoop with loop, phase } }

/-- The traffic when the threads that wait for the end of a callback are notified. -/
def notify (traffic : Traffic ε) (released : List ThreadId) : Traffic ε :=
  { traffic with
    blocked := traffic.blocked.filter fun wait => wait.1 ∉ released
    notified := traffic.notified ++ traffic.blocked.filter fun wait => wait.1 ∈ released }

section Fields

variable (traffic : Traffic ε) (loop : Loop ε) (phase : WorkerPhase ε)

@[simp] theorem loop_setLoop : (traffic.setLoop loop).loop = loop := rfl

@[simp] theorem phase_setLoop :
    (traffic.setLoop loop).eventLoop.phase = traffic.eventLoop.phase := rfl

@[simp] theorem loop_onWorker : (traffic.onWorker loop phase).loop = loop := rfl

@[simp] theorem phase_onWorker : (traffic.onWorker loop phase).eventLoop.phase = phase := rfl

end Fields

inductive Step (traffic : Traffic ε) : Move ε -> Answer ε -> Traffic ε -> Prop
  | bind {handler : HandlerId} {target : Target} (new : handler ∉ traffic.bound) :
      Step traffic (.bind handler target) .done
        { traffic.setLoop (traffic.loop.bind handler target) with
          bound := handler :: traffic.bound }
  | complete {handler : HandlerId}
      (building : (traffic.loop.slots handler).target = .building) :
      Step traffic (.complete handler) .done
        (traffic.setLoop (traffic.loop.complete handler))
  | lose {handler : HandlerId} :
      Step traffic (.lose handler) .done (traffic.setLoop (traffic.loop.lose handler))
  | send {caller : Remover} {now : Instant} {handler : HandlerId} {event : ε}
      (able : traffic.canCall caller = true) (known : handler ∈ traffic.bound) :
      Step traffic (.call caller now (.send handler event))
        (.sent (traffic.loop.send handler event).1)
        (traffic.setLoop (traffic.loop.send handler event).2)
  | addTimer {caller : Remover} {now : Instant} {handler : HandlerId}
      {interval : Duration} {mode : TimerMode}
      (able : traffic.canCall caller = true) (known : handler ∈ traffic.bound) :
      Step traffic (.call caller now (.addTimer handler interval mode))
        (.armed (traffic.loop.addTimer handler now interval mode).1)
        (traffic.setLoop (traffic.loop.addTimer handler now interval mode).2)
  | stopTimer {caller : Remover} {now : Instant} {handler : HandlerId} {id : TimerId}
      (able : traffic.canCall caller = true) (known : handler ∈ traffic.bound) :
      Step traffic (.call caller now (.stopTimer handler id))
        (.stopped (traffic.loop.stopTimer handler id).1)
        (traffic.setLoop (traffic.loop.stopTimer handler id).2)
  | stopAddTimer {caller : Remover} {now : Instant} {handler : HandlerId} {old : TimerId}
      {interval : Duration} {mode : TimerMode}
      (able : traffic.canCall caller = true) (known : handler ∈ traffic.bound) :
      Step traffic (.call caller now (.stopAddTimer handler old interval mode))
        (.replaced (traffic.loop.stopAddTimer handler old now interval mode).1
          (traffic.loop.stopAddTimer handler old now interval mode).2.1)
        (traffic.setLoop (traffic.loop.stopAddTimer handler old now interval mode).2.2)
  | filter {caller : Remover} {now : Instant} {visit : Visit (List (QueuedEvent ε)) ε}
      (able : traffic.canCall caller = true) :
      Step traffic (.call caller now (.filter visit))
        (.filtered (traffic.loop.filter visit []).1)
        (traffic.setLoop (traffic.loop.filter visit []).2)
  | filterFor {caller : Remover} {now : Instant} {handler : HandlerId}
      {visit : Visit (List (QueuedEvent ε)) ε}
      (able : traffic.canCall caller = true) (known : handler ∈ traffic.bound) :
      Step traffic (.call caller now (.filterFor handler visit))
        (.filtered (traffic.loop.filterFor handler visit []).1)
        (traffic.setLoop (traffic.loop.filterFor handler visit []).2)
  /-- The remover can go on at once. -/
  | remove {caller : Remover} {now : Instant} {handler : HandlerId}
      (able : traffic.canCall caller = true) (known : handler ∈ traffic.bound)
      (free : ∀ id, caller = .thread id ->
        (traffic.loop.beginRemoval handler caller).1.any (·.waiting) = false) :
      Step traffic (.call caller now (.remove handler))
        (.removed (traffic.loop.beginRemoval handler caller).1)
        (traffic.setLoop (traffic.loop.beginRemoval handler caller).2)
  | removeBlocked {id : ThreadId} {now : Instant} {handler : HandlerId}
      (known : handler ∈ traffic.bound)
      (held : (traffic.loop.beginRemoval handler (.thread id)).1.any (·.waiting) = true) :
      Step traffic (.call (.thread id) now (.remove handler))
        (.removed (traffic.loop.beginRemoval handler (.thread id)).1)
        { traffic.setLoop (traffic.loop.beginRemoval handler (.thread id)).2 with
          blocked := traffic.blocked ++ [(id, handler)] }
  | stop {id : ThreadId} {now : Instant} :
      Step traffic (.call (.thread id) now .stop) .done
        { traffic.setLoop traffic.loop.requestStop with
          stopping := traffic.stopping ++ [id] }
  /-- The worker cannot stop its own loop. -/
  | stopRefused {now : Instant} (able : traffic.canCall .worker = true) :
      Step traffic (.call .worker now .stop) .done traffic
  | resume {thread : ThreadId} {handler : HandlerId}
      (told : (thread, handler) ∈ traffic.notified) :
      Step traffic (.resume thread handler) (.resumed true)
        { traffic with notified := traffic.notified.erase (thread, handler) }
  /-- Nobody is left who could notify the thread. -/
  | resumeLost {thread : ThreadId} {handler : HandlerId}
      (waits : (thread, handler) ∈ traffic.blocked)
      (lost : thread ∉ traffic.loop.waiters) :
      Step traffic (.resume thread handler) (.resumed false)
        { traffic.setLoop (traffic.loop.finishRemoval handler) with
          blocked := traffic.blocked.erase (thread, handler) }
  | join {thread : ThreadId} (stops : thread ∈ traffic.stopping)
      (gone : traffic.eventLoop.hasExited = true) :
      Step traffic (.join thread) (.joined traffic.eventLoop.join.1)
        { traffic with
          eventLoop := traffic.eventLoop.join.2
          stopping := traffic.stopping.erase thread }
  | leave {now : Instant} (choosing : traffic.eventLoop.phase = .choosing)
      (told : traffic.loop.quit = true) :
      Step traffic (.round now)
        (.round (.leave ⟨traffic.loop.queue, traffic.loop.timers.size⟩))
        (traffic.onWorker traffic.loop.shutDown.2 (.leaving traffic.loop.queue))
  | fire {now : Instant} {id : TimerId} {handler : HandlerId} {timers : TimerSet HandlerId}
      (choosing : traffic.eventLoop.phase = .choosing)
      (untold : traffic.loop.quit = false)
      (due : traffic.loop.timers.popExpired now = some ((id, handler), timers)) :
      Step traffic (.round now) (.round (.deliver handler (.timer id)))
        (traffic.onWorker (Loop.beginDelivery { traffic.loop with timers } handler)
          (.calling handler))
  | deliver {now : Instant} {entry : QueuedEvent ε} {queue : List (QueuedEvent ε)}
      (choosing : traffic.eventLoop.phase = .choosing)
      (untold : traffic.loop.quit = false)
      (undue : traffic.loop.timers.popExpired now = none)
      (oldest : traffic.loop.queue = entry :: queue) :
      Step traffic (.round now) (.round (.deliver entry.handler (.event entry.event)))
        (traffic.onWorker (Loop.beginDelivery { traffic.loop with queue } entry.handler)
          (.calling entry.handler))
  /-- The flag is set, so the worker does not fall asleep. -/
  | again {now : Instant} (choosing : traffic.eventLoop.phase = .choosing)
      (flag : traffic.loop.signalled = true) (untold : traffic.loop.quit = false) :
      Step traffic (.round now) (.round .again)
        (traffic.onWorker traffic.loop.consumeSignal .choosing)
  | sleep {now : Instant} (choosing : traffic.eventLoop.phase = .choosing)
      (untold : traffic.loop.quit = false)
      (undue : traffic.loop.timers.popExpired now = none)
      (empty : traffic.loop.queue = []) (noFlag : traffic.loop.signalled = false) :
      Step traffic (.round now) (.round .sleep)
        (traffic.onWorker traffic.loop (.asleep traffic.loop.timers.nextDeadline))
  | wake {now : Instant} {deadline : Option Instant}
      (sleeps : traffic.eventLoop.phase = .asleep deadline)
      (roused : traffic.loop.signalled = true ∨ ∃ d, deadline = some d ∧ d <= now) :
      Step traffic (.wake now) .done
        (traffic.onWorker traffic.loop.consumeSignal .choosing)
  | endCallback {handler : HandlerId} (calls : traffic.eventLoop.phase = .calling handler) :
      Step traffic (.endCallback none) (.ended handler traffic.loop.waiters none)
        ((traffic.onWorker (traffic.loop.endDelivery handler).2 .choosing).notify
          traffic.loop.waiters)
  /-- The callback has failed, and the worker leaves. -/
  | failCallback {handler : HandlerId} {message : String}
      (calls : traffic.eventLoop.phase = .calling handler) :
      Step traffic (.endCallback (some message))
        (.ended handler traffic.loop.waiters
          (some ⟨traffic.loop.queue, traffic.loop.timers.size⟩))
        ({ traffic with
          eventLoop :=
            { traffic.eventLoop with
              loop := { (traffic.loop.endDelivery handler).2 with quit := true }.shutDown.2
              phase := .leaving traffic.loop.queue
              failure := some message } }.notify traffic.loop.waiters)
  | exit {failure : Option String} {discarded : List (QueuedEvent ε)}
      (leaves : traffic.eventLoop.phase = .leaving discarded) :
      Step traffic (.exit failure) .done
        { traffic with eventLoop := traffic.eventLoop.exit failure }

theorem step_of_call {traffic : Traffic ε} {caller : Remover} {now : Instant} {call : Call ε}
    (able : traffic.canCall caller = true)
    (known : ∀ handler, call.handler? = some handler -> handler ∈ traffic.bound) :
    Step traffic (.call caller now call) (traffic.call caller now call).1
      (traffic.call caller now call).2 := by
  cases call with
  | send handler event => exact .send able (known handler rfl)
  | addTimer handler interval mode => exact .addTimer able (known handler rfl)
  | stopTimer handler id => exact .stopTimer able (known handler rfl)
  | stopAddTimer handler old interval mode => exact .stopAddTimer able (known handler rfl)
  | filter visit => exact .filter able
  | filterFor handler visit => exact .filterFor able (known handler rfl)
  | remove handler =>
      cases caller with
      | worker =>
          exact .remove able (known handler rfl) fun _ same => nomatch same
      | thread id =>
          by_cases held : (traffic.loop.beginRemoval handler (.thread id)).1.any (·.waiting)
          · simpa [Traffic.call, held] using Step.removeBlocked (known handler rfl) held
          · have free := Bool.eq_false_iff.2 held
            simpa [Traffic.call, held] using
              Step.remove able (known handler rfl) fun _ same => same ▸ free
  | stop =>
      cases caller with
      | worker => exact .stopRefused able
      | thread id => exact .stop

theorem step_of_round {traffic : Traffic ε} {now : Instant}
    (choosing : traffic.eventLoop.phase = .choosing) :
    Step traffic (.round now) (.round (traffic.eventLoop.round now).1)
      { traffic with eventLoop := (traffic.eventLoop.round now).2 } := by
  have finds := Loop.finds_nextWork traffic.loop now
  -- Where there is nothing to do, the flag decides whether the worker sleeps.
  have rest : ∀ deadline, traffic.loop.quit = false ->
      traffic.loop.timers.popExpired now = none -> traffic.loop.queue = [] ->
      traffic.loop.timers.nextDeadline = deadline ->
      Step traffic (.round now) (.round (traffic.eventLoop.rest deadline).1)
        { traffic with eventLoop := (traffic.eventLoop.rest deadline).2 } := by
    rintro deadline untold undue empty rfl
    unfold EventLoop.rest
    by_cases flag : traffic.loop.signalled = true
    · rw [if_pos flag]
      have step : Step traffic (.round now) _ _ := .again choosing flag untold
      rwa [onWorker, ← choosing] at step
    · rw [if_neg flag]
      exact .sleep choosing untold undue empty (Bool.eq_false_iff.2 flag)
  unfold EventLoop.round
  generalize hwork : traffic.loop.nextWork now = chosen at finds
  obtain ⟨work, loop⟩ := chosen
  simp only at finds
  cases finds with
  | quit told => exact .leave choosing told
  | timer untold due => exact .fire choosing untold due
  | event untold undue oldest => exact .deliver choosing untold undue oldest
  | waitUntil untold undue empty next => exact rest _ untold undue empty next
  | wait untold undue empty next => exact rest _ untold undue empty next

/-- Every possible move goes by one of the rules. -/
theorem step_of_move? {traffic next : Traffic ε} {move : Move ε} {answer : Answer ε}
    (h : traffic.move? move = some (answer, next)) : Step traffic move answer next := by
  cases move with
  | bind handler target =>
      simp only [move?] at h
      split at h
      · cases h
      · next new => cases h; exact .bind new
  | complete handler =>
      simp only [move?] at h
      split at h
      · next building => cases h; exact .complete building
      · cases h
  | lose handler =>
      cases h
      exact .lose
  | call caller now call =>
      simp only [move?] at h
      split at h
      · next allowed =>
          obtain ⟨able, known⟩ := allowed
          have known' : ∀ handler, call.handler? = some handler -> handler ∈ traffic.bound := by
            intro handler hhandler
            simpa [hhandler] using known
          have step : Step traffic (.call caller now call) _ _ := step_of_call able known'
          rwa [Option.some.inj h] at step
      · cases h
  | resume thread handler =>
      simp only [move?] at h
      split at h
      · next told => cases h; exact .resume told
      · split at h
        · next both => cases h; exact .resumeLost both.1 both.2
        · cases h
  | join thread =>
      simp only [move?] at h
      split at h
      · next both => cases h; exact .join both.1 both.2
      · cases h
  | round now =>
      simp only [move?] at h
      split at h
      · next choosing => cases h; exact step_of_round choosing
      all_goals cases h
  | wake now =>
      simp only [move?, EventLoop.wake?, Option.map_eq_some_iff] at h
      obtain ⟨eventLoop, hwake, hnext⟩ := h
      split at hwake
      · next deadline sleeps =>
          split at hwake
          · next roused =>
              cases hwake
              cases hnext
              refine .wake sleeps ?_
              simpa [Option.any_eq_true] using roused
          · cases hwake
      · cases hwake
  | endCallback failure =>
      simp only [move?] at h
      split at h
      · next handler calls =>
          cases failure with
          | none => cases h; exact .endCallback calls
          | some message => cases h; exact .failCallback calls
      all_goals cases h
  | exit failure =>
      simp only [move?] at h
      split at h
      · next discarded leaves => cases h; exact .exit leaves
      all_goals cases h

end Traffic

end Reactor
