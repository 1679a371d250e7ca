import Reactor.Proofs.Loop.Share
import Reactor.Proofs.Traffic.Alarm
import Reactor.Proofs.Traffic.Failure
import Reactor.Proofs.Traffic.Ledger

/-!
# Handlers are isolated

All handlers of a loop have one queue, one set of timers and one count of the
identifiers.  Still a call through one handler does not touch what another one
has there, and a call that takes no new identifier sees nothing of it either: in
two runs in which a handler has the same share of the loop, the call is answered
in the same way and leaves the handler the same share.
-/

namespace Reactor

/-- The calls through a handler that do not take an identifier from the common count. -/
def Call.isPrivate {ε : Type} : Call ε -> Bool
  | .send _ _ | .stopTimer _ _ | .filterFor _ _ | .remove _ => true
  | .addTimer _ _ _ | .stopAddTimer _ _ _ _ | .filter _ | .stop => false

/-- What a handler learns from an answer. -/
def Answer.about {ε : Type} (handler : HandlerId) : Answer ε -> Answer ε
  | .filtered filtering => .filtered (filtering.about handler)
  | answer => answer

/-- What a private call is answered to a handler, and what it makes of its share. -/
def Share.call? {ε : Type} (share : Share ε) (handler : HandlerId) (quit : Bool)
    (caller : Remover) : Call ε -> Option (Answer ε × Share ε)
  | .send _ event =>
      let (accepted, share) := share.send handler quit event
      some (.sent accepted, share)
  | .stopTimer _ id =>
      let (found, share) := share.stopTimer id
      some (.stopped found, share)
  | .filterFor _ visit =>
      let (filtering, share) := share.filter visit []
      some (.filtered filtering, share)
  | .remove _ =>
      let (removal, share) := share.remove caller
      some (.removed removal, share)
  | .addTimer _ _ _ | .stopAddTimer _ _ _ _ | .filter _ | .stop => none

namespace Traffic

variable {ε : Type} {traffic next traffic' next' : Traffic ε}
  {past past' : List (Move ε × Answer ε)} {answer answer' : Answer ε} {caller : Remover}
  {now : Instant} {call : Call ε} {handler other : HandlerId}

/-- A call through one handler leaves another one what it has. -/
theorem Runs.share_of_ne (runs : Runs past traffic)
    (made : traffic.move? (.call caller now call) = some (answer, next))
    (through : call.handler? = some handler) (hne : other ≠ handler)
    (returns : hasFailed answer = false) :
    next.loop.share other = traffic.loop.share other ∧
      next.loop.mark other = traffic.loop.mark other := by
  have consistent := runs.sound.loop
  have indexed := runs.indexed
  cases step_of_move? made with
  | send =>
      cases through
      exact ⟨Loop.share_send_of_ne hne _, Loop.mark_of_active_eq (Loop.active_send ..)⟩
  | addTimer =>
      cases through
      exact ⟨Loop.share_addTimer_of_ne hne _ _ _, Loop.mark_of_active_eq (Loop.active_addTimer ..)⟩
  | stopTimer =>
      cases through
      exact ⟨Loop.share_stopTimer_of_ne hne indexed _,
        Loop.mark_of_active_eq (Loop.active_stopTimer ..)⟩
  | stopAddTimer =>
      cases through
      have stop := Loop.share_stopTimer_of_ne hne indexed
      exact ⟨(Loop.share_addTimer_of_ne hne _ _ _).trans (stop _),
        Loop.mark_of_active_eq ((Loop.active_addTimer ..).trans (Loop.active_stopTimer ..))⟩
  | filter => cases through
  | @filterFor caller now handler visit able known =>
      cases through
      cases hfiltering : (traffic.loop.filterFor handler visit []).1 with
      | done => exact ⟨Loop.share_filterFor_of_ne hne hfiltering, rfl⟩
      | failed =>
          rw [hfiltering] at returns
          cases returns
  | remove =>
      cases through
      exact ⟨Loop.share_beginRemoval_of_ne hne consistent _, Loop.mark_beginRemoval_of_ne hne _⟩
  | removeBlocked =>
      cases through
      exact ⟨Loop.share_beginRemoval_of_ne hne consistent _, Loop.mark_beginRemoval_of_ne hne _⟩
  | stop => cases through
  | stopRefused => cases through

/-- A private call is answered from the share of its handler and the order to quit. -/
theorem Runs.call?_share (runs : Runs past traffic)
    (made : traffic.move? (.call caller now call) = some (answer, next))
    (through : call.handler? = some handler) (hprivate : call.isPrivate = true) :
    (traffic.loop.share handler).call? handler traffic.loop.quit caller call =
      some (answer.about handler, next.loop.share handler) := by
  cases step_of_move? made with
  | send =>
      cases through
      simp only [Share.call?, ← Loop.send_share]
      rfl
  | stopTimer =>
      cases through
      simp only [Share.call?, ← Loop.stopTimer_share runs.indexed]
      rfl
  | filterFor =>
      cases through
      simp only [Share.call?, ← Loop.filterFor_share]
      rfl
  | remove =>
      cases through
      simp only [Share.call?, ← Loop.beginRemoval_share runs.sound.loop]
      rfl
  | removeBlocked =>
      cases through
      simp only [Share.call?, ← Loop.beginRemoval_share runs.sound.loop]
      rfl
  | addTimer => cases hprivate
  | stopAddTimer => cases hprivate
  | filter => cases hprivate
  | stop => cases hprivate
  | stopRefused => cases hprivate

/-- No handler is touched by what is done through another one, and none can tell. -/
structure Isolated (traffic : Traffic ε) : Prop where
  /-- Whatever is called through one handler, the queued events, the timers and the state of
  another one are as they were, and so is the mark, with its waiters, if it names that one. -/
  others : ∀ handler other, other ≠ handler -> ∀ caller now call answer next,
    call.handler? = some handler ->
    traffic.move? (.call caller now call) = some (answer, next) ->
    hasFailed answer = false ->
      next.loop.share other = traffic.loop.share other ∧
        next.loop.mark other = traffic.loop.mark other
  /-- Nor does a removal touch anything of another handler when it goes on after having waited. -/
  resumes : ∀ handler other, other ≠ handler -> ∀ thread answer next,
    traffic.move? (.resume thread handler) = some (answer, next) ->
      next.loop.share other = traffic.loop.share other ∧
        next.loop.mark other = traffic.loop.mark other
  /-- A private call is answered alike in all runs in which the handler has the same share. -/
  own : ∀ past' traffic', Runs past' traffic' -> traffic'.loop.quit = traffic.loop.quit ->
    ∀ handler, traffic'.loop.share handler = traffic.loop.share handler ->
    ∀ caller now now' call answer next, call.handler? = some handler -> call.isPrivate = true ->
      traffic.move? (.call caller now call) = some (answer, next) ->
      traffic'.canCall caller = true -> handler ∈ traffic'.bound ->
        ∃ answer' next', traffic'.move? (.call caller now' call) = some (answer', next') ∧
          answer'.about handler = answer.about handler ∧
          next'.loop.share handler = next.loop.share handler
  /-- Whoever can call through a bound handler gets an answer. -/
  answers : ∀ caller now call handler, call.handler? = some handler ->
    traffic.canCall caller = true -> handler ∈ traffic.bound ->
      ∃ answer next, traffic.move? (.call caller now call) = some (answer, next)

theorem handlers_are_isolated (runs : Runs past traffic) : Isolated traffic where
  others handler other hne caller now call answer next through made returns :=
    runs.share_of_ne made through hne returns
  resumes handler other hne thread answer next made := by
    cases step_of_move? made with
    | resume => exact ⟨rfl, rfl⟩
    | resumeLost waits lost => exact absurd (runs.sound.mem_waiters_of_mem_blocked waits) lost
  own past' traffic' runs' quit handler share caller now now' call answer next through hprivate
      made able known := by
    have made' := move?_call now' able known through
    have here := runs.call?_share made through hprivate
    have there := runs'.call?_share made' through hprivate
    rw [quit, share, here] at there
    obtain ⟨hanswer, hshare⟩ := Prod.mk.inj (Option.some.inj there)
    exact ⟨_, _, made', hanswer.symm, hshare.symm⟩
  answers caller now call handler through able known :=
    ⟨_, _, move?_call now able known through⟩

/-- Of two handlers one cannot stop a timer of the other, and a removal gives the other the
same back as if it had been alone on its loop. -/
theorem neighbours_do_not_matter :
    ∃ (past past' : List (Move Nat × Answer Nat)) (traffic traffic' stopped next next' : Traffic Nat)
      (found answer answer' : Answer Nat),
      Runs past traffic ∧ Runs past' traffic' ∧
      traffic.loop.queue.length = 2 ∧ traffic'.loop.queue.length = 1 ∧
      traffic.move? (.call (.thread ⟨1⟩) .first (.stopTimer ⟨0⟩ ⟨1⟩)) = some (found, stopped) ∧
      stopped.loop.share ⟨1⟩ = traffic.loop.share ⟨1⟩ ∧
      traffic.move? (.call (.thread ⟨1⟩) .first (.remove ⟨1⟩)) = some (answer, next) ∧
      traffic'.move? (.call (.thread ⟨1⟩) .first (.remove ⟨1⟩)) = some (answer', next') ∧
      answer'.about ⟨1⟩ = answer.about ⟨1⟩ ∧ next'.loop.share ⟨1⟩ = next.loop.share ⟨1⟩ := by
  obtain ⟨past, past', traffic, traffic', runs, runs', two, one, quit, share, hfirst, hsecond,
      halone⟩ :
      ∃ (past past' : List (Move Nat × Answer Nat)) (traffic traffic' : Traffic Nat),
        Runs past traffic ∧ Runs past' traffic' ∧
        traffic.loop.queue.length = 2 ∧ traffic'.loop.queue.length = 1 ∧
        traffic'.loop.quit = traffic.loop.quit ∧
        traffic'.loop.share ⟨1⟩ = traffic.loop.share ⟨1⟩ ∧
        ⟨0⟩ ∈ traffic.bound ∧ ⟨1⟩ ∈ traffic.bound ∧ ⟨1⟩ ∈ traffic'.bound :=
    ⟨_, _, _, _, runs_of_moves? "worker" none
      [.bind ⟨0⟩ .alive, .bind ⟨1⟩ .alive, .call (.thread ⟨1⟩) .first (.send ⟨0⟩ 8),
        .call (.thread ⟨1⟩) .first (.send ⟨1⟩ 7),
        .call (.thread ⟨1⟩) .first (.addTimer ⟨1⟩ .zero .repeating)] rfl rfl,
      runs_of_moves? "worker" none
      [.bind ⟨1⟩ .alive, .call (.thread ⟨1⟩) .first (.send ⟨1⟩ 7),
        .call (.thread ⟨1⟩) .first (.addTimer ⟨1⟩ .zero .repeating)] rfl rfl,
      rfl, rfl, rfl, rfl, .tail _ (.head _), .head _, .head _⟩
  have able : traffic.canCall (.thread ⟨1⟩) = true := rfl
  have stop : traffic.move? (.call (.thread ⟨1⟩) .first (.stopTimer ⟨0⟩ ⟨1⟩)) = _ :=
    move?_call .first able hfirst rfl
  have remove : traffic.move? (.call (.thread ⟨1⟩) .first (.remove ⟨1⟩)) = _ :=
    move?_call .first able hsecond rfl
  have isolated := handlers_are_isolated runs
  have others := isolated.others ⟨0⟩ ⟨1⟩ (by decide) _ _ _ _ _ rfl stop rfl
  obtain ⟨answer', next', remove', own⟩ :=
    isolated.own _ _ runs' quit _ share _ _ .first _ _ _ rfl rfl remove rfl halone
  exact ⟨past, past', traffic, traffic', _, _, _, _, _, _, runs, runs', two, one, stop, others.1,
    remove, remove', own⟩

end Traffic

end Reactor
