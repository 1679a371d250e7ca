import Reactor.Proofs.Sync.Waiting

/-!
# Signals and the waits that receive them

Every signal that finds the flag clear sets it, every wait that receives a signal
clears it, and nothing else touches it, so in any run the waits that have received
a signal and the flag together account for the signals.  A wait that gives up has
found the flag clear after its time was up.  While a signal is there to be received
and a thread sleeps, there is another thread that has been woken; it stays awake
until it has looked at the flag.
-/

namespace Reactor

namespace Signalling

variable {state next last : Signalling} {move : SignalMove} {answer : SignalAnswer}
  {past later : List (SignalMove × SignalAnswer)} {thread : ThreadId}

/-! ## History -/

def isSignal : SignalMove -> Bool
  | .signal _ _ => true
  | _ => false

/-- Whether a step is a signal that has found the flag clear. -/
def sets : SignalMove × SignalAnswer -> Bool
  | (_, .signalled fresh) => fresh
  | _ => false

/-- Whether a step is the return of a wait that has received a signal: that of a wait without
a limit, or of one that is told so. -/
def receives : SignalMove × SignalAnswer -> Bool
  | (_, .returned result) => result.getD true
  | _ => false

/-- A wait was begun in the run, when the clock was such that its deadline is the one it has,
and it has not returned. -/
def IsCalled (past : List (SignalMove × SignalAnswer)) (waiter : Waiter) : Prop :=
  ∃ front before back, past = front ++ (.wait waiter.thread waiter.wait, .slept) :: back ∧
    Runs front before ∧ waiter.deadline = waiter.wait.deadline? before.now ∧
    ∀ result, (.recheck waiter.thread, .returned result) ∉ back

/-- What holds at the start, and is kept by every step of a run, holds of all runs. -/
theorem Runs.induction {P : List (SignalMove × SignalAnswer) -> Signalling -> Prop}
    (start : ∀ now, P [] (new now))
    (step : ∀ {past state move answer next}, Runs past state ->
      Step state move answer next -> P past state -> P (past ++ [(move, answer)]) next)
    (runs : Runs past state) : P past state := by
  obtain ⟨now, reaches⟩ := runs
  induction reaches with
  | refl => exact start now
  | snoc reaches made ih => exact step ⟨now, reaches⟩ (step_of_move? made) ih

/-! ## Calls that have not returned -/

/-- Who is in a wait after a step was in it before and has not returned, or has begun it. -/
theorem Step.waiters (step : Step state move answer next) (h : state.Sound) {waiter : Waiter}
    (hmem : waiter ∈ next.waiters) :
    (waiter ∈ state.waiters ∧ ∀ result, move = .recheck waiter.thread -> answer ≠ .returned result) ∨
      ((move, answer) = (.wait waiter.thread waiter.wait, .slept) ∧
        waiter.deadline = waiter.wait.deadline? state.now) := by
  cases step with
  | wait held clear =>
      rcases List.mem_cons.1 hmem with rfl | hold
      · exact .inr ⟨rfl, rfl⟩
      · exact .inl ⟨hold, fun _ other => nomatch other⟩
  | @recheck returning waking received condition free waits woken same looks =>
      refine .inl ⟨List.mem_of_mem_eraseP hmem, fun result again _ => ?_⟩
      have here : waiter.thread ∈ (state.leave returning.thread).map (·.thread) :=
        List.mem_map_of_mem hmem
      rw [map_leave, ← SignalMove.recheck.inj again] at here
      exact h.distinct.not_mem_erase here
  | sleepOn free woken looks => exact .inl ⟨hmem, fun _ _ => nofun⟩
  | _ => exact .inl ⟨hmem, fun _ other => nomatch other⟩

theorem Runs.isCalled (runs : Runs past state) : ∀ waiter ∈ state.waiters, IsCalled past waiter := by
  refine runs.induction (P := fun past state => ∀ waiter ∈ state.waiters, IsCalled past waiter) ?_ ?_
  · intro now waiter hmem
    exact absurd hmem List.not_mem_nil
  · intro past state move answer next runs step ih waiter hmem
    rcases step.waiters runs.sound hmem with ⟨hold, unreturned⟩ | ⟨begun, dated⟩
    · obtain ⟨front, before, back, rfl, hfront, dated, hback⟩ := ih waiter hold
      refine ⟨front, before, back ++ [(move, answer)], by simp, hfront, dated, ?_⟩
      intro result hmem
      rcases List.mem_append.1 hmem with hmem | hmem
      · exact hback result hmem
      · cases List.mem_singleton.1 hmem
        exact unreturned result rfl rfl
    · exact ⟨past, state, [], by rw [begun], runs, dated, fun _ => List.not_mem_nil⟩

/-- A thread that has been told that its time was up was in a wait with a limit. -/
theorem Runs.limited (runs : Runs past state) {waiter : Waiter} {waking : Waking}
    (waits : waiter ∈ state.waiters) (woken : waking ∈ state.condition.woken)
    (same : waking.thread = waiter.thread) (late : waking.timedOut = true) :
    waiter.wait.result false = some false ∧
      ∃ deadline, waiter.deadline = some deadline ∧ deadline <= state.now := by
  have sound := runs.sound
  obtain ⟨other, hother, hthread, deadline, limited, hle⟩ := sound.late waking woken late
  have unique : other = waiter :=
    List.inj_on_of_nodup_map sound.distinct hother waits (hthread.trans same)
  subst unique
  refine ⟨?_, deadline, limited, hle⟩
  obtain ⟨front, before, back, -, -, dated, -⟩ := runs.isCalled other hother
  rw [limited] at dated
  cases hwait : other.wait with
  | forever =>
      rw [hwait] at dated
      exact nomatch dated
  | lasting timeout => rfl
  | ending deadline => rfl

/-! ## The flag -/

/-- What a step does to the flag. -/
inductive Turns (state next : Signalling) (step : SignalMove × SignalAnswer) : Prop
  | sets (fresh : sets step = true) (unreceived : receives step = false)
      (before : state.condition.signalled = false) (after : next.condition.signalled = true)
  | clears (unset : Signalling.sets step = false) (received : receives step = true)
      (before : state.condition.signalled = true) (after : next.condition.signalled = false)
  | keeps (unset : Signalling.sets step = false) (unreceived : receives step = false)
      (same : next.condition.signalled = state.condition.signalled)

theorem receives_result (move : SignalMove) (wait : Wait) :
    receives (move, .returned (wait.result true)) = true := by
  cases wait <;> rfl

theorem Step.turns (step : Step state move answer next) (runs : Runs past state) :
    Turns state next (move, answer) := by
  cases step with
  | signalNobody held clear nobody => exact .sets rfl rfl clear rfl
  | signal held clear asleep => exact .sets rfl rfl clear rfl
  | waitNot held pending => exact .clears rfl (receives_result _ _) pending rfl
  | recheck free waits woken same looks =>
      cases looks with
      | receives pending => exact .clears rfl (receives_result _ _) pending rfl
      | givesUp clear late =>
          rw [(runs.limited waits woken same late).1]
          exact .keeps rfl rfl rfl
  | sleepOn free woken looks =>
      cases looks with
      | sleeps clear early => exact .keeps rfl rfl rfl
  | _ => exact .keeps rfl rfl rfl

theorem Runs.balanced (runs : Runs past state) :
    past.countP sets = past.countP receives + if state.condition.signalled then 1 else 0 := by
  refine runs.induction (P := fun past state =>
    past.countP sets = past.countP receives + if state.condition.signalled then 1 else 0) ?_ ?_
  · intro now
    rfl
  · intro past state move answer next runs step ih
    rw [List.countP_append, List.countP_append, List.countP_singleton, List.countP_singleton]
    cases step.turns runs with
    | sets fresh unreceived before after =>
        simp only [before, after, fresh, unreceived] at ih ⊢
        simp only [if_true, Bool.false_eq_true, if_false] at ih ⊢
        omega
    | clears unset received before after =>
        simp only [before, after, unset, received] at ih ⊢
        simp only [if_true, Bool.false_eq_true, if_false] at ih ⊢
        omega
    | keeps unset unreceived same =>
        simp only [unset, unreceived, same, Bool.false_eq_true, if_false] at ih ⊢
        omega

theorem Step.clear_of_returned {result : Option Bool}
    (step : Step state move (.returned result) next) : next.condition.signalled = false := by
  generalize hanswer : SignalAnswer.returned result = answer at step
  cases step with
  | waitNot held pending => rfl
  | recheck free waits woken same looks => exact looks.clear
  | _ => cases hanswer

theorem Step.clear_of_clear (step : Step state move answer next)
    (clear : state.condition.signalled = false) (quiet : isSignal move = false) :
    next.condition.signalled = false := by
  cases step with
  | signalAgain | signalNobody | signal => cases quiet
  | waitNot => rfl
  | recheck free waits woken same looks => exact looks.clear
  | sleepOn free woken looks => exact looks.clear
  | _ => exact clear

/-- Once the flag is clear, it is clear until the next signal. -/
theorem Reaches.clear (reaches : Reaches state later last)
    (clear : state.condition.signalled = false)
    (quiet : ∀ step ∈ later, isSignal step.1 = false) : last.condition.signalled = false := by
  induction reaches with
  | refl => exact clear
  | snoc _ made ih =>
      have before := ih fun step hmem => quiet step (List.mem_append_left _ hmem)
      have final := quiet _ (List.mem_append_right _ (List.mem_singleton.2 rfl))
      exact (step_of_move? made).clear_of_clear before final

/-! ## Threads that have been woken -/

theorem Sound.not_asleep (h : state.Sound) (woken : state.condition.isWoken thread = true) :
    thread ∉ state.condition.sleepers := by
  intro asleep
  obtain ⟨waking, hmem, same⟩ := Condition.isWoken_iff.1 woken
  have distinct : state.condition.threads.Nodup := h.waiting.nodup_iff.1 h.distinct
  have apart := (List.nodup_append.1 distinct).2.2
  exact apart thread asleep waking.thread (List.mem_map_of_mem hmem) same.symm

theorem Sound.exists_waiter (h : state.Sound) (woken : state.condition.isWoken thread = true) :
    ∃ waiter, state.waiter? thread = some waiter ∧ waiter ∈ state.waiters ∧
      waiter.thread = thread := by
  obtain ⟨waking, hmem, rfl⟩ := Condition.isWoken_iff.1 woken
  have inside : waking.thread ∈ state.condition.threads :=
    List.mem_append_right _ (List.mem_map_of_mem hmem)
  obtain ⟨waiter, hwaiter, same⟩ := List.mem_map.1 (h.waiting.mem_iff.2 inside)
  cases hfind : state.waiter? waking.thread with
  | none =>
      have absent := List.find?_eq_none.1 hfind waiter hwaiter
      exact absurd (decide_eq_true same) absent
  | some found => exact ⟨found, rfl, mem_of_waiter? hfind⟩

/-- A thread that sleeps no more has only one thing to do, which is to look at the flag. -/
structure Ready (state : Signalling) (thread : ThreadId) : Prop where
  woken : state.condition.isWoken thread = true
  /-- It can do so as soon as the mutex is free, and receives a signal that is there then. -/
  able : state.mutex.holder = none -> ∃ answer next,
    state.move? (.recheck thread) = some (answer, next) ∧
      (state.condition.signalled = true -> receives (.recheck thread, answer) = true)
  only : ∀ move answer next, move.thread? = some thread ->
    state.move? move = some (answer, next) -> move = .recheck thread

theorem Sound.ready (h : state.Sound) (woken : state.condition.isWoken thread = true) :
    state.Ready thread := by
  obtain ⟨waiter, hwaiter, hmem, rfl⟩ := h.exists_waiter woken
  refine ⟨woken, fun free => ?_, fun move answer next mine made => ?_⟩
  · have lock : state.mutex.lock? waiter.thread =
        some { state.mutex with holder := some waiter.thread } :=
      lock?_eq_some_iff.2 ⟨free, rfl⟩
    obtain ⟨waking, -, -, looks⟩ := Condition.exists_looks_of_isWoken woken
    simp only [move?, hwaiter, lock, woken, if_true]
    generalize state.condition.recheck waiter.thread = outcome at looks
    cases looks with
    | receives pending => exact ⟨_, _, rfl, fun _ => receives_result _ _⟩
    | givesUp clear late =>
        refine ⟨_, _, rfl, fun pending => ?_⟩
        exact absurd (clear.symm.trans pending) Bool.false_ne_true
    | sleeps clear early =>
        refine ⟨_, _, rfl, fun pending => ?_⟩
        exact absurd (clear.symm.trans pending) Bool.false_ne_true
  · -- Neither does it hold the mutex, nor is it asleep, nor is it in no wait.
    have unheld := h.holder waiter hmem
    have awake := h.not_asleep woken
    cases step_of_move? made with
    | lock free outside =>
        cases mine
        exact absurd rfl (outside waiter hmem)
    | unlock held | signalAgain held | signalNobody held | signal held | waitNot held | wait held =>
        cases mine
        exact absurd held unheld
    | timeOut waits asleep =>
        rw [Option.some.inj mine] at asleep
        exact absurd asleep awake
    | rouse asleep =>
        cases mine
        exact absurd asleep awake
    | recheck => exact congrArg SignalMove.recheck (Option.some.inj mine)
    | sleepOn => exact congrArg SignalMove.recheck (Option.some.inj mine)
    | pass => cases mine

/-- A thread that has been woken stays awake until it looks at the flag. -/
theorem Step.isWoken (step : Step state move answer next)
    (woken : state.condition.isWoken thread = true) (apart : move ≠ .recheck thread) :
    next.condition.isWoken thread = true := by
  cases step with
  | signal | timeOut | rouse =>
      exact Condition.isWoken_of_subset (List.subset_append_left _ _) woken
  | recheck free waits woken' same looks =>
      refine looks.isWoken_of_ne (fun again => apart ?_) woken
      rw [← same, again]
  | sleepOn free woken' looks =>
      exact looks.isWoken_of_ne (fun again => apart (congrArg SignalMove.recheck again)) woken
  | _ => exact woken

theorem Reaches.isWoken (reaches : Reaches state later last)
    (woken : state.condition.isWoken thread = true)
    (unlooked : ∀ answer, (.recheck thread, answer) ∉ later) :
    last.condition.isWoken thread = true := by
  induction reaches with
  | refl => exact woken
  | snoc _ made ih =>
      have before := ih fun answer hmem => unlooked answer (List.mem_append_left _ hmem)
      refine (step_of_move? made).isWoken before ?_
      rintro rfl
      exact unlooked _ (List.mem_append_right _ (List.mem_singleton.2 rfl))

/-! ## What a run tells -/

/-- How a wait gives up. -/
structure GivesUp (past : List (SignalMove × SignalAnswer)) (before after : Signalling)
    (move : SignalMove) : Prop where
  /-- The call was made in the run, and the time it has set is up. -/
  called : ∃ waiter, IsCalled past waiter ∧ move = .recheck waiter.thread ∧
    ∃ deadline, waiter.deadline = some deadline ∧ deadline <= before.now
  clear : before.condition.signalled = false
  unchanged : after.condition.signalled = false

/-- The signals of a run, the waits that have received them, and the threads that sleep. -/
structure Accounted (past : List (SignalMove × SignalAnswer)) (state : Signalling) : Prop where
  /-- As many waits have received a signal as signals have found the flag clear, save the one
  that is there to be received. -/
  balanced : past.countP sets = past.countP receives + if state.condition.signalled then 1 else 0
  refused : ∀ front move back, past = front ++ (move, .returned (some false)) :: back ->
    ∃ before after, Runs front before ∧
      before.move? move = some (.returned (some false), after) ∧ Reaches after back state ∧
      GivesUp front before after move
  /-- From the return of a wait on, the flag is clear until the next signal. -/
  cleared : ∀ front move result back, past = front ++ (move, .returned result) :: back ->
    (∀ step ∈ back, isSignal step.1 = false) -> state.condition.signalled = false
  /-- While a signal is there and a thread sleeps, another thread has been woken, and it is
  ready to look at the flag until it does. -/
  attended : state.condition.signalled = true -> ∀ thread ∈ state.condition.sleepers,
    ∃ other, other ≠ thread ∧ ∀ later last, Reaches state later last ->
      (∀ answer, (.recheck other, answer) ∉ later) -> last.Ready other

theorem Runs.givesUp {after : Signalling} (runs : Runs past state)
    (made : state.move? move = some (.returned (some false), after)) :
    GivesUp past state after move := by
  have step := step_of_move? made
  have unchanged := step.clear_of_returned
  generalize hanswer : SignalAnswer.returned (some false) = answer at step
  cases step with
  | @waitNot thread wait held pending =>
      have received := receives_result (.wait thread wait) wait
      rw [← hanswer] at received
      exact nomatch received
  | @recheck waiter waking received condition free waits woken same looks =>
      cases looks with
      | receives pending =>
          have received := receives_result (.recheck waiter.thread) waiter.wait
          rw [← hanswer] at received
          exact nomatch received
      | givesUp clear late =>
          obtain ⟨-, deadline, limited, hle⟩ := runs.limited waits woken same late
          exact ⟨⟨waiter, runs.isCalled waiter waits, rfl, deadline, limited, hle⟩, clear, unchanged⟩
  | _ => cases hanswer

theorem Runs.attended (runs : Runs past state) (pending : state.condition.signalled = true)
    (asleep : thread ∈ state.condition.sleepers) :
    ∃ other, other ≠ thread ∧ ∀ later last, Reaches state later last ->
      (∀ answer, (.recheck other, answer) ∉ later) -> last.Ready other := by
  have sound := runs.sound
  rcases sound.attended pending with nobody | somebody
  · rw [nobody] at asleep
    exact absurd asleep List.not_mem_nil
  · obtain ⟨waking, hmem⟩ := List.exists_mem_of_ne_nil _ somebody
    have woken : state.condition.isWoken waking.thread = true :=
      Condition.isWoken_iff.2 ⟨waking, hmem, rfl⟩
    refine ⟨waking.thread, ?_, fun later last reaches unlooked => ?_⟩
    · rintro rfl
      exact sound.not_asleep woken asleep
    · exact (Reaches.sound reaches sound).ready (Reaches.isWoken reaches woken unlooked)

theorem no_signal_is_lost_or_multiplied (runs : Runs past state) : Accounted past state := by
  refine ⟨runs.balanced, ?_, ?_, fun pending thread asleep => runs.attended pending asleep⟩
  · rintro front move back rfl
    obtain ⟨now, reaches⟩ := runs
    obtain ⟨before, after, hfront, made, hback⟩ := reaches.cut
    have runs : Runs front before := ⟨now, hfront⟩
    exact ⟨before, after, runs, made, hback, runs.givesUp made⟩
  · rintro front move result back rfl quiet
    obtain ⟨now, reaches⟩ := runs
    obtain ⟨before, after, hfront, made, hback⟩ := reaches.cut
    exact Reaches.clear hback (step_of_move? made).clear_of_returned quiet

/-- A signal meant for one sleeper is received by another whose time is up, a second one comes
while the first is pending, a wait gives up, and in the end a signal waits for a thread that has
been woken, while another one sleeps. -/
theorem signal_is_received_by_late_thread :
    ∃ (past : List (SignalMove × SignalAnswer)) (state : Signalling), Runs past state ∧
      (past.map Prod.snd).filter (fun answer => answer ≠ .done ∧ answer ≠ .slept) =
        [.signalled true, .signalled false, .returned (some true), .returned (some false),
          .signalled true] ∧
      state.condition = ⟨true, [⟨4⟩], [⟨⟨1⟩, false⟩]⟩ ∧ Accounted past state := by
  have reaches : Reaches (new .first) _ _ := Machine.reaches_of_run?
    [.lock ⟨1⟩, .wait ⟨1⟩ .forever, .lock ⟨2⟩, .wait ⟨2⟩ (.lasting ⟨5, by decide⟩),
      .lock ⟨3⟩, .signal ⟨3⟩ ⟨1⟩, .signal ⟨3⟩ ⟨2⟩, .unlock ⟨3⟩,
      .pass ⟨7, by decide⟩, .timeOut ⟨2⟩, .recheck ⟨2⟩, .unlock ⟨2⟩, .recheck ⟨1⟩,
      .lock ⟨2⟩, .wait ⟨2⟩ (.ending ⟨7, by decide⟩), .timeOut ⟨2⟩, .recheck ⟨2⟩, .unlock ⟨2⟩,
      .lock ⟨4⟩, .wait ⟨4⟩ .forever, .lock ⟨3⟩, .signal ⟨3⟩ ⟨1⟩] rfl
  exact ⟨_, _, ⟨_, reaches⟩, rfl, rfl, no_signal_is_lost_or_multiplied ⟨_, reaches⟩⟩

end Signalling

end Reactor
