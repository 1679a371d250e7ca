import Reactor.Proofs.Loop.Armed
import Reactor.Proofs.Traffic.Life
import Reactor.Proofs.Traffic.Quit

/-!
# Timers in the traffic

The history of a timer is read off the moves and their answers: the step that
armed it, the firings in which the worker took it, and the steps that disarmed
it.  Each step does one of three things to the timer under an identifier, and so
a timer that has been armed is, at every later point of the run, where its
history says.
-/

namespace Reactor

namespace Traffic

variable {ε : Type} {traffic next first last : Traffic ε}
  {past later : List (Move ε × Answer ε)} {move : Move ε} {answer : Answer ε}
  {step : Move ε × Answer ε} {id : TimerId}

/-! ## History -/

/-- A timer as it was armed: the identifier it got, what it is, and when. -/
structure Arming where
  id : TimerId
  timer : Timer HandlerId
  now : Instant

/-- What is armed if the timer has fired last, or was armed, at the reading `now`. -/
def Arming.at (arming : Arming) (now : Instant) : ArmedTimer HandlerId :=
  ⟨arming.timer, arming.id, now.deadlineAfter arming.timer.interval⟩

/-- The timer that a step has armed. -/
def arming? : Move ε × Answer ε -> Option Arming
  | (.call _ now (.addTimer handler interval mode), .armed (some id)) =>
      some ⟨id, ⟨handler, interval, mode⟩, now⟩
  | (.call _ now (.stopAddTimer handler _ interval mode), .replaced _ (some id)) =>
      some ⟨id, ⟨handler, interval, mode⟩, now⟩
  | _ => none

/-- A timer that the worker takes, for whom, and at which reading of the clock. -/
structure Firing where
  id : TimerId
  handler : HandlerId
  now : Instant

def firing? : Move ε × Answer ε -> Option Firing
  | (.round now, .round (.deliver handler (.timer id))) => some ⟨id, handler, now⟩
  | _ => none

/-- The handler through which a step has called for a timer to be stopped, and the timer. -/
def stops? : Move ε × Answer ε -> Option (HandlerId × TimerId)
  | (.call _ _ (.stopTimer handler id), _) => some (handler, id)
  | (.call _ _ (.stopAddTimer handler old _ _), _) => some (handler, old)
  | _ => none

/-- Whether a step disarms the timer with an identifier, if it belongs to `owner`: it is
stopped, or its owner is removed, or the worker leaves. -/
def disarms (step : Move ε × Answer ε) (owner : HandlerId) (id : TimerId) : Bool :=
  stops? step = some (owner, id) || removes step = some owner || (farewell step.2).isSome

/-- The firings of the timer with an identifier, in their order. -/
def firings (id : TimerId) (later : List (Move ε × Answer ε)) : List Firing :=
  (later.filterMap firing?).filter fun firing => firing.id = id

/-- The readings of the clock at which the worker has taken a timer. -/
def readings (id : TimerId) (later : List (Move ε × Answer ε)) : List Instant :=
  (firings id later).map (·.now)

/-- The step that takes a timer arms none; what comes back is the timer that it was. -/
theorem arming?_of_fired {firing : Firing} (fired : firing? step = some firing) :
    arming? step = none := by
  unfold firing? at fired
  split at fired
  · rfl
  · cases fired

theorem firings_snoc_of_fired (later : List (Move ε × Answer ε)) {firing : Firing}
    (fired : firing? step = some firing) (same : firing.id = id) :
    firings id (later ++ [step]) = firings id later ++ [firing] := by
  simp [firings, fired, same]

theorem firings_snoc_of_unfired (later : List (Move ε × Answer ε))
    (unfired : ∀ firing, firing? step = some firing -> firing.id ≠ id) :
    firings id (later ++ [step]) = firings id later := by
  unfold firings
  rw [List.filterMap_append, List.filter_append]
  cases hfiring : firing? step with
  | none => simp [hfiring]
  | some firing => simp [hfiring, unfired firing hfiring]

theorem firings_eq_nil_iff :
    firings id later = [] ↔
      ∀ step ∈ later, ∀ firing, firing? step = some firing -> firing.id ≠ id := by
  unfold firings
  simp only [List.filter_eq_nil_iff, List.mem_filterMap, decide_eq_true_eq]
  constructor
  · intro silent step hmem firing hfiring
    exact silent firing ⟨step, hmem, hfiring⟩
  · rintro silent firing ⟨step, hmem, hfiring⟩
    exact silent step hmem firing hfiring

/-! ## Steps -/

theorem Step.indexed (step : Step traffic move answer next)
    (h : traffic.loop.timers.Indexed) : next.loop.timers.Indexed := by
  cases step with
  | send =>
      rw [loop_setLoop, Loop.timers_send]
      exact h
  | addTimer => exact Loop.indexed_addTimer h _ _ _ _
  | stopTimer => exact Loop.indexed_stopTimer h _ _
  | stopAddTimer => exact Loop.indexed_addTimer (Loop.indexed_stopTimer h _ _) _ _ _ _
  | remove => exact Loop.indexed_beginRemoval _ h
  | removeBlocked => exact Loop.indexed_beginRemoval _ h
  | stop =>
      show traffic.loop.requestStop.timers.Indexed
      rw [Loop.timers_requestStop]
      exact h
  | leave => exact TimerSet.indexed_clear _
  | fire choosing untold due => exact h.popExpired due
  | failCallback => exact TimerSet.indexed_clear _
  | _ => exact h

/-- Every timer that is armed uses up an identifier, and nothing else does. -/
theorem Step.issued_eq (step : Step traffic move answer next) :
    next.loop.timers.issued =
      traffic.loop.timers.issued + if (arming? (move, answer)).isSome then 1 else 0 := by
  have arms : ∀ {loop : Loop ε} {handler now interval mode},
      loop.timers.issued = traffic.loop.timers.issued ->
      next.loop.timers.issued = (loop.addTimer handler now interval mode).2.timers.issued ->
      (arming? (move, answer)).isSome = (loop.addTimer handler now interval mode).1.isSome ->
      next.loop.timers.issued =
        traffic.loop.timers.issued + if (arming? (move, answer)).isSome then 1 else 0 := by
    intro loop handler now interval mode before after answered
    rw [after, Loop.issued_addTimer, before, answered]
  cases step with
  | send => exact congrArg TimerSet.issued (Loop.timers_send ..)
  | @addTimer caller now handler interval mode able known =>
      refine arms rfl rfl ?_
      generalize (traffic.loop.addTimer handler now interval mode).1 = new
      cases new <;> rfl
  | stopTimer => exact Loop.issued_stopTimer ..
  | @stopAddTimer caller now handler old interval mode able known =>
      refine arms (Loop.issued_stopTimer ..) rfl ?_
      unfold Loop.stopAddTimer
      generalize (Loop.addTimer _ handler now interval mode).1 = new
      cases new <;> rfl
  | remove => exact Loop.issued_beginRemoval _
  | removeBlocked => exact Loop.issued_beginRemoval _
  | stop => exact congrArg TimerSet.issued (Loop.timers_requestStop _)
  | fire choosing untold due => exact TimerSet.issued_popExpired due
  | _ => rfl

/-- What a step does to the timer with an identifier. -/
inductive Handles (traffic next : Traffic ε) (step : Move ε × Answer ε) (id : TimerId) : Prop
  | arms {arming : Arming} (made : arming? step = some arming) (same : arming.id = id)
      (new : id.value = traffic.loop.timers.issued + 1)
      (after : next.loop.timers.armed? id = some (arming.at arming.now))
  | fires {timer : ArmedTimer HandlerId} {now : Instant}
      (taken : firing? step = some ⟨id, timer.owner, now⟩)
      (undisturbed : ∀ owner, disarms step owner id = false)
      (before : traffic.loop.timers.armed? id = some timer) (due : timer.deadline <= now)
      (after : next.loop.timers.armed? id = timer.again? now)
  | keeps (unarmed : ∀ arming, arming? step = some arming -> arming.id ≠ id)
      (unfired : ∀ firing, firing? step = some firing -> firing.id ≠ id)
      (after : ∀ timer, next.loop.timers.armed? id = some timer ↔
        traffic.loop.timers.armed? id = some timer ∧ disarms step timer.owner id = false)

/-- A step that arms no timer and takes none keeps the timers that it does not disarm. -/
theorem Handles.of_quiet (unarmed : arming? step = none) (unfired : firing? step = none)
    (after : ∀ timer, next.loop.timers.armed? id = some timer ↔
      traffic.loop.timers.armed? id = some timer ∧ disarms step timer.owner id = false) :
    Handles traffic next step id := by
  refine .keeps ?_ ?_ after
  · intro arming harming
    rw [unarmed] at harming
    cases harming
  · intro firing hfiring
    rw [unfired] at hfiring
    cases hfiring

/-- Who adds a timer arms one under the next identifier, or is refused. -/
theorem Handles.of_addTimer {loop : Loop ε} {handler : HandlerId} {now : Instant}
    {interval : Duration} {mode : TimerMode}
    (hindexed : loop.timers.Indexed) (hissued : loop.timers.issued = traffic.loop.timers.issued)
    (hbefore : ∀ timer, loop.timers.armed? id = some timer ↔
      traffic.loop.timers.armed? id = some timer ∧ disarms step timer.owner id = false)
    (hnext : next.loop = (loop.addTimer handler now interval mode).2)
    (harming : arming? step = (loop.addTimer handler now interval mode).1.map fun id =>
      ⟨id, ⟨handler, interval, mode⟩, now⟩)
    (unfired : firing? step = none) : Handles traffic next step id := by
  by_cases accepts : loop.accepts handler = true
  · have hafter : next.loop.timers.armed? id =
        if id = ⟨loop.timers.issued + 1⟩ then
          some (loop.timers.newcomer handler now interval mode)
        else
          loop.timers.armed? id := by
      rw [hnext]
      exact Loop.armed?_addTimer_of_accepts hindexed now interval mode accepts
    rw [Loop.id_addTimer_of_accepts _ _ _ _ _ accepts] at harming
    by_cases new : id = ⟨loop.timers.issued + 1⟩
    · rw [if_pos new] at hafter
      subst new
      exact .arms harming rfl (congrArg (· + 1) hissued) hafter
    · rw [if_neg new] at hafter
      refine .keeps ?_ ?_ fun timer => ?_
      · intro arming harming' same
        rw [harming] at harming'
        cases harming'
        exact new same.symm
      · intro firing hfiring
        rw [unfired] at hfiring
        cases hfiring
      · rw [hafter, hbefore]
  · rw [Loop.addTimer_of_not_accepts _ _ _ _ _ (Bool.eq_false_iff.2 accepts)] at hnext harming
    refine .of_quiet harming unfired fun timer => ?_
    rw [hnext, hbefore]

theorem Handles.of_same (unarmed : arming? step = none) (unfired : firing? step = none)
    (undisturbed : ∀ owner, disarms step owner id = false)
    (timers : next.loop.timers = traffic.loop.timers) : Handles traffic next step id := by
  refine .of_quiet unarmed unfired fun timer => ?_
  rw [timers, undisturbed timer.owner]
  exact (and_iff_left rfl).symm

/-- A worker that leaves disarms all timers. -/
theorem Handles.of_cleared (unarmed : arming? step = none) (unfired : firing? step = none)
    (said : (farewell step.2).isSome = true)
    (timers : next.loop.timers = traffic.loop.timers.clear) : Handles traffic next step id := by
  refine .of_quiet unarmed unfired fun timer => ?_
  rw [timers]
  simp [disarms, said, TimerSet.armed?, TimerSet.clear]

section Disarming

variable {loop : Loop ε} {timer : ArmedTimer HandlerId} {handler : HandlerId} {old : TimerId}

theorem armed?_stopTimer_iff (indexed : loop.timers.Indexed)
    (stops : stops? step = some (handler, old)) (unremoved : removes step = none)
    (silent : farewell step.2 = none) :
    (loop.stopTimer handler old).2.timers.armed? id = some timer ↔
      loop.timers.armed? id = some timer ∧ disarms step timer.owner id = false := by
  rw [Loop.armed?_stopTimer indexed]
  refine and_congr_right fun harmed => ?_
  -- Who is armed under an identifier has this identifier.
  obtain ⟨-, rfl⟩ := TimerSet.mem_of_armed?_eq_some harmed
  rw [disarms, stops, unremoved, silent]
  simp [eq_comm (a := timer.owner), eq_comm (a := timer.id), and_comm]

theorem armed?_beginRemoval_iff (remover : Remover) (indexed : loop.timers.Indexed)
    (consistent : loop.Consistent) (unstopped : stops? step = none)
    (removed : removes step = some handler) (silent : farewell step.2 = none) :
    (loop.beginRemoval handler remover).2.timers.armed? id = some timer ↔
      loop.timers.armed? id = some timer ∧ disarms step timer.owner id = false := by
  rw [Loop.armed?_beginRemoval _ indexed consistent]
  simp [disarms, unstopped, removed, silent, eq_comm]

end Disarming

theorem Step.handles (step : Step traffic move answer next) (sound : traffic.Sound)
    (indexed : traffic.loop.timers.Indexed) (id : TimerId) :
    Handles traffic next (move, answer) id := by
  cases step with
  | send => exact .of_same rfl rfl (fun _ => rfl) (Loop.timers_send ..)
  | @addTimer caller now handler interval mode able known =>
      refine .of_addTimer indexed rfl (fun timer => ?_) rfl ?_ rfl
      · exact (and_iff_left rfl).symm
      · generalize (traffic.loop.addTimer handler now interval mode).1 = new
        cases new <;> rfl
  | stopTimer => exact .of_quiet rfl rfl fun _ => armed?_stopTimer_iff indexed rfl rfl rfl
  | @stopAddTimer caller now handler old interval mode able known =>
      refine .of_addTimer (Loop.indexed_stopTimer indexed handler old) (Loop.issued_stopTimer ..)
        (fun _ => armed?_stopTimer_iff indexed rfl rfl rfl) rfl ?_ rfl
      unfold Loop.stopAddTimer
      generalize (Loop.addTimer _ handler now interval mode).1 = new
      cases new <;> rfl
  | remove =>
      exact .of_quiet rfl rfl fun _ => armed?_beginRemoval_iff _ indexed sound.loop rfl rfl rfl
  | removeBlocked =>
      exact .of_quiet rfl rfl fun _ => armed?_beginRemoval_iff _ indexed sound.loop rfl rfl rfl
  | stop => exact .of_same rfl rfl (fun _ => rfl) (Loop.timers_requestStop _)
  | leave => exact .of_cleared rfl rfl rfl rfl
  | @fire now fired handler timers choosing untold due =>
      obtain ⟨timer, before, rfl, early, after, others⟩ := indexed.armed?_popExpired due
      by_cases same : id = fired
      · subst same
        exact .fires rfl (fun _ => rfl) before early after
      · refine .keeps nofun ?_ fun other => ?_
        · rintro firing ⟨⟩
          exact Ne.symm same
        · show timers.armed? id = some other ↔ _ ∧ _
          rw [others id same]
          exact (and_iff_left rfl).symm
  | failCallback => exact .of_cleared rfl rfl rfl rfl
  | _ => exact .of_same rfl rfl (fun _ => rfl) rfl

/-! ## Runs -/

theorem Reaches.indexed (reaches : Reaches first later last)
    (h : first.loop.timers.Indexed) : last.loop.timers.Indexed :=
  reaches.preserves (P := fun traffic => traffic.loop.timers.Indexed)
    (fun indexed step => step.indexed indexed) h

theorem Runs.indexed (runs : Runs past traffic) : traffic.loop.timers.Indexed := by
  refine runs.induction (P := fun _ traffic => traffic.loop.timers.Indexed) ?_ ?_
  · intro eventLoop new choosing
    show eventLoop.loop.timers.Indexed
    rw [new]
    exact TimerSet.indexed_empty
  · intro past traffic move answer next runs step ih
    exact step.indexed ih

/-- The identifiers that have been issued are those from 1 on, in this order. -/
theorem Runs.issued_eq (runs : Runs past traffic) :
    (past.filterMap arming?).map (·.id.value) = List.range' 1 traffic.loop.timers.issued := by
  refine runs.induction (P := fun past traffic =>
    (past.filterMap arming?).map (·.id.value) = List.range' 1 traffic.loop.timers.issued) ?_ ?_
  · intro eventLoop new choosing
    rw [loop, start, new]
    rfl
  · intro past traffic move answer next runs step ih
    rw [List.filterMap_append, List.map_append, ih, step.issued_eq]
    cases armed : arming? (move, answer) with
    | none => simp [armed]
    | some arming =>
        have new : arming.id.value = traffic.loop.timers.issued + 1 := by
          cases step.handles runs.sound runs.indexed arming.id with
          | arms _ _ new => exact new
          | fires taken =>
              rw [arming?_of_fired taken] at armed
              cases armed
          | keeps unarmed => exact absurd rfl (unarmed arming armed)
        simp [armed, new, List.range'_concat, Nat.add_comm]

theorem Runs.arming_unique {a b : Arming} (runs : Runs past traffic)
    (ha : a ∈ past.filterMap arming?) (hb : b ∈ past.filterMap arming?) (same : a.id = b.id) :
    a = b := by
  have distinct : ((past.filterMap arming?).map (·.id.value)).Nodup := by
    rw [runs.issued_eq]
    exact List.nodup_range'
  exact List.inj_on_of_nodup_map distinct ha hb (congrArg TimerId.value same)

theorem Runs.arming_le {arming : Arming} (runs : Runs past traffic)
    (harming : arming ∈ past.filterMap arming?) :
    arming.id.value <= traffic.loop.timers.issued := by
  have hmem : arming.id.value ∈ (past.filterMap arming?).map (·.id.value) :=
    List.mem_map.2 ⟨arming, harming, rfl⟩
  rw [runs.issued_eq, List.mem_range'_1] at hmem
  omega

/-- Whatever is armed was armed under its identifier in some step of the run. -/
theorem Runs.exists_arming (runs : Runs past traffic) :
    ∀ timer, traffic.loop.timers.armed? id = some timer ->
      ∃ arming ∈ past.filterMap arming?, arming.id = id ∧ arming.timer = timer.toTimer := by
  refine runs.induction (P := fun past traffic =>
    ∀ timer, traffic.loop.timers.armed? id = some timer ->
      ∃ arming ∈ past.filterMap arming?, arming.id = id ∧ arming.timer = timer.toTimer) ?_ ?_
  · intro eventLoop new choosing timer harmed
    rw [loop, start, new] at harmed
    cases harmed
  · intro past traffic move answer next runs step ih timer harmed
    -- What was armed before this step was armed in a step before it.
    have earlier : ∀ timer', traffic.loop.timers.armed? id = some timer' ->
        timer'.toTimer = timer.toTimer ->
        ∃ arming ∈ (past ++ [(move, answer)]).filterMap arming?,
          arming.id = id ∧ arming.timer = timer.toTimer := by
      intro timer' before same
      obtain ⟨arming, hmem, hid, htimer⟩ := ih timer' before
      refine ⟨arming, ?_, hid, htimer.trans same⟩
      rw [List.filterMap_append]
      exact List.mem_append_left _ hmem
    cases step.handles runs.sound runs.indexed id with
    | @arms arming made same new after =>
        rw [after] at harmed
        cases harmed
        exact ⟨arming, by simp [made], same, rfl⟩
    | @fires timer' now taken undisturbed before due after =>
        refine earlier timer' before ?_
        rw [after, ArmedTimer.again?] at harmed
        split at harmed
        · cases harmed
        · cases harmed
          rfl
    | keeps unissued unfired after => exact earlier timer ((after timer).1 harmed).1 rfl

theorem Reaches.issued_le (reaches : Reaches first later last) :
    first.loop.timers.issued <= last.loop.timers.issued := by
  refine reaches.preserves (P := fun traffic =>
    first.loop.timers.issued <= traffic.loop.timers.issued) ?_ (Nat.le_refl _)
  intro traffic next move answer ih step
  rw [step.issued_eq]
  omega

/-- A timer that is not armed any more is not armed again, and does not fire. -/
theorem Reaches.unarmed (reaches : Reaches first later last) (sound : first.Sound)
    (indexed : first.loop.timers.Indexed) (issued : id.value <= first.loop.timers.issued)
    (unarmed : first.loop.timers.armed? id = none) :
    last.loop.timers.armed? id = none ∧ firings id later = [] := by
  induction reaches with
  | refl => exact ⟨unarmed, rfl⟩
  | @snoc middle next later move answer reaches made ih =>
      obtain ⟨unarmed, silent⟩ := ih
      have issued := Nat.le_trans issued reaches.issued_le
      have step := step_of_move? made
      cases step.handles (reaches.sound sound) (reaches.indexed indexed) id with
      | arms made same new after => omega
      | fires taken undisturbed before =>
          rw [unarmed] at before
          cases before
      | keeps unissued unfired after =>
          rw [firings_snoc_of_unfired later unfired]
          refine ⟨?_, silent⟩
          rw [Option.eq_none_iff_forall_ne_some]
          intro timer harmed
          have before := ((after timer).1 harmed).1
          rw [unarmed] at before
          cases before

end Traffic

end Reactor
