import Reactor.Proofs.Traffic.Alarm
import Reactor.Proofs.Traffic.Failure

/-!
# Stopping timers

A timer is issued to one handler, and only this handler can stop it.  Once it
has, the timer is never taken again, since its identifier is not issued anew.
Replacing a timer is one critical section, and does what stopping the old timer
and adding the new one do when nothing comes between.
-/

namespace Reactor

namespace Traffic

variable {ε : Type} {traffic next before after last : Traffic ε}
  {past later : List (Move ε × Answer ε)} {move : Move ε} {answer : Answer ε}
  {handler other : HandlerId} {id : TimerId}

/-- A timer of the handler was armed under the identifier. -/
def IssuedTo (past : List (Move ε × Answer ε)) (id : TimerId) (handler : HandlerId) : Prop :=
  ∃ arming ∈ past.filterMap arming?, arming.id = id ∧ arming.timer.owner = handler

theorem IssuedTo.unique (runs : Runs past traffic) (h : IssuedTo past id handler)
    (h' : IssuedTo past id other) : handler = other := by
  obtain ⟨arming, hmem, hid, rfl⟩ := h
  obtain ⟨arming', hmem', hid', rfl⟩ := h'
  rw [runs.arming_unique hmem hmem' (hid.trans hid'.symm)]

theorem IssuedTo.le_issued (runs : Runs past traffic) (h : IssuedTo past id handler) :
    id.value <= traffic.loop.timers.issued := by
  obtain ⟨arming, hmem, rfl, -⟩ := h
  exact runs.arming_le hmem

/-- An identifier that was issued is not issued again. -/
theorem IssuedTo.unissued (runs : Runs (past ++ later) last) (h : IssuedTo past id handler) :
    ∀ arming ∈ later.filterMap arming?, arming.id ≠ id := by
  obtain ⟨arming, hmem, rfl, -⟩ := h
  have distinct : ((((past ++ later).filterMap arming?)).map (·.id.value)).Nodup := by
    rw [runs.issued_eq]
    exact List.nodup_range'
  rw [List.filterMap_append, List.map_append, List.nodup_append] at distinct
  intro arming' hmem' same
  have hne := distinct.2.2 _ (List.mem_map_of_mem hmem) _ (List.mem_map_of_mem hmem')
  exact hne (congrArg TimerId.value same.symm)

/-- Who has a timer armed is whom it was issued to. -/
theorem Runs.issuedTo_of_armed (runs : Runs past traffic) {timer : ArmedTimer HandlerId}
    (harmed : traffic.loop.timers.armed? id = some timer) : IssuedTo past id timer.owner := by
  obtain ⟨arming, hmem, hid, htimer⟩ := runs.exists_arming timer harmed
  exact ⟨arming, hmem, hid, congrArg Timer.owner htimer⟩

/-- A stop through the handler to which the timer was issued leaves it disarmed. -/
theorem Runs.unarmed_of_stop (runs : Runs past before) (issued : IssuedTo past id handler)
    (stops : stops? (move, answer) = some (handler, id))
    (made : before.move? move = some (answer, after)) : after.loop.timers.armed? id = none := by
  have step := step_of_move? made
  have bound := issued.le_issued runs
  cases step.handles runs.sound runs.indexed id with
  | arms made' same new => omega
  | fires taken undisturbed =>
      have stays := undisturbed handler
      simp [disarms, stops] at stays
  | keeps unissued unfired hafter =>
      rw [Option.eq_none_iff_forall_ne_some]
      intro timer harmed
      obtain ⟨harmed, undisturbed⟩ := (hafter timer).1 harmed
      have same := issued.unique runs (runs.issuedTo_of_armed harmed)
      simp [disarms, stops, same] at undisturbed

/-- Through a handler that has no timer armed under the identifier nothing is stopped. -/
theorem Runs.stopTimer_eq (runs : Runs past traffic)
    (idle : ¬ IssuedTo past id handler ∨ traffic.loop.timers.armed? id = none) :
    traffic.loop.stopTimer handler id = (false, traffic.loop) := by
  apply Loop.stopTimer_of_not_owned
  intro owned
  obtain ⟨timer, harmed, rfl⟩ := runs.indexed.owner?_eq_some_iff.1 owned
  rcases idle with foreign | stale
  · exact foreign (runs.issuedTo_of_armed harmed)
  · rw [stale] at harmed
    cases harmed

section Replacing

variable {caller : Remover} {now : Instant} {old : TimerId} {interval : Duration}
  {mode : TimerMode}

/-- Replacing a timer is stopping the old one and then, at once, adding the new one. -/
theorem move?_stopAddTimer :
    before.move? (.call caller now (.stopAddTimer handler old interval mode)) =
        some (answer, after) ↔
      ∃ found new middle,
        before.move? (.call caller now (.stopTimer handler old)) =
          some (.stopped found, middle) ∧
        middle.move? (.call caller now (.addTimer handler interval mode)) =
          some (.armed new, after) ∧
        answer = .replaced found new := by
  constructor
  · intro made
    cases step_of_move? made with
    | stopAddTimer able known =>
        exact ⟨_, _, before.setLoop (before.loop.stopTimer handler old).2,
          move?_call now able known rfl, move?_call now able known rfl, rfl⟩
  · rintro ⟨found, new, middle, stop, add, rfl⟩
    cases step_of_move? stop with
    | stopTimer able known =>
        cases step_of_move? add with
        | addTimer => exact move?_call now able known rfl

/-- Whether a timer is accepted does not depend on the timers that are armed. -/
theorem accepts_stopTimer (loop : Loop ε) (handler : HandlerId) (old : TimerId) :
    (loop.stopTimer handler old).2.accepts handler = loop.accepts handler := by
  rw [Loop.stopTimer_snd]
  rfl

theorem refused_stopAddTimer {found : Bool} {new : Option TimerId}
    (made : before.move? (.call caller now (.stopAddTimer handler old interval mode)) =
      some (.replaced found new, after)) :
    (new = none ↔
      ∃ next, before.move? (.call caller now (.addTimer handler interval mode)) =
        some (.armed none, next)) ∧
    (new = none ->
      before.move? (.call caller now (.stopTimer handler old)) = some (.stopped found, after)) := by
  cases step_of_move? made with
  | stopAddTimer able known =>
      have stop : before.move? (.call caller now (.stopTimer handler old)) = _ :=
        move?_call now able known rfl
      have add : before.move? (.call caller now (.addTimer handler interval mode)) = _ :=
        move?_call now able known rfl
      have same := accepts_stopTimer before.loop handler old
      rw [stop, add]
      unfold Loop.stopAddTimer
      by_cases accepts : before.loop.accepts handler = true
      · have armed := Loop.id_addTimer_of_accepts before.loop handler now interval mode accepts
        have replaced := Loop.id_addTimer_of_accepts (before.loop.stopTimer handler old).2 handler
          now interval mode (same.trans accepts)
        simp [Traffic.call, armed, replaced]
      · have refused : before.loop.accepts handler = false := Bool.eq_false_iff.2 accepts
        have nothing := Loop.addTimer_of_not_accepts _ _ now interval mode refused
        have nothing' := Loop.addTimer_of_not_accepts _ _ now interval mode (same.trans refused)
        simp [Traffic.call, nothing, nothing']

end Replacing

/-- What stopping and replacing timers does in every run. -/
structure Stoppable (past : List (Move ε × Answer ε)) (before : Traffic ε) : Prop where
  owned : ∀ id handler other, IssuedTo past id handler -> IssuedTo past id other ->
    handler = other
  /-- Stopped or replaced through the handler to which it was issued, a timer is not armed
  in any later state, is not taken in any later step, and its identifier is not issued again. -/
  final : ∀ handler id, IssuedTo past id handler -> ∀ move answer after,
    stops? (move, answer) = some (handler, id) ->
    before.move? move = some (answer, after) ->
    ∀ later last, Reaches after later last ->
      (∀ timer ∈ last.loop.timers.agenda, timer.id ≠ id) ∧
      (∀ step ∈ later, ∀ firing, firing? step = some firing -> firing.id ≠ id) ∧
      ∀ step ∈ later, ∀ arming, arming? step = some arming -> arming.id ≠ id
  /-- Through another handler, or when the timer is not armed any more or was never issued,
  a stop changes nothing. -/
  exclusive : ∀ handler id,
    ¬ IssuedTo past id handler ∨ (∀ timer ∈ before.loop.timers.agenda, timer.id ≠ id) ->
    ∀ caller now answer after,
      before.move? (.call caller now (.stopTimer handler id)) = some (answer, after) ->
      answer = .stopped false ∧ after = before
  /-- Nor does the stop in a replacement then. -/
  addsOnly : ∀ handler id,
    ¬ IssuedTo past id handler ∨ (∀ timer ∈ before.loop.timers.agenda, timer.id ≠ id) ->
    ∀ caller now interval mode answer after,
      before.move? (.call caller now (.stopAddTimer handler id interval mode)) =
        some (answer, after) ->
      ∃ new, answer = .replaced false new ∧
        before.move? (.call caller now (.addTimer handler interval mode)) =
          some (.armed new, after)
  /-- A replacement is one step, with the effect of a stop and of an addition after it. -/
  atomic : ∀ caller now handler old interval mode answer after,
    before.move? (.call caller now (.stopAddTimer handler old interval mode)) =
        some (answer, after) ↔
      ∃ found new middle,
        before.move? (.call caller now (.stopTimer handler old)) =
          some (.stopped found, middle) ∧
        middle.move? (.call caller now (.addTimer handler interval mode)) =
          some (.armed new, after) ∧
        answer = .replaced found new
  /-- A replacement arms nothing when an addition would not have, and only then. -/
  refused : ∀ caller now handler old interval mode found new after,
    before.move? (.call caller now (.stopAddTimer handler old interval mode)) =
        some (.replaced found new, after) ->
    (new = none ↔
      ∃ next, before.move? (.call caller now (.addTimer handler interval mode)) =
        some (.armed none, next)) ∧
    (new = none ->
      before.move? (.call caller now (.stopTimer handler old)) = some (.stopped found, after))
  /-- Whoever can call through a bound handler gets an answer. -/
  possible : ∀ caller now call handler, call.handler? = some handler ->
    before.canCall caller = true -> handler ∈ before.bound ->
    ∃ answer after, before.move? (.call caller now call) = some (answer, after)

theorem Runs.final (runs : Runs past before) (issued : IssuedTo past id handler)
    (stops : stops? (move, answer) = some (handler, id))
    (made : before.move? move = some (answer, after)) (reaches : Reaches after later last) :
    (∀ timer ∈ last.loop.timers.agenda, timer.id ≠ id) ∧
      (∀ step ∈ later, ∀ firing, firing? step = some firing -> firing.id ≠ id) ∧
      ∀ step ∈ later, ∀ arming, arming? step = some arming -> arming.id ≠ id := by
  have step := step_of_move? made
  have bound : id.value <= after.loop.timers.issued := by
    have old := issued.le_issued runs
    rw [step.issued_eq]
    omega
  obtain ⟨unarmed, silent⟩ := reaches.unarmed (runs.sound.step step) (step.indexed runs.indexed)
    bound (runs.unarmed_of_stop issued stops made)
  refine ⟨TimerSet.armed?_eq_none_iff.1 unarmed, firings_eq_nil_iff.1 silent, ?_⟩
  intro other hmem arming armed
  exact issued.unissued (runs.through made reaches) arming
    (List.mem_filterMap.2 ⟨other, .tail _ hmem, armed⟩)

theorem stopping_is_final_and_exclusive (runs : Runs past before) : Stoppable past before where
  owned id handler other h h' := h.unique runs h'
  final handler id issued move answer after stops made later last reaches :=
    runs.final issued stops made reaches
  exclusive handler id idle caller now answer after made := by
    rw [← TimerSet.armed?_eq_none_iff] at idle
    have nothing := runs.stopTimer_eq idle
    cases step_of_move? made with
    | stopTimer =>
        rw [nothing]
        exact ⟨rfl, rfl⟩
  addsOnly handler id idle caller now interval mode answer after made := by
    rw [← TimerSet.armed?_eq_none_iff] at idle
    have nothing := runs.stopTimer_eq idle
    cases step_of_move? made with
    | stopAddTimer able known =>
        simp only [Loop.stopAddTimer, nothing]
        exact ⟨_, rfl, move?_call now able known rfl⟩
  atomic caller now handler old interval mode answer after := move?_stopAddTimer
  refused caller now handler old interval mode found new after made :=
    refused_stopAddTimer made
  possible caller now call handler through able known :=
    ⟨_, _, move?_call now able known through⟩

/-- A repeating timer that was always due has been replaced by another one, which fires. -/
theorem replaced_timer_is_silent :
    ∃ (past later : List (Move Nat × Answer Nat)) (before after last : Traffic Nat)
      (answer : Answer Nat),
      Runs past before ∧ IssuedTo past ⟨1⟩ ⟨0⟩ ∧
      before.move? (.call (.thread ⟨1⟩) .first (.stopAddTimer ⟨0⟩ ⟨1⟩ .zero .oneShot)) =
        some (answer, after) ∧
      Reaches after later last ∧ (later.filterMap firing?).map (·.id) = [⟨2⟩] ∧
      ∀ timer ∈ last.loop.timers.agenda, timer.id ≠ ⟨1⟩ := by
  obtain ⟨past, before, answer, after, later, last, runs, made, reaches, hseen⟩ :=
    exists_run_through "worker" none
      [.bind ⟨0⟩ .alive, .call (.thread ⟨1⟩) .first (.addTimer (ε := Nat) ⟨0⟩ .zero .repeating)]
      (.call (.thread ⟨1⟩) .first (.stopAddTimer ⟨0⟩ ⟨1⟩ .zero .oneShot)) [.round .first] rfl
      (f := fun past _ later => ((past.filterMap arming?).map fun arming =>
        (arming.id, arming.timer.owner), (later.filterMap firing?).map (·.id)))
      (b := ([(⟨1⟩, ⟨0⟩)], [⟨2⟩])) (by decide +kernel)
  obtain ⟨harmed, hfired⟩ := Prod.mk.inj hseen
  have issued : IssuedTo past ⟨1⟩ ⟨0⟩ := by
    have hmem : ((⟨1⟩, ⟨0⟩) : TimerId × HandlerId) ∈ (past.filterMap arming?).map fun arming =>
        (arming.id, arming.timer.owner) := harmed ▸ .head _
    obtain ⟨arming, harming, same⟩ := List.mem_map.1 hmem
    exact ⟨arming, harming, Prod.mk.inj same⟩
  have stoppable := stopping_is_final_and_exclusive runs
  have silent := stoppable.final _ _ issued _ _ _ rfl made _ _ reaches
  exact ⟨past, later, before, after, last, answer, runs, issued, made, reaches, hfired, silent.1⟩

end Traffic

end Reactor
