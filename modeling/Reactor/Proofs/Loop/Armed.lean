import Reactor.Proofs.Loop.Consistent
import Reactor.Proofs.Timer.Lookup

/-!
# Critical sections and the timer armed under an identifier

For each critical section that arms or disarms timers: which timer is armed under
an identifier afterwards, and how many identifiers have been issued.
-/

namespace Reactor

namespace Loop

variable {ε : Type} {loop : Loop ε} {id old : TimerId} {handler : HandlerId}
  {timer : ArmedTimer HandlerId}

/-! ## Arming -/

section Arming

variable (loop) (handler : HandlerId) (now : Instant) (interval : Duration) (mode : TimerMode)

/-- The identifier of a timer that is armed is the next one. -/
theorem id_addTimer_of_accepts (h : loop.accepts handler = true) :
    (loop.addTimer handler now interval mode).1 = some ⟨loop.timers.issued + 1⟩ := by
  unfold addTimer
  rw [if_pos h]
  rfl

theorem issued_addTimer :
    (loop.addTimer handler now interval mode).2.timers.issued =
      loop.timers.issued + if (loop.addTimer handler now interval mode).1.isSome then 1 else 0 := by
  rw [isSome_addTimer]
  by_cases h : loop.accepts handler = true
  · rw [timers_addTimer_of_accepts _ _ _ _ _ h, if_pos h]
    rfl
  · rw [addTimer_of_not_accepts _ _ _ _ _ (Bool.eq_false_iff.2 h), if_neg h]
    rfl

end Arming

theorem armed?_addTimer_of_accepts (indexed : loop.timers.Indexed) (now : Instant)
    (interval : Duration) (mode : TimerMode) (h : loop.accepts handler = true) :
    (loop.addTimer handler now interval mode).2.timers.armed? id =
      if id = ⟨loop.timers.issued + 1⟩ then
        some (loop.timers.newcomer handler now interval mode)
      else
        loop.timers.armed? id := by
  rw [timers_addTimer_of_accepts _ _ _ _ _ h]
  exact indexed.armed?_insert handler now interval mode

theorem indexed_addTimer (indexed : loop.timers.Indexed) (handler : HandlerId) (now : Instant)
    (interval : Duration) (mode : TimerMode) :
    (loop.addTimer handler now interval mode).2.timers.Indexed := by
  by_cases h : loop.accepts handler = true
  · rw [timers_addTimer_of_accepts _ _ _ _ _ h]
    exact indexed.insert handler now interval mode
  · rw [addTimer_of_not_accepts _ _ _ _ _ (Bool.eq_false_iff.2 h)]
    exact indexed

/-! ## Disarming -/

theorem issued_stopTimer (loop : Loop ε) (handler : HandlerId) (old : TimerId) :
    (loop.stopTimer handler old).2.timers.issued = loop.timers.issued := by
  unfold stopTimer
  split
  · simp only [TimerSet.erase]
    split <;> rfl
  · rfl

/-- Where the handler has no timer armed under an identifier, there is nothing to stop. -/
theorem stopTimer_of_not_owned (h : loop.timers.owner? old ≠ some handler) :
    loop.stopTimer handler old = (false, loop) := by
  unfold stopTimer
  rw [if_neg h]

theorem indexed_stopTimer (indexed : loop.timers.Indexed) (handler : HandlerId) (old : TimerId) :
    (loop.stopTimer handler old).2.timers.Indexed := by
  unfold stopTimer
  split
  · exact indexed.erase old
  · exact indexed

/-- Stopping disarms the timer that is armed under the identifier, if it is the handler's. -/
theorem stopTimer_eq (indexed : loop.timers.Indexed) (handler : HandlerId) (old : TimerId) :
    (loop.stopTimer handler old).1 =
        loop.timers.agenda.any (fun timer => timer.id = old ∧ timer.owner = handler) ∧
      (loop.stopTimer handler old).2.timers.agenda =
        loop.timers.agenda.filter fun timer => !(timer.id = old ∧ timer.owner = handler) := by
  by_cases owned : loop.timers.owner? old = some handler
  · obtain ⟨timer, harmed, rfl⟩ := indexed.owner?_eq_some_iff.1 owned
    obtain ⟨hmem, rfl⟩ := TimerSet.mem_of_armed?_eq_some harmed
    -- Whoever is armed under the identifier is the timer of the handler.
    have same : ∀ other ∈ loop.timers.agenda,
        decide (other.id = timer.id) = decide (other.id = timer.id ∧ other.owner = timer.owner) := by
      intro other hother
      rw [decide_eq_decide]
      refine ⟨fun hid => ⟨hid, ?_⟩, And.left⟩
      rw [indexed.eq_of_id_eq hother hmem hid]
    unfold stopTimer
    rw [if_pos owned, indexed.erase_eq]
    constructor
    · refine Bool.eq_iff_iff.2 ?_
      rw [List.any_eq_true, List.any_eq_true]
      exact exists_congr fun other => and_congr_right fun hother => by rw [same other hother]
    · refine List.filter_congr fun other hother => ?_
      rw [← same other hother]
      exact decide_not
  · have unowned : ∀ timer ∈ loop.timers.agenda,
        decide (timer.id = old ∧ timer.owner = handler) = false := by
      refine fun timer hmem => decide_eq_false ?_
      rintro ⟨rfl, rfl⟩
      exact owned (indexed.owner?_eq_some_iff.2
        ⟨timer, indexed.armed?_eq_some_iff.2 ⟨hmem, rfl⟩, rfl⟩)
    rw [stopTimer_of_not_owned owned]
    constructor
    · exact (List.any_eq_false.2 fun timer hmem => Bool.eq_false_iff.1 (unowned timer hmem)).symm
    · refine (List.filter_eq_self.2 fun timer hmem => ?_).symm
      rw [unowned timer hmem]
      rfl

theorem armed?_stopTimer (indexed : loop.timers.Indexed) :
    (loop.stopTimer handler old).2.timers.armed? id = some timer ↔
      loop.timers.armed? id = some timer ∧ ¬ (timer.id = old ∧ timer.owner = handler) := by
  refine indexed.armed?_of_keep (indexed_stopTimer indexed handler old)
    (p := fun timer => ¬ (timer.id = old ∧ timer.owner = handler)) fun timer _ => ?_
  rw [(stopTimer_eq indexed handler old).2, List.mem_filter, Bool.not_eq_true', decide_eq_false_iff_not]

theorem timers_requestStop (loop : Loop ε) : loop.requestStop.timers = loop.timers := by
  rw [requestStop_eq]

section Removing

variable (remover : Remover)

theorem issued_beginRemoval :
    (loop.beginRemoval handler remover).2.timers.issued = loop.timers.issued := by
  by_cases hremoved : loop.stateOf handler = .removed
  · rw [beginRemoval_of_removed _ hremoved]
  · rw [beginRemoval_eq _ hremoved]
    rfl

theorem indexed_beginRemoval (indexed : loop.timers.Indexed) :
    (loop.beginRemoval handler remover).2.timers.Indexed := by
  by_cases hremoved : loop.stateOf handler = .removed
  · rw [beginRemoval_of_removed _ hremoved]
    exact indexed
  · rw [beginRemoval_eq _ hremoved]
    exact indexed.eraseWhere (· = handler)

/-- A removal disarms the timers of its handler, if it has any. -/
theorem agenda_beginRemoval (consistent : loop.Consistent) :
    (loop.beginRemoval handler remover).2.timers.agenda =
      loop.timers.agenda.filter fun timer => timer.owner ≠ handler := by
  by_cases hremoved : loop.stateOf handler = .removed
  · rw [beginRemoval_of_removed _ hremoved]
    refine (List.filter_eq_self.2 fun timer hmem => decide_eq_true ?_).symm
    rintro rfl
    exact nomatch (consistent.armed timer hmem).symm.trans hremoved
  · rw [beginRemoval_eq _ hremoved]
    refine List.filter_congr fun timer _ => ?_
    rw [decide_not]

theorem armed?_beginRemoval (indexed : loop.timers.Indexed) (consistent : loop.Consistent) :
    (loop.beginRemoval handler remover).2.timers.armed? id = some timer ↔
      loop.timers.armed? id = some timer ∧ timer.owner ≠ handler := by
  refine indexed.armed?_of_keep (indexed_beginRemoval remover indexed)
    (p := fun timer => timer.owner ≠ handler) fun timer _ => ?_
  rw [agenda_beginRemoval remover consistent, List.mem_filter, decide_eq_true_eq]

end Removing

end Loop

end Reactor
