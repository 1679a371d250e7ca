import Mathlib.Tactic.ByContra
import Reactor.Loop.Filter

/-!
# What a filter has not picked

A filter is to delete the events that its predicate has picked, and no others.
What it has not picked when it is through or fails is a part of the queue, in the
same order.  A filter that is through keeps just this part.
-/

namespace Reactor

namespace Visit

variable {σ ε : Type} {visit : Visit σ ε} {state : σ} {queue : List (QueuedEvent ε)}
  {handler other : HandlerId}

/-- Whether a visit fails at some event, when it looks at them in order. -/
def fails (visit : Visit σ ε) : σ -> List (QueuedEvent ε) -> Bool
  | _, [] => false
  | state, entry :: rest =>
      match visit state entry with
      | (some _, state) => visit.fails state rest
      | (none, _) => true

/-- The events that a visit has not picked by the time it is through, or fails. -/
def unpicked (visit : Visit σ ε) : σ -> List (QueuedEvent ε) -> List (QueuedEvent ε)
  | _, [] => []
  | state, entry :: rest =>
      match visit state entry with
      | (some true, state) => visit.unpicked state rest
      | (some false, state) => entry :: visit.unpicked state rest
      | (none, _) => entry :: rest

theorem unpicked_sublist (visit : Visit σ ε) (state : σ) (queue : List (QueuedEvent ε)) :
    (visit.unpicked state queue).Sublist queue := by
  fun_induction unpicked visit state queue with
  | case1 => exact List.Sublist.refl _
  | case2 state entry rest state' h ih => exact ih.cons entry
  | case3 state entry rest state' h ih => exact ih.cons_cons entry
  | case4 => exact List.Sublist.refl _

/-- The event at which a visit fails has not been picked. -/
theorem unpicked_ne_nil_of_fails (h : visit.fails state queue = true) :
    visit.unpicked state queue ≠ [] := by
  fun_induction unpicked visit state queue with
  | case1 => simp [fails] at h
  | case2 state entry rest state' hpicked ih =>
      simp only [fails, hpicked] at h
      exact ih h
  | case3 => exact List.cons_ne_nil _ _
  | case4 => exact List.cons_ne_nil _ _

/-- A filter that looks at the events of one handler only never picks those of another. -/
theorem filter_unpicked_onlyFor (hne : other ≠ handler) :
    ((visit.onlyFor handler).unpicked state queue).filter (fun entry => entry.handler = other) =
      queue.filter fun entry => entry.handler = other := by
  fun_induction unpicked (visit.onlyFor handler) state queue with
  | case1 => rfl
  | case2 state entry rest state' hpicked ih =>
      -- Only an event of the handler itself can be picked.
      have mine : entry.handler = handler := by
        by_contra theirs
        simp [onlyFor, theirs] at hpicked
      have absent : entry.handler ≠ other := fun same => hne (same.symm.trans mine)
      rw [ih, List.filter_cons, if_neg (by simpa using absent)]
  | case3 state entry rest state' hspared ih => rw [List.filter_cons, List.filter_cons, ih]
  | case4 => rfl

/-- It fails if its predicate fails on the events of this handler alone. -/
theorem fails_onlyFor :
    (visit.onlyFor handler).fails state queue =
      visit.fails state (queue.filter fun entry => entry.handler = handler) := by
  induction queue generalizing state with
  | nil => rfl
  | cons entry rest ih =>
      rw [List.filter_cons]
      by_cases mine : entry.handler = handler
      · rw [if_pos (decide_eq_true mine)]
        simp only [fails, onlyFor, if_pos mine]
        cases visit state entry with
        | mk verdict state' =>
            cases verdict with
            | none => rfl
            | some picked => exact ih
      · rw [if_neg (by simpa using mine), ← ih]
        simp only [fails, onlyFor, if_neg mine]

end Visit

namespace Filtering

variable {σ ε : Type}

theorem kept_scan (visit : Visit σ ε) (state : σ) (taken kept queue : List (QueuedEvent ε)) :
    (scan visit state taken kept queue).kept =
      if visit.fails state queue then [] else kept ++ visit.unpicked state queue := by
  fun_induction scan visit state taken kept queue with
  | case1 => simp [Filtering.kept, Visit.fails, Visit.unpicked]
  | case2 state taken kept entry queue state' h ih =>
      rw [ih]
      simp only [Visit.fails, Visit.unpicked, h]
  | case3 state taken kept entry queue state' h ih =>
      rw [ih]
      simp only [Visit.fails, Visit.unpicked, h, List.append_assoc, List.singleton_append]
  | case4 state taken kept entry queue state' h =>
      simp only [Filtering.kept, Visit.fails, h, if_pos]

theorem fails_of_scan_done {visit : Visit σ ε} {state final : σ}
    {taken kept queue gone stay : List (QueuedEvent ε)}
    (h : scan visit state taken kept queue = .done final gone stay) :
    visit.fails state queue = false := by
  fun_induction scan visit state taken kept queue with
  | case1 => rfl
  | case2 state taken kept entry queue state' hpicked ih =>
      simp only [Visit.fails, hpicked]
      exact ih h
  | case3 state taken kept entry queue state' hspared ih =>
      simp only [Visit.fails, hspared]
      exact ih h
  | case4 => cases h

/-- What a filter keeps was there before, in the same order. -/
theorem kept_scan_sublist (visit : Visit σ ε) (state : σ)
    (taken kept queue : List (QueuedEvent ε)) :
    (scan visit state taken kept queue).kept.Sublist (kept ++ queue) := by
  rw [kept_scan]
  split
  · exact List.nil_sublist _
  · exact (visit.unpicked_sublist state queue).append_left kept

/-- The events of another handler are kept. -/
theorem filter_of_scan_onlyFor {visit : Visit σ ε} {state final : σ}
    {taken kept queue gone stay : List (QueuedEvent ε)} {handler other : HandlerId}
    (hne : other ≠ handler)
    (h : scan (visit.onlyFor handler) state taken kept queue = .done final gone stay) :
    (stay.filter fun entry => entry.handler = other) =
      (kept ++ queue).filter fun entry => entry.handler = other := by
  have hstay := kept_scan (visit.onlyFor handler) state taken kept queue
  rw [h, fails_of_scan_done h] at hstay
  have same : stay = kept ++ (visit.onlyFor handler).unpicked state queue := hstay
  rw [same, List.filter_append, List.filter_append, Visit.filter_unpicked_onlyFor hne]

/-- No event is lost track of: what is not kept is gone, and nothing else is. -/
theorem gone_append_kept_perm (visit : Visit σ ε) (state : σ)
    (taken kept queue : List (QueuedEvent ε)) :
    ((scan visit state taken kept queue).gone ++ (scan visit state taken kept queue).kept).Perm
      (taken ++ kept ++ queue) := by
  fun_induction scan visit state taken kept queue with
  | case1 => simp [gone, Filtering.kept]
  | case2 state taken kept entry queue state' h ih =>
      have moved : (taken ++ [entry] ++ kept ++ queue).Perm (taken ++ kept ++ entry :: queue) := by
        simp only [List.append_assoc, List.singleton_append]
        exact List.Perm.append_left taken List.perm_middle.symm
      exact ih.trans moved
  | case3 state taken kept entry queue state' h ih =>
      have same : taken ++ (kept ++ [entry]) ++ queue = taken ++ kept ++ entry :: queue := by
        simp
      rwa [same] at ih
  | case4 state taken kept entry queue state' h =>
      simp only [gone, Filtering.kept, List.append_nil]
      have turned : (entry :: queue ++ kept ++ taken).Perm (taken ++ (entry :: queue ++ kept)) :=
        List.perm_append_comm
      have swapped : (entry :: queue ++ kept).Perm (kept ++ entry :: queue) :=
        List.perm_append_comm
      have both := turned.trans (swapped.append_left taken)
      rwa [← List.append_assoc] at both

end Filtering

end Reactor
