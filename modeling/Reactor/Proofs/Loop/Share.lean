import Reactor.Proofs.Loop.Armed

/-!
# The share of a handler in its loop

Queue, timers and mark are common to all handlers of a loop.  The share of a
handler is what is its own in them.  A critical section that is entered through
one handler leaves the shares of all others as they were; and what it answers,
and makes of its own share, depends on this share and on the order to quit, and
on nothing else in the loop.
-/

namespace Reactor

/-- What a loop holds of one handler. -/
@[ext] structure Share (ε : Type) where
  /-- The queued events of the handler, in the order of the queue. -/
  queue : List (QueuedEvent ε)
  /-- Its timers, in the order in which they become due. -/
  timers : List (ArmedTimer HandlerId)
  state : HandlerState
  /-- Its callback is marked as running. -/
  running : Bool

namespace Filtering

variable {σ ε : Type} {visit : Visit σ ε} {state : σ}
  {taken kept queue : List (QueuedEvent ε)} {handler : HandlerId}

/-- A filtering, without the events of other handlers that it has passed over. -/
def about (handler : HandlerId) : Filtering σ ε -> Filtering σ ε
  | done state taken kept =>
      .done state taken (kept.filter fun entry => entry.handler = handler)
  | failed state lost => .failed state (lost.filter fun entry => entry.handler = handler)

theorem kept_about (handler : HandlerId) (filtering : Filtering σ ε) :
    (filtering.about handler).kept =
      filtering.kept.filter fun entry => entry.handler = handler := by
  cases filtering with
  | done => rfl
  | failed => rfl

/-- A handler that filters its own events only might as well have a queue of its own. -/
theorem about_scan_onlyFor (own : ∀ entry ∈ taken, entry.handler = handler) :
    (scan (visit.onlyFor handler) state taken kept queue).about handler =
      scan visit state taken (kept.filter fun entry => entry.handler = handler)
        (queue.filter fun entry => entry.handler = handler) := by
  induction queue generalizing state taken kept with
  | nil => rfl
  | cons entry rest ih =>
      by_cases mine : entry.handler = handler
      · have own' : ∀ other ∈ taken ++ [entry], other.handler = handler := by
          intro other hmem
          rcases List.mem_append.1 hmem with hold | hnew
          · exact own other hold
          · rw [List.mem_singleton.1 hnew, mine]
        have alone : ([entry].filter fun entry => entry.handler = handler) = [entry] := by
          simp [mine]
        rw [List.filter_cons, if_pos (decide_eq_true mine)]
        simp only [scan, Visit.onlyFor, if_pos mine]
        cases visit state entry with
        | mk verdict state' =>
            cases verdict with
            | none =>
                have all : (taken.filter fun entry => entry.handler = handler) = taken :=
                  List.filter_eq_self.2 fun other hmem => decide_eq_true (own other hmem)
                simp [about, mine, all]
            | some picked =>
                cases picked with
                | true => exact ih own'
                | false =>
                    show (scan (visit.onlyFor handler) state' taken (kept ++ [entry]) rest).about
                      handler = _
                    rw [ih own, List.filter_append, alone]
      · have absent : ([entry].filter fun entry => entry.handler = handler) = [] := by
          simp [mine]
        rw [List.filter_cons, if_neg (by simpa using mine)]
        simp only [scan, Visit.onlyFor, if_neg mine]
        rw [ih own, List.filter_append, absent, List.append_nil]

end Filtering

namespace Loop

variable {ε σ : Type} {loop : Loop ε} {handler other : HandlerId}

def share (loop : Loop ε) (handler : HandlerId) : Share ε where
  queue := loop.queue.filter fun entry => entry.handler = handler
  timers := loop.timers.agenda.filter fun timer => timer.owner = handler
  state := loop.stateOf handler
  running := loop.marks handler

/-- The mark of the running callback, with the threads that wait, if it is the handler's. -/
def mark (loop : Loop ε) (handler : HandlerId) : Option ActiveCallback :=
  loop.active.filter fun active => active.handler = handler

theorem share_eq_of {after : Loop ε}
    (queue : (after.queue.filter fun entry => entry.handler = other) =
      loop.queue.filter fun entry => entry.handler = other)
    (timers : (after.timers.agenda.filter fun timer => timer.owner = other) =
      loop.timers.agenda.filter fun timer => timer.owner = other)
    (state : after.stateOf other = loop.stateOf other)
    (running : after.marks other = loop.marks other) : after.share other = loop.share other := by
  simp only [share, queue, timers, state, running]

theorem mark_of_active_eq {after : Loop ε} (h : after.active = loop.active) :
    after.mark handler = loop.mark handler := by
  unfold mark
  rw [h]

theorem queue_beginRemoval (consistent : loop.Consistent) (remover : Remover) :
    (loop.beginRemoval handler remover).2.queue =
      loop.queue.filter fun entry => entry.handler ≠ handler := by
  by_cases hremoved : loop.stateOf handler = .removed
  · rw [beginRemoval_of_removed _ hremoved]
    refine (List.filter_eq_self.2 fun entry hmem => decide_eq_true ?_).symm
    rintro rfl
    exact nomatch (consistent.queued entry hmem).symm.trans hremoved
  · rw [beginRemoval_eq _ hremoved]
    rfl

/-! ## The shares of others -/

section Others

variable (hne : other ≠ handler)
include hne

theorem share_send_of_ne (event : ε) :
    (loop.send handler event).2.share other = loop.share other := by
  by_cases accepts : loop.accepts handler = true
  · have theirs : ([⟨handler, event⟩] : List (QueuedEvent ε)).filter
        (fun entry => entry.handler = other) = [] := by
      simp [Ne.symm hne]
    apply share_eq_of
    · rw [queue_send_of_accepts _ _ _ accepts, List.filter_append, theirs, List.append_nil]
    · rw [timers_send]
    · rw [stateOf_send, if_neg fun both => hne both.2]
    · rw [marks, active_send, marks]
  · rw [send_of_not_accepts _ _ _ (Bool.eq_false_iff.2 accepts)]

theorem share_addTimer_of_ne (now : Instant) (interval : Duration) (mode : TimerMode) :
    (loop.addTimer handler now interval mode).2.share other = loop.share other := by
  by_cases accepts : loop.accepts handler = true
  · apply share_eq_of
    · rw [queue_addTimer]
    · rw [timers_addTimer_of_accepts _ _ _ _ _ accepts, TimerSet.agenda_insert]
      exact TimerSet.filter_schedule_of_not (decide_eq_false (Ne.symm hne))
    · rw [stateOf_addTimer, if_neg fun both => hne both.2]
    · rw [marks, active_addTimer, marks]
  · rw [addTimer_of_not_accepts _ _ _ _ _ (Bool.eq_false_iff.2 accepts)]

theorem share_stopTimer_of_ne (indexed : loop.timers.Indexed) (id : TimerId) :
    (loop.stopTimer handler id).2.share other = loop.share other := by
  apply share_eq_of
  · rw [queue_stopTimer]
  · rw [(stopTimer_eq indexed handler id).2, List.filter_filter]
    refine List.filter_congr fun timer _ => ?_
    by_cases theirs : timer.owner = other
    · simp [theirs, hne]
    · simp [theirs]
  · exact stateOf_stopTimer ..
  · rw [marks, active_stopTimer, marks]

theorem share_filterFor_of_ne {visit : Visit σ ε} {state final : σ}
    {gone stay : List (QueuedEvent ε)}
    (h : (loop.filterFor handler visit state).1 = .done final gone stay) :
    (loop.filterFor handler visit state).2.share other = loop.share other := by
  apply share_eq_of
  · have kept := Filtering.filter_of_scan_onlyFor hne h
    show ((loop.filterFor handler visit state).1.kept.filter _) = _
    rw [h]
    exact kept
  · rfl
  · rfl
  · rfl

theorem share_beginRemoval_of_ne (consistent : loop.Consistent) (remover : Remover) :
    (loop.beginRemoval handler remover).2.share other = loop.share other := by
  apply share_eq_of
  · rw [queue_beginRemoval consistent, List.filter_filter]
    refine List.filter_congr fun entry _ => ?_
    by_cases theirs : entry.handler = other
    · simp [theirs, hne]
    · simp [theirs]
  · rw [agenda_beginRemoval _ consistent, List.filter_filter]
    refine List.filter_congr fun timer _ => ?_
    by_cases theirs : timer.owner = other
    · simp [theirs, hne]
    · simp [theirs]
  · rw [stateOf_beginRemoval, if_neg hne]
  · rw [marks_beginRemoval]

theorem mark_beginRemoval_of_ne (remover : Remover) :
    (loop.beginRemoval handler remover).2.mark other = loop.mark other := by
  by_cases hremoved : loop.stateOf handler = .removed
  · rw [beginRemoval_of_removed _ hremoved]
  · rw [beginRemoval_eq _ hremoved]
    unfold mark withdrawn
    rw [active_updateSlot]
    cases loop.active with
    | none => rfl
    | some active =>
        by_cases same : active.handler = handler
        · simp [same, Option.filter, Ne.symm hne]
        · simp [same]

end Others

end Loop

/-! ## The own share -/

namespace Share

variable {ε σ : Type}

def accepts (share : Share ε) (quit : Bool) : Bool :=
  !quit && share.state.acceptsWork

def send (share : Share ε) (handler : HandlerId) (quit : Bool) (event : ε) : Bool × Share ε :=
  if share.accepts quit then
    (true, { share with queue := share.queue ++ [⟨handler, event⟩], state := .active })
  else
    (false, share)

def stopTimer (share : Share ε) (id : TimerId) : Bool × Share ε :=
  (share.timers.any fun timer => timer.id = id,
    { share with timers := share.timers.filter fun timer => timer.id ≠ id })

def filter (share : Share ε) (visit : Visit σ ε) (state : σ) : Filtering σ ε × Share ε :=
  let filtering := Filtering.scan visit state [] [] share.queue
  (filtering, { share with queue := filtering.kept })

def remove (share : Share ε) (remover : Remover) : Option (Removal ε) × Share ε :=
  if share.state = .removed then
    (none, share)
  else
    (some ⟨share.queue, share.timers.length, share.running && !(Loop.detained remover).isEmpty⟩,
      { queue := []
        timers := []
        state := if share.running then .removing else .removed
        running := share.running })

end Share

namespace Loop

variable {ε σ : Type} {loop : Loop ε} {handler : HandlerId}

theorem send_share (event : ε) :
    ((loop.send handler event).1, (loop.send handler event).2.share handler) =
      (loop.share handler).send handler loop.quit event := by
  have same : (loop.share handler).accepts loop.quit = loop.accepts handler := rfl
  unfold Share.send
  rw [same]
  by_cases accepts : loop.accepts handler = true
  · rw [if_pos accepts, send_fst, accepts]
    refine congrArg (Prod.mk true) (Share.ext ?_ ?_ ?_ ?_)
    · simp [share, queue_send_of_accepts _ _ _ accepts]
    · simp only [share, timers_send]
    · simp [share, stateOf_send, accepts]
    · simp only [share, marks, active_send]
  · rw [if_neg accepts, send_of_not_accepts _ _ _ (Bool.eq_false_iff.2 accepts)]

theorem stopTimer_share (indexed : loop.timers.Indexed) (id : TimerId) :
    ((loop.stopTimer handler id).1, (loop.stopTimer handler id).2.share handler) =
      (loop.share handler).stopTimer id := by
  obtain ⟨hfound, hagenda⟩ := stopTimer_eq indexed handler id
  refine Prod.ext ?_ (Share.ext ?_ ?_ ?_ ?_)
  · show (loop.stopTimer handler id).1 = (loop.timers.agenda.filter _).any _
    rw [hfound, List.any_filter]
    refine congrArg (loop.timers.agenda.any) (funext fun timer => ?_)
    rw [← Bool.decide_and, decide_eq_decide]
    exact and_comm
  · simp only [share, Share.stopTimer, queue_stopTimer]
  · show (loop.stopTimer handler id).2.timers.agenda.filter _ =
      (loop.timers.agenda.filter _).filter _
    rw [hagenda, List.filter_filter, List.filter_filter]
    refine List.filter_congr fun timer _ => ?_
    by_cases mine : timer.owner = handler
    · simp [mine]
    · simp [mine]
  · simp only [share, Share.stopTimer, stateOf_stopTimer]
  · simp only [share, Share.stopTimer, marks, active_stopTimer]

theorem filterFor_share (visit : Visit σ ε) (state : σ) :
    ((loop.filterFor handler visit state).1.about handler,
        (loop.filterFor handler visit state).2.share handler) =
      (loop.share handler).filter visit state := by
  have own : (loop.filterFor handler visit state).1.about handler =
      Filtering.scan visit state [] [] (loop.share handler).queue :=
    Filtering.about_scan_onlyFor fun _ hmem => absurd hmem List.not_mem_nil
  refine Prod.ext own (Share.ext ?_ rfl rfl rfl)
  show (loop.filterFor handler visit state).1.kept.filter _ = (Filtering.scan ..).kept
  rw [← own, Filtering.kept_about]

theorem beginRemoval_share (consistent : loop.Consistent) (remover : Remover) :
    ((loop.beginRemoval handler remover).1,
        (loop.beginRemoval handler remover).2.share handler) =
      (loop.share handler).remove remover := by
  have same : (loop.share handler).state = loop.stateOf handler := rfl
  unfold Share.remove
  rw [same]
  by_cases hremoved : loop.stateOf handler = .removed
  · rw [if_pos hremoved, beginRemoval_of_removed _ hremoved]
  · rw [if_neg hremoved]
    refine Prod.ext ?_ (Share.ext ?_ ?_ ?_ ?_)
    · rw [beginRemoval_eq _ hremoved]
      rfl
    · show (loop.beginRemoval handler remover).2.queue.filter _ = []
      rw [queue_beginRemoval consistent, List.filter_filter]
      simp
    · show (loop.beginRemoval handler remover).2.timers.agenda.filter _ = []
      rw [agenda_beginRemoval _ consistent, List.filter_filter]
      simp
    · show (loop.beginRemoval handler remover).2.stateOf handler =
        if loop.marks handler then .removing else .removed
      rw [stateOf_beginRemoval, if_pos rfl]
      simp [hremoved]
    · exact marks_beginRemoval handler remover

end Loop

end Reactor
