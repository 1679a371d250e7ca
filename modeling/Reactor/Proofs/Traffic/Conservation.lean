import Reactor.Proofs.Traffic.Ledger
import Reactor.Proofs.Traffic.Sound

/-!
# No event is lost, doubled or overtaken

The queue of a loop is what the ledger of the run says is queued, and every step
takes out of it what the ledger says.  So each event that was posted has one fate,
and events are delivered in the order in which they were posted.
-/

namespace Reactor

namespace Traffic

variable {ε : Type} {traffic next : Traffic ε} {past : List (Move ε × Answer ε)}
  {move : Move ε} {answer : Answer ε}

/-- The ledger of a run agrees with the queue and with all that was answered. -/
structure Balanced (past : List (Move ε × Answer ε)) (traffic : Traffic ε) : Prop where
  posts : ((ledger past).map fun entry => (entry.post, decide (entry.fate ≠ .rejected))) =
    past.flatMap posted
  queued : Entry.posts (ledger past) (· = .queued) = traffic.loop.queue
  left : ∀ number step, past[number]? = some step -> ∀ exit,
    Entry.posts (ledger past) (· = .left exit number) = outgoing exit step.2
  bounded : ∀ entry ∈ ledger past, ∀ exit number,
    entry.fate = .left exit number -> number < past.length
  ordered : Entry.Ordered (ledger past)
  delivered : Entry.posts (ledger past) Fate.isDelivered =
    past.flatMap fun step => outgoing .delivered step.2

theorem balanced_nil (empty : traffic.loop.queue = []) : Balanced [] traffic where
  posts := rfl
  queued := empty.symm
  left number step hstep := by simp at hstep
  bounded entry hmem := absurd hmem List.not_mem_nil
  ordered := .nil
  delivered := rfl

section Balanced

variable {step : Move ε × Answer ε} (h : Balanced past traffic)
include h

/-- No event has left the queue in a step that is still to come. -/
theorem Balanced.posts_next (exit : Exit) :
    Entry.posts (ledger past) (· = .left exit past.length) = [] := by
  refine List.map_eq_nil_iff.2 (List.filter_eq_nil_iff.2 fun entry hmem hleft => ?_)
  have hbound := h.bounded entry hmem exit past.length (by simpa using hleft)
  exact Nat.lt_irrefl _ hbound

/-- What there is to show of one more step. -/
theorem Balanced.snoc {after : List (Entry ε)} (hafter : record past.length (ledger past) step = after)
    (posts : (after.map fun entry => (entry.post, decide (entry.fate ≠ .rejected))) =
      ((ledger past).map fun entry => (entry.post, decide (entry.fate ≠ .rejected))) ++ posted step)
    (queued : Entry.posts after (· = .queued) = next.loop.queue)
    (earlier : ∀ exit number, number < past.length ->
      Entry.posts after (· = .left exit number) =
        Entry.posts (ledger past) (· = .left exit number))
    (now : ∀ exit, Entry.posts after (· = .left exit past.length) = outgoing exit step.2)
    (bounded : ∀ entry ∈ after, entry ∈ ledger past ∨
      ∀ exit number, entry.fate = .left exit number -> number = past.length)
    (ordered : Entry.Ordered after)
    (delivered : Entry.posts after Fate.isDelivered =
      Entry.posts (ledger past) Fate.isDelivered ++ outgoing .delivered step.2) :
    Balanced (past ++ [step]) next := by
  rw [← ledger_snoc] at hafter
  subst hafter
  refine ⟨?_, queued, ?_, ?_, ordered, ?_⟩
  · rw [posts, h.posts, List.flatMap_append, List.flatMap_singleton]
  · intro number other hother exit
    rcases Nat.lt_trichotomy number past.length with hlt | heq | hgt
    · rw [List.getElem?_append_left hlt] at hother
      rw [earlier exit number hlt, h.left number other hother]
    · subst heq
      obtain rfl : step = other := by simpa using hother
      exact now exit
    · have hlength : (past ++ [step]).length <= number := by
        rw [List.length_append, List.length_singleton]
        exact hgt
      rw [List.getElem?_eq_none hlength] at hother
      cases hother
  · intro entry hmem exit number hfate
    rw [List.length_append, List.length_singleton, Nat.lt_succ_iff]
    rcases bounded entry hmem with hold | hnew
    · exact Nat.le_of_lt (h.bounded entry hold exit number hfate)
    · exact Nat.le_of_eq (hnew exit number hfate)
  · rw [delivered, h.delivered, List.flatMap_append, List.flatMap_singleton]

/-- A step that posts nothing and takes nothing out. -/
theorem Balanced.keep (hrecord : record past.length (ledger past) step = ledger past)
    (hposted : posted step = []) (hout : takenOut step.2 = none)
    (hqueue : next.loop.queue = traffic.loop.queue) : Balanced (past ++ [step]) next := by
  refine h.snoc hrecord ?_ (h.queued.trans hqueue.symm) (fun _ _ _ => rfl) ?_
    (fun _ hmem => .inl hmem) h.ordered ?_
  · rw [hposted, List.append_nil]
  · intro exit
    rw [h.posts_next, outgoing_of_none hout]
  · rw [outgoing_of_none hout, List.append_nil]

theorem Balanced.post {post : QueuedEvent ε} {accepted : Bool}
    (hrecord : record past.length (ledger past) step =
      ledger past ++ [⟨post, if accepted then .queued else .rejected⟩])
    (hposted : posted step = [(post, accepted)]) (hout : takenOut step.2 = none)
    (hqueue : next.loop.queue = traffic.loop.queue ++ if accepted then [post] else []) :
    Balanced (past ++ [step]) next := by
  -- The new entry is not one of an event that has left the queue.
  have stays : ∀ p : Fate -> Bool, p .queued = false -> p .rejected = false ->
      Entry.posts (ledger past ++ [⟨post, if accepted then .queued else .rejected⟩]) p =
        Entry.posts (ledger past) p := by
    intro p hq hr
    rw [Entry.posts_append]
    cases accepted <;> simp [Entry.posts, hq, hr]
  refine h.snoc hrecord ?_ ?_ ?_ ?_ ?_ ?_ ?_
  · rw [hposted, List.map_append]
    cases accepted <;> simp
  · rw [Entry.posts_append, h.queued, hqueue]
    cases accepted <;> simp [Entry.posts]
  · intro exit number hlt
    exact stays _ rfl rfl
  · intro exit
    rw [stays _ rfl rfl, h.posts_next, outgoing_of_none hout]
  · intro entry hmem
    rcases List.mem_append.1 hmem with hold | hnew
    · exact .inl hold
    · rw [List.mem_singleton.1 hnew]
      refine .inr fun exit number hfate => ?_
      cases accepted <;> cases hfate
  · refine List.pairwise_append.2 ⟨h.ordered, List.pairwise_singleton _ _, ?_⟩
    intro earlier hearlier later hlater
    rw [List.mem_singleton.1 hlater]
    exact Fate.follows_of_ne_delivered fun number hfate => by cases accepted <;> cases hfate
  · rw [stays _ rfl rfl, outgoing_of_none hout, List.append_nil]

theorem Balanced.settle {σ : Type} {exit : Exit} {visit : Visit σ ε} {state : σ}
    (hrecord : record past.length (ledger past) step =
      Entry.settle exit past.length visit state (ledger past))
    (hposted : posted step = [])
    (hout : takenOut step.2 = some (exit, visit.picked state traffic.loop.queue))
    (hqueue : next.loop.queue = visit.spared state traffic.loop.queue)
    (ordered : Entry.Ordered (Entry.settle exit past.length visit state (ledger past)))
    (delivered : Entry.posts (Entry.settle exit past.length visit state (ledger past))
        Fate.isDelivered =
      Entry.posts (ledger past) Fate.isDelivered ++ outgoing .delivered step.2) :
    Balanced (past ++ [step]) next := by
  refine h.snoc hrecord ?_ ?_ ?_ ?_ ?_ ordered delivered
  · rw [hposted, List.append_nil]
    exact Entry.map_settle _ fun post => rfl
  · rw [Entry.posts_settle_queued, h.queued, hqueue]
  · intro other number hlt
    refine Entry.posts_settle _ ?_
    simp [Nat.ne_of_gt hlt]
  · intro other
    by_cases same : other = exit
    · subst same
      have new : ∀ entry ∈ ledger past, entry.fate ≠ .left other past.length :=
        fun entry hmem hfate => Nat.lt_irrefl _ (h.bounded entry hmem _ _ hfate)
      rw [Entry.posts_settle_left new, h.queued, outgoing_of_some hout, if_pos rfl]
    · have hp : decide (Fate.left exit past.length = .left other past.length) = false := by
        simpa using Ne.symm same
      rw [Entry.posts_settle _ hp, h.posts_next, outgoing_of_some hout, if_neg (Ne.symm same)]
  · intro entry hmem
    rcases Entry.mem_settle hmem with hold | ⟨hfate, -⟩
    · exact .inl hold
    · refine .inr fun other number hother => ?_
      rw [hfate] at hother
      cases hother
      rfl

/-- A step that takes events out of the queue without delivering them. -/
theorem Balanced.takeOut {σ : Type} {exit : Exit} {visit : Visit σ ε} {state : σ}
    (hrecord : record past.length (ledger past) step =
      Entry.settle exit past.length visit state (ledger past))
    (hexit : exit ≠ .delivered) (hposted : posted step = [])
    (hout : takenOut step.2 = some (exit, visit.picked state traffic.loop.queue))
    (hqueue : next.loop.queue = visit.spared state traffic.loop.queue) :
    Balanced (past ++ [step]) next := by
  refine h.settle hrecord hposted hout hqueue (Entry.ordered_settle h.ordered hexit) ?_
  have hp : Fate.isDelivered (.left exit past.length) = false := by
    cases exit with
    | delivered => exact absurd rfl hexit
    | _ => rfl
  rw [Entry.posts_settle _ hp, outgoing_of_some hout, if_neg hexit, List.append_nil]

theorem Balanced.deliver {post : QueuedEvent ε}
    (hrecord : record past.length (ledger past) step =
      Entry.settle .delivered past.length .oldest true (ledger past))
    (hposted : posted step = []) (hout : takenOut step.2 = some (.delivered, [post]))
    (hqueue : traffic.loop.queue = post :: next.loop.queue) : Balanced (past ++ [step]) next := by
  obtain ⟨front, back, hledger, gone, hsettle⟩ := Entry.exists_oldest (h.queued.trans hqueue)
  have ordered := h.ordered
  have bounded := h.bounded
  rw [hledger] at ordered bounded
  refine h.settle hrecord hposted ?_ ?_ ?_ ?_
  · rw [hout, hqueue, Visit.picked_oldest]
  · rw [hqueue, Visit.spared_oldest]
  · rw [hsettle]
    exact Entry.ordered_deliver ordered gone fun entry hmem =>
      bounded entry (List.mem_append_left _ hmem)
  · have hback := (List.pairwise_cons.1 (List.pairwise_append.1 ordered).2.1).1
    have none_later := Entry.posts_of_follows_queued hback
    rw [hsettle, hledger, outgoing_of_some hout, if_pos rfl, Entry.posts_append,
      Entry.posts_append, Entry.posts_cons, Entry.posts_cons, none_later]
    simp [Fate.isDelivered]

theorem Balanced.filter {visit : Visit (List (QueuedEvent ε)) ε}
    (hrecord : record past.length (ledger past) step =
      Entry.settle .filtered past.length visit [] (ledger past))
    (hposted : posted step = []) (hanswer : step.2 = .filtered (traffic.loop.filter visit []).1)
    (hqueue : next.loop.queue = (traffic.loop.filter visit []).2.queue)
    (returns : hasFailed step.2 = false) : Balanced (past ++ [step]) next := by
  cases hscan : (traffic.loop.filter visit []).1 with
  | failed state lost =>
      rw [hanswer, hscan] at returns
      cases returns
  | done state taken kept =>
      obtain ⟨rfl, rfl⟩ := Filtering.eq_of_scan_done hscan
      refine h.takeOut hrecord (by decide) hposted ?_ ?_
      · rw [hanswer, hscan]
        rfl
      · rw [hqueue, Loop.filter_snd, hscan]
        rfl

theorem Balanced.purge (sound : traffic.Sound) {handler : HandlerId} {remover : Remover}
    (hrecord : record past.length (ledger past) step =
      Entry.settle .purged past.length (.those fun post => post.handler = handler) ()
        (ledger past))
    (hposted : posted step = [])
    (hanswer : step.2 = .removed (traffic.loop.beginRemoval handler remover).1)
    (hqueue : next.loop.queue = (traffic.loop.beginRemoval handler remover).2.queue) :
    Balanced (past ++ [step]) next := by
  by_cases hremoved : traffic.loop.stateOf handler = .removed
  · -- The handler has been removed before, and has no events.
    have clear := sound.loop.clear (hremoved.trans_ne (by decide))
    rw [Loop.beginRemoval_of_removed _ hremoved] at hanswer hqueue
    refine h.takeOut hrecord (by decide) hposted ?_ ?_
    · have none_own : (traffic.loop.queue.filter fun post => post.handler = handler) = [] :=
        List.filter_eq_nil_iff.2 fun post hmem => by simpa using clear.queue post hmem
      rw [hanswer, Visit.picked_those, none_own]
      rfl
    · rw [hqueue, Visit.spared_those]
      exact (List.filter_eq_self.2 fun post hmem => by simpa using clear.queue post hmem).symm
  · rw [Loop.beginRemoval_eq _ hremoved] at hanswer hqueue
    refine h.takeOut hrecord (by decide) hposted ?_ ?_
    · rw [hanswer, Visit.picked_those]
      rfl
    · rw [hqueue, Visit.spared_those]
      simp [Loop.withdrawn]

theorem Balanced.discard
    (hrecord : record past.length (ledger past) step =
      Entry.settle .discarded past.length (.those fun _ => true) () (ledger past))
    (hposted : posted step = [])
    (hout : takenOut step.2 = some (.discarded, traffic.loop.queue))
    (hqueue : next.loop.queue = []) : Balanced (past ++ [step]) next := by
  refine h.takeOut hrecord (by decide) hposted ?_ ?_
  · have all : (traffic.loop.queue.filter fun _ => true) = traffic.loop.queue :=
      List.filter_eq_self.2 fun _ _ => rfl
    rw [hout, Visit.picked_those, all]
  · rw [hqueue, Visit.spared_those]
    exact (List.filter_eq_nil_iff.2 fun _ _ => Bool.false_ne_true).symm

end Balanced

/-! ## Steps -/

theorem Balanced.step (h : Balanced past traffic) (sound : traffic.Sound)
    (returns : hasFailed answer = false)
    (step : Step traffic move answer next) : Balanced (past ++ [(move, answer)]) next := by
  cases step with
  | bind => exact h.keep rfl rfl rfl rfl
  | complete => exact h.keep rfl rfl rfl rfl
  | lose => exact h.keep rfl rfl rfl rfl
  | @send caller now handler event able known =>
      refine h.post rfl rfl rfl ?_
      rw [loop_setLoop, hasAccepted, Loop.send_fst]
      by_cases haccepts : traffic.loop.accepts handler = true
      · rw [Loop.queue_send_of_accepts _ _ _ haccepts, if_pos haccepts]
      · have refused : traffic.loop.accepts handler = false := Bool.eq_false_iff.2 haccepts
        rw [Loop.send_of_not_accepts _ _ _ refused, if_neg haccepts, List.append_nil]
  | addTimer => exact h.keep rfl rfl rfl (Loop.queue_addTimer ..)
  | stopTimer => exact h.keep rfl rfl rfl (Loop.queue_stopTimer ..)
  | stopAddTimer =>
      exact h.keep rfl rfl rfl
        ((Loop.queue_addTimer ..).trans (Loop.queue_stopTimer ..))
  | filter => exact h.filter rfl rfl rfl rfl returns
  | filterFor => exact h.filter rfl rfl rfl rfl returns
  | remove => exact h.purge sound rfl rfl rfl rfl
  | removeBlocked => exact h.purge sound rfl rfl rfl rfl
  | stop =>
      refine h.keep rfl rfl rfl ?_
      show traffic.loop.requestStop.queue = traffic.loop.queue
      rw [Loop.requestStop_eq]
  | stopRefused => exact h.keep rfl rfl rfl rfl
  | resume => exact h.keep rfl rfl rfl rfl
  | resumeLost => exact h.keep rfl rfl rfl rfl
  | join => exact h.keep rfl rfl rfl rfl
  | leave => exact h.discard rfl rfl rfl rfl
  | fire => exact h.keep rfl rfl rfl rfl
  | deliver choosing untold undue oldest => exact h.deliver rfl rfl rfl oldest
  | again => exact h.keep rfl rfl rfl rfl
  | sleep => exact h.keep rfl rfl rfl rfl
  | wake => exact h.keep rfl rfl rfl rfl
  | endCallback => exact h.keep rfl rfl rfl rfl
  | failCallback => exact h.discard rfl rfl rfl rfl
  | exit => exact h.keep rfl rfl rfl rfl

/-! ## Runs -/

/-- The predicates of all filters have returned normally. -/
def FiltersReturn (past : List (Move ε × Answer ε)) : Prop :=
  ∀ step ∈ past, hasFailed step.2 = false

theorem Runs.balanced (runs : Runs past traffic) (returns : FiltersReturn past) :
    Balanced past traffic := by
  refine runs.induction (P := fun past traffic => FiltersReturn past -> Balanced past traffic)
    (fun new _ _ => balanced_nil (by rw [loop, start, new]; rfl)) ?_ returns
  intro past traffic move answer next runs step ih returns
  have hpast := ih fun step hmem => returns step (List.mem_append_left _ hmem)
  exact hpast.step runs.sound (returns _ (List.mem_append_right _ (List.mem_singleton_self _))) step

/-- How a step can take an event out of a queue. -/
inductive Takes (queue : List (QueuedEvent ε)) :
    Exit -> Move ε × Answer ε -> QueuedEvent ε -> Prop
  /-- The worker takes the oldest event, and delivers it. -/
  | deliver {now : Instant} {post : QueuedEvent ε} {rest : List (QueuedEvent ε)}
      (oldest : queue = post :: rest) :
      Takes queue .delivered (.round now, .round (.deliver post.handler (.event post.event))) post
  /-- The predicate of a filter that looks at the queue has returned true for the event. -/
  | filter {caller : Remover} {now : Instant} {visit : Visit (List (QueuedEvent ε)) ε}
      {answer : Answer ε} {post : QueuedEvent ε} (picked : post ∈ visit.picked [] queue) :
      Takes queue .filtered (.call caller now (.filter visit), answer) post
  | filterFor {caller : Remover} {now : Instant} {handler : HandlerId}
      {visit : Visit (List (QueuedEvent ε)) ε} {answer : Answer ε} {post : QueuedEvent ε}
      (picked : post ∈ (visit.onlyFor handler).picked [] queue) :
      Takes queue .filtered (.call caller now (.filterFor handler visit), answer) post
  /-- The handler of the event is removed. -/
  | purge {caller : Remover} {now : Instant} {answer : Answer ε} {post : QueuedEvent ε}
      (waits : post ∈ queue) :
      Takes queue .purged (.call caller now (.remove post.handler), answer) post
  | discard {now : Instant} {farewell : Farewell ε} {post : QueuedEvent ε}
      (waits : post ∈ queue) : Takes queue .discarded (.round now, .round (.leave farewell)) post
  | fail {message : String} {answer : Answer ε} {post : QueuedEvent ε} (waits : post ∈ queue) :
      Takes queue .discarded (.endCallback (some message), answer) post

theorem gone_eq_picked {queue : List (QueuedEvent ε)} {visit : Visit (List (QueuedEvent ε)) ε}
    (returns : hasFailed (.filtered (Filtering.scan visit [] [] [] queue)) = false) :
    (Filtering.scan visit [] [] [] queue).gone = visit.picked [] queue := by
  cases hscan : Filtering.scan visit [] [] [] queue with
  | failed state lost =>
      rw [hscan] at returns
      cases returns
  | done state taken kept => exact (Filtering.eq_of_scan_done hscan).1

theorem mem_purged {loop : Loop ε} {handler : HandlerId} {remover : Remover}
    {post : QueuedEvent ε}
    (hmem : post ∈ (((loop.beginRemoval handler remover).1.map (·.purged)).getD [])) :
    post ∈ loop.queue ∧ post.handler = handler := by
  by_cases hremoved : loop.stateOf handler = .removed
  · rw [Loop.beginRemoval_of_removed _ hremoved] at hmem
    exact absurd hmem List.not_mem_nil
  · rw [Loop.beginRemoval_eq _ hremoved] at hmem
    obtain ⟨hqueue, hown⟩ := List.mem_filter.1 hmem
    exact ⟨hqueue, by simpa using hown⟩

/-- A step can take out what it answers that it has taken out. -/
theorem Step.takes (step : Step traffic move answer next) (returns : hasFailed answer = false)
    {exit : Exit} {post : QueuedEvent ε} (hmem : post ∈ outgoing exit answer) :
    Takes traffic.loop.queue exit (move, answer) post := by
  obtain ⟨posts, htaken, hpost⟩ := mem_outgoing hmem
  cases step with
  | filter =>
      cases htaken
      exact .filter (gone_eq_picked returns ▸ hpost)
  | filterFor =>
      cases htaken
      exact .filterFor (gone_eq_picked returns ▸ hpost)
  | remove =>
      cases htaken
      obtain ⟨hqueue, rfl⟩ := mem_purged hpost
      exact .purge hqueue
  | removeBlocked =>
      cases htaken
      obtain ⟨hqueue, rfl⟩ := mem_purged hpost
      exact .purge hqueue
  | leave =>
      cases htaken
      exact .discard hpost
  | deliver choosing untold undue oldest =>
      cases htaken
      obtain rfl := List.mem_singleton.1 hpost
      exact .deliver oldest
  | failCallback =>
      cases htaken
      exact .fail hpost
  | _ => cases htaken

/-- Every event that was posted in a run has one fate. -/
structure Accounted (past : List (Move ε × Answer ε)) (traffic : Traffic ε) : Prop where
  /-- Each post has one entry in the ledger, in the order of the posts, and it is rejected
  there if and only if it was rejected. -/
  posts : ((ledger past).map fun entry => (entry.post, decide (entry.fate ≠ .rejected))) =
    past.flatMap posted
  /-- An event is rejected if and only if the loop has been told to quit, or the removal of
  the handler has begun. -/
  rejected : ∀ number caller now handler event answer,
    past[number]? = some (.call caller now (.send handler event), answer) ->
      ∃ before, Runs (past.take number) before ∧
        (hasAccepted answer = false ↔ before.loop.quit = true ∨
          before.loop.stateOf handler = .removing ∨ before.loop.stateOf handler = .removed)
  /-- The queued events are those that the queue holds, in its order. -/
  queued : Entry.posts (ledger past) (· = .queued) = traffic.loop.queue
  /-- The events that have left in a step are those that the step has taken out. -/
  left : ∀ number step, past[number]? = some step -> ∀ exit,
    Entry.posts (ledger past) (· = .left exit number) = outgoing exit step.2
  /-- Each event that has left was taken out by a step that could take it. -/
  taken : ∀ entry ∈ ledger past, ∀ exit number, entry.fate = .left exit number ->
    ∃ step before, past[number]? = some step ∧ Runs (past.take number) before ∧
      Takes before.loop.queue exit step entry.post
  /-- Of two events that have been delivered, the one that was posted first was first. -/
  order : (ledger past).Pairwise fun earlier later => ∀ first second,
    earlier.fate = .left .delivered first -> later.fate = .left .delivered second ->
      first < second
  /-- What has been delivered, and then the queue, are in the order of acceptance. -/
  fifo : ((past.flatMap fun step => outgoing .delivered step.2) ++ traffic.loop.queue).Sublist
    (((past.flatMap posted).filter (·.2)).map (·.1))

/-- No event is lost or doubled, and none overtakes another. -/
theorem every_event_has_one_fate (runs : Runs past traffic) (returns : FiltersReturn past) :
    Accounted past traffic := by
  have balanced := runs.balanced returns
  refine ⟨balanced.posts, ?_, balanced.queued, balanced.left, ?_, ?_, ?_⟩
  · intro number caller now handler event answer hstep
    obtain ⟨before, next, hbefore, step⟩ := runs.exists_before hstep
    refine ⟨before, hbefore, ?_⟩
    cases step
    rw [hasAccepted, Loop.send_fst, ← Bool.not_eq_true, Loop.accepts_iff]
    cases before.loop.quit <;> cases before.loop.stateOf handler <;> decide
  · intro entry hmem exit number hfate
    have hlt := balanced.bounded entry hmem exit number hfate
    have hstep := List.getElem?_eq_getElem hlt
    generalize past[number] = step at hstep
    obtain ⟨move, answer⟩ := step
    obtain ⟨before, next, hbefore, step⟩ := runs.exists_before hstep
    have hout : entry.post ∈ outgoing exit answer := by
      rw [← balanced.left number _ hstep exit]
      exact List.mem_map_of_mem (List.mem_filter.2 ⟨hmem, by simpa using hfate⟩)
    have hreturns := returns _ (List.mem_of_getElem? hstep)
    exact ⟨_, before, hstep, hbefore, step.takes hreturns hout⟩
  · refine balanced.ordered.imp fun hfollows first second hfirst hsecond => ?_
    rw [hfirst, hsecond] at hfollows
    exact hfollows
  · rw [← balanced.posts, ← balanced.delivered, ← balanced.queued]
    have accepted := Entry.posts_eq_filter_map (ledger past) (· ≠ .rejected)
    rw [← accepted]
    exact Entry.sublist_of_ordered balanced.ordered

theorem fates_of_six_events :
    ∃ (past : List (Move Nat × Answer Nat)) (traffic : Traffic Nat),
      Runs past traffic ∧ FiltersReturn past ∧
      (ledger past).map (·.fate) =
        [.left .delivered 7, .left .purged 10, .left .filtered 9, .left .purged 10, .queued,
          .rejected] ∧
      Accounted past traffic := by
  have check : ((start ⟨"worker", .new, .choosing, none, ⟨"worker", none, some ()⟩⟩).moves?
      [.bind ⟨0⟩ .alive, .bind ⟨1⟩ .alive, .call (.thread ⟨1⟩) .first (.send ⟨0⟩ (1 : Nat)),
        .call (.thread ⟨1⟩) .first (.send ⟨1⟩ 2), .call (.thread ⟨1⟩) .first (.send ⟨0⟩ 3),
        .call (.thread ⟨1⟩) .first (.send ⟨1⟩ 4), .call (.thread ⟨1⟩) .first (.send ⟨0⟩ 5),
        .round .first, .endCallback none,
        .call (.thread ⟨1⟩) .first (.filter fun seen post => (some (post.event = 3), seen)),
        .call (.thread ⟨1⟩) .first (.remove ⟨1⟩),
        .call (.thread ⟨1⟩) .first (.send ⟨1⟩ 6)]).any (fun run =>
      run.1.all (fun step => !hasFailed step.2) && (ledger run.1).map (·.fate) =
        [.left .delivered 7, .left .purged 10, .left .filtered 9, .left .purged 10, .queued,
          .rejected]) = true := by
    decide
  simp only [Option.any_eq_true, Bool.and_eq_true, decide_eq_true_eq, List.all_eq_true,
    Bool.not_eq_true'] at check
  obtain ⟨⟨past, traffic⟩, made, returns, fates⟩ := check
  have runs : Runs past traffic := runs_of_moves? "worker" none _ rfl made
  exact ⟨past, traffic, runs, returns, fates, every_event_has_one_fate runs returns⟩

end Traffic

end Reactor
