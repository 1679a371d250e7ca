import Reactor.Loop.Basic
import Reactor.Proofs.Loop.Unpicked

/-!
# What a filter shows to its predicate

A predicate may carry a state from one call to the next, so what it answers depends
on how often it is called, and in which order.  A filter that comes to its end has
shown it the queued events one by one in the order of the queue, each of them once,
and a handler that filters its own events has shown it these alone.  The events that
it has picked are gone, and the others are left in their order.
-/

namespace Reactor

/-- A call of a predicate: what it was shown, and whether it has picked it. -/
structure Look (ε : Type) where
  entry : QueuedEvent ε
  isPicked : Bool

namespace Look

variable {ε : Type}

def picked (looks : List (Look ε)) : List (QueuedEvent ε) :=
  (looks.filter fun look => look.isPicked).map (·.entry)

def spared (looks : List (Look ε)) : List (QueuedEvent ε) :=
  (looks.filter fun look => !look.isPicked).map (·.entry)

theorem picked_cons (look : Look ε) (looks : List (Look ε)) :
    picked (look :: looks) = if look.isPicked then look.entry :: picked looks else picked looks := by
  unfold picked
  rw [List.filter_cons]
  split <;> rfl

theorem spared_cons (look : Look ε) (looks : List (Look ε)) :
    spared (look :: looks) = if look.isPicked then spared looks else look.entry :: spared looks := by
  unfold spared
  rw [List.filter_cons]
  cases look.isPicked <;> rfl

theorem length_picked (looks : List (Look ε)) :
    (picked looks).length = looks.countP fun look => look.isPicked := by
  unfold picked
  rw [List.length_map, List.countP_eq_length_filter]

theorem mem_spared {looks : List (Look ε)} {entry : QueuedEvent ε} :
    entry ∈ spared looks ↔ ⟨entry, false⟩ ∈ looks := by
  simp only [spared, List.mem_map, List.mem_filter, Bool.not_eq_true']
  constructor
  · rintro ⟨⟨entry, isPicked⟩, ⟨hmem, rfl⟩, rfl⟩
    exact hmem
  · intro hmem
    exact ⟨_, ⟨hmem, rfl⟩, rfl⟩

theorem picked_of_forall {looks : List (Look ε)} (h : ∀ look ∈ looks, look.isPicked = false) :
    picked looks = [] := by
  unfold picked
  rw [List.filter_eq_nil_iff.2 fun look hmem => by simp [h look hmem], List.map_nil]

theorem spared_of_forall {looks : List (Look ε)} (h : ∀ look ∈ looks, look.isPicked = false) :
    spared looks = looks.map (·.entry) := by
  unfold spared
  rw [List.filter_eq_self.2 fun look hmem => by simp [h look hmem]]

end Look

namespace Visit

variable {σ ε : Type} {visit : Visit σ ε} {state final : σ} {looks : List (Look ε)}
  {queue : List (QueuedEvent ε)} {handler : HandlerId} {p : QueuedEvent ε -> Bool}

/-- The calls, one after the other, to which the predicate gives these answers; it is in the state
`final` after them. -/
inductive Looks (visit : Visit σ ε) : σ -> List (Look ε) -> σ -> Prop
  | nil (state : σ) : Looks visit state [] state
  | cons {state next final : σ} {look : Look ε} {looks : List (Look ε)} :
      visit state look.entry = (some look.isPicked, next) -> Looks visit next looks final ->
      Looks visit state (look :: looks) final

/-- The same predicate, with a list of the calls that it has answered. -/
def recorded (visit : Visit σ ε) : Visit (σ × List (Look ε)) ε :=
  fun (state, looks) entry =>
    match visit state entry with
    | (some isPicked, state) => (some isPicked, state, looks ++ [⟨entry, isPicked⟩])
    | (none, state) => (none, state, looks)

/-- The answers for these events depend on the events alone. -/
def Judges (visit : Visit σ ε) (p : QueuedEvent ε -> Bool) (queue : List (QueuedEvent ε)) : Prop :=
  ∀ entry ∈ queue, ∀ state, (visit state entry).1 = some (p entry)

/-- A predicate that does not fail answers one call for each event. -/
theorem exists_looks (returns : visit.fails state queue = false) :
    ∃ looks final, looks.map (·.entry) = queue ∧ visit.Looks state looks final := by
  induction queue generalizing state with
  | nil => exact ⟨[], state, rfl, .nil state⟩
  | cons entry rest ih =>
      unfold fails at returns
      split at returns
      · next isPicked next hvisit =>
          obtain ⟨looks, final, rfl, hlooks⟩ := ih returns
          exact ⟨⟨entry, isPicked⟩ :: looks, final, rfl, .cons hvisit hlooks⟩
      · cases returns

theorem Looks.recorded (h : visit.Looks state looks final) (before : List (Look ε)) :
    visit.recorded.Looks (state, before) looks (final, before ++ looks) := by
  induction h generalizing before with
  | nil state =>
      rw [List.append_nil]
      exact .nil _
  | @cons state next final look looks hvisit _ ih =>
      have hrecorded : visit.recorded (state, before) look.entry =
          (some look.isPicked, next, before ++ [look]) := by
        simp only [Visit.recorded, hvisit]
      have hrest := ih (before ++ [look])
      rw [List.append_assoc] at hrest
      exact .cons hrecorded hrest

/-- With the events of one handler only, the predicate is shown these, and no other is picked. -/
theorem looks_onlyFor_iff :
    (visit.onlyFor handler).Looks state looks final ↔
      visit.Looks state (looks.filter fun look => look.entry.handler = handler) final ∧
        ∀ look ∈ looks, look.entry.handler ≠ handler -> look.isPicked = false := by
  induction looks generalizing state with
  | nil =>
      constructor
      · rintro ⟨⟩
        exact ⟨.nil _, fun _ hmem => absurd hmem List.not_mem_nil⟩
      · rintro ⟨⟨⟩, -⟩
        exact .nil _
  | cons look looks ih =>
      rw [List.filter_cons, List.forall_mem_cons]
      by_cases mine : look.entry.handler = handler
      · have asked : ∀ state, visit.onlyFor handler state look.entry = visit state look.entry :=
          fun state => if_pos mine
        rw [if_pos (decide_eq_true mine)]
        constructor
        · rintro (_ | ⟨hvisit, hlooks⟩)
          rw [asked] at hvisit
          obtain ⟨own, others⟩ := ih.1 hlooks
          exact ⟨.cons hvisit own, fun theirs => absurd mine theirs, others⟩
        · rintro ⟨_ | ⟨hvisit, own⟩, -, others⟩
          rw [← asked] at hvisit
          exact .cons hvisit (ih.2 ⟨own, others⟩)
      · have passed : ∀ state, visit.onlyFor handler state look.entry = (some false, state) :=
          fun state => if_neg mine
        rw [if_neg (by simpa using mine)]
        constructor
        · rintro (_ | ⟨hvisit, hlooks⟩)
          rw [passed] at hvisit
          obtain ⟨hpicked, rfl⟩ := Prod.mk.inj hvisit
          obtain ⟨own, others⟩ := ih.1 hlooks
          exact ⟨own, fun _ => (Option.some.inj hpicked).symm, others⟩
        · rintro ⟨own, unpicked, others⟩
          refine .cons ?_ (ih.2 ⟨own, others⟩)
          rw [passed, unpicked mine]

theorem Looks.isPicked_eq (h : visit.Looks state looks final)
    (judges : visit.Judges p (looks.map (·.entry))) :
    ∀ look ∈ looks, look.isPicked = p look.entry := by
  induction h with
  | nil => exact fun _ hmem => absurd hmem List.not_mem_nil
  | @cons state next final look looks hvisit _ ih =>
      obtain ⟨answers, judges⟩ := List.forall_mem_cons.1 judges
      have answer := answers state
      rw [hvisit] at answer
      exact List.forall_mem_cons.2 ⟨Option.some.inj answer, ih judges⟩

theorem Judges.returns (judges : visit.Judges p queue) : visit.fails state queue = false := by
  induction queue generalizing state with
  | nil => rfl
  | cons entry rest ih =>
      obtain ⟨answers, judges⟩ := List.forall_mem_cons.1 judges
      have answer := answers state
      unfold fails
      split
      · exact ih judges
      · next hvisit =>
          rw [hvisit] at answer
          cases answer

theorem Judges.onlyFor
    (judges : visit.Judges p (queue.filter fun entry => entry.handler = handler)) :
    (visit.onlyFor handler).Judges (fun entry => entry.handler = handler && p entry) queue := by
  intro entry hmem state
  unfold Visit.onlyFor
  split
  · next mine =>
      rw [judges entry (List.mem_filter.2 ⟨hmem, decide_eq_true mine⟩) state]
      simp [mine]
  · next theirs => simp [theirs]

end Visit

namespace Filtering

variable {σ ε : Type} {visit : Visit σ ε} {state final : σ} {looks : List (Look ε)}

theorem scan_of_looks (h : visit.Looks state looks final) (taken kept : List (QueuedEvent ε)) :
    scan visit state taken kept (looks.map (·.entry)) =
      .done final (taken ++ Look.picked looks) (kept ++ Look.spared looks) := by
  induction h generalizing taken kept with
  | nil state => simp [scan, Look.picked, Look.spared]
  | @cons state next final look looks hvisit _ ih =>
      rw [Look.picked_cons, Look.spared_cons, List.map_cons, scan, hvisit]
      cases look.isPicked with
      | true => simpa using ih (taken ++ [look.entry]) kept
      | false => simpa using ih taken (kept ++ [look.entry])

end Filtering

namespace Loop

variable {σ ε : Type} {loop : Loop ε} {visit : Visit σ ε} {state final : σ}
  {looks : List (Look ε)} {handler : HandlerId} {p : QueuedEvent ε -> Bool}

/-- What is left of a loop, and what is taken out of it, by calls that show all of its queue. -/
def sieve (loop : Loop ε) (final : σ) (looks : List (Look ε)) : Filtering σ ε × Loop ε :=
  (.done final (Look.picked looks) (Look.spared looks), { loop with queue := Look.spared looks })

theorem filter_eq_sieve (all : looks.map (·.entry) = loop.queue)
    (h : visit.Looks state looks final) : loop.filter visit state = loop.sieve final looks := by
  have hscan := Filtering.scan_of_looks h [] []
  rw [all, List.nil_append, List.nil_append] at hscan
  unfold Loop.filter LoopState.filter sieve
  rw [hscan]
  rfl

theorem filter_again (judges : visit.Judges p loop.queue) (state state' : σ) :
    ∃ final, (loop.filter visit state).2.filter visit state' =
      (.done final [] (loop.filter visit state).2.queue, (loop.filter visit state).2) := by
  have returns : visit.fails state loop.queue = false := judges.returns
  obtain ⟨looks, final, all, hlooks⟩ := Visit.exists_looks returns
  rw [filter_eq_sieve all hlooks]
  rw [← all] at judges
  have judges' : visit.Judges p (Look.spared looks) := fun entry hspared =>
    judges entry (List.mem_map_of_mem (Look.mem_spared.1 hspared))
  have returns' : visit.fails state' (Look.spared looks) = false := judges'.returns
  obtain ⟨looks', final', all', hlooks'⟩ := Visit.exists_looks returns'
  rw [← all'] at judges'
  -- The second time the predicate is shown what it has not picked the first time.
  have none_picked : ∀ look ∈ looks', look.isPicked = false := by
    intro look hmem
    have hspared : look.entry ∈ Look.spared looks := all' ▸ List.mem_map_of_mem hmem
    rw [hlooks'.isPicked_eq judges' look hmem]
    exact (hlooks.isPicked_eq judges _ (Look.mem_spared.1 hspared)).symm
  have hagain : (loop.sieve final looks).2.filter visit state' =
      (loop.sieve final looks).2.sieve final' looks' := filter_eq_sieve all' hlooks'
  refine ⟨final', ?_⟩
  rw [hagain]
  unfold sieve
  rw [Look.picked_of_forall none_picked, Look.spared_of_forall none_picked, all']

/-- What the filters of a loop show to their predicates, and what becomes of the queue. -/
structure ShowsOnce (loop : Loop ε) : Prop where
  /-- The predicate is called once for each event, in the order of the queue. -/
  all : ∀ (σ : Type) (visit : Visit σ ε) (state : σ), visit.fails state loop.queue = false ->
    ∃ looks final, looks.map (·.entry) = loop.queue ∧ visit.Looks state looks final ∧
      loop.filter visit state = loop.sieve final looks ∧
      loop.filter visit.recorded (state, []) = loop.sieve (final, looks) looks ∧
      (loop.filter visit state).1.gone.length = looks.countP fun look => look.isPicked
  /-- That of a handler is called once for each of its own events, in the order of the queue, and
  for no event of another handler; none of those is picked. -/
  own : ∀ (σ : Type) (handler : HandlerId) (visit : Visit σ ε) (state : σ),
    visit.fails state (loop.queue.filter fun entry => entry.handler = handler) = false ->
    ∃ looks verdicts final,
      looks.map (·.entry) = (loop.queue.filter fun entry => entry.handler = handler) ∧
      visit.Looks state looks final ∧
      verdicts.map (·.entry) = loop.queue ∧
      (verdicts.filter fun look => look.entry.handler = handler) = looks ∧
      (∀ look ∈ verdicts, look.entry.handler ≠ handler -> look.isPicked = false) ∧
      loop.filterFor handler visit state = loop.sieve final verdicts ∧
      loop.filterFor handler visit.recorded (state, []) = loop.sieve (final, looks) verdicts ∧
      (loop.filterFor handler visit state).1.gone.length = looks.countP fun look => look.isPicked
  /-- Where the answers depend on the events alone, there is nothing to delete a second time. -/
  again : ∀ (σ : Type) (visit : Visit σ ε) (p : QueuedEvent ε -> Bool) (state state' : σ),
    visit.Judges p loop.queue ->
    ∃ final, (loop.filter visit state).2.filter visit state' =
      (.done final [] (loop.filter visit state).2.queue, (loop.filter visit state).2)
  ownAgain : ∀ (σ : Type) (handler : HandlerId) (visit : Visit σ ε) (p : QueuedEvent ε -> Bool)
      (state state' : σ),
    visit.Judges p (loop.queue.filter fun entry => entry.handler = handler) ->
    ∃ final, (loop.filterFor handler visit state).2.filterFor handler visit state' =
      (.done final [] (loop.filterFor handler visit state).2.queue,
        (loop.filterFor handler visit state).2)

theorem filter_shows_each_event_once (loop : Loop ε) : loop.ShowsOnce where
  all σ visit state returns := by
    obtain ⟨looks, final, all, hlooks⟩ := Visit.exists_looks returns
    have hfilter := filter_eq_sieve all hlooks
    refine ⟨looks, final, all, hlooks, hfilter, filter_eq_sieve all (hlooks.recorded []), ?_⟩
    rw [hfilter]
    exact Look.length_picked looks
  own σ handler visit state returns := by
    rw [← Visit.fails_onlyFor] at returns
    obtain ⟨verdicts, final, all, hverdicts⟩ := Visit.exists_looks returns
    obtain ⟨hlooks, others⟩ := Visit.looks_onlyFor_iff.1 hverdicts
    have hfilter : loop.filterFor handler visit state = loop.sieve final verdicts :=
      filter_eq_sieve all hverdicts
    have hrecorded := Visit.looks_onlyFor_iff.2 ⟨hlooks.recorded [], others⟩
    refine ⟨_, verdicts, final, ?_, hlooks, all, rfl, others, hfilter,
      filter_eq_sieve all hrecorded, ?_⟩
    · rw [← all, List.filter_map]
      rfl
    · -- Those that are picked are all among the handler's own.
      rw [hfilter, List.countP_filter]
      refine (Look.length_picked verdicts).trans (List.countP_congr fun look hmem => ?_)
      by_cases mine : look.entry.handler = handler
      · simp [mine]
      · simp [mine, others look hmem mine]
  again σ visit p state state' judges := filter_again judges state state'
  ownAgain σ handler visit p state state' judges := filter_again judges.onlyFor state state'

/-- A predicate that picks every second event it is shown. -/
example :
    let loop : Loop Nat := { (Loop.new : Loop Nat) with queue := [⟨⟨0⟩, 5⟩, ⟨⟨1⟩, 6⟩, ⟨⟨0⟩, 7⟩, ⟨⟨0⟩, 8⟩] }
    let visit : Visit Bool Nat := fun odd _ => (some odd, !odd)
    (loop.filter visit false).2.queue = [⟨⟨0⟩, 5⟩, ⟨⟨0⟩, 7⟩] ∧
      (loop.filterFor ⟨0⟩ visit false).2.queue = [⟨⟨0⟩, 5⟩, ⟨⟨1⟩, 6⟩, ⟨⟨0⟩, 8⟩] :=
  ⟨rfl, rfl⟩

end Loop

end Reactor
