import Reactor.EventLoop.Traffic

/-!
# The ledger of a run

The ledger has one entry for every event that was posted in a run, in the order
in which the events were posted, and says what has become of each.  It is written
from the moves of the run and not from the queue: a filter, for instance, looks at
the events that the ledger says are queued, and strikes out those that its
predicate picks.
-/

namespace Reactor

/-- How an event leaves the queue. -/
inductive Exit where
  | delivered
  | filtered
  | purged
  /-- The worker has left without delivering it. -/
  | discarded
  deriving DecidableEq

/-- What has become of an event that was posted. -/
inductive Fate where
  | rejected
  | queued
  /-- The event has left the queue, in the step of the run that has this number. -/
  | left (exit : Exit) (step : Nat)
  deriving DecidableEq

namespace Fate

/-- Of two posted events, the fate of the later against the fate of the earlier: it is
not delivered while the earlier is queued, nor in an earlier step. -/
def Follows : Fate -> Fate -> Prop
  | .left .delivered second, .left .delivered first => first < second
  | .left .delivered _, .queued => False
  | _, _ => True

theorem follows_of_ne_delivered {later earlier : Fate}
    (h : ∀ step, later ≠ .left .delivered step) : later.Follows earlier := by
  cases later with
  | rejected => trivial
  | queued => trivial
  | left exit step =>
      cases exit with
      | delivered => exact absurd rfl (h step)
      | filtered => trivial
      | purged => trivial
      | discarded => trivial

theorem follows_left_of_follows_queued {later : Fate} (h : later.Follows .queued) (exit : Exit)
    (step : Nat) : later.Follows (.left exit step) := by
  refine follows_of_ne_delivered ?_
  rintro second rfl
  exact h

def isDelivered : Fate -> Bool
  | .left .delivered _ => true
  | _ => false

end Fate

structure Entry (ε : Type) where
  post : QueuedEvent ε
  fate : Fate

namespace Visit

variable {σ ε : Type}

/-- The events that a visit picks, when it looks at all of them in order. -/
def picked (visit : Visit σ ε) : σ -> List (QueuedEvent ε) -> List (QueuedEvent ε)
  | _, [] => []
  | state, post :: rest =>
      if (visit state post).1 = some true then
        post :: visit.picked (visit state post).2 rest
      else
        visit.picked (visit state post).2 rest

def spared (visit : Visit σ ε) : σ -> List (QueuedEvent ε) -> List (QueuedEvent ε)
  | _, [] => []
  | state, post :: rest =>
      if (visit state post).1 = some true then
        visit.spared (visit state post).2 rest
      else
        post :: visit.spared (visit state post).2 rest

/-- Pick the first event only. -/
def oldest : Visit Bool ε :=
  fun fresh _ => (some fresh, false)

/-- Pick the events that have a property. -/
def those (p : QueuedEvent ε -> Bool) : Visit Unit ε :=
  fun _ post => (some (p post), ())

theorem picked_oldest (post : QueuedEvent ε) (rest : List (QueuedEvent ε)) :
    oldest.picked true (post :: rest) = [post] := by
  have none_later : ∀ rest : List (QueuedEvent ε), oldest.picked false rest = [] := by
    intro rest
    induction rest with
    | nil => rfl
    | cons post rest ih => exact ih
  exact congrArg (post :: ·) (none_later rest)

theorem spared_oldest (post : QueuedEvent ε) (rest : List (QueuedEvent ε)) :
    oldest.spared true (post :: rest) = rest := by
  show oldest.spared false rest = rest
  induction rest with
  | nil => rfl
  | cons post rest ih => exact congrArg (post :: ·) ih

theorem picked_those (p : QueuedEvent ε -> Bool) (posts : List (QueuedEvent ε)) :
    (those p).picked () posts = posts.filter p := by
  induction posts with
  | nil => rfl
  | cons post rest ih =>
      rw [List.filter_cons, ← ih]
      cases hp : p post <;> simp [picked, those, hp]

theorem spared_those (p : QueuedEvent ε -> Bool) (posts : List (QueuedEvent ε)) :
    (those p).spared () posts = posts.filter fun post => !p post := by
  induction posts with
  | nil => rfl
  | cons post rest ih =>
      rw [List.filter_cons, ← ih]
      cases hp : p post <;> simp [spared, those, hp]

end Visit

/-- A filtering that has come to its end has taken what its visit picks. -/
theorem Filtering.eq_of_scan_done {σ ε : Type} {visit : Visit σ ε} {state final : σ}
    {taken kept queue gone stay : List (QueuedEvent ε)}
    (h : scan visit state taken kept queue = .done final gone stay) :
    gone = taken ++ visit.picked state queue ∧ stay = kept ++ visit.spared state queue := by
  induction queue generalizing state taken kept with
  | nil =>
      cases h
      exact ⟨(List.append_nil _).symm, (List.append_nil _).symm⟩
  | cons post rest ih =>
      unfold scan at h
      split at h
      · next state' hpicked =>
          have hrest := ih h
          simpa [Visit.picked, Visit.spared, hpicked] using hrest
      · next state' hspared =>
          have hrest := ih h
          simpa [Visit.picked, Visit.spared, hspared] using hrest
      · cases h

namespace Entry

variable {σ ε β : Type} {exit : Exit} {step : Nat} {visit : Visit σ ε} {state : σ}
  {ledger : List (Entry ε)} {entry : Entry ε}

/-- Let a visit look at the queued events of a ledger; those it picks leave the queue. -/
def settle (exit : Exit) (step : Nat) (visit : Visit σ ε) :
    σ -> List (Entry ε) -> List (Entry ε)
  | _, [] => []
  | state, entry :: rest =>
      if entry.fate = .queued then
        (if (visit state entry.post).1 = some true then
            { entry with fate := .left exit step }
          else
            entry) :: settle exit step visit (visit state entry.post).2 rest
      else
        entry :: settle exit step visit state rest

/-- The posted events whose fate is as it is asked for. -/
def posts (ledger : List (Entry ε)) (p : Fate -> Bool) : List (QueuedEvent ε) :=
  (ledger.filter fun entry => p entry.fate).map (·.post)

theorem posts_eq_filter_map (ledger : List (Entry ε)) (p : Fate -> Bool) :
    posts ledger p =
      ((ledger.map fun entry => (entry.post, p entry.fate)).filter (·.2)).map (·.1) := by
  simp [posts, List.filter_map, Function.comp_def]

theorem posts_cons (p : Fate -> Bool) (entry : Entry ε) (rest : List (Entry ε)) :
    posts (entry :: rest) p =
      if p entry.fate then entry.post :: posts rest p else posts rest p := by
  unfold posts
  rw [List.filter_cons]
  split <;> rfl

theorem posts_append (p : Fate -> Bool) (front back : List (Entry ε)) :
    posts (front ++ back) p = posts front p ++ posts back p := by
  unfold posts
  rw [List.filter_append, List.map_append]

/-- What does not depend on whether an event has left is the same after a visit. -/
theorem map_settle (f : Entry ε -> β)
    (h : ∀ post, f ⟨post, .left exit step⟩ = f ⟨post, .queued⟩) :
    (settle exit step visit state ledger).map f = ledger.map f := by
  induction ledger generalizing state with
  | nil => rfl
  | cons entry rest ih =>
      obtain ⟨post, fate⟩ := entry
      unfold settle
      split
      · next waits =>
          obtain rfl : fate = .queued := waits
          rw [List.map_cons, List.map_cons, ih]
          split
          · rw [h]
          · rfl
      · rw [List.map_cons, List.map_cons, ih]

theorem posts_settle (p : Fate -> Bool) (h : p (.left exit step) = p .queued) :
    posts (settle exit step visit state ledger) p = posts ledger p := by
  rw [posts_eq_filter_map, posts_eq_filter_map, map_settle]
  intro post
  rw [h]

theorem posts_settle_queued :
    posts (settle exit step visit state ledger) (· = .queued) =
      visit.spared state (posts ledger (· = .queued)) := by
  induction ledger generalizing state with
  | nil => rfl
  | cons entry rest ih =>
      unfold settle
      split
      · next waits =>
          rw [posts_cons, posts_cons, ih]
          by_cases hpicked : (visit state entry.post).1 = some true <;>
            simp [waits, hpicked, Visit.spared]
      · next gone => simp [posts_cons, ih, gone]

/-- What leaves the queue in a step is what the visit picks. -/
theorem posts_settle_left (new : ∀ entry ∈ ledger, entry.fate ≠ .left exit step) :
    posts (settle exit step visit state ledger) (· = .left exit step) =
      visit.picked state (posts ledger (· = .queued)) := by
  induction ledger generalizing state with
  | nil => rfl
  | cons entry rest ih =>
      have hrest := @ih (visit state entry.post).2 fun other hmem => new other (.tail _ hmem)
      unfold settle
      split
      · next waits =>
          rw [posts_cons, posts_cons, hrest]
          by_cases hpicked : (visit state entry.post).1 = some true <;>
            simp [waits, hpicked, Visit.picked]
      · next gone =>
          have hentry := new entry (.head _)
          have hrest := @ih state fun other hmem => new other (.tail _ hmem)
          simp [posts_cons, hrest, gone, hentry]

theorem mem_settle (h : entry ∈ settle exit step visit state ledger) :
    entry ∈ ledger ∨ entry.fate = .left exit step ∧
      ∃ seen, (visit seen entry.post).1 = some true := by
  induction ledger generalizing state with
  | nil => exact .inl h
  | cons first rest ih =>
      unfold settle at h
      split at h
      · rcases List.mem_cons.1 h with rfl | h
        · split
          · next hpicked => exact .inr ⟨rfl, state, hpicked⟩
          · exact .inl (.head _)
        · exact (ih h).imp_left (.tail _)
      · rcases List.mem_cons.1 h with rfl | h
        · exact .inl (.head _)
        · exact (ih h).imp_left (.tail _)

/-- No event has been delivered while one that was posted before it was still queued. -/
def Ordered (ledger : List (Entry ε)) : Prop :=
  ledger.Pairwise fun earlier later => later.fate.Follows earlier.fate

theorem ordered_settle (h : Ordered ledger) (other : exit ≠ .delivered) :
    Ordered (settle exit step visit state ledger) := by
  -- Whatever followed an entry still follows it, also when it has left.
  have still : ∀ {earlier : Fate} {state : σ} {rest : List (Entry ε)},
      (∀ later ∈ rest, later.fate.Follows earlier) ->
        ∀ later ∈ settle exit step visit state rest, later.fate.Follows earlier := by
    intro earlier state rest hrest later hmem
    rcases mem_settle hmem with hold | ⟨hleft, -⟩
    · exact hrest later hold
    · rw [hleft]
      refine Fate.follows_of_ne_delivered fun step' same => ?_
      cases same
      exact other rfl
  induction ledger generalizing state with
  | nil => exact .nil
  | cons entry rest ih =>
      obtain ⟨hentry, hrest⟩ := List.pairwise_cons.1 h
      unfold settle
      split
      · next waits =>
          refine List.pairwise_cons.2 ⟨still fun later hmem => ?_, ih hrest⟩
          split
          · exact Fate.follows_left_of_follows_queued (waits ▸ hentry later hmem) exit step
          · exact hentry later hmem
      · exact List.pairwise_cons.2 ⟨still hentry, ih hrest⟩

theorem settle_append (front back : List (Entry ε)) (gone : ∀ entry ∈ front, entry.fate ≠ .queued) :
    settle exit step visit state (front ++ back) =
      front ++ settle exit step visit state back := by
  induction front with
  | nil => rfl
  | cons entry rest ih =>
      rw [List.cons_append, settle, if_neg (gone entry (.head _)),
        ih fun other hmem => gone other (.tail _ hmem), List.cons_append]

theorem settle_oldest_false (ledger : List (Entry ε)) :
    settle exit step Visit.oldest false ledger = ledger := by
  induction ledger with
  | nil => rfl
  | cons entry rest ih =>
      unfold settle
      split
      · exact congrArg (entry :: ·) ih
      · exact congrArg (entry :: ·) ih

/-- A delivery takes the first of the queued events. -/
theorem exists_oldest {post : QueuedEvent ε} {queue : List (QueuedEvent ε)}
    (h : posts ledger (· = .queued) = post :: queue) :
    ∃ front back, ledger = front ++ ⟨post, .queued⟩ :: back ∧
      (∀ entry ∈ front, entry.fate ≠ .queued) ∧ ∀ exit step,
        settle exit step Visit.oldest true ledger = front ++ ⟨post, .left exit step⟩ :: back := by
  obtain ⟨⟨post', fate⟩, rest, hfilter, rfl, -⟩ := List.map_eq_cons_iff.1 h
  obtain ⟨front, back, rfl, hfront, hfate, -⟩ := List.filter_eq_cons_iff.1 hfilter
  have gone : ∀ entry ∈ front, entry.fate ≠ .queued := by
    intro entry hmem
    simpa using hfront entry hmem
  obtain rfl : fate = .queued := by simpa using hfate
  refine ⟨front, back, rfl, gone, fun exit step => ?_⟩
  rw [settle_append _ _ gone, settle, if_pos rfl]
  exact congrArg (front ++ ⟨post', .left exit step⟩ :: ·) (settle_oldest_false back)

theorem ordered_deliver {post : QueuedEvent ε} {front back : List (Entry ε)}
    (h : Ordered (front ++ ⟨post, .queued⟩ :: back))
    (gone : ∀ entry ∈ front, entry.fate ≠ .queued)
    (new : ∀ entry ∈ front, ∀ exit number, entry.fate = .left exit number -> number < step) :
    Ordered (front ++ ⟨post, .left .delivered step⟩ :: back) := by
  obtain ⟨hfront, hback, hacross⟩ := List.pairwise_append.1 h
  obtain ⟨hpost, hback⟩ := List.pairwise_cons.1 hback
  refine List.pairwise_append.2 ⟨hfront, List.pairwise_cons.2 ⟨fun later hmem => ?_, hback⟩, ?_⟩
  · exact Fate.follows_left_of_follows_queued (hpost later hmem) .delivered step
  · intro earlier hearlier later hlater
    rcases List.mem_cons.1 hlater with rfl | hlater
    · cases hfate : earlier.fate with
      | rejected => trivial
      | queued => exact absurd hfate (gone earlier hearlier)
      | left exit number =>
          have hnew := new earlier hearlier exit number hfate
          cases exit with
          | delivered => exact hnew
          | filtered => trivial
          | purged => trivial
          | discarded => trivial
    · exact hacross earlier hearlier later (.tail _ hlater)

theorem posts_of_follows_queued {rest : List (Entry ε)}
    (h : ∀ later ∈ rest, later.fate.Follows .queued) : posts rest Fate.isDelivered = [] := by
  refine List.map_eq_nil_iff.2 (List.filter_eq_nil_iff.2 fun later hmem hlater => ?_)
  have hfollows := h later hmem
  unfold Fate.isDelivered at hlater
  split at hlater
  · next step hfate =>
      rw [hfate] at hfollows
      exact hfollows
  · cases hlater

/-- What has been delivered, and then what is queued, is in the order of the posts. -/
theorem sublist_of_ordered (h : Ordered ledger) :
    (posts ledger Fate.isDelivered ++ posts ledger (· = .queued)).Sublist
      (posts ledger (· ≠ .rejected)) := by
  induction ledger with
  | nil => exact .slnil
  | cons entry rest ih =>
      obtain ⟨post, fate⟩ := entry
      obtain ⟨hentry, hrest⟩ := List.pairwise_cons.1 h
      have hrest := ih hrest
      cases fate with
      | rejected => exact hrest
      | queued =>
          have none_later := posts_of_follows_queued hentry
          rw [none_later, List.nil_append] at hrest
          rw [posts_cons, posts_cons, posts_cons, none_later]
          exact hrest.cons_cons post
      | left exit step =>
          cases exit with
          | delivered => exact hrest.cons_cons post
          | filtered => exact hrest.cons post
          | purged => exact hrest.cons post
          | discarded => exact hrest.cons post

end Entry

namespace Traffic

variable {ε : Type}

def hasAccepted : Answer ε -> Bool
  | .sent accepted => accepted
  | _ => false

/-- What a step, of which the number is given, means for the ledger. -/
def record (number : Nat) (ledger : List (Entry ε)) : Move ε × Answer ε -> List (Entry ε)
  | (.call _ _ (.send handler event), answer) =>
      ledger ++ [⟨⟨handler, event⟩, if hasAccepted answer then .queued else .rejected⟩]
  | (.call _ _ (.filter visit), _) => Entry.settle .filtered number visit [] ledger
  | (.call _ _ (.filterFor handler visit), _) =>
      Entry.settle .filtered number (visit.onlyFor handler) [] ledger
  | (.call _ _ (.remove handler), _) =>
      Entry.settle .purged number (.those fun post => post.handler = handler) () ledger
  | (_, .round (.deliver _ (.event _))) => Entry.settle .delivered number .oldest true ledger
  | (_, .round (.leave _)) => Entry.settle .discarded number (.those fun _ => true) () ledger
  | (_, .ended _ _ (some _)) => Entry.settle .discarded number (.those fun _ => true) () ledger
  | _ => ledger

def ledger (past : List (Move ε × Answer ε)) : List (Entry ε) :=
  past.zipIdx.foldl (fun ledger step => record step.2 ledger step.1) []

theorem ledger_snoc (past : List (Move ε × Answer ε)) (step : Move ε × Answer ε) :
    ledger (past ++ [step]) = record past.length (ledger past) step := by
  unfold ledger
  rw [List.zipIdx_append, List.foldl_append]
  simp

/-- The event that a step posts, and whether it was accepted. -/
def posted : Move ε × Answer ε -> List (QueuedEvent ε × Bool)
  | (.call _ _ (.send handler event), answer) => [(⟨handler, event⟩, hasAccepted answer)]
  | _ => []

/-- How events have left the queue, and which, as an answer says it. -/
def takenOut : Answer ε -> Option (Exit × List (QueuedEvent ε))
  | .round (.deliver handler (.event event)) => some (.delivered, [⟨handler, event⟩])
  | .filtered filtering => some (.filtered, filtering.gone)
  | .removed removal => some (.purged, (removal.map (·.purged)).getD [])
  | .round (.leave farewell) => some (.discarded, farewell.discarded)
  | .ended _ _ (some farewell) => some (.discarded, farewell.discarded)
  | _ => none

/-- The events that an answer says have left the queue in one way. -/
def outgoing (exit : Exit) (answer : Answer ε) : List (QueuedEvent ε) :=
  match takenOut answer with
  | some (way, posts) => if way = exit then posts else []
  | none => []

theorem outgoing_of_none {answer : Answer ε} (h : takenOut answer = none) (exit : Exit) :
    outgoing exit answer = [] := by
  rw [outgoing, h]

theorem outgoing_of_some {answer : Answer ε} {way : Exit} {posts : List (QueuedEvent ε)}
    (h : takenOut answer = some (way, posts)) (exit : Exit) :
    outgoing exit answer = if way = exit then posts else [] := by
  rw [outgoing, h]

theorem mem_outgoing {answer : Answer ε} {exit : Exit} {post : QueuedEvent ε}
    (h : post ∈ outgoing exit answer) :
    ∃ posts, takenOut answer = some (exit, posts) ∧ post ∈ posts := by
  unfold outgoing at h
  split at h
  · next way posts htaken =>
      split at h
      · next same => exact ⟨posts, same ▸ htaken, h⟩
      · exact absurd h List.not_mem_nil
  · exact absurd h List.not_mem_nil

/-- Whether a filter has ended in a failure of its predicate. -/
def hasFailed : Answer ε -> Bool
  | .filtered (.failed _ _) => true
  | _ => false

end Traffic

end Reactor
