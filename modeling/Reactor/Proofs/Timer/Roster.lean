import Reactor.Proofs.Timer.Index

/-!
# Timers as a plain list

A roster lists the armed timers in the order in which they were armed, and has
no second form of them.  Whatever sequence of calls is made, a set of timers
gives the answers that the roster gives, and holds the same timers.
-/

namespace Reactor

/-- The armed timers of a loop, in the order in which they were armed. -/
structure Roster (ω : Type) where
  records : List (ArmedTimer ω)
  issued : Nat

inductive TimerCall (ω : Type) where
  | insert (owner : ω) (now : Instant) (interval : Duration) (mode : TimerMode)
  | erase (id : TimerId)
  | owner (id : TimerId)
  | eraseWhere (p : ω -> Bool)
  | popExpired (now : Instant)
  | clear
  | size
  | nextDeadline
  | isEmpty

inductive TimerAnswer (ω : Type) where
  | armed (id : TimerId) (earliest : Bool)
  | erased (found : Bool)
  | owner (owner : Option ω)
  | erasedWhere (count : Nat)
  | fired (taken : Option (TimerId × ω))
  | cleared
  | size (count : Nat)
  | deadline (deadline : Option Instant)
  | empty (isEmpty : Bool)

namespace Roster

variable {ω : Type}

def empty : Roster ω :=
  ⟨[], 0⟩

/-- The record that no other one comes before, by deadline and then by identifier. -/
def first? (roster : Roster ω) : Option (ArmedTimer ω) :=
  roster.records.find? fun record =>
    roster.records.all fun other => !decide (other.before record)

theorem minimal_of_first? {roster : Roster ω} {record : ArmedTimer ω}
    (h : roster.first? = some record) :
    record ∈ roster.records ∧ ∀ other ∈ roster.records, ¬ other.before record := by
  unfold first? at h
  refine ⟨List.mem_of_find?_eq_some h, fun other hmem => ?_⟩
  have hall := List.find?_some h
  simpa using List.all_eq_true.1 hall other hmem

theorem exists_before_of_first?_eq_none {roster : Roster ω} (h : roster.first? = none)
    {record : ArmedTimer ω} (hmem : record ∈ roster.records) :
    ∃ other ∈ roster.records, other.before record := by
  unfold first? at h
  simpa using List.find?_eq_none.1 h record hmem

/-- Append a record under the next identifier. -/
def insert (roster : Roster ω) (owner : ω) (now : Instant) (interval : Duration)
    (mode : TimerMode) : TimerId × Bool × Roster ω :=
  let record : ArmedTimer ω :=
    ⟨⟨owner, interval, mode⟩, ⟨roster.issued + 1⟩, now.deadlineAfter interval⟩
  (record.id, roster.records.all fun other => decide (record.deadline < other.deadline),
    ⟨roster.records ++ [record], roster.issued + 1⟩)

def erase (roster : Roster ω) (id : TimerId) : Bool × Roster ω :=
  (roster.records.any fun record => record.id = id,
    { roster with records := roster.records.filter fun record => record.id ≠ id })

def owner? (roster : Roster ω) (id : TimerId) : Option ω :=
  (roster.records.find? fun record => record.id = id).map (·.owner)

def eraseWhere (roster : Roster ω) (p : ω -> Bool) : Nat × Roster ω :=
  (roster.records.countP fun record => p record.owner,
    { roster with records := roster.records.filter fun record => !p record.owner })

/-- Date the record with an identifier anew, from the reading `now`. -/
def redate (roster : Roster ω) (id : TimerId) (now : Instant) : Roster ω :=
  { roster with
    records := roster.records.map fun record =>
      if record.id = id then record.rearm now else record }

def popExpired (roster : Roster ω) (now : Instant) : Option (TimerId × ω) × Roster ω :=
  match roster.first? with
  | none => (none, roster)
  | some record =>
      if record.deadline <= now then
        (some (record.id, record.owner),
          match record.mode with
          | .oneShot => (roster.erase record.id).2
          | .repeating => roster.redate record.id now)
      else
        (none, roster)

def clear (roster : Roster ω) : Roster ω :=
  { roster with records := [] }

def perform (roster : Roster ω) : TimerCall ω -> TimerAnswer ω × Roster ω
  | .insert owner now interval mode =>
      let (id, earliest, after) := roster.insert owner now interval mode
      (.armed id earliest, after)
  | .erase id => (.erased (roster.erase id).1, (roster.erase id).2)
  | .owner id => (.owner (roster.owner? id), roster)
  | .eraseWhere p => (.erasedWhere (roster.eraseWhere p).1, (roster.eraseWhere p).2)
  | .popExpired now => (.fired (roster.popExpired now).1, (roster.popExpired now).2)
  | .clear => (.cleared, roster.clear)
  | .size => (.size roster.records.length, roster)
  | .nextDeadline => (.deadline (roster.first?.map (·.deadline)), roster)
  | .isEmpty => (.empty roster.records.isEmpty, roster)

/-- The answers to a sequence of calls, and what is left after them. -/
def run (roster : Roster ω) : List (TimerCall ω) -> List (TimerAnswer ω) × Roster ω
  | [] => ([], roster)
  | call :: rest =>
      let (answer, after) := roster.perform call
      let (answers, last) := after.run rest
      (answer :: answers, last)

theorem answers_cons (roster : Roster ω) (call : TimerCall ω) (rest : List (TimerCall ω)) :
    (roster.run (call :: rest)).1 =
      (roster.perform call).1 :: ((roster.perform call).2.run rest).1 :=
  rfl

end Roster

namespace TimerSet

variable {ω : Type}

def perform (timers : TimerSet ω) : TimerCall ω -> TimerAnswer ω × TimerSet ω
  | .insert owner now interval mode =>
      let (id, earliest, after) := timers.insert owner now interval mode
      (.armed id earliest, after)
  | .erase id => (.erased (timers.erase id).1, (timers.erase id).2)
  | .owner id => (.owner (timers.owner? id), timers)
  | .eraseWhere p => (.erasedWhere (timers.eraseWhere p).1, (timers.eraseWhere p).2)
  | .popExpired now =>
      match timers.popExpired now with
      | some (taken, after) => (.fired (some taken), after)
      | none => (.fired none, timers)
  | .clear => (.cleared, timers.clear)
  | .size => (.size timers.size, timers)
  | .nextDeadline => (.deadline timers.nextDeadline, timers)
  | .isEmpty => (.empty timers.isEmpty, timers)

def run (timers : TimerSet ω) : List (TimerCall ω) -> List (TimerAnswer ω) × TimerSet ω
  | [] => ([], timers)
  | call :: rest =>
      let (answer, after) := timers.perform call
      let (answers, last) := after.run rest
      (answer :: answers, last)

/-! ## What refinement is -/

/-- A set of timers in good order holds what a roster holds. -/
structure Refines (timers : TimerSet ω) (roster : Roster ω) : Prop where
  indexed : timers.Indexed
  ordered : timers.Ordered
  records : timers.agenda.Perm roster.records
  issued : timers.issued = roster.issued

theorem refines_empty : (empty : TimerSet ω).Refines .empty :=
  ⟨indexed_empty, ordered_empty, .refl _, rfl⟩

section Refines

variable {timers : TimerSet ω} {roster : Roster ω} (h : timers.Refines roster)
include h

/-- The first record of the roster is the head of the agenda. -/
theorem Refines.first?_eq : roster.first? = timers.agenda.head? := by
  cases hagenda : timers.agenda with
  | nil =>
      have hrecords := h.records
      rw [hagenda, List.nil_perm] at hrecords
      unfold Roster.first?
      rw [hrecords]
      rfl
  | cons timer rest =>
      have ordered := h.ordered
      unfold Ordered at ordered
      rw [hagenda, List.pairwise_cons] at ordered
      have minimal : ∀ other ∈ timers.agenda, ¬ other.before timer := by
        rw [hagenda]
        intro other hmem
        rcases List.mem_cons.1 hmem with rfl | hmem
        · exact fun hbefore => ArmedTimer.not_before_of_before hbefore hbefore
        · exact ordered.1 other hmem
      have hmem : timer ∈ timers.agenda := hagenda ▸ .head _
      cases hfirst : roster.first? with
      | none =>
          obtain ⟨other, hother, hbefore⟩ :=
            Roster.exists_before_of_first?_eq_none hfirst (h.records.mem_iff.1 hmem)
          exact absurd hbefore (minimal other (h.records.mem_iff.2 hother))
      | some record =>
          obtain ⟨hrecord, hfirst⟩ := Roster.minimal_of_first? hfirst
          have hrecord := h.records.mem_iff.2 hrecord
          have same : record.id = timer.id :=
            ArmedTimer.id_eq_of_not_before (minimal record hrecord)
              (hfirst timer (h.records.mem_iff.1 hmem))
          rw [h.indexed.eq_of_id_eq hrecord hmem same, List.head?_cons]

/-! ## Calls -/

theorem Refines.insert (owner : ω) (now : Instant) (interval : Duration) (mode : TimerMode) :
    (timers.insert owner now interval mode).1 = (roster.insert owner now interval mode).1 ∧
    (timers.insert owner now interval mode).2.1 = (roster.insert owner now interval mode).2.1 ∧
    (timers.insert owner now interval mode).2.2.Refines
      (roster.insert owner now interval mode).2.2 := by
  have hid : timers.newcomer owner now interval mode =
      ⟨⟨owner, interval, mode⟩, ⟨roster.issued + 1⟩, now.deadlineAfter interval⟩ := by
    rw [newcomer, h.issued]
  refine ⟨congrArg ArmedTimer.id hid, ?_, h.indexed.insert owner now interval mode,
    ordered_insert h.ordered owner now interval mode, ?_, congrArg (· + 1) h.issued⟩
  · show _ = roster.records.all fun other => decide (now.deadlineAfter interval < other.deadline)
    rw [← h.records.all_eq, Bool.eq_iff_iff, List.all_eq_true]
    simp only [decide_eq_true_eq]
    exact insert_earliest_iff h.ordered
  · refine (perm_schedule _ _).trans ?_
    show List.Perm _ (roster.records ++ [_])
    rw [← hid]
    exact (h.records.cons _).trans (List.perm_append_singleton _ _).symm

theorem Refines.erase (id : TimerId) :
    (timers.erase id).1 = (roster.erase id).1 ∧
    (timers.erase id).2.Refines (roster.erase id).2 := by
  refine ⟨?_, h.indexed.erase id, h.ordered.of_sublist (agenda_erase_sublist timers id), ?_, ?_⟩
  · rw [h.indexed.erase_eq]
    exact h.records.any_eq
  · rw [h.indexed.erase_eq]
    exact h.records.filter _
  · rw [h.indexed.erase_eq]
    exact h.issued

theorem Refines.owner?_eq (id : TimerId) : timers.owner? id = roster.owner? id := by
  rw [h.indexed.owner?_eq, Roster.owner?]
  congr 1
  cases hrecord : roster.records.find? fun record => record.id = id with
  | none =>
      refine List.find?_eq_none.2 fun timer hmem => ?_
      exact List.find?_eq_none.1 hrecord timer (h.records.mem_iff.1 hmem)
  | some record =>
      have hmem := h.records.mem_iff.2 (List.mem_of_find?_eq_some hrecord)
      have hid : record.id = id := by simpa using List.find?_some hrecord
      cases htimer : timers.agenda.find? fun timer => timer.id = id with
      | none =>
          have hno := List.find?_eq_none.1 htimer record hmem
          exact absurd (decide_eq_true hid) hno
      | some timer =>
          have hid' : timer.id = id := by simpa using List.find?_some htimer
          have hmem' := List.mem_of_find?_eq_some htimer
          rw [h.indexed.eq_of_id_eq hmem' hmem (hid'.trans hid.symm)]

theorem Refines.eraseWhere (p : ω -> Bool) :
    (timers.eraseWhere p).1 = (roster.eraseWhere p).1 ∧
    (timers.eraseWhere p).2.Refines (roster.eraseWhere p).2 := by
  refine ⟨?_, h.indexed.eraseWhere p, h.ordered.of_sublist List.filter_sublist,
    h.records.filter _, h.issued⟩
  show List.length _ = List.countP _ _
  rw [← List.countP_eq_length_filter]
  exact h.records.countP_eq _

theorem Refines.popExpired_none {now : Instant} (hnone : timers.popExpired now = none) :
    roster.popExpired now = (none, roster) := by
  unfold Roster.popExpired
  rw [h.first?_eq]
  unfold TimerSet.popExpired at hnone
  cases hagenda : timers.agenda with
  | nil => rfl
  | cons timer rest =>
      rw [hagenda] at hnone
      simp only [List.head?_cons]
      split
      · next due => simp only [due, if_true, reduceCtorEq] at hnone
      · rfl

theorem Refines.popExpired {now : Instant} {taken : TimerId × ω} {after : TimerSet ω}
    (hpop : timers.popExpired now = some (taken, after)) :
    (roster.popExpired now).1 = some taken ∧ after.Refines (roster.popExpired now).2 := by
  obtain ⟨timer, rest, hagenda, due, rfl, hafter⟩ := popExpired_cases hpop
  have indexed := h.indexed.popExpired hpop
  have ordered := ordered_popExpired h.ordered hpop
  unfold Roster.popExpired
  rw [h.first?_eq, hagenda]
  simp only [List.head?_cons, if_pos due, true_and]
  rcases hafter with ⟨hmode, rfl⟩ | ⟨hmode, rfl⟩
  · rw [hmode]
    refine ⟨indexed, ordered, ?_, h.issued⟩
    show List.Perm rest _
    rw [← h.indexed.filter_head hagenda]
    exact h.records.filter _
  · rw [hmode]
    refine ⟨indexed, ordered, ?_, h.issued⟩
    refine (perm_schedule (timer.rearm now) rest).trans ?_
    have hredate := h.records.map fun record =>
      if record.id = timer.id then record.rearm now else record
    refine List.Perm.trans (.of_eq ?_) hredate
    rw [hagenda, List.map_cons, if_pos rfl]
    -- The other timers keep their deadlines.
    have others : ∀ other ∈ rest, other.id ≠ timer.id := by
      rw [← h.indexed.filter_head hagenda]
      intro other hmem
      simpa using (List.mem_filter.1 hmem).2
    congr 1
    refine (List.map_id rest).symm.trans (List.map_congr_left fun other hmem => ?_)
    exact (if_neg (others other hmem)).symm

theorem Refines.clear : timers.clear.Refines roster.clear :=
  ⟨indexed_clear timers, .nil, .refl _, h.issued⟩

/-- Every call has the same answer, and leaves the same timers. -/
theorem Refines.perform (call : TimerCall ω) :
    (timers.perform call).1 = (roster.perform call).1 ∧
    (timers.perform call).2.Refines (roster.perform call).2 := by
  cases call with
  | insert owner now interval mode =>
      obtain ⟨hid, hearliest, refines⟩ := h.insert owner now interval mode
      exact ⟨congrArg₂ TimerAnswer.armed hid hearliest, refines⟩
  | erase id =>
      obtain ⟨hfound, refines⟩ := h.erase id
      exact ⟨congrArg TimerAnswer.erased hfound, refines⟩
  | owner id => exact ⟨congrArg TimerAnswer.owner (h.owner?_eq id), h⟩
  | eraseWhere p =>
      obtain ⟨hcount, refines⟩ := h.eraseWhere p
      exact ⟨congrArg TimerAnswer.erasedWhere hcount, refines⟩
  | popExpired now =>
      cases hpop : timers.popExpired now with
      | none =>
          have hroster := h.popExpired_none hpop
          simp only [TimerSet.perform, Roster.perform, hpop, hroster]
          exact ⟨trivial, h⟩
      | some fired =>
          obtain ⟨taken, after⟩ := fired
          obtain ⟨htaken, refines⟩ := h.popExpired hpop
          simp only [TimerSet.perform, Roster.perform, hpop, htaken]
          exact ⟨trivial, refines⟩
  | clear => exact ⟨rfl, h.clear⟩
  | size => exact ⟨congrArg TimerAnswer.size h.records.length_eq, h⟩
  | nextDeadline =>
      refine ⟨congrArg TimerAnswer.deadline ?_, h⟩
      rw [h.first?_eq]
      rfl
  | isEmpty =>
      refine ⟨congrArg TimerAnswer.empty ?_, h⟩
      rw [isEmpty, h.records.isEmpty_eq]

theorem Refines.run (calls : List (TimerCall ω)) :
    (timers.run calls).1 = (roster.run calls).1 ∧
    (timers.run calls).2.Refines (roster.run calls).2 := by
  induction calls generalizing timers roster with
  | nil => exact ⟨rfl, h⟩
  | cons call rest ih =>
      obtain ⟨hanswer, refines⟩ := h.perform call
      obtain ⟨hanswers, last⟩ := ih refines
      exact ⟨congrArg₂ List.cons hanswer hanswers, last⟩

end Refines

end TimerSet

/-! ## Identifiers -/

/-- Whether a call arms a timer under a new identifier. -/
def TimerCall.arms {ω : Type} : TimerCall ω -> Bool
  | .insert .. => true
  | _ => false

/-- The identifier that an answer has issued. -/
def TimerAnswer.issued? {ω : Type} : TimerAnswer ω -> Option TimerId
  | .armed id _ => some id
  | _ => none

namespace Roster

variable {ω : Type}

theorem issued_perform (roster : Roster ω) (call : TimerCall ω) :
    (roster.perform call).1.issued? = (if call.arms then some ⟨roster.issued + 1⟩ else none) ∧
    (roster.perform call).2.issued = roster.issued + if call.arms then 1 else 0 := by
  cases call with
  | popExpired now =>
      refine ⟨rfl, ?_⟩
      show (roster.popExpired now).2.issued = roster.issued
      unfold popExpired
      cases roster.first? with
      | none => rfl
      | some record =>
          simp only
          split
          · cases record.mode <;> rfl
          · rfl
  | _ => exact ⟨rfl, rfl⟩

/-- Identifiers are issued one after the other. -/
theorem issued_run (roster : Roster ω) (calls : List (TimerCall ω)) :
    (roster.run calls).1.filterMap (·.issued?) =
      (List.range' (roster.issued + 1) (calls.countP (·.arms))).map TimerId.mk := by
  induction calls generalizing roster with
  | nil => rfl
  | cons call rest ih =>
      obtain ⟨hid, hissued⟩ := roster.issued_perform call
      have hrest := ih (roster.perform call).2
      rw [hissued] at hrest
      rw [answers_cons, List.filterMap_cons, hid, hrest, List.countP_cons]
      cases call.arms <;> rfl

end Roster

/-! ## Sequences of calls -/

namespace TimerSet

variable {ω : Type}

/-- What a set of timers has answered to a sequence of calls, and what it holds then. -/
structure Faithful (calls : List (TimerCall ω)) : Prop where
  answers : ((empty : TimerSet ω).run calls).1 = (Roster.empty.run calls).1
  records : ((empty : TimerSet ω).run calls).2.agenda.Perm (Roster.empty.run calls).2.records
  /-- The index and the agenda have the same timers with the same deadlines. -/
  entries : ((empty : TimerSet ω).run calls).2.index.Perm
    (((empty : TimerSet ω).run calls).2.agenda.map entryOf)
  /-- No identifier has two deadlines. -/
  once : (((empty : TimerSet ω).run calls).2.index.map Prod.fst).Nodup
  /-- The identifiers that have been issued are 1, 2, 3 and so on, whatever was cleared. -/
  issued : ((empty : TimerSet ω).run calls).1.filterMap (·.issued?) =
    (List.range' 1 (calls.countP (·.arms))).map TimerId.mk
  /-- A counter of 64 bits goes past every identifier that is issued. -/
  fits : calls.countP (·.arms) < UInt64.size - 1 ->
    ∀ id ∈ ((empty : TimerSet ω).run calls).1.filterMap (·.issued?), id.value + 1 < UInt64.size

/-- A set of timers cannot be told from a plain list of them. -/
theorem run_faithful (calls : List (TimerCall ω)) : Faithful calls := by
  obtain ⟨answers, last⟩ := refines_empty.run calls
  have issued := Roster.empty.issued_run calls
  rw [← answers] at issued
  refine ⟨answers, last.records, last.indexed.entries, last.indexed.distinct_index, issued, ?_⟩
  intro few id hmem
  rw [issued] at hmem
  obtain ⟨value, hvalue, rfl⟩ := List.mem_map.1 hmem
  obtain ⟨-, hlt⟩ := List.mem_range'_1.1 hvalue
  show value + 1 < UInt64.size
  simp only [Roster.empty] at hlt
  omega

end TimerSet

end Reactor
