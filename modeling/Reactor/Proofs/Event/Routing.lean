import Mathlib.Data.List.Nodup
import Reactor.Dispatch
import Reactor.Event.Catalogue

/-!
# Where an event is routed

The first link of an event's kind takes the event, receives its values and is the
only one that is called.  An event that finds no such link comes out of the chain as
it went in.  Kinds are all that matters for this: names play no part, nor does it
matter how the links receive the values.  If no two links are for the same kind, the
order of the chain does not matter either.
-/

namespace Reactor

open EventFamily (Values)

/-- The same kinds with the same values, under other names. -/
@[reducible] def EventFamily.rename {κ : Type} (family : EventFamily κ)
    (kindName shownName : κ -> String) : EventFamily κ :=
  { family with kindName, shownName }

variable {κ : Type} [family : EventFamily κ]

/-- The event whose values a link has received. -/
def LinkCall.event (call : LinkCall κ) : Event κ :=
  ⟨call.link.kind, call.values⟩

namespace Routing

/-- The same calls, made by links that receive the values as told for each place in the chain. -/
def receivedBy (routing : Routing κ) (receivers : Nat -> Receiver) : Routing κ :=
  { routing with
    calls := routing.calls.map fun call =>
      ⟨call.index, { call.link with receiver := receivers call.index }, call.values⟩ }

end Routing

section Rename

variable (kindName shownName : κ -> String)

def Event.rename (event : Event κ) : @Event κ (family.rename kindName shownName) :=
  @Event.mk κ (family.rename kindName shownName) event.kind event.values

def Dispatch.rename (dispatch : Dispatch κ) : @Dispatch κ (family.rename kindName shownName) :=
  @Dispatch.mk κ (family.rename kindName shownName)
    (dispatch.pending.map (·.rename kindName shownName))

def LinkCall.rename (call : LinkCall κ) : @LinkCall κ (family.rename kindName shownName) :=
  @LinkCall.mk κ (family.rename kindName shownName) call.index call.link call.values

def Routing.rename (routing : Routing κ) : @Routing κ (family.rename kindName shownName) :=
  @Routing.mk κ (family.rename kindName shownName)
    (routing.calls.map (·.rename kindName shownName)) routing.pendingAfter
    (routing.final.rename kindName shownName)

end Rename

namespace Dispatch

variable {event : Event κ} {link : Link κ} {chain : List (Link κ)}

/-! ## The way through a chain -/

theorem pass_cons (dispatch : Dispatch κ) (index : Nat) (link : Link κ) (rest : List (Link κ)) :
    dispatch.pass index (link :: rest) =
      { (dispatch.takeValues link.kind).2.pass (index + 1) rest with
        calls :=
          ((dispatch.takeValues link.kind).1.map fun values => ⟨index, link, values⟩).toList ++
            ((dispatch.takeValues link.kind).2.pass (index + 1) rest).calls
        pendingAfter :=
          (dispatch.takeValues link.kind).2.isPending ::
            ((dispatch.takeValues link.kind).2.pass (index + 1) rest).pendingAfter } := by
  cases htake : dispatch.takeValues link.kind with
  | mk values? after =>
      simp only [pass, htake]
      cases values? <;> rfl

/-- Once the event has been taken, no link is called. -/
theorem pass_empty (index : Nat) (chain : List (Link κ)) :
    (⟨none⟩ : Dispatch κ).pass index chain = ⟨[], List.replicate chain.length false, ⟨none⟩⟩ := by
  induction chain generalizing index with
  | nil => rfl
  | cons link rest ih =>
      rw [pass_cons, takeValues_empty, ih]
      rfl

theorem pass_of_absent (absent : ∀ link ∈ chain, link.kind ≠ event.kind) (index : Nat) :
    (start event).pass index chain = ⟨[], List.replicate chain.length true, start event⟩ := by
  induction chain generalizing index with
  | nil => rfl
  | cons link rest ih =>
      rw [List.forall_mem_cons] at absent
      rw [pass_cons, takeValues_of_ne absent.1.symm, ih absent.2]
      rfl

/-- The event gets as far as the first link of its kind. -/
theorem pass_of_first (before after : List (Link κ))
    (absent : ∀ other ∈ before, other.kind ≠ event.kind) (same : link.kind = event.kind)
    (index : Nat) :
    ∃ call, (start event).pass index (before ++ link :: after) =
        ⟨[call], List.replicate before.length true ++ List.replicate (after.length + 1) false,
          ⟨none⟩⟩ ∧
      call.index = index + before.length ∧ call.link = link ∧ call.event = event := by
  induction before generalizing index with
  | nil =>
      obtain ⟨kind, receiver⟩ := link
      cases same
      refine ⟨⟨index, ⟨event.kind, receiver⟩, event.values⟩, ?_, rfl, rfl, rfl⟩
      rw [List.nil_append, pass_cons, takeValues_same, pass_empty]
      rfl
  | cons other before ih =>
      rw [List.forall_mem_cons] at absent
      obtain ⟨call, hpass, hindex, hlink, hevent⟩ := ih absent.2 (index + 1)
      refine ⟨call, ?_, ?_, hlink, hevent⟩
      · rw [List.cons_append, pass_cons, takeValues_of_ne absent.1.symm, hpass]
        rfl
      · rw [hindex, List.length_cons]
        omega

/-- The first link of a kind, if there is one at all. -/
theorem exists_first {kind : κ} (h : ∃ link ∈ chain, link.kind = kind) :
    ∃ before first after, chain = before ++ first :: after ∧ first.kind = kind ∧
      ∀ other ∈ before, other.kind ≠ kind := by
  obtain ⟨first, hfind⟩ : ∃ first, chain.find? (fun link => link.kind = kind) = some first := by
    obtain ⟨link, hmem, hkind⟩ := h
    exact Option.isSome_iff_exists.1 (List.find?_isSome.2 ⟨link, hmem, decide_eq_true hkind⟩)
  obtain ⟨hkind, before, after, hchain, hbefore⟩ := List.find?_eq_some_iff_append.1 hfind
  refine ⟨before, first, after, hchain, of_decide_eq_true hkind, fun other hmem => ?_⟩
  simpa using hbefore other hmem

/-! ## What does not matter -/

theorem pass_receivedBy (receivers : Nat -> Receiver) (dispatch : Dispatch κ) (index : Nat)
    (chain : List (Link κ)) :
    dispatch.pass index
        (chain.mapIdx fun i link => { link with receiver := receivers (index + i) }) =
      (dispatch.pass index chain).receivedBy receivers := by
  induction chain generalizing dispatch index with
  | nil => rfl
  | cons link rest ih =>
      have hrest := ih (dispatch.takeValues link.kind).2 (index + 1)
      simp only [Nat.add_assoc, Nat.add_comm 1] at hrest
      rw [List.mapIdx_cons, pass_cons, pass_cons]
      simp only [hrest, Routing.receivedBy, List.map_append]
      cases (dispatch.takeValues link.kind).1 <;> rfl

theorem takeValues_rename (kindName shownName : κ -> String) (dispatch : Dispatch κ) (kind : κ) :
    @takeValues κ (family.rename kindName shownName) (dispatch.rename kindName shownName) kind =
      ((dispatch.takeValues kind).1, (dispatch.takeValues kind).2.rename kindName shownName) := by
  obtain ⟨_ | event⟩ := dispatch
  · rfl
  · by_cases same : event.kind = kind
    · cases same
      have taken : takeValues ⟨some event⟩ event.kind = (some event.values, ⟨none⟩) :=
        takeValues_same event
      rw [taken]
      exact @takeValues_same κ (family.rename kindName shownName) (event.rename kindName shownName)
    · have passed : takeValues ⟨some event⟩ kind = (none, ⟨some event⟩) := takeValues_of_ne same
      rw [passed]
      exact @takeValues_of_ne κ (family.rename kindName shownName)
        (event.rename kindName shownName) kind same

theorem isPending_rename (kindName shownName : κ -> String) (dispatch : Dispatch κ) :
    @isPending κ (family.rename kindName shownName) (dispatch.rename kindName shownName) =
      dispatch.isPending :=
  Option.isSome_map

theorem pass_rename (kindName shownName : κ -> String) (dispatch : Dispatch κ) (index : Nat)
    (chain : List (Link κ)) :
    @pass κ (family.rename kindName shownName) (dispatch.rename kindName shownName) index chain =
      (dispatch.pass index chain).rename kindName shownName := by
  induction chain generalizing dispatch index with
  | nil => rfl
  | cons link rest ih =>
      have hcons := @pass_cons κ (family.rename kindName shownName)
        (dispatch.rename kindName shownName) index link rest
      simp only [takeValues_rename, ih, isPending_rename] at hcons
      rw [hcons, pass_cons]
      cases (dispatch.takeValues link.kind).1 <;> rfl

/-! ## Routing -/

/-- Where an event goes in a chain of links, and what this does not depend on. -/
structure Routes (chain : List (Link κ)) (event : Event κ) : Prop where
  /-- The first link of the event's kind is called with the event's values, and no other link is.
  The event is there until this link takes it. -/
  called : (∃ link ∈ chain, link.kind = event.kind) ->
    ∃ before first after call, chain = before ++ first :: after ∧ first.kind = event.kind ∧
      (∀ other ∈ before, other.kind ≠ event.kind) ∧ (route chain event).calls = [call] ∧
      call.index = before.length ∧ call.link = first ∧ call.event = event ∧
      (route chain event).pendingAfter =
        List.replicate before.length true ++ List.replicate (after.length + 1) false ∧
      (route chain event).final.handled = true ∧ (route chain event).final.unhandled? = none
  /-- Without such a link nothing is called, and the event comes out as it went in. -/
  uncalled : (∀ link ∈ chain, link.kind ≠ event.kind) ->
    (route chain event).calls = [] ∧
      (route chain event).pendingAfter = List.replicate chain.length true ∧
      (route chain event).final.handled = false ∧
      (route chain event).final.unhandled? = some event
  names : ∀ kindName shownName : κ -> String,
    @route κ (family.rename kindName shownName) chain (event.rename kindName shownName) =
      (route chain event).rename kindName shownName
  receivers : ∀ receivers : Nat -> Receiver,
    route (chain.mapIdx fun i link => { link with receiver := receivers i }) event =
      (route chain event).receivedBy receivers
  /-- Where no two links are for the same kind, their order does not matter. -/
  order : (chain.map (·.kind)).Nodup -> ∀ other, other.Perm chain ->
    ((route other event).calls.map fun call => (call.link, call.event)) =
        ((route chain event).calls.map fun call => (call.link, call.event)) ∧
      (route other event).final = (route chain event).final

theorem route_of_first (before after : List (Link κ))
    (absent : ∀ other ∈ before, other.kind ≠ event.kind) (same : link.kind = event.kind) :
    ∃ call, route (before ++ link :: after) event =
        ⟨[call], List.replicate before.length true ++ List.replicate (after.length + 1) false,
          ⟨none⟩⟩ ∧
      call.index = before.length ∧ call.link = link ∧ call.event = event := by
  obtain ⟨call, hpass, hindex, hcall⟩ := pass_of_first before after absent same 0
  exact ⟨call, hpass, hindex.trans (Nat.zero_add _), hcall⟩

theorem route_of_absent (absent : ∀ link ∈ chain, link.kind ≠ event.kind) :
    route chain event = ⟨[], List.replicate chain.length true, start event⟩ :=
  pass_of_absent absent 0

/-- The one link that is called, in a chain with one link for each kind. -/
theorem exists_call_of_mem (distinct : (chain.map (·.kind)).Nodup) (hmem : link ∈ chain)
    (same : link.kind = event.kind) :
    ∃ call, (route chain event).calls = [call] ∧ call.link = link ∧ call.event = event ∧
      (route chain event).final = ⟨none⟩ := by
  obtain ⟨before, first, after, hchain, hfirst, absent⟩ := exists_first ⟨link, hmem, same⟩
  have hmem' : first ∈ chain := by simp [hchain]
  obtain rfl := List.inj_on_of_nodup_map distinct hmem' hmem (hfirst.trans same.symm)
  obtain ⟨call, hroute, -, hlink, hevent⟩ := route_of_first before after absent hfirst
  rw [← hchain] at hroute
  rw [hroute]
  exact ⟨call, rfl, hlink, hevent, rfl⟩

theorem route_of_perm {other : List (Link κ)} (distinct : (chain.map (·.kind)).Nodup)
    (perm : other.Perm chain) :
    ((route other event).calls.map fun call => (call.link, call.event)) =
        ((route chain event).calls.map fun call => (call.link, call.event)) ∧
      (route other event).final = (route chain event).final := by
  have distinct' : (other.map (·.kind)).Nodup := (perm.map _).nodup_iff.2 distinct
  by_cases h : ∃ link ∈ chain, link.kind = event.kind
  · obtain ⟨link, hmem, same⟩ := h
    obtain ⟨call, hcalls, hlink, hevent, hfinal⟩ := exists_call_of_mem distinct hmem same
    obtain ⟨call', hcalls', hlink', hevent', hfinal'⟩ :=
      exists_call_of_mem distinct' (perm.mem_iff.2 hmem) same
    rw [hcalls, hcalls', hfinal, hfinal']
    simp only [List.map_cons, List.map_nil, hlink, hlink', hevent, hevent', and_self]
  · have absent : ∀ link ∈ chain, link.kind ≠ event.kind :=
      fun link hmem same => h ⟨link, hmem, same⟩
    have absent' : ∀ link ∈ other, link.kind ≠ event.kind :=
      fun link hmem => absent link (perm.mem_iff.1 hmem)
    rw [route_of_absent absent, route_of_absent absent']
    exact ⟨rfl, rfl⟩

theorem event_goes_to_first_link_of_its_kind (chain : List (Link κ)) (event : Event κ) :
    Routes chain event where
  called h := by
    obtain ⟨before, first, after, rfl, hfirst, absent⟩ := exists_first h
    obtain ⟨call, hroute, hindex, hlink, hevent⟩ := route_of_first before after absent hfirst
    rw [hroute]
    exact ⟨before, first, after, call, rfl, hfirst, absent, rfl, hindex, hlink, hevent, rfl, rfl, rfl⟩
  uncalled absent := by
    rw [route_of_absent absent]
    exact ⟨rfl, rfl, rfl, rfl⟩
  names kindName shownName := pass_rename kindName shownName (start event) 0 chain
  receivers receivers := by
    have h := pass_receivedBy receivers (start event) 0 chain
    simp only [Nat.zero_add] at h
    exact h
  order distinct other perm := route_of_perm distinct perm

/-- A kind that carries the same values is passed over, and so is the second link of the kind. -/
example :
    let event : Event Catalogue.Kind := ⟨.twin2, (1, "one", ())⟩
    let routing := route [⟨.k2, .function⟩, ⟨.twin2, .method⟩, ⟨.twin2, .function⟩] event
    routing.calls = [⟨1, ⟨.twin2, .method⟩, (1, "one", ())⟩] ∧
      routing.pendingAfter = [true, false, false] ∧ routing.final.handled = true :=
  ⟨rfl, rfl, rfl⟩

end Dispatch

end Reactor
