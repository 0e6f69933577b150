import ClockManager.Policy.Sharing
import ClockManager.Proofs.Event
import ClockManager.Proofs.Tracker
/-!
# The sharing policy in a run

When a review lets a transition through, and what the tables are then. `Serves` says of a list of
events that the policy answered every review in it from its tables, as they were at that point;
`after` is what the tables have become by the end.
-/

namespace ClockManager.Sharing

variable {tables : Sharing} {phase : Phase} {context : PolicyContext} {state : ClockState}
  {agent owner : AgentId} {device other : DeviceId} {refcount : UInt32}

/-! ### Places in the tables -/

theorem refcount?_eq_some_of_lt (h : device.index < tables.deviceCount) :
    ∃ refcount, tables.refcount? device = some refcount :=
  ⟨_, List.getElem?_eq_getElem (by rwa [tables.length_refcounts])⟩

theorem refcount?_put {row : Nat} :
    (tables.put row device.index state refcount).refcount? device =
      (tables.refcount? device).map fun _ => refcount := by
  by_cases hlt : device.index < tables.refcounts.length <;> simp [refcount?, put, hlt]

theorem refcount?_put_self {row : Nat} (h : (tables.refcount? device).isSome) :
    (tables.put row device.index state refcount).refcount? device = some refcount := by
  obtain ⟨old, hold⟩ := Option.isSome_iff_exists.1 h
  rw [refcount?_put, hold]
  rfl

theorem refcount?_put_of_ne {row : Nat} (h : other ≠ device) :
    (tables.put row device.index state refcount).refcount? other = tables.refcount? other := by
  have hne : device.index ≠ other.index := fun heq => h (DeviceId.index_inj.1 heq.symm)
  simp [refcount?, put, hne]

/-- The state in a row of the tables; an agent's row is its number. -/
def cell? (tables : Sharing) (row : Nat) (device : DeviceId) : Option ClockState :=
  tables.states[row]?.bind (·[device.index]?)

theorem state?_eq_cell? : tables.state? agent device = tables.cell? agent.index device := rfl

theorem cell?_put {row place : Nat} :
    (tables.put place device.index state refcount).cell? row other =
      if row = place ∧ other = device then (tables.cell? row other).map fun _ => state
      else tables.cell? row other := by
  simp only [cell?, put, List.getElem?_modify]
  cases tables.states[row]? with
  | none => simp
  | some entries =>
    by_cases hrow : row = place
    · subst hrow
      by_cases hdevice : other = device
      · subst hdevice
        by_cases hlt : other.index < entries.length <;> simp [hlt]
      · have hne : device.index ≠ other.index := fun h => hdevice (DeviceId.index_inj.1 h.symm)
        simp [hdevice, hne]
    · have hne : place ≠ row := fun h => hrow h.symm
      simp [hrow, hne]

theorem state?_put_of_ne (h : other ≠ device) :
    (tables.put agent.index device.index state refcount).state? owner other =
      tables.state? owner other := by
  rw [state?_eq_cell?, cell?_put, if_neg fun heq => h heq.2, state?_eq_cell?]

theorem state?_put :
    (tables.put agent.index device.index state refcount).state? owner device =
      if owner = agent then (tables.state? owner device).map fun _ => state
      else tables.state? owner device := by
  simp only [state?_eq_cell?, cell?_put, AgentId.index_inj, and_true]

theorem deviceCount_hold (index : Nat) : (tables.hold index device).deviceCount =
    tables.deviceCount := by
  unfold hold
  split <;> rfl

theorem deviceCount_ofTopology (topology : Topology) :
    (ofTopology topology).deviceCount = topology.deviceCount := by
  let counted (tables : Sharing) : Prop := tables.deviceCount = topology.deviceCount
  refine List.foldlRecOn (motive := counted) _ _ rfl fun tables htables view _ => ?_
  refine List.foldlRecOn (motive := counted) _ _ htables fun tables htables clock _ => ?_
  exact (deviceCount_hold _).trans htables

/-! ### Reviews -/

/-- What lets an agent's transition of a device through: nobody may hold a device that is to be
started, and the agent must be the only holder of one that is to be stopped. -/
def Ready (tables : Sharing) (agent : AgentId) (device : DeviceId) : ClockState → Prop
  | .running => tables.state? agent device = some .stopped ∧ tables.refcount? device = some 0
  | .stopped => tables.state? agent device = some .running ∧ tables.refcount? device = some 1

/-- How many agents hold a device once such a transition has been made. -/
def holders : ClockState → UInt32
  | .running => 1
  | .stopped => 0

/-- The state that a device is in if the tables are right. -/
def deviceState (tables : Sharing) (device : DeviceId) : ClockState :=
  match tables.refcount? device with
  | none => .stopped
  | some refcount => if refcount = 0 then .stopped else .running

theorem review_pre : (tables.review .pre context state).sharing = tables := by
  unfold review
  split
  · dsimp only [proceed, suppress]
    split
    · rfl
    · cases state <;> grind
  · rfl

theorem deviceCount_review :
    (tables.review phase context state).sharing.deviceCount = tables.deviceCount := by
  unfold review
  split
  · dsimp only [proceed, suppress]
    split
    · rfl
    · cases state <;> cases phase <;> grind [put]
  · rfl

theorem review_eq_proceed_iff :
    (tables.review phase context state).verdict = .ok .proceed ↔
      tables.Ready context.agent context.device state := by
  unfold review
  split
  · rename_i held refcount hheld hrefcount
    cases state <;> cases held <;> cases phase <;>
      simp only [Ready, hheld, hrefcount, proceed, suppress] <;> grind
  · rename_i hmissing
    cases state <;> simp only [Ready] <;> grind

theorem review_post (h : tables.Ready context.agent context.device state) :
    (tables.review .post context state).sharing =
      tables.put context.agent.index context.device.index state (holders state) := by
  cases state <;>
  · obtain ⟨hstate, hrefcount⟩ := h
    simp [review, proceed, hstate, hrefcount, holders]

theorem ne_zero_iff_deviceState (h : tables.refcount? device = some refcount) :
    refcount ≠ 0 ↔ tables.deviceState device = .running := by
  rw [deviceState, h]
  by_cases hzero : refcount = 0 <;> simp [hzero]

/-- A change of one device's tables does not matter to transitions of another. -/
theorem ready_put_of_ne (h : other ≠ device) {target : ClockState} :
    (tables.put agent.index device.index state refcount).Ready owner other target ↔
      tables.Ready owner other target := by
  cases target <;> simp only [Ready, state?_put_of_ne h, refcount?_put_of_ne h]

theorem Ready.refcount?_isSome (h : tables.Ready agent device state) :
    (tables.refcount? device).isSome := by
  cases state <;> simp [h.2]

theorem Ready.exists_state? (h : tables.Ready agent device state) :
    ∃ held, tables.state? agent device = some held := by
  cases state with
  | running => exact ⟨.stopped, h.1⟩
  | stopped => exact ⟨.running, h.1⟩

/-- Only a transition to the other state is let through. -/
theorem Ready.ne_deviceState (h : tables.Ready agent device state) :
    state ≠ tables.deviceState device := by
  cases state <;> simp [deviceState, h.2]

theorem deviceState_put_self (h : (tables.refcount? device).isSome) :
    (tables.put agent.index device.index state (holders state)).deviceState device = state := by
  rw [deviceState, refcount?_put_self h]
  cases state <;> rfl

theorem deviceState_put_of_ne (h : other ≠ device) :
    (tables.put agent.index device.index state refcount).deviceState other =
      tables.deviceState other := by
  rw [deviceState, refcount?_put_of_ne h, deviceState]

/-! ### Events -/

/-- The tables after an event. Reviews alone can change them. -/
def next (tables : Sharing) : Event → Sharing
  | .exchange ⟨.reviewState phase context state, _⟩ => (tables.review phase context state).sharing
  | _ => tables

/-- If the event is a review, then the policy answered it from these tables. -/
def Agrees (tables : Sharing) : Event → Prop
  | .exchange ⟨.reviewRate _ rate rounding, answer⟩ => answer = tables.reviewRate rate rounding
  | .exchange ⟨.reviewState phase context state, answer⟩ =>
    answer = ⟨(tables.review phase context state).verdict, state⟩
  | _ => True

/-- The tables after a list of events. -/
def after (tables : Sharing) (events : List Event) : Sharing := events.foldl next tables

/-- The policy answered every review among the events, starting from these tables. -/
def Serves (tables : Sharing) (events : List Event) : Prop := Along next Agrees tables events

variable {events more : List Event} {history : History}

theorem after_cons {event : Event} : tables.after (event :: events) =
    (tables.next event).after events := rfl

theorem after_cons_completion {completion : Completion} :
    tables.after (.completion completion :: events) = tables.after events := rfl

theorem after_append : tables.after (events ++ more) = (tables.after events).after more :=
  List.foldl_append

theorem serves_append : tables.Serves (events ++ more) ↔
    tables.Serves events ∧ (tables.after events).Serves more := along_append

theorem serves_cons {event : Event} : tables.Serves (event :: events) ↔
    tables.Agrees event ∧ (tables.next event).Serves events := Iff.rfl

theorem deviceCount_next (event : Event) :
    (tables.next event).deviceCount = tables.deviceCount := by
  unfold next
  split
  · exact deviceCount_review
  · rfl

theorem deviceCount_after : (tables.after events).deviceCount = tables.deviceCount := by
  induction events generalizing tables with
  | nil => rfl
  | cons event rest ih => exact ih.trans (deviceCount_next event)

theorem next_of_isNotice {exchange : Exchange} (h : exchange.isNotice) :
    tables.next (.exchange exchange) = tables := by
  obtain ⟨query, answer⟩ := exchange
  cases query <;> simp_all [Exchange.isNotice, next]

theorem next_of_isConsultation {exchange : Exchange} (h : exchange.query.isConsultation) :
    tables.next (.exchange exchange) = tables := by
  obtain ⟨query, answer⟩ := exchange
  cases query with
  | reviewState phase context state =>
    cases phase with
    | pre => exact review_pre
    | post => simp [Query.isConsultation] at h
  | _ => rfl

/-- The tables stay as they are while a message is assessed. -/
theorem after_of_consultation (h : Consultation history) :
    tables.after (exchanges history) = tables := by
  induction history with
  | nil => rfl
  | cons exchange rest ih =>
    obtain ⟨hfirst, hrest⟩ := List.forall_mem_cons.1 h
    rw [exchanges_cons, after_cons, next_of_isConsultation hfirst]
    exact ih hrest

/-- So every review in it was answered from these tables. -/
theorem Serves.agrees_of_consultation (serves : tables.Serves (exchanges history))
    (h : Consultation history) : ∀ exchange ∈ history, tables.Agrees (.exchange exchange) := by
  induction history with
  | nil => simp
  | cons exchange rest ih =>
    obtain ⟨hfirst, hrest⟩ := List.forall_mem_cons.1 h
    obtain ⟨hagrees, hserves⟩ := serves
    rw [next_of_isConsultation hfirst] at hserves
    exact List.forall_mem_cons.2 ⟨hagrees, ih hserves hrest⟩

theorem after_spoken : tables.after (exchanges (spoken history)) =
    tables.after (exchanges history) := by
  induction history generalizing tables with
  | nil => rfl
  | cons exchange rest ih =>
    rw [exchanges_cons, after_cons, spoken, ← ih]
    by_cases hnotice : exchange.isNotice
    · rw [List.filter_cons_of_neg (by simpa using hnotice), next_of_isNotice hnotice, spoken]
    · rw [List.filter_cons_of_pos (by simpa using hnotice), exchanges_cons, after_cons, spoken]

theorem Serves.spoken (serves : tables.Serves (exchanges history)) :
    tables.Serves (exchanges (spoken history)) := by
  induction history generalizing tables with
  | nil => exact trivial
  | cons exchange rest ih =>
    obtain ⟨hagrees, hserves⟩ := serves
    by_cases hnotice : exchange.isNotice
    · rw [next_of_isNotice hnotice] at hserves
      rw [ClockManager.spoken, List.filter_cons_of_neg (by simpa using hnotice)]
      exact ih hserves
    · rw [ClockManager.spoken, List.filter_cons_of_pos (by simpa using hnotice)]
      exact ⟨hagrees, ih hserves⟩

/-- What sets a move off is no concern of the policy. -/
theorem after_arrival (move : Move) : tables.after move.arrival = tables := by
  unfold Move.arrival
  split <;> rfl

theorem serves_arrival (move : Move) : tables.Serves move.arrival := by
  unfold Move.arrival
  split <;> simp [Serves, Along, Agrees]

end ClockManager.Sharing
