import ClockManager.Proofs.Bench
import ClockManager.Proofs.Checked.Sharing
/-!
# One review and the tables

What a single review does to the tables, whatever they hold: no run need have led to them. Before
the hardware call nothing changes. After it the tables change if and only if the review lets the
transition through, and then in one state and one count. In memory, where the rows are stored one
after the other, that is one entry of each of the two lists, and an agent or a device outside the
tables has no entry there.
-/

namespace ClockManager.Sharing

open Checked (sizeLimit)

variable {tables before after : Sharing} {phase : Phase} {context : PolicyContext}
  {agent : AgentId} {device : DeviceId} {state : ClockState}

/-! ### Transitions -/

/-- The state in a row for the device of a number. -/
def stateAt? (tables : Sharing) (row column : Nat) : Option ClockState :=
  tables.states[row]?.bind (·[column]?)

/-- An agent's state for a device turns into another one, and the count of the device moves by one
with it, from zero for a start and from one for a stop. All the rest stays. -/
structure Transition (before after : Sharing) (agent : AgentId) (device : DeviceId)
    (state : ClockState) : Prop where
  state_before : before.state? agent device = some state.flip
  state_after : after.state? agent device = some state
  refcount_before : before.refcount? device = some (holders state.flip)
  refcount_after : after.refcount? device = some (holders state)
  state_of_ne : ∀ row column, ¬(row = agent.index ∧ column = device.index) →
    after.stateAt? row column = before.stateAt? row column
  refcount_of_ne : ∀ column, column ≠ device.index →
    after.refcounts[column]? = before.refcounts[column]?
  length_states : after.states.length = before.states.length
  deviceCount_eq : after.deviceCount = before.deviceCount
  stored_states : after.flat.states =
    before.flat.states.set (agent.index * before.deviceCount + device.index) state
  stored_refcounts : after.flat.refcounts = before.flat.refcounts.set device.index (holders state)

theorem Ready.state?_eq (h : tables.Ready agent device state) :
    tables.state? agent device = some state.flip := by
  cases state <;> exact h.1

theorem Ready.refcount?_eq (h : tables.Ready agent device state) :
    tables.refcount? device = some (holders state.flip) := by
  cases state <;> exact h.2

theorem stateAt?_put_of_ne {place column row other : Nat} {refcount : UInt32}
    (h : ¬(row = place ∧ other = column)) :
    (tables.put place column state refcount).stateAt? row other = tables.stateAt? row other := by
  simp only [stateAt?, put, List.getElem?_modify]
  cases tables.states[row]? with
  | none => rfl
  | some entries =>
    by_cases hrow : row = place
    · have hne : column ≠ other := fun heq => h ⟨hrow, heq.symm⟩
      simp [hrow, hne]
    · have hne : place ≠ row := fun heq => hrow heq.symm
      simp [hne]

theorem Ready.transition (ready : tables.Ready agent device state) :
    tables.Transition (tables.put agent.index device.index state (holders state)) agent device
      state where
  state_before := ready.state?_eq
  state_after := by
    rw [state?_put, if_pos rfl, ready.state?_eq]
    rfl
  refcount_before := ready.refcount?_eq
  refcount_after := refcount?_put_self ready.refcount?_isSome
  state_of_ne _ _ hne := stateAt?_put_of_ne hne
  refcount_of_ne column hne := List.getElem?_set_ne hne.symm
  length_states := List.length_modify ..
  deviceCount_eq := rfl
  stored_states :=
    flatten_modify_set tables.length_row (index_lt_of_cell? ready.state?_eq) _ state
  stored_refcounts := rfl

theorem Transition.ne (h : before.Transition after agent device state) : after ≠ before := by
  intro heq
  have hstate := h.state_after
  rw [heq, h.state_before] at hstate
  cases state <;> cases hstate

/-! ### Reviews -/

theorem review_sharing_of_ne_proceed
    (h : (tables.review phase context state).verdict ≠ .ok .proceed) :
    (tables.review phase context state).sharing = tables := by
  cases phase with
  | pre => exact review_pre
  | post =>
    unfold review at h ⊢
    split at h
    · dsimp only [proceed, suppress] at h ⊢
      cases state <;> grind
    · rfl

theorem transition_of_proceed (h : (tables.review .post context state).verdict = .ok .proceed) :
    tables.Transition (tables.review .post context state).sharing context.agent context.device
      state := by
  have ready := review_eq_proceed_iff.1 h
  rw [review_post ready]
  exact ready.transition

/-- A state and a count are found together: in each row there is a place for each device. -/
theorem exists_state?_and_refcount?_iff :
    (∃ held refcount, tables.state? agent device = some held ∧
        tables.refcount? device = some refcount) ↔
      agent.index < tables.states.length ∧ device.index < tables.deviceCount := by
  constructor
  · rintro ⟨held, -, hheld, -⟩
    exact ⟨row_lt_of_cell? hheld, index_lt_of_cell? hheld⟩
  · rintro ⟨hagent, hdevice⟩
    obtain ⟨held, hheld⟩ := exists_cell?_eq_some hagent hdevice
    obtain ⟨refcount, counted⟩ := refcount?_eq_some_of_lt hdevice
    exact ⟨held, refcount, hheld, counted⟩

theorem review_invalidParam_iff :
    (∃ agent device,
        (tables.review phase context state).verdict = .error (.invalidParam agent device)) ↔
      ¬∃ held refcount, tables.state? context.agent context.device = some held ∧
        tables.refcount? context.device = some refcount := by
  unfold review
  split
  · rename_i held refcount hheld counted
    refine iff_of_false ?_ (not_not.2 ⟨held, refcount, hheld, counted⟩)
    rintro ⟨agent, device, h⟩
    dsimp only [proceed, suppress] at h
    cases phase <;> cases state <;> grind
  · rename_i hmissing
    refine iff_of_true ⟨_, _, rfl⟩ ?_
    rintro ⟨held, refcount, hheld, counted⟩
    exact hmissing held refcount hheld counted

/-! ### The law -/

/-- What one review does, before the hardware call and after it. -/
structure StepLaw (tables : Sharing) (context : PolicyContext) (state : ClockState) : Prop where
  pre_unchanged : (tables.review .pre context state).sharing = tables
  post_changed_iff : (tables.review .post context state).sharing ≠ tables ↔
    (tables.review .post context state).verdict = .ok .proceed
  transition : (tables.review .post context state).verdict = .ok .proceed →
    tables.Transition (tables.review .post context state).sharing context.agent context.device state
  unchanged : ∀ phase, (tables.review phase context state).verdict ≠ .ok .proceed →
    (tables.review phase context state).sharing = tables
  /-- What is let through beforehand is let through afterwards, if nothing happened in between. -/
  pre_iff_post : (tables.review .pre context state).verdict = .ok .proceed ↔
    (tables.review .post context state).verdict = .ok .proceed
  outside_iff : ∀ phase,
    (∃ agent device,
        (tables.review phase context state).verdict = .error (.invalidParam agent device)) ↔
      tables.states.length ≤ context.agent.index ∨ tables.deviceCount ≤ context.device.index
  /-- Whoever keeps these tables answers a review with the state that was asked for. -/
  state_kept : ∀ phase (world : Bench.World), world.policy = .sharing tables →
    (Bench.World.answer (.reviewState phase context state) world).1 =
        ⟨(tables.review phase context state).verdict, state⟩ ∧
      (Bench.World.answer (.reviewState phase context state) world).2.policy =
        .sharing (tables.review phase context state).sharing
  /-- Tables that fit into memory are reviewed there to the same effect, without a fault. -/
  stored : tables.states.length * tables.deviceCount < sizeLimit → ∀ phase,
    tables.flat.reviewChecked phase context state =
      .ok (tables.review phase context state).flat

theorem step_law (tables : Sharing) (context : PolicyContext) (state : ClockState) :
    tables.StepLaw context state where
  pre_unchanged := review_pre
  post_changed_iff := by
    refine ⟨fun hchanged => ?_, fun hproceed => (transition_of_proceed hproceed).ne⟩
    by_contra hrefused
    exact hchanged (review_sharing_of_ne_proceed hrefused)
  transition := transition_of_proceed
  unchanged _ := review_sharing_of_ne_proceed
  pre_iff_post := review_eq_proceed_iff.trans review_eq_proceed_iff.symm
  outside_iff phase := by
    rw [review_invalidParam_iff, exists_state?_and_refcount?_iff, not_and_or, Nat.not_lt,
      Nat.not_lt]
  state_kept phase world hpolicy :=
    Bench.World.answer_of_policy hpolicy (.reviewState phase context state)
  stored small _ := flat_reviewChecked small

end ClockManager.Sharing
