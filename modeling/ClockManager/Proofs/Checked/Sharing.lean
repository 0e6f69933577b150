import ClockManager.Proofs.Checked
import ClockManager.Proofs.Sharing.Count
/-!
# The sharing policy without faults

The states are stored as one list, the rows one after the other, and the place of a state in it is
worked out from the agent and the device. When a review looks a place up, one that cannot be counted
is outside the tables. When the tables are set up there is no such escape, and that needs few enough
agents and devices for all places to be counted. The count of a device goes up once for each agent
that did not hold it before, so it stays within 32 bits if the number of agents does.
-/

namespace ClockManager

open Checked (sizeLimit)

/-- The agents can be counted in 32 bits, and the pairs of an agent and a device in 64. -/
structure Topology.Bounded (topology : Topology) : Prop where
  agentCount_le : topology.agentCount ≤ 2 ^ 32 - 1
  cells_lt : topology.agentCount * topology.deviceCount < 2 ^ 64

namespace Sharing

/-! ### Rows one after the other -/

section Rows

variable {α : Type} {rows : List (List α)} {width row column : Nat}

theorem length_flatten_of_forall (h : ∀ row ∈ rows, row.length = width) :
    rows.flatten.length = rows.length * width := by
  rw [List.length_flatten, List.map_congr_left h, List.map_const', List.sum_replicate_nat]

theorem getElem?_flatten_of_forall (h : ∀ row ∈ rows, row.length = width)
    (hcolumn : column < width) :
    rows.flatten[row * width + column]? = rows[row]?.bind (·[column]?) := by
  induction rows generalizing row with
  | nil => simp
  | cons first rest ih =>
    obtain ⟨hfirst, hrest⟩ := List.forall_mem_cons.1 h
    rw [List.flatten_cons]
    cases row with
    | zero =>
      rw [Nat.zero_mul, Nat.zero_add, List.getElem?_append_left (by rwa [hfirst])]
      rfl
    | succ row =>
      have hplace : (row + 1) * width + column = first.length + (row * width + column) := by
        rw [Nat.succ_mul, hfirst]
        omega
      rw [hplace, List.getElem?_append_right (Nat.le_add_right ..), Nat.add_sub_cancel_left,
        ih hrest, List.getElem?_cons_succ]

theorem flatten_modify_set (h : ∀ row ∈ rows, row.length = width) (hcolumn : column < width)
    (row : Nat) (value : α) :
    (rows.modify row (·.set column value)).flatten =
      rows.flatten.set (row * width + column) value := by
  induction rows generalizing row with
  | nil => simp
  | cons first rest ih =>
    obtain ⟨hfirst, hrest⟩ := List.forall_mem_cons.1 h
    cases row with
    | zero => simp [hfirst, hcolumn]
    | succ row =>
      have hplace : (row + 1) * width + column = first.length + (row * width + column) := by
        rw [Nat.succ_mul, hfirst]
        omega
      rw [hplace, List.modify_succ_cons, List.flatten_cons, List.flatten_cons, ih hrest,
        List.set_append_right _ _ (Nat.le_add_right ..), Nat.add_sub_cancel_left]

end Rows

/-! ### The tables in memory -/

/-- The tables as they are stored. -/
structure Flat where
  deviceCount : Nat
  states : List ClockState
  refcounts : List UInt32
  deriving DecidableEq

def flat (tables : Sharing) : Flat :=
  ⟨tables.deviceCount, tables.states.flatten, tables.refcounts⟩

/-- What a review leaves, with the tables as they are stored. -/
structure FlatReview where
  verdict : Verdict
  tables : Flat
  notice? : Option Notice := none

def Review.flat (review : Review) : FlatReview :=
  ⟨review.verdict, review.sharing.flat, review.notice?⟩

namespace Flat

/-- The place of an agent's state for a device, if it is in the tables. -/
def place? (tables : Flat) (agent : AgentId) (device : DeviceId) : Option Nat :=
  if tables.deviceCount ≤ device.index then none
  else do
    let row ← (Checked.mul agent.index tables.deviceCount).toOption
    let place ← (Checked.add row device.index).toOption
    if place < tables.states.length then some place else none

/-- Puts a state in its place, and moves the count of its device. -/
def enterChecked (tables : Flat) (place device : Nat) (state : ClockState)
    (move : UInt32 → Checked UInt32) : Checked Flat := do
  let states ← Checked.set tables.states place state
  let refcount ← move (← Checked.get tables.refcounts device)
  let refcounts ← Checked.set tables.refcounts device refcount
  return { tables with states, refcounts }

def holdChecked (tables : Flat) (agent : Nat) (device : DeviceId) : Checked Flat := do
  let row ← Checked.mul agent tables.deviceCount
  let place ← Checked.add row device.index
  let held ← Checked.get tables.states place
  if held = .stopped then
    tables.enterChecked place device.index .running (Checked.addWord · 1)
  else return tables

def ofTopologyChecked (topology : Topology) : Checked Flat := do
  let cellCount ← Checked.mul topology.agentCount topology.deviceCount
  topology.agents.zipIdx.foldlM
    (fun tables (view, agent) =>
      (view.clocks.filter ClockRecord.startsEnabled).foldlM
        (fun tables clock => tables.holdChecked agent clock.device) tables)
    { deviceCount := topology.deviceCount
      states := List.replicate cellCount .stopped
      refcounts := List.replicate topology.deviceCount 0 }

def proceedChecked (tables : Flat) (phase : Phase) (place device : Nat) (state : ClockState)
    (move : UInt32 → Checked UInt32) : Checked FlatReview :=
  match phase with
  | .pre => return { verdict := .ok .proceed, tables }
  | .post => do
    return { verdict := .ok .proceed, tables := ← tables.enterChecked place device state move }

def suppress (tables : Flat) (phase : Phase) (invalid : PolicyError) (notice : Notice) :
    FlatReview :=
  match phase with
  | .pre => { verdict := .ok .skip, tables, notice? := some notice }
  | .post => { verdict := .error invalid, tables, notice? := some (.invalidTransition invalid) }

def reviewChecked (tables : Flat) (phase : Phase) (context : PolicyContext)
    (state : ClockState) : Checked FlatReview :=
  match tables.place? context.agent context.device with
  | none => return { verdict := .error (.invalidParam context.agent context.device), tables }
  | some place => do
    let device := context.device.index
    let refcount ← Checked.get tables.refcounts device
    let held ← Checked.get tables.states place
    let invalid := PolicyError.invalidState context.agent context.device state refcount
    if held = state then return { verdict := .ok .skip, tables }
    else
      match state with
      | .running =>
        if refcount = 0 then
          tables.proceedChecked phase place device .running (Checked.addWord · 1)
        else
          return tables.suppress phase invalid (.shared context.agent context.device refcount)
      | .stopped =>
        if refcount = 0 then
          return { verdict := .error invalid, tables, notice? := some (.invalidStop context) }
        else if refcount = 1 then
          tables.proceedChecked phase place device .stopped (Checked.subWord · 1)
        else
          return tables.suppress phase invalid
            (.stopSuppressed context.agent context.device refcount)

end Flat

/-! ### Places -/

variable {tables : Sharing} {topology : Topology} {phase : Phase} {context : PolicyContext}
  {state : ClockState} {row : Nat} {agent : AgentId} {device : DeviceId} {refcount next : UInt32}

theorem length_flat_states : tables.flat.states.length =
    tables.states.length * tables.deviceCount :=
  length_flatten_of_forall tables.length_row

theorem place_lt (hrow : row < tables.states.length)
    (hdevice : device.index < tables.deviceCount) :
    row * tables.deviceCount + device.index < tables.states.length * tables.deviceCount := by
  have hrows := Nat.mul_le_mul_right tables.deviceCount (Nat.succ_le_of_lt hrow)
  rw [Nat.succ_mul] at hrows
  omega

theorem getElem?_flat_states (row : Nat) (hdevice : device.index < tables.deviceCount) :
    tables.flat.states[row * tables.deviceCount + device.index]? = tables.cell? row device :=
  getElem?_flatten_of_forall tables.length_row hdevice

@[simp] theorem flat_deviceCount : tables.flat.deviceCount = tables.deviceCount := rfl

@[simp] theorem flat_refcounts : tables.flat.refcounts = tables.refcounts := rfl

/-- A place is found for exactly the agents and devices that the tables have. -/
theorem flat_place? (small : tables.states.length * tables.deviceCount < sizeLimit) :
    tables.flat.place? agent device =
      if agent.index < tables.states.length ∧ device.index < tables.deviceCount then
        some (agent.index * tables.deviceCount + device.index)
      else none := by
  unfold Flat.place?
  rw [length_flat_states, flat_deviceCount]
  by_cases hdevice : device.index < tables.deviceCount
  · rw [if_neg (Nat.not_le.2 hdevice)]
    by_cases hagent : agent.index < tables.states.length
    · have hplace := place_lt hagent hdevice
      rw [if_pos ⟨hagent, hdevice⟩, Checked.mul_of_lt (by omega)]
      show ((Checked.add _ _).toOption >>= _) = _
      rw [Checked.add_of_lt (by omega)]
      exact if_pos hplace
    · have hrows := Nat.mul_le_mul_right tables.deviceCount (Nat.not_lt.1 hagent)
      rw [if_neg fun h => hagent h.1]
      unfold Checked.mul
      split
      · show ((Checked.add _ _).toOption >>= _) = _
        unfold Checked.add
        split
        · exact if_neg (by omega)
        · rfl
      · rfl
  · rw [if_pos (Nat.not_lt.1 hdevice), if_neg fun h => hdevice h.2]

/-! ### Entering a state -/

theorem flat_enterChecked {move : UInt32 → Checked UInt32} (hrow : row < tables.states.length)
    (counted : tables.refcount? device = some refcount) (moved : move refcount = .ok next) :
    tables.flat.enterChecked (row * tables.deviceCount + device.index) device.index state move =
      .ok (tables.put row device.index state next).flat := by
  have hdevice : device.index < tables.refcounts.length :=
    (List.getElem?_eq_some_iff.1 counted).1
  have hcolumn : device.index < tables.deviceCount := by rwa [← tables.length_refcounts]
  have hplace := place_lt hrow hcolumn
  rw [← length_flat_states] at hplace
  have hstates := flatten_modify_set tables.length_row hcolumn row state
  rw [Flat.enterChecked, Checked.set_of_lt hplace, Checked.ok_bind, flat_refcounts,
    Checked.get_of_getElem? counted, Checked.ok_bind, moved, Checked.ok_bind,
    Checked.set_of_lt hdevice, Checked.ok_bind]
  simp only [flat, put, hstates]
  rfl

/-! ### Reviews -/

theorem flat_suppress {invalid : PolicyError} {notice : Notice} :
    tables.flat.suppress phase invalid notice = (tables.suppress phase invalid notice).flat := by
  cases phase <;> rfl

theorem flat_proceedChecked {move : UInt32 → Checked UInt32}
    (hagent : context.agent.index < tables.states.length)
    (counted : tables.refcount? context.device = some refcount)
    (moved : move refcount = .ok next) :
    tables.flat.proceedChecked phase
        (context.agent.index * tables.deviceCount + context.device.index) context.device.index
        state move =
      .ok (tables.proceed phase context state next).flat := by
  cases phase with
  | pre => rfl
  | post =>
    rw [Flat.proceedChecked, flat_enterChecked hagent counted moved]
    rfl

/-- No review faults: a count goes up from zero and down from one. -/
theorem flat_reviewChecked (small : tables.states.length * tables.deviceCount < sizeLimit) :
    tables.flat.reviewChecked phase context state =
      .ok (tables.review phase context state).flat := by
  rw [Flat.reviewChecked, flat_place? small]
  by_cases hplace : context.agent.index < tables.states.length ∧
      context.device.index < tables.deviceCount
  · obtain ⟨hagent, hdevice⟩ := hplace
    obtain ⟨held, hheld⟩ := exists_cell?_eq_some hagent hdevice
    obtain ⟨refcount, counted⟩ := refcount?_eq_some_of_lt hdevice
    have hstored := getElem?_flat_states context.agent.index hdevice
    rw [hheld] at hstored
    rw [if_pos ⟨hagent, hdevice⟩]
    dsimp only
    rw [flat_refcounts, Checked.get_of_getElem? counted, Checked.ok_bind,
      Checked.get_of_getElem? hstored, Checked.ok_bind, review, state?_eq_cell?, hheld, counted]
    dsimp only
    by_cases hsame : held = state
    · rw [if_pos hsame, if_pos hsame]
      rfl
    rw [if_neg hsame, if_neg hsame]
    cases state with
    | running =>
      dsimp only
      by_cases hzero : refcount = 0
      · rw [if_pos hzero, if_pos hzero]
        refine flat_proceedChecked hagent counted (Checked.addWord_of_lt ?_)
        rw [hzero]
        decide
      · rw [if_neg hzero, if_neg hzero, flat_suppress]
        rfl
    | stopped =>
      dsimp only
      by_cases hzero : refcount = 0
      · rw [if_pos hzero, if_pos hzero]
        rfl
      rw [if_neg hzero, if_neg hzero]
      by_cases hone : refcount = 1
      · rw [if_pos hone, if_pos hone]
        refine flat_proceedChecked hagent counted (Checked.subWord_of_le ?_)
        rw [hone]
        exact UInt32.le_refl 1
      · rw [if_neg hone, if_neg hone, flat_suppress]
        rfl
  · rw [if_neg hplace, review, state?_eq_cell?]
    cases hheld : tables.cell? context.agent.index context.device with
    | none => rfl
    | some held => exact absurd ⟨row_lt_of_cell? hheld, index_lt_of_cell? hheld⟩ hplace

/-! ### The tables at start -/

/-- The tables have a row for each agent and a place for each device, and their counts are right. -/
structure Fits (tables : Sharing) (topology : Topology) : Prop where
  length_states : tables.states.length = topology.agentCount
  deviceCount_eq : tables.deviceCount = topology.deviceCount
  counts : ∀ device, tables.Counts device

theorem fits_idle (topology : Topology) :
    (idle topology.agentCount topology.deviceCount).Fits topology := by
  refine ⟨List.length_replicate, rfl, fun device refcount counted => ?_⟩
  rw [runners_idle]
  exact List.eq_of_mem_replicate (List.mem_of_getElem? counted)

theorem Fits.hold (h : tables.Fits topology) (row : Nat) (device : DeviceId) :
    (tables.hold row device).Fits topology :=
  ⟨length_states_hold.trans h.length_states, (deviceCount_hold row).trans h.deviceCount_eq,
    fun other => (h.counts other).hold⟩

/-- A state that is in the tables is found in its place, and it is entered if it is stopped. -/
theorem flat_holdChecked_of_cell? {held : ClockState}
    (small : tables.states.length * tables.deviceCount < sizeLimit)
    (hheld : tables.cell? row device = some held) :
    tables.flat.holdChecked row device =
      if held = .stopped then
        tables.flat.enterChecked (row * tables.deviceCount + device.index) device.index .running
          (Checked.addWord · 1)
      else .ok tables.flat := by
  have hdevice := index_lt_of_cell? hheld
  have hplace := (place_lt (row_lt_of_cell? hheld) hdevice).trans small
  have hstored := getElem?_flat_states row hdevice
  rw [hheld] at hstored
  have hmul : Checked.mul row tables.deviceCount = .ok (row * tables.deviceCount) :=
    Checked.mul_of_lt (Nat.lt_of_le_of_lt (Nat.le_add_right ..) hplace)
  rw [Flat.holdChecked, flat_deviceCount, hmul, Checked.ok_bind, Checked.add_of_lt hplace,
    Checked.ok_bind, Checked.get_of_getElem? hstored, Checked.ok_bind]
  rfl

/-- An agent that is counted for the first time is not among those that were counted before. -/
theorem Fits.flat_holdChecked (h : tables.Fits topology) (bounded : topology.Bounded)
    (hrow : row < topology.agentCount) (hdevice : device.index < topology.deviceCount) :
    tables.flat.holdChecked row device = .ok (tables.hold row device).flat := by
  obtain ⟨hlength, hcount, hcounts⟩ := h
  obtain ⟨hagents, hsmall⟩ := bounded
  rw [← hlength] at hrow hagents hsmall
  rw [← hcount] at hdevice hsmall
  obtain ⟨held, hheld⟩ := exists_cell?_eq_some hrow hdevice
  obtain ⟨refcount, counted⟩ := refcount?_eq_some_of_lt hdevice
  have hentry : tables.states[row]?.bind (·[device.index]?) = some held := hheld
  rw [flat_holdChecked_of_cell? hsmall hheld, Sharing.hold, hentry, counted]
  cases held with
  | running => rfl
  | stopped =>
    have hlt := card_runners_lt hheld
    have hexact := (hcounts device).toNat_eq (Nat.lt_of_le_of_lt hagents (by decide)) counted
    refine flat_enterChecked hrow counted (Checked.addWord_of_lt ?_)
    show refcount.toNat + 1 < 2 ^ 32
    omega

theorem flat_idle (agentCount deviceCount : Nat) : (idle agentCount deviceCount).flat =
    ⟨deviceCount, List.replicate (agentCount * deviceCount) .stopped,
      List.replicate deviceCount 0⟩ := by
  rw [flat, idle, List.flatten_replicate_replicate]

/-- A view has a row, and its clocks have places in it. -/
theorem lt_of_mem_zipIdx {entry : AgentView × Nat} (h : entry ∈ topology.agents.zipIdx) :
    entry.2 < topology.agentCount ∧
      ∀ clock ∈ entry.1.clocks, clock.device.index < topology.deviceCount := by
  have hview : topology.agents[entry.2]? = some entry.1 := List.mem_zipIdx_iff_getElem?.1 h
  exact ⟨(List.getElem?_eq_some_iff.1 hview).1,
    topology.devices_known entry.1 (List.mem_of_getElem? hview)⟩

theorem flat_ofTopologyChecked (bounded : topology.Bounded) :
    Flat.ofTopologyChecked topology = .ok (ofTopology topology).flat := by
  rw [Flat.ofTopologyChecked, Checked.mul_of_lt bounded.cells_lt, Checked.ok_bind, ← flat_idle]
  refine (Checked.foldlM_of_invariant (p := (Fits · topology))
    (fits_idle topology) fun tables hfits entry hentry => ?_).1
  obtain ⟨view, row⟩ := entry
  obtain ⟨hrow, hdevices⟩ := lt_of_mem_zipIdx hentry
  refine Checked.foldlM_of_invariant (p := (Fits · topology)) hfits
    fun tables hfits clock hclock => ?_
  have hdevice := hdevices clock (List.mem_filter.1 hclock).1
  exact ⟨hfits.flat_holdChecked bounded hrow hdevice, hfits.hold row clock.device⟩

end Sharing
end ClockManager
