import ClockManager.Proofs.Checked.Sharing
import ClockManager.Proofs.Sharing.Repetition
import ClockManager.Proofs.Topology
/-!
# What the tables start from

The tables of the sharing policy are set up clock by clock, a state and a count at a time. What
comes out depends on nothing but which agents start which devices enabled: an agent that is entered
for a device is not entered again, and what is entered for two devices does not depend on their
order. So it does not matter how often a view lists a device, nor in which order.

The counts are kept in 32 bits. If the tables are set up without a fault, then none of them has
overflowed, and each is the number of agents that start the device. Else it need not be: a crowd of
agents is counted as none.
-/

namespace ClockManager

namespace AgentView

variable {view other : AgentView} {device : DeviceId}

/-- The devices that the view starts enabled, once for each clock that is. -/
def started (view : AgentView) : List DeviceId :=
  (view.clocks.filter ClockRecord.startsEnabled).map ClockRecord.device

@[simp] theorem mem_started : device ∈ view.started ↔ view.StartsEnabled device := by
  simp [started, StartsEnabled, and_assoc]

def StartsAlike (view other : AgentView) : Prop :=
  ∀ device, view.StartsEnabled device ↔ other.StartsEnabled device

/-- The views have the same clocks, in whatever order and however often each. -/
def ListsAlike (view other : AgentView) : Prop :=
  ∀ clock, clock ∈ view.clocks ↔ clock ∈ other.clocks

theorem ListsAlike.startsAlike (alike : view.ListsAlike other) : view.StartsAlike other := by
  intro device
  simp only [StartsEnabled, alike _]

end AgentView

/-- The agent has a clock on the device that is enabled at the start. -/
def Topology.Starts (topology : Topology) (agent : AgentId) (device : DeviceId) : Prop :=
  ∃ view, topology.agent? agent = some view ∧ view.StartsEnabled device

namespace Sharing

open Checked (sizeLimit)

variable {tables : Sharing} {topology : Topology} {row place : Nat} {agent : AgentId}
  {device other : DeviceId} {state : ClockState} {refcount count : UInt32}

/-! ### Entries at the start -/

theorem state?_ofTopology_eq_running_iff :
    (ofTopology topology).state? agent device = some .running ↔ topology.Starts agent device := by
  rw [state?_eq_cell?, ← mem_runners, mem_runners_ofTopology]
  rfl

theorem isSome_state?_ofTopology_iff :
    ((ofTopology topology).state? agent device).isSome ↔
      agent.index < topology.agentCount ∧ device.index < topology.deviceCount := by
  rw [state?_eq_cell?, ← length_states_ofTopology topology, ← deviceCount_ofTopology topology]
  constructor
  · intro h
    obtain ⟨state, hstate⟩ := Option.isSome_iff_exists.1 h
    exact ⟨row_lt_of_cell? hstate, index_lt_of_cell? hstate⟩
  · rintro ⟨hagent, hdevice⟩
    exact Option.isSome_iff_exists.2 (exists_cell?_eq_some hagent hdevice)

/-- Of the agents and devices that there are, those that are not started are stopped. -/
theorem state?_ofTopology_eq_stopped_iff :
    (ofTopology topology).state? agent device = some .stopped ↔
      (agent.index < topology.agentCount ∧ device.index < topology.deviceCount) ∧
        ¬topology.Starts agent device := by
  rw [← isSome_state?_ofTopology_iff, ← state?_ofTopology_eq_running_iff]
  cases (ofTopology topology).state? agent device with
  | none => simp
  | some state => cases state <;> simp

theorem refcount?_ofTopology : (ofTopology topology).refcount? device =
    if device.index < topology.deviceCount then
      some (UInt32.ofNat (starters topology device).ncard)
    else none := by
  rw [← deviceCount_ofTopology topology, ← coe_runners_ofTopology, Set.ncard_coe_finset]
  split
  · rename_i hdevice
    obtain ⟨refcount, counted⟩ := refcount?_eq_some_of_lt hdevice
    rw [counted, counts_ofTopology topology device refcount counted]
  · rename_i hdevice
    exact List.getElem?_eq_none (by rw [length_refcounts]; exact Nat.not_lt.1 hdevice)

/-! ### One device entered for an agent -/

theorem hold_of_stopped (stopped : tables.cell? row device = some .stopped)
    (counted : tables.refcount? device = some refcount) :
    tables.hold row device = tables.put row device.index .running (refcount + 1) := by
  have hentry : tables.states[row]?.bind (·[device.index]?) = some .stopped := stopped
  rw [hold, hentry, counted]

theorem hold_of_ne_stopped (h : tables.cell? row device ≠ some .stopped) :
    tables.hold row device = tables := by
  unfold hold
  split
  · rename_i stopped _
    exact absurd stopped h
  · rfl

theorem cell?_hold_of_ne (h : other ≠ device) :
    (tables.hold place device).cell? row other = tables.cell? row other := by
  unfold hold
  split
  · rw [cell?_put, if_neg fun heq => h heq.2]
  · rfl

theorem refcount?_hold_of_ne (h : other ≠ device) :
    (tables.hold row device).refcount? other = tables.refcount? other := by
  unfold hold
  split
  · exact refcount?_put_of_ne h
  · rfl

theorem hold_hold_self : (tables.hold row device).hold row device = tables.hold row device := by
  by_cases stopped : tables.cell? row device = some .stopped
  · obtain ⟨refcount, counted⟩ := refcount?_eq_some_of_lt (index_lt_of_cell? stopped)
    apply hold_of_ne_stopped
    rw [hold_of_stopped stopped counted, cell?_put, if_pos ⟨rfl, rfl⟩, stopped]
    nofun
  · rw [hold_of_ne_stopped stopped, hold_of_ne_stopped stopped]

theorem put_put_comm {target : ClockState} (h : device ≠ other) :
    (tables.put row device.index state refcount).put row other.index target count =
      (tables.put row other.index target count).put row device.index state refcount := by
  have hne : device.index ≠ other.index := fun heq => h (DeviceId.index_inj.1 heq)
  simp only [put, List.modify_modify_eq, Function.comp_def, List.set_comm _ _ hne]

theorem hold_hold_comm (tables : Sharing) (row : Nat) (device other : DeviceId) :
    (tables.hold row device).hold row other = (tables.hold row other).hold row device := by
  by_cases heq : device = other
  · rw [heq]
  have hne : other ≠ device := fun h => heq h.symm
  by_cases stopped : tables.cell? row device = some .stopped
  · by_cases stoppedOther : tables.cell? row other = some .stopped
    · obtain ⟨refcount, counted⟩ := refcount?_eq_some_of_lt (index_lt_of_cell? stopped)
      obtain ⟨count, countedOther⟩ := refcount?_eq_some_of_lt (index_lt_of_cell? stoppedOther)
      rw [hold_of_stopped ((cell?_hold_of_ne hne).trans stoppedOther)
          ((refcount?_hold_of_ne hne).trans countedOther),
        hold_of_stopped ((cell?_hold_of_ne heq).trans stopped)
          ((refcount?_hold_of_ne heq).trans counted),
        hold_of_stopped stopped counted, hold_of_stopped stoppedOther countedOther,
        put_put_comm heq]
    · have hlater : (tables.hold row device).cell? row other ≠ some .stopped := by
        rwa [cell?_hold_of_ne hne]
      rw [hold_of_ne_stopped hlater, hold_of_ne_stopped stoppedOther]
  · have hlater : (tables.hold row other).cell? row device ≠ some .stopped := by
      rwa [cell?_hold_of_ne heq]
    rw [hold_of_ne_stopped hlater, hold_of_ne_stopped stopped]

/-! ### Any order, any number of times -/

/-- The tables with the devices entered for an agent one after another. -/
def holdAll (tables : Sharing) (row : Nat) (devices : List DeviceId) : Sharing :=
  devices.foldl (fun tables device => tables.hold row device) tables

/-- A device that is entered later need not be entered before. -/
theorem holdAll_hold_of_mem {devices : List DeviceId} (h : device ∈ devices) :
    (tables.hold row device).holdAll row devices = tables.holdAll row devices := by
  induction devices generalizing tables with
  | nil => cases h
  | cons first rest ih =>
    simp only [holdAll, List.foldl_cons] at ih ⊢
    rcases List.mem_cons.1 h with rfl | hmem
    · rw [hold_hold_self]
    · rw [hold_hold_comm, ih hmem]

theorem holdAll_dedup (tables : Sharing) (row : Nat) (devices : List DeviceId) :
    tables.holdAll row devices.dedup = tables.holdAll row devices := by
  induction devices generalizing tables with
  | nil => rfl
  | cons first rest ih =>
    by_cases hmem : first ∈ rest
    · rw [List.dedup_cons_of_mem hmem, ih]
      exact (holdAll_hold_of_mem hmem).symm
    · rw [List.dedup_cons_of_notMem hmem]
      exact ih (tables.hold row first)

theorem holdAll_congr {devices others : List DeviceId}
    (h : ∀ device, device ∈ devices ↔ device ∈ others) :
    tables.holdAll row devices = tables.holdAll row others := by
  have hperm : devices.dedup.Perm others.dedup :=
    (List.perm_ext_iff_of_nodup devices.nodup_dedup others.nodup_dedup).2 fun device => by
      rw [List.mem_dedup, List.mem_dedup, h device]
  rw [← holdAll_dedup tables row devices, ← holdAll_dedup tables row others]
  exact hperm.foldl_eq' (fun device _ other _ tables => hold_hold_comm tables row device other) _

/-- The tables with what the views start enabled entered, view by view. -/
def holdViews (tables : Sharing) (views : List (AgentView × Nat)) : Sharing :=
  views.foldl (fun tables (view, row) => tables.holdAll row view.started) tables

theorem ofTopology_eq_holdViews (topology : Topology) : ofTopology topology =
    (idle topology.agentCount topology.deviceCount).holdViews topology.agents.zipIdx := by
  simp only [ofTopology, holdViews, holdAll, AgentView.started, List.foldl_map]

theorem holdViews_congr {views others : List AgentView} (tables : Sharing) (row : Nat)
    (h : List.Forall₂ AgentView.StartsAlike views others) :
    tables.holdViews (views.zipIdx row) = tables.holdViews (others.zipIdx row) := by
  induction h generalizing tables row with
  | nil => rfl
  | @cons view other views others alike _ ih =>
    have hview : tables.holdAll row view.started = tables.holdAll row other.started :=
      holdAll_congr fun device => by simpa using alike device
    rw [List.zipIdx_cons, List.zipIdx_cons]
    simp only [holdViews, List.foldl_cons] at ih ⊢
    rw [hview, ih]

/-- All that matters of a view is which devices it starts enabled. -/
theorem ofTopology_congr {found : Topology} (hcount : topology.deviceCount = found.deviceCount)
    (h : List.Forall₂ AgentView.StartsAlike topology.agents found.agents) :
    ofTopology topology = ofTopology found := by
  have hagents : topology.agentCount = found.agentCount := h.length_eq
  rw [ofTopology_eq_holdViews, ofTopology_eq_holdViews, hcount, hagents]
  exact holdViews_congr _ 0 h

/-- So a topology stays one, and starts from the same tables, if the clocks in the views of its
agents are listed in another order, or more or less often. -/
theorem exists_ofParts_ofTopology_eq {views : List AgentView}
    (h : List.Forall₂ AgentView.ListsAlike topology.agents views) :
    ∃ found, Topology.ofParts topology.maxPending topology.devices views = .ok found ∧
      ofTopology found = ofTopology topology := by
  have sound : Topology.Sound topology.devices views := by
    refine ⟨?_, topology.devices_ne,
      fun name hname => Nat.le_of_lt_succ (topology.names_fit name hname), ?_⟩
    · rintro rfl
      exact topology.agents_ne (List.forall₂_nil_right_iff.1 h)
    · intro other hother clock hclock
      obtain ⟨place, hplace, rfl⟩ := List.mem_iff_getElem.1 hother
      have hview : place < topology.agents.length := by rwa [h.length_eq]
      have alike := (List.forall₂_iff_get.1 h).2 place hview hplace
      exact topology.devices_known _ (List.getElem_mem hview) clock ((alike clock).2 hclock)
  obtain ⟨found, hfound, -, hdevices, hagents⟩ := sound.exists_ofParts topology.maxPending
  refine ⟨found, hfound, (ofTopology_congr ?_ ?_).symm⟩
  · rw [Topology.deviceCount, Topology.deviceCount, hdevices]
  · rw [hagents]
    exact h.imp fun _ _ => AgentView.ListsAlike.startsAlike

/-! ### Set up without a fault -/

/-- The tables fit the topology, and no count has overflowed. -/
structure FitsExactly (tables : Sharing) (topology : Topology) : Prop where
  fits : tables.Fits topology
  exact : ∀ device, tables.CountsExactly device

theorem fitsExactly_idle (topology : Topology) :
    (idle topology.agentCount topology.deviceCount).FitsExactly topology := by
  refine ⟨fits_idle topology, fun device => ⟨(fits_idle topology).counts device, ?_⟩⟩
  rw [runners_idle]
  decide

theorem CountsExactly.toNat_eq (h : tables.CountsExactly device)
    (counted : tables.refcount? device = some refcount) :
    refcount.toNat = (tables.runners device).card :=
  h.counts.toNat_eq_of_card_lt h.card_lt counted

/-- With room for one more, one more agent is counted exactly. -/
theorem CountsExactly.put_running (h : tables.CountsExactly other)
    (stopped : tables.cell? row device = some .stopped)
    (counted : tables.refcount? device = some refcount)
    (room : refcount.toNat + 1 < UInt32.size) :
    (tables.put row device.index .running (refcount + 1)).CountsExactly other := by
  by_cases heq : other = device
  · subst heq
    have hnew : row ∉ tables.runners other := by simp [mem_runners, stopped]
    refine ⟨h.counts.put_running stopped counted, ?_⟩
    rw [runners_put_running (by rw [stopped]; rfl), Finset.card_insert_of_notMem hnew,
      ← h.toNat_eq counted]
    exact room
  · refine ⟨h.counts.put_of_ne heq, ?_⟩
    rw [runners_put_of_ne heq]
    exact h.card_lt

theorem Flat.lt_of_enterChecked {flat next : Flat} {column : Nat}
    (counted : flat.refcounts[column]? = some refcount)
    (returned : flat.enterChecked place column state (Checked.addWord · 1) = .ok next) :
    refcount.toNat + 1 < UInt32.size := by
  by_contra hlimit
  have hfault : Checked.addWord refcount 1 = .error .overflow := if_neg hlimit
  unfold Flat.enterChecked Checked.set at returned
  split at returned
  · rw [Checked.ok_bind, Checked.get_of_getElem? counted, Checked.ok_bind] at returned
    dsimp only at returned
    rw [hfault] at returned
    cases returned
  · cases returned

/-- If an agent is entered without a fault, then the count had room for one more. -/
theorem FitsExactly.hold (h : tables.FitsExactly topology) {next : Flat}
    (small : topology.agentCount * topology.deviceCount < sizeLimit)
    (hrow : row < topology.agentCount) (hdevice : device.index < topology.deviceCount)
    (returned : tables.flat.holdChecked row device = .ok next) :
    next = (tables.hold row device).flat ∧ (tables.hold row device).FitsExactly topology := by
  have hfits := h.fits.hold row device
  rw [← h.fits.length_states] at hrow small
  rw [← h.fits.deviceCount_eq] at hdevice small
  obtain ⟨held, hheld⟩ := exists_cell?_eq_some hrow hdevice
  obtain ⟨refcount, counted⟩ := refcount?_eq_some_of_lt hdevice
  rw [flat_holdChecked_of_cell? small hheld] at returned
  cases held with
  | running =>
    rw [hold_of_ne_stopped (by rw [hheld]; nofun)]
    exact ⟨(Except.ok.inj returned).symm, h⟩
  | stopped =>
    rw [if_pos rfl] at returned
    have room : refcount.toNat + 1 < UInt32.size := Flat.lt_of_enterChecked counted returned
    have hentered : tables.flat.enterChecked (row * tables.deviceCount + device.index) device.index
          .running (Checked.addWord · 1) =
        .ok (tables.put row device.index .running (refcount + 1)).flat :=
      flat_enterChecked hrow counted (Checked.addWord_of_lt room)
    rw [hentered] at returned
    rw [hold_of_stopped hheld counted] at hfits ⊢
    exact ⟨(Except.ok.inj returned).symm, hfits,
      fun other => (h.exact other).put_running hheld counted room⟩

theorem fitsExactly_ofTopology {flat : Flat}
    (returned : Flat.ofTopologyChecked topology = .ok flat) :
    flat = (ofTopology topology).flat ∧ (ofTopology topology).FitsExactly topology := by
  unfold Flat.ofTopologyChecked Checked.mul at returned
  split at returned
  · rename_i small
    rw [Checked.ok_bind, ← flat_idle] at returned
    -- Agents are the outer loop and the clocks of each the inner one; both keep `FitsExactly`.
    refine Checked.foldlM_eq_ok_of_invariant (p := (FitsExactly · topology))
      (fitsExactly_idle topology) (fun tables hfits entry hentry next hnext => ?_) returned
    obtain ⟨view, row⟩ := entry
    obtain ⟨hrow, hdevices⟩ := lt_of_mem_zipIdx hentry
    refine Checked.foldlM_eq_ok_of_invariant (p := (FitsExactly · topology)) hfits
      (fun tables hfits clock hclock next hnext => ?_) hnext
    exact hfits.hold small hrow (hdevices clock (List.mem_filter.1 hclock).1) hnext
  · cases returned

/-! ### The start -/

theorem ncard_starters_crowd (others : Nat) :
    (starters (crowd others) ⟨0⟩).ncard = others + 1 := by
  rw [← coe_runners_ofTopology, Set.ncard_coe_finset, runners_crowd, Finset.card_range]

end Sharing
end ClockManager
