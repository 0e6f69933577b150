import ClockManager.Proofs.Checked.Sharing
import ClockManager.Proofs.Platform.Contention
import ClockManager.Proofs.Topology
/-!
# What a topology is good for

Names, slots and the tables of the sharing policy are sized by the topology, each on its own. What
is checked of the parts of a topology is just what makes them fit: a clock that an agent can name is
on a device that has a name, a slot, and an entry for that agent in the tables, from the start on
and for good.
-/

namespace ClockManager

open Checked (sizeLimit)

/-- A device has a name and, in every state of the platform, a slot. For the agent it has a state
and a count in the tables of the sharing policy, also when they are stored as one list. -/
structure Topology.Equips (topology : Topology) (agent : AgentId) (device : DeviceId) : Prop where
  named : ∃ name, topology.deviceName? device = some name
  tracked : ∀ moves platform, (Platform.start topology).Runs moves platform →
    device.index < platform.tracker.slots.length
  entered : ∀ events, ∃ state refcount,
    ((Sharing.ofTopology topology).after events).state? agent device = some state ∧
      ((Sharing.ofTopology topology).after events).refcount? device = some refcount
  placed : topology.agentCount * topology.deviceCount < sizeLimit →
    ∃ place, (Sharing.ofTopology topology).flat.place? agent device = some place

namespace Topology

variable {topology : Topology} {index : UInt32} {clock : ResolvedClock}

theorem equips_of_lt {agent : AgentId} {device : DeviceId}
    (hagent : agent.index < topology.agentCount) (hdevice : device.index < topology.deviceCount) :
    topology.Equips agent device where
  named := ⟨_, List.getElem?_eq_getElem hdevice⟩
  tracked moves platform run := by
    rw [run.consistent.length_slots, run.topology_eq]
    exact hdevice
  entered events := by
    have hrow : agent.index < ((Sharing.ofTopology topology).after events).states.length := by
      rwa [Sharing.length_states_after_ofTopology]
    have hcolumn : device.index < ((Sharing.ofTopology topology).after events).deviceCount := by
      rwa [Sharing.deviceCount_after, Sharing.deviceCount_ofTopology]
    obtain ⟨state, hstate⟩ := Sharing.exists_cell?_eq_some hrow hcolumn
    obtain ⟨refcount, hrefcount⟩ := Sharing.refcount?_eq_some_of_lt hcolumn
    exact ⟨state, refcount, hstate, hrefcount⟩
  placed small := by
    have hlength := Sharing.length_states_ofTopology topology
    have hcount := Sharing.deviceCount_ofTopology topology
    rw [Sharing.flat_place? (by rwa [hlength, hcount]), hlength, hcount,
      if_pos ⟨hagent, hdevice⟩]
    exact ⟨_, rfl⟩

theorem equips_of_resolveClock {owner : Except TransportError AgentId}
    (resolved : topology.resolveClock owner index = .ok clock) :
    topology.Equips clock.agent clock.record.device := by
  obtain ⟨-, -, names⟩ := resolveClock_eq_ok resolved
  have hdevice := names.index_lt
  obtain ⟨view, record, known, -, -⟩ := names
  exact equips_of_lt (List.getElem?_eq_some_iff.1 known).1 hdevice

end Topology
end ClockManager
