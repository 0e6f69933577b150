import ClockManager.Proofs.Event
import ClockManager.Settlement
/-!
# How a request ends

The paths of `Topology.execute` and `Topology.finish`: one call on the clock, then, once there is a
result, a commit if a state has been applied, and one answer to the owner of the slot. The slot is
free afterwards. Notices stand between these, and none of them reports a defect as long as a change
of state has a target.
-/

namespace ClockManager

open Dialogue (call log asks_pure)

theorem Work.takes_perform {work : Work} {device : DeviceId} {history : History}
    {settled? : Option (Except HardwareError Value)}
    (takes : (work.perform device).Takes history settled?) :
    ∃ exchange : Exchange, history = [exchange] ∧
      exchange.touch? = some ⟨device, work, settled?⟩ := by
  cases work <;>
  · obtain ⟨answer, rest, rfl, rfl, rfl⟩ := Dialogue.takes_call_bind.1 takes
    exact ⟨_, rfl, rfl⟩

/-- The state that is to be committed when the request of a slot ends in `result`. -/
def Slot.applied? (slot : Slot) (result : Except HardwareError Value) : Option ClockState :=
  match result with
  | .ok .applied => if slot.kind = .setState then slot.target? else none
  | _ => none

theorem Slot.target?_of_applied? {slot : Slot} {result : Except HardwareError Value}
    {state : ClockState} (h : slot.applied? result = some state) : slot.target? = some state := by
  unfold applied? at h
  split at h
  · split at h
    · exact h
    · simp at h
  · simp at h

/-- The commits of `states`, one after the other. -/
def SlotOwner.commits (owner : SlotOwner) (device : DeviceId) (states : List ClockState) :
    List Query :=
  states.map (.reviewState .post (owner.context device))

/-- Whatever the policy has said, an exchange that commits is a review and nothing else. -/
theorem SlotOwner.exists_review_of_mem {owner : SlotOwner} {device : DeviceId}
    {states : List ClockState} {commits : History}
    (h : commits.map Exchange.query = owner.commits device states) :
    ∀ exchange ∈ commits, ∃ (state : ClockState) (review : StateReview),
      exchange = ⟨.reviewState .post (owner.context device) state, review⟩ := by
  rintro ⟨query, answer⟩ hmem
  have hquery : query ∈ owner.commits device states :=
    h ▸ List.mem_map_of_mem (f := Exchange.query) hmem
  obtain ⟨state, _, rfl⟩ := List.mem_map.1 hquery
  exact ⟨state, answer, rfl⟩

theorem Slot.takes_commit {slot : Slot} {device : DeviceId} {history : History} {ended : Unit}
    (takes : (slot.commit device).Takes history ended) :
    (spoken history).map Exchange.query = slot.owner.commits device slot.target?.toList := by
  unfold commit at takes
  split at takes
  · rename_i hnone
    rw [Dialogue.takes_log] at takes
    rw [takes, hnone]
    rfl
  · rename_i state hstate
    rw [Dialogue.takes_call_bind] at takes
    obtain ⟨review, rest, rfl, takes⟩ := takes
    rw [hstate]
    split at takes
    · obtain ⟨rfl, _⟩ := takes
      rfl
    · rw [Dialogue.takes_log] at takes
      rw [takes]
      rfl

namespace Topology

variable {topology : Topology} {tracker after : Tracker} {device : DeviceId} {slot : Slot}
  {result : Except HardwareError Value} {history : History}

/-- What the owner of a slot is told when its request ends in `result`. -/
def endFrame (topology : Topology) (device : DeviceId) (slot : Slot)
    (result : Except HardwareError Value) : Frame :=
  match result with
  | .error error => .status (.ofHardware error)
  | .ok value =>
    if value.fits slot.kind then
      match value with
      | .state s => .clockAttributes s ((topology.deviceName? device).getD "")
      | .rate r => .rate r
      | .applied => .status .success
    else .status .genericError

theorem takes_resultFrame {frame : Frame}
    (takes : (topology.resultFrame device slot result).Takes history frame) :
    frame = topology.endFrame device slot result ∧ (spoken history).map Exchange.query =
      slot.owner.commits device (slot.applied? result).toList := by
  unfold resultFrame at takes
  split at takes
  · rw [Dialogue.takes_log_bind] at takes
    obtain ⟨rest, rfl, rfl, rfl⟩ := takes
    exact ⟨rfl, rfl⟩
  rename_i value
  dsimp only [endFrame]
  split at takes
  · rename_i hfits
    rw [if_pos hfits]
    split at takes
    · obtain ⟨rfl, rfl⟩ := takes
      exact ⟨rfl, rfl⟩
    · obtain ⟨rfl, rfl⟩ := takes
      exact ⟨rfl, rfl⟩
    · split at takes
      · rename_i hkind
        rw [Dialogue.takes_bind] at takes
        obtain ⟨first, rest, _, rfl, hcommit, rfl, rfl⟩ := takes
        exact ⟨rfl, by simpa [Slot.applied?, hkind] using Slot.takes_commit hcommit⟩
      · rename_i hkind
        obtain ⟨rfl, rfl⟩ := takes
        rw [Slot.applied?, if_neg hkind]
        exact ⟨rfl, rfl⟩
  · rename_i hfits
    have hnone : slot.applied? (.ok value) = none := by
      cases value with
      | state s => rfl
      | rate r => rfl
      | applied =>
        have hkind : slot.kind ≠ .setState := by
          intro hkind
          rw [hkind] at hfits
          exact hfits rfl
        rw [Slot.applied?, if_neg hkind]
    rw [Dialogue.takes_log_bind] at takes
    obtain ⟨rest, rfl, rfl, rfl⟩ := takes
    rw [if_neg hfits, hnone]
    exact ⟨rfl, rfl⟩

/-- A request ends with the commit of the state that was applied, if there is one, and one answer to
the owner; the slot is free then, whether or not the answer could be sent. -/
theorem takes_finish {sent : Except TransportError Unit}
    (takes : (topology.finish tracker device slot result).Takes history (sent, after)) :
    after = (tracker.release device).2 ∧ ∃ commits : History,
      spoken history = commits ++ [⟨.respond slot.owner.service
        (.bytes (topology.endFrame device slot result).bytes), sent⟩] ∧
      commits.map Exchange.query = slot.owner.commits device (slot.applied? result).toList := by
  unfold finish at takes
  rw [Dialogue.takes_bind] at takes
  obtain ⟨before, rest, frame, rfl, hframe, takes⟩ := takes
  obtain ⟨rfl, hcommits⟩ := takes_resultFrame hframe
  dsimp only at takes
  split at takes
  · rw [Dialogue.takes_log_bind] at takes
    obtain ⟨rest, rfl, takes⟩ := takes
    rw [Dialogue.takes_call_bind] at takes
    obtain ⟨answer, rest, rfl, rfl, hend⟩ := takes
    obtain ⟨rfl, rfl⟩ := Prod.mk.inj hend
    refine ⟨rfl, spoken before, ?_, hcommits⟩
    rw [spoken_append]
    rfl
  · rw [Dialogue.takes_call_bind] at takes
    obtain ⟨answer, rest, rfl, rfl, hend⟩ := takes
    obtain ⟨rfl, rfl⟩ := Prod.mk.inj hend
    refine ⟨rfl, spoken before, ?_, hcommits⟩
    rw [spoken_append]
    rfl

theorem replies_of_takes_finish {sent : Except TransportError Unit}
    (takes : (topology.finish tracker device slot result).Takes history (sent, after)) :
    replies history = [(slot.owner.service,
      .bytes (topology.endFrame device slot result).bytes)] := by
  obtain ⟨_, commits, hspoken, hcommits⟩ := takes_finish takes
  have hsilent : replies commits = [] := by
    rw [replies, List.filterMap_eq_nil_iff]
    intro exchange hmem
    obtain ⟨state, review, rfl⟩ := SlotOwner.exists_review_of_mem hcommits exchange hmem
    rfl
  rw [← replies_spoken, hspoken, replies_append, hsilent]
  rfl

/-- One call on the clock is made for an item. It is all that happens when the hardware does not
finish at once; otherwise the request ends as `takes_finish` says. -/
theorem takes_execute {item : WorkItem} {outcome : Except TransportError WorkOutcome}
    (busy : tracker.slot? item.device = some slot)
    (takes : (topology.execute tracker item).Takes history (outcome, after)) :
    ∃ (exchange : Exchange) (rest : History), history = exchange :: rest ∧
      ((exchange.touch? = some ⟨item.device, item.work, none⟩ ∧
          rest = [⟨.log (.pending item.device slot.kind), ()⟩] ∧
          outcome = .ok .pending ∧ after = tracker) ∨
        ∃ result sent, exchange.touch? = some ⟨item.device, item.work, some result⟩ ∧
          (topology.finish tracker item.device slot result).Takes rest (sent, after) ∧
          outcome = sent.map fun () => .completed) := by
  unfold execute at takes
  rw [busy] at takes
  rw [Dialogue.takes_bind] at takes
  obtain ⟨called, rest, settled?, rfl, hcall, takes⟩ := takes
  obtain ⟨exchange, rfl, htouch⟩ := Work.takes_perform hcall
  refine ⟨exchange, rest, rfl, ?_⟩
  cases settled? with
  | none =>
    rw [Dialogue.takes_log_bind] at takes
    obtain ⟨last, rfl, rfl, hend⟩ := takes
    obtain ⟨rfl, rfl⟩ := Prod.mk.inj hend
    exact .inl ⟨htouch, rfl, rfl, rfl⟩
  | some result =>
    rw [Dialogue.takes_bind] at takes
    obtain ⟨finished, last, ⟨sent, left⟩, rfl, hfinish, rfl, hend⟩ := takes
    obtain ⟨rfl, rfl⟩ := Prod.mk.inj hend
    exact .inr ⟨result, sent, htouch, by rwa [List.append_nil], rfl⟩

end Topology

/-! ### No defects -/

/-- No query of the dialogue reports a defect. -/
abbrev Dialogue.Sound {α : Type} (d : Dialogue α) : Prop := d.Asks (·.isDefect = false)

theorem sound_call {query : Query} (h : query.isDefect = false) : (call query).Sound :=
  Dialogue.asks_call h

theorem sound_log {notice : Notice} (h : notice.isDefect = false) : (log notice).Sound :=
  Dialogue.asks_call h

theorem Slot.sound_commit {slot : Slot} (h : slot.target?.isSome) (device : DeviceId) :
    (slot.commit device).Sound := by
  obtain ⟨state, hstate⟩ := Option.isSome_iff_exists.1 h
  unfold commit
  rw [hstate]
  refine (sound_call rfl).bind fun review => ?_
  split
  · exact asks_pure _
  · exact sound_log rfl

theorem Topology.sound_resultFrame {slot : Slot}
    (h : slot.kind = .setState → slot.target?.isSome) (topology : Topology) (device : DeviceId)
    (result : Except HardwareError Value) : (topology.resultFrame device slot result).Sound := by
  unfold resultFrame
  split
  · exact (sound_log rfl).bind fun _ => asks_pure _
  split
  · split
    · exact asks_pure _
    · exact asks_pure _
    · split
      · rename_i hkind
        exact (Slot.sound_commit (h hkind) device).bind fun _ => asks_pure _
      · exact asks_pure _
  · exact (sound_log rfl).bind fun _ => asks_pure _

/-- Ending a request reports no defect, provided that a change of state has a target. -/
theorem Topology.sound_finish {slot : Slot} (h : slot.kind = .setState → slot.target?.isSome)
    (topology : Topology) (tracker : Tracker) (device : DeviceId)
    (result : Except HardwareError Value) :
    (topology.finish tracker device slot result).Sound := by
  refine (topology.sound_resultFrame h device result).bind fun frame => ?_
  dsimp only
  split
  · exact (sound_log rfl).bind fun _ => (sound_call rfl).bind fun _ => asks_pure _
  · exact (sound_call rfl).bind fun _ => asks_pure _

end ClockManager
