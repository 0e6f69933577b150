import ClockManager.Proofs.Bench
import ClockManager.Proofs.Platform.Step
/-!
# Commits never fail

The sharing policy is asked about a change of state before the slot of the device is claimed, and
again after the hardware has made the change. In between, any number of other requests may come
in; but only a commit changes the tables, it changes them for one device alone, and the slot of that
device is taken. So the tables still let the change through when it is committed.
-/

namespace ClockManager

namespace Sharing

variable {tables : Sharing} {history : History} {events more : List Event}

/-- The tables once the end of a request has been committed. -/
def commit (tables : Sharing) (owner : SlotOwner) (device : DeviceId) :
    Option ClockState → Sharing
  | none => tables
  | some state => tables.put owner.agent.index device.index state (holders state)

/-- Every commit among the events has been let through. -/
def Committed (events : List Event) : Prop :=
  ∀ context state (review : StateReview),
    .exchange ⟨.reviewState .post context state, review⟩ ∈ events → review.verdict = .ok .proceed

theorem committed_append : Committed (events ++ more) ↔ Committed events ∧ Committed more := by
  simp only [Committed, List.mem_append]
  exact ⟨fun h => ⟨fun c s r hr => h c s r (.inl hr), fun c s r hr => h c s r (.inr hr)⟩,
    fun h c s r hr => hr.elim (h.1 c s r) (h.2 c s r)⟩

theorem committed_cons_exchange {exchange : Exchange}
    (h : ∀ context state, exchange.query ≠ .reviewState .post context state) :
    Committed (.exchange exchange :: events) ↔ Committed events := by
  refine ⟨fun hall c s r hr => hall c s r (List.mem_cons_of_mem _ hr), fun hall c s r hr => ?_⟩
  rcases List.mem_cons.1 hr with heq | hr
  · cases heq
    exact absurd rfl (h c s)
  · exact hall c s r hr

theorem committed_nil : Committed [] := by simp [Committed]

theorem committed_cons_of_touch? {exchange : Exchange} {touch : Touch}
    (h : exchange.touch? = some touch) :
    Committed (.exchange exchange :: events) ↔ Committed events := by
  refine committed_cons_exchange fun context state => ?_
  obtain ⟨query, answer⟩ := exchange
  cases query <;> simp_all [Exchange.touch?]

theorem committed_of_consultation (h : Consultation history) : Committed (exchanges history) := by
  intro context state review hreview
  obtain ⟨exchange, hmem, heq⟩ := List.mem_map.1 hreview
  cases heq
  simpa [Query.isConsultation] using h _ hmem

theorem committed_spoken (h : Committed (exchanges (spoken history))) :
    Committed (exchanges history) := by
  intro context state review hreview
  obtain ⟨exchange, hmem, heq⟩ := List.mem_map.1 hreview
  cases heq
  exact h context state review (List.mem_map_of_mem (List.mem_filter.2 ⟨hmem, rfl⟩))

theorem next_of_touch? {exchange : Exchange} {touch : Touch} (h : exchange.touch? = some touch) :
    tables.next (.exchange exchange) = tables := by
  obtain ⟨query, answer⟩ := exchange
  cases query <;> simp_all [Exchange.touch?, next]

section Finish

variable {topology : Topology} {tracker left : Tracker} {device : DeviceId} {slot : Slot}
  {result : Except HardwareError Value} {sent : Except TransportError Unit}

/-- A request in flight whose target is still let through is committed when it ends. -/
theorem after_of_takes_finish
    (takes : (topology.finish tracker device slot result).Takes history (sent, left))
    (ready : ∀ state, slot.target? = some state → tables.Ready slot.owner.agent device state)
    (serves : tables.Serves (exchanges history)) :
    tables.after (exchanges history) = tables.commit slot.owner device (slot.applied? result) ∧
      Committed (exchanges history) := by
  obtain ⟨_, commits, hspoken, hcommits⟩ := Topology.takes_finish takes
  have hserves := serves.spoken
  rw [hspoken] at hserves
  rw [← after_spoken, hspoken]
  suffices h : tables.after (exchanges commits) =
      tables.commit slot.owner device (slot.applied? result) ∧ Committed (exchanges commits) by
    rw [exchanges_append, after_append, h.1]
    refine ⟨rfl, committed_spoken ?_⟩
    rw [hspoken, exchanges_append, committed_append]
    exact ⟨h.2, (committed_cons_exchange (by simp)).2 committed_nil⟩
  cases happlied : slot.applied? result with
  | none =>
    rw [happlied] at hcommits
    rw [List.map_eq_nil_iff.1 hcommits]
    exact ⟨rfl, committed_nil⟩
  | some state =>
    have hready := ready state (Slot.target?_of_applied? happlied)
    rw [happlied] at hcommits
    obtain ⟨⟨query, review⟩, rfl, rfl⟩ := List.map_eq_singleton_iff.1 hcommits
    rw [exchanges_append, serves_append] at hserves
    have hagrees : review = ⟨_, state⟩ := hserves.1.1
    have hproceed : review.verdict = .ok .proceed := by
      rw [hagrees]
      exact review_eq_proceed_iff.2 hready
    refine ⟨review_post hready, fun context other found hfound => ?_⟩
    cases List.mem_singleton.1 hfound
    exact hproceed

end Finish

/-- The tables still let through every change of state that is in flight. -/
def Backs (tables : Sharing) (platform : Platform) : Prop :=
  ∀ device slot state, platform.tracker.slot? device = some slot → slot.target? = some state →
    tables.Ready slot.owner.agent device state

variable {platform : Platform} {device : DeviceId}

/-- Other devices do not notice that a request has ended. -/
theorem Backs.commit_release (backs : tables.Backs platform) (owner : SlotOwner)
    (applied? : Option ClockState) {queue : List WorkItem} :
    (tables.commit owner device applied?).Backs
      { platform with tracker := (platform.tracker.release device).2, queue } := by
  intro other slot state hslot htarget
  rw [Tracker.slot?_release] at hslot
  split at hslot
  · simp at hslot
  · rename_i hne
    have hready := backs other slot state hslot htarget
    cases applied? with
    | none => exact hready
    | some applied => exact (ready_put_of_ne hne).2 hready

section Ended

variable {topology : Topology} {tracker left : Tracker} {slot : Slot}
  {result : Except HardwareError Value} {sent : Except TransportError Unit}
  (backs : tables.Backs platform) (busy : platform.tracker.slot? device = some slot)
  (finished : (topology.finish tracker device slot result).Takes history (sent, left))
include backs busy finished

/-- The tables after the end of a request in flight. -/
theorem Backs.after_of_takes_finish (serves : tables.Serves (exchanges history)) :
    tables.after (exchanges history) = tables.commit slot.owner device (slot.applied? result) :=
  (Sharing.after_of_takes_finish finished (fun state => backs device slot state busy) serves).1

/-- The call that has come to this end is no concern of the tables. -/
theorem Backs.after_of_settled {exchange : Exchange} {touch : Touch}
    (touched : exchange.touch? = some touch)
    (serves : tables.Serves (exchanges (exchange :: history))) :
    tables.after (exchanges (exchange :: history)) =
      tables.commit slot.owner device (slot.applied? result) := by
  rw [exchanges_cons, serves_cons, next_of_touch? touched] at serves
  rw [exchanges_cons, after_cons, next_of_touch? touched]
  exact backs.after_of_takes_finish busy finished serves.2

end Ended

end Sharing

namespace Platform

variable {topology : Topology} {before after platform : Platform} {events : List Event}
  {moves : List Move} {tables : Sharing}

open Sharing (Committed committed_append committed_cons_exchange committed_of_consultation)

section Assess

variable {service : ServiceId} {raw : UInt32} {payload : Bytes} {consulted : History}
  {admission : Admission} {last : Exchange}

/-- The tables are read, but not changed, while a message is taken in. -/
theorem after_of_takes_assess
    (assessed : (topology.assess service raw payload).Takes consulted admission)
    (h : ∀ tables : Sharing, tables.next (.exchange last) = tables) :
    tables.after (.message service raw payload :: exchanges (consulted ++ [last])) = tables := by
  rw [Sharing.after_cons, exchanges_append, Sharing.after_append]
  exact (h _).trans (Sharing.after_of_consultation
    (Topology.consultation_of_takes_assess assessed))

theorem Received.tables_after {history : History} {sent : Except TransportError Unit}
    (received : before.Received service raw payload history sent after) :
    tables.after (.message service raw payload :: exchanges history) = tables := by
  obtain ⟨consulted, admission, last, rfl, assessed, hlast⟩ := received.exists_assessed
  refine after_of_takes_assess assessed ?_
  rcases hlast with ⟨reply, sent, rfl⟩ | ⟨notice, rfl⟩ <;> exact fun _ => rfl

theorem committed_of_takes_assess
    (assessed : (topology.assess service raw payload).Takes consulted admission)
    (h : ∀ context state, last.query ≠ .reviewState .post context state) :
    Committed (.message service raw payload :: exchanges (consulted ++ [last])) := by
  rw [← List.singleton_append, exchanges_append, committed_append, committed_append]
  exact ⟨by simp [Committed], committed_of_consultation
    (Topology.consultation_of_takes_assess assessed), (committed_cons_exchange h).2
    Sharing.committed_nil⟩

/-- A change of state that has been accepted has been let through. -/
theorem ready_of_takes_assess {clock : ResolvedClock} {work : Work} {state : ClockState}
    (assessed : (topology.assess service raw payload).Takes consulted (.accept clock work))
    (serves : tables.Serves (exchanges consulted)) (h : work.target? = some state) :
    tables.Ready clock.agent clock.record.device state := by
  have hagrees := serves.agrees_of_consultation (Topology.consultation_of_takes_assess assessed)
  obtain ⟨request, permission, owner, reviews, _, _, _, hpasses, rfl⟩ :=
    Topology.takes_assess_accept assessed
  cases hpasses with
  | clockAttributes => simp [Work.target?] at h
  | rateGet => simp [Work.target?] at h
  | rateSet => simp [Work.target?] at h
  | @configSet bits asked review _ proceeds =>
    have hreview : review = ⟨(tables.review .pre clock.context asked).verdict, asked⟩ :=
      hagrees ⟨.reviewState .pre clock.context asked, review⟩ (by simp)
    subst hreview
    cases Work.target?_eq_some_iff.1 h
    exact Sharing.review_eq_proceed_iff.1 proceeds

end Assess

theorem Step.commits (step : before.Step events after) (backs : tables.Backs before)
    (serves : tables.Serves events) : (tables.after events).Backs after ∧ Committed events := by
  cases step with
  | answered assessed =>
    rw [after_of_takes_assess assessed fun _ => rfl]
    exact ⟨backs, committed_of_takes_assess assessed (by simp)⟩
  | contended assessed =>
    rw [after_of_takes_assess assessed fun _ => rfl]
    exact ⟨backs, committed_of_takes_assess assessed (by simp)⟩
  | claimed assessed acquired =>
    rw [after_of_takes_assess assessed fun _ => rfl]
    refine ⟨fun device slot state hslot htarget => ?_,
      committed_of_takes_assess assessed (by simp)⟩
    rw [exchanges_append, ← List.cons_append, Sharing.serves_append] at serves
    rw [Tracker.slot?_of_acquire acquired] at hslot
    split at hslot
    · rename_i heq
      subst heq
      cases hslot
      exact ready_of_takes_assess assessed serves.1.2 htarget
    · exact backs device slot state hslot htarget
  | deferred _ _ touched =>
    rw [exchanges_cons, Sharing.after_cons, Sharing.next_of_touch? touched,
      Sharing.committed_cons_of_touch? touched]
    exact ⟨backs, (committed_cons_exchange (by simp)).2 Sharing.committed_nil⟩
  | settled _ busy touched finished =>
    rw [exchanges_cons, Sharing.serves_cons, Sharing.next_of_touch? touched] at serves
    rw [exchanges_cons, Sharing.after_cons, Sharing.next_of_touch? touched,
      Sharing.committed_cons_of_touch? touched]
    obtain ⟨hafter, hcommitted⟩ := Sharing.after_of_takes_finish finished
      (fun state => backs _ _ state busy) serves.2
    rw [hafter, (Topology.takes_finish finished).1]
    exact ⟨backs.commit_release _ _, hcommitted⟩
  | completed awaited finished =>
    have busy := (awaited?_eq_some_iff.1 awaited).1
    obtain ⟨hafter, hcommitted⟩ := Sharing.after_of_takes_finish finished
      (fun state => backs _ _ state busy) serves.2
    rw [Sharing.after_cons_completion, hafter, (Topology.takes_finish finished).1]
    exact ⟨backs.commit_release _ _, by simpa [Committed] using hcommitted⟩
  | unsolicited => exact ⟨backs, (committed_cons_exchange (by simp)).2 Sharing.committed_nil⟩

theorem Reaches.commits (reached : before.Reaches events after) (backs : tables.Backs before)
    (serves : tables.Serves events) : (tables.after events).Backs after ∧ Committed events := by
  induction reached with
  | refl => exact ⟨backs, Sharing.committed_nil⟩
  | tail _ step ih =>
    obtain ⟨hreached, hstep⟩ := Sharing.serves_append.1 serves
    obtain ⟨hbacks, hcommitted⟩ := ih hreached
    obtain ⟨hbacks', hcommitted'⟩ := step.commits hbacks hstep
    rw [Sharing.after_append]
    exact ⟨hbacks', committed_append.2 ⟨hcommitted, hcommitted'⟩⟩

theorem backs_start (tables : Sharing) (topology : Topology) : tables.Backs (start topology) := by
  intro device slot state hslot
  simp [start, Tracker.slot?_empty] at hslot

/-! ### Runs -/

/-- What is in flight at the end of a run can still be committed. -/
theorem Runs.backs (run : (start topology).Runs moves platform)
    (serves : (Sharing.ofTopology topology).Serves (ClockManager.events moves)) :
    ((Sharing.ofTopology topology).after (ClockManager.events moves)).Backs platform :=
  ((run.reaches (consistent_start topology)).commits (backs_start _ topology) serves).1

/-- With the sharing policy of the topology, every commit in a run is let through; and at every
point of the run the policy would let through, again, each change of state that is in flight. -/
theorem Runs.commits_proceed (run : (start topology).Runs moves platform)
    (serves : (Sharing.ofTopology topology).Serves (ClockManager.events moves)) :
    (∀ context state (review : StateReview),
        .exchange ⟨.reviewState .post context state, review⟩ ∈ ClockManager.events moves →
          review.verdict = .ok .proceed) ∧
      ∀ device slot, platform.tracker.slot? device = some slot → slot.kind = .setState →
        ∃ state, slot.target? = some state ∧
          ((Sharing.ofTopology topology).after (ClockManager.events moves)).Ready
            slot.owner.agent device state := by
  have hstart := consistent_start topology
  have reached := run.reaches hstart
  obtain ⟨hbacks, hcommitted⟩ := reached.commits (backs_start _ topology) serves
  refine ⟨hcommitted, fun device slot hslot hkind => ?_⟩
  have hsome := ((reached.consistent hstart).target_iff device slot hslot).2 hkind
  obtain ⟨state, htarget⟩ := Option.isSome_iff_exists.1 hsome
  exact ⟨state, htarget, hbacks device slot state hslot htarget⟩

open Bench in
/-- In the sample session the start of the GPU is committed, and it may be stopped again. -/
theorem commits_proceed_sample :
    (∃ review : StateReview,
      .exchange ⟨.reviewState .post ⟨⟨1⟩, 0, ⟨1⟩⟩ .running, review⟩ ∈
          ClockManager.events (sampleSession.moves sampleSteps) ∧
        review.verdict = .ok .proceed) ∧
      (sampleSession.after sampleSteps).platform.tracker.slot? ⟨1⟩ =
        some ⟨⟨⟨11⟩, ⟨1⟩, 0⟩, .setState, some .stopped⟩ ∧
      ∃ state, some ClockState.stopped = some state ∧
        ((Sharing.ofTopology sampleTopology).after
          (ClockManager.events (sampleSession.moves sampleSteps))).Ready ⟨1⟩ ⟨1⟩ state := by
  have hslot : (sampleSession.after sampleSteps).platform.tracker.slot? ⟨1⟩ =
      some ⟨⟨⟨11⟩, ⟨1⟩, 0⟩, .setState, some .stopped⟩ := by decide
  have hreview : (ClockManager.events (sampleSession.moves sampleSteps))[25]? =
      some (.exchange ⟨.reviewState .post ⟨⟨1⟩, 0, ⟨1⟩⟩ .running, ⟨.ok .proceed, .running⟩⟩) := rfl
  obtain ⟨hcommits, hready⟩ := Runs.commits_proceed (sampleSession.runs_moves sampleSteps)
    (Session.serves_moves rfl sampleSteps)
  have hmem := List.mem_of_getElem? hreview
  exact ⟨⟨_, hmem, hcommits _ _ _ hmem⟩, hslot, hready _ _ hslot rfl⟩

end Platform
end ClockManager
