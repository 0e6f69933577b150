import ClockManager.Proofs.Lockstep
import ClockManager.Proofs.Platform.Commits
import ClockManager.Proofs.Sharing.Count
/-!
# Held by several at the start, or by one at most for ever

The sharing policy lets a device be started by its first holder and stopped by its last one, and
counts nobody in between. So a device that at least two agents hold at the start can never be
stopped: nothing that is asked for it is let through, and the hardware is never asked to set its
state. Any other device counts one holder at most from then on, and later sharing is not counted. It
is held by one agent at most, unless so many start it enabled that their count has wrapped around.
-/

namespace ClockManager

namespace Sharing

variable {tables : Sharing} {topology : Topology} {agent other : AgentId} {device : DeviceId}
  {context : PolicyContext} {state : ClockState} {refcount : UInt32}

/-! ### A count of two or more -/

theorem not_ready_of_two_le (counted : tables.refcount? device = some refcount)
    (several : 2 ≤ refcount) : ¬ tables.Ready agent device state := by
  intro ready
  cases state with
  | running =>
    cases counted.symm.trans ready.2
    exact absurd several (by decide)
  | stopped =>
    cases counted.symm.trans ready.2
    exact absurd several (by decide)

/-- Agents are told that the device is as they want it. -/
theorem review_pre_eq_skip (counted : tables.refcount? context.device = some refcount)
    (several : 2 ≤ refcount) (known : (tables.state? context.agent context.device).isSome) :
    (tables.review .pre context state).verdict = .ok .skip := by
  have hzero : refcount ≠ 0 := by
    rintro rfl
    exact absurd several (by decide)
  have hone : refcount ≠ 1 := by
    rintro rfl
    exact absurd several (by decide)
  obtain ⟨held, hheld⟩ := Option.isSome_iff_exists.1 known
  unfold review
  rw [hheld, counted]
  cases state <;> simp [hzero, hone, suppress] <;> split <;> rfl

theorem sameOn_reviewRequest (counted : tables.refcount? device = some refcount)
    (several : 2 ≤ refcount) (request : ReviewRequest) :
    SameOn device tables (tables.reviewRequest request).sharing := by
  by_cases hdevice : device = request.context.device
  · subst hdevice
    rcases review_sharing tables request.phase request.context request.state with heq | ⟨ready, -⟩
    · rw [reviewRequest, heq]
      exact .refl _ tables
    · exact absurd ready (not_ready_of_two_le counted several)
  · exact sameOn_review_of_ne hdevice

/-- The tables still say of the device what they said at the start, and an agent that asks for a
state of it is told that this is its state already. -/
structure Stuck (topology : Topology) (tables : Sharing) (device : DeviceId) : Prop where
  same : SameOn device (ofTopology topology) tables
  skips : ∀ context state, context.device = device →
    (tables.state? context.agent device).isSome →
      (tables.review .pre context state).verdict = .ok .skip

theorem stuck_afterReviews (counted : (ofTopology topology).refcount? device = some refcount)
    (several : 2 ≤ refcount) (requests : List ReviewRequest) :
    Stuck topology ((ofTopology topology).afterReviews requests) device := by
  have hsame :
      SameOn device (ofTopology topology) ((ofTopology topology).afterReviews requests) := by
    apply afterReviews_induction (p := SameOn device (ofTopology topology)) (.refl device _)
    intro tables request same
    apply same.trans
    exact sameOn_reviewRequest (same.refcount?_eq.symm.trans counted) several request
  refine ⟨hsame, ?_⟩
  rintro context state rfl known
  exact review_pre_eq_skip (hsame.refcount?_eq.symm.trans counted) several known

theorem stuck_after (counted : (ofTopology topology).refcount? device = some refcount)
    (several : 2 ≤ refcount) (events : List Event) :
    Stuck topology ((ofTopology topology).after events) device := by
  rw [after_eq_afterReviews]
  exact stuck_afterReviews counted several _

/-! ### A count of one at most -/

/-- The device is counted, for one agent at most. -/
def CountsOne (tables : Sharing) (device : DeviceId) : Prop :=
  ∃ refcount, tables.refcount? device = some refcount ∧ refcount ≤ 1

theorem CountsOne.review (h : tables.CountsOne device) (request : ReviewRequest) :
    (tables.reviewRequest request).sharing.CountsOne device := by
  obtain ⟨refcount, counted, hle⟩ := h
  rcases review_sharing tables request.phase request.context request.state with heq | ⟨-, heq⟩
  · rw [reviewRequest, heq]
    exact ⟨refcount, counted, hle⟩
  rw [reviewRequest, heq]
  by_cases hdevice : device = request.context.device
  · subst hdevice
    refine ⟨holders request.state, refcount?_put_self (by rw [counted]; rfl), ?_⟩
    cases request.state <;> decide
  · exact ⟨refcount, (refcount?_put_of_ne hdevice).trans counted, hle⟩

/-- One agent at most runs the device, and it is the one that is counted. -/
structure SoleRunner (tables : Sharing) (device : DeviceId) : Prop where
  counts : tables.Counts device
  card_le : (tables.runners device).card ≤ 1

theorem SoleRunner.review (h : tables.SoleRunner device) (request : ReviewRequest) :
    (tables.reviewRequest request).sharing.SoleRunner device := by
  refine ⟨h.counts.review, ?_⟩
  rcases review_sharing tables request.phase request.context request.state with heq | ⟨ready, heq⟩
  · rw [reviewRequest, heq]
    exact h.card_le
  rw [reviewRequest, heq]
  by_cases hdevice : device = request.context.device
  · subst hdevice
    cases hstate : request.state with
    | running =>
      rw [hstate] at ready
      obtain ⟨stopped, hcard⟩ := h.counts.ready_running_iff.1 ready
      have hle := h.card_le
      have hnone : (tables.runners request.context.device).card = 0 := by
        rwa [Nat.mod_eq_of_lt (hle.trans_lt (by decide))] at hcard
      rw [runners_put_running (by rw [← state?_eq_cell?, stopped]; rfl),
        Finset.card_eq_zero.1 hnone]
      simp
    | stopped =>
      rw [runners_put_stopped]
      exact (Finset.card_erase_le).trans h.card_le
  · rw [runners_put_of_ne hdevice]
    exact h.card_le

theorem SoleRunner.eq (h : tables.SoleRunner device)
    (running : tables.state? agent device = some .running)
    (runningOther : tables.state? other device = some .running) : agent = other := by
  apply AgentId.index_inj.1
  exact Finset.card_le_one.1 h.card_le _ (mem_runners.2 running) _ (mem_runners.2 runningOther)

/-- The agents, by their rows, that start the device enabled. -/
def starters (topology : Topology) (device : DeviceId) : Set Nat :=
  {row | ∃ view, topology.agents[row]? = some view ∧ view.StartsEnabled device}

theorem coe_runners_ofTopology (topology : Topology) (device : DeviceId) :
    ((ofTopology topology).runners device : Set Nat) = starters topology device := by
  ext row
  exact mem_runners_ofTopology

theorem toNat_refcount_ofTopology (counted : (ofTopology topology).refcount? device = some refcount)
    (countable : (starters topology device).ncard < UInt32.size) :
    refcount.toNat = (starters topology device).ncard := by
  rw [← coe_runners_ofTopology, Set.ncard_coe_finset] at countable ⊢
  exact (counts_ofTopology topology device).toNat_eq_of_card_lt countable counted

/-- A start that was counted without overflow, for one agent at most, was for one at most. -/
theorem soleRunner_ofTopology (countable : (starters topology device).ncard < UInt32.size)
    (h : (ofTopology topology).CountsOne device) : (ofTopology topology).SoleRunner device := by
  obtain ⟨refcount, counted, hle⟩ := h
  refine ⟨counts_ofTopology topology device, ?_⟩
  rw [← Set.ncard_coe_finset, coe_runners_ofTopology,
    ← toNat_refcount_ofTopology counted countable]
  exact UInt32.le_iff_toNat_le.1 hle

/-- The tables have the device counted for one agent at most, and run by one at most unless its
count overflowed while they were built. -/
structure HeldOnce (topology : Topology) (tables : Sharing) (device : DeviceId) : Prop where
  counted : tables.CountsOne device
  sole : (starters topology device).ncard < UInt32.size → ∀ agent other,
    tables.state? agent device = some .running → tables.state? other device = some .running →
      agent = other

theorem heldOnce_afterReviews (h : (ofTopology topology).CountsOne device)
    (requests : List ReviewRequest) :
    HeldOnce topology ((ofTopology topology).afterReviews requests) device := by
  constructor
  · exact afterReviews_induction (p := fun tables => tables.CountsOne device) h
      (fun _ request once => once.review request) requests
  · intro countable agent other running runningOther
    have hsole : ((ofTopology topology).afterReviews requests).SoleRunner device :=
      afterReviews_induction (p := fun tables => tables.SoleRunner device)
        (soleRunner_ofTopology countable h) (fun _ request sole => sole.review request) requests
    exact hsole.eq running runningOther

end Sharing

namespace Platform

variable {topology : Topology} {before after : Platform} {events : List Event} {tables : Sharing}
  {history : History}

/-! ### Calls that set a state -/

/-- If the event is a call that sets the state of a device, the tables let it through for some
agent. -/
def SetsReady (tables : Sharing) : Event → Prop
  | .exchange ⟨.setState device state, _⟩ => ∃ agent, tables.Ready agent device state
  | _ => True

theorem setsReady_of_touch?_eq_none {exchange : Exchange} (h : exchange.touch? = none) :
    SetsReady tables (.exchange exchange) := by
  obtain ⟨query, answer⟩ := exchange
  cases query <;> simp_all [Exchange.touch?, SetsReady]

theorem setsReady_of_touch? {exchange : Exchange} {device : DeviceId} {work : Work} {slot : Slot}
    {settled? : Option (Except HardwareError Value)} (backs : tables.Backs before)
    (busy : before.tracker.slot? device = some slot) (isFor : slot.IsFor work)
    (touched : exchange.touch? = some ⟨device, work, settled?⟩) :
    SetsReady tables (.exchange exchange) := by
  obtain ⟨query, answer⟩ := exchange
  cases query with
  | setState found state =>
    cases touched
    exact ⟨slot.owner.agent, backs _ slot state busy isFor.2⟩
  | _ => trivial

theorem along_setsReady (h : ∀ exchange ∈ history, exchange.touch? = none) :
    Along Sharing.next SetsReady tables (exchanges history) := by
  apply along_of_forall
  intro event hmem tables
  obtain ⟨exchange, hexchange, rfl⟩ := List.mem_map.1 hmem
  exact setsReady_of_touch?_eq_none (h exchange hexchange)

theorem Step.setsReady (step : before.Step events after) (consistent : before.Consistent)
    (backs : tables.Backs before) : Along Sharing.next SetsReady tables events := by
  have hassessed {service : ServiceId} {raw : UInt32} {payload : Bytes} {consulted : History}
      {admission : Admission} {last : Exchange}
      (assessed : (before.topology.assess service raw payload).Takes consulted admission)
      (untouched : last.touch? = none) :
      Along Sharing.next SetsReady tables
        (.message service raw payload :: exchanges (consulted ++ [last])) :=
    ⟨trivial, along_setsReady (touch?_eq_none_of_consultation_append
      (Topology.consultation_of_takes_assess assessed) untouched)⟩
  cases step with
  | answered assessed => exact hassessed assessed rfl
  | contended assessed => exact hassessed assessed rfl
  | claimed assessed => exact hassessed assessed rfl
  | deferred queued busy touched =>
    exact ⟨setsReady_of_touch? backs busy (consistent.slot_isFor queued busy) touched, trivial,
      trivial⟩
  | settled queued busy touched finished =>
    exact ⟨setsReady_of_touch? backs busy (consistent.slot_isFor queued busy) touched,
      along_setsReady (touch?_eq_none_of_takes_finish finished)⟩
  | completed _ finished =>
    exact ⟨trivial, along_setsReady (touch?_eq_none_of_takes_finish finished)⟩
  | unsolicited => exact ⟨trivial, trivial⟩

theorem Reaches.setsReady (reached : before.Reaches events after) (consistent : before.Consistent)
    (backs : tables.Backs before) (serves : tables.Serves events) :
    Along Sharing.next SetsReady tables events := by
  induction reached with
  | refl => exact trivial
  | tail reached step ih =>
    obtain ⟨hreached, -⟩ := Sharing.serves_append.1 serves
    have hbacks := (reached.commits backs hreached).1
    exact along_append.2 ⟨ih hreached, step.setsReady (reached.consistent consistent) hbacks⟩

/-- A device that is counted for several holders is left alone by the hardware. -/
theorem Runs.not_setState_of_stuck {moves : List Move} {platform : Platform} {device : DeviceId}
    {refcount : UInt32} (run : (start topology).Runs moves platform)
    (serves : (Sharing.ofTopology topology).Serves (ClockManager.events moves))
    (counted : (Sharing.ofTopology topology).refcount? device = some refcount)
    (several : 2 ≤ refcount) (state : ClockState)
    (answer : Except HardwareError (Outcome Unit)) :
    .exchange ⟨.setState device state, answer⟩ ∉ ClockManager.events moves := by
  intro hmem
  have hstart := consistent_start topology
  obtain ⟨past, later, hsplit⟩ := List.append_of_mem hmem
  have halong := (run.reaches hstart).setsReady hstart (backs_start _ topology) serves
  obtain ⟨agent, ready⟩ := halong.allowed_of_eq_append hsplit
  have hstuck := Sharing.stuck_after counted several past
  exact Sharing.not_ready_of_two_le (hstuck.same.refcount?_eq.symm.trans counted) several ready

/-! ### Runs -/

end Platform
end ClockManager
