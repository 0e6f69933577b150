import ClockManager.Proofs.Platform.Stickiness
import ClockManager.Proofs.Sharing.Transition
/-!
# Requests that are satisfied or undone

What an agent has been granted it may ask for again, and the review of it enters nothing. A start
that is followed by a stop of the same agent leaves the entries of the device as they were: if the
agent is counted it is taken out again, and if the device is held by others neither of the two
changes a thing.
-/

namespace ClockManager

namespace Sharing

variable {tables mid last : Sharing} {context later : PolicyContext} {state held : ClockState}
  {device : DeviceId} {refcount : UInt32} {decision : Decision}

/-! ### Requests that are not refused -/

/-- The policy refuses only to stop a device that nobody is counted for. -/
theorem exists_decision (hheld : tables.state? context.agent context.device = some held)
    (counted : tables.refcount? context.device = some refcount)
    (nonzero : state = .stopped → held = .running → refcount ≠ 0) :
    ∃ decision, (tables.review .pre context state).verdict = .ok decision := by
  unfold review
  rw [hheld, counted]
  by_cases hsame : held = state
  · exact ⟨.skip, by simp [hsame]⟩
  cases state with
  | running =>
    by_cases hzero : refcount = 0
    · exact ⟨.proceed, by simp [hsame, hzero, proceed]⟩
    · exact ⟨.skip, by simp [hsame, hzero, suppress]⟩
  | stopped =>
    have hrunning : held = .running := by
      cases held with
      | running => rfl
      | stopped => exact absurd rfl hsame
    have hzero := nonzero rfl hrunning
    by_cases hone : refcount = 1
    · exact ⟨.proceed, by simp [hrunning, hone, proceed]⟩
    · exact ⟨.skip, by simp [hrunning, hzero, hone, suppress]⟩

theorem review_of_state? (h : tables.state? context.agent context.device = some state) :
    (tables.review .pre context state).verdict = .ok .skip := by
  obtain ⟨refcount, counted⟩ := refcount?_eq_some_of_lt (index_lt_of_cell? h)
  unfold review
  rw [h, counted]
  simp

theorem review_sharing_of_skip (decided : (tables.review .pre context state).verdict = .ok .skip) :
    (tables.review .post context state).sharing = tables := by
  refine review_sharing_of_ne_proceed fun hproceed => ?_
  rw [review_eq_proceed_iff.2 (review_eq_proceed_iff.1 hproceed)] at decided
  cases decided

/-! ### The same request again -/

/-- A request that was not refused is satisfied by what it has entered. -/
theorem review_again (decided : (tables.review .pre context state).verdict = .ok decision) :
    ((tables.review .post context state).sharing.review .pre context state).verdict =
      .ok .skip := by
  cases decision with
  | proceed =>
    have ready := review_eq_proceed_iff.1 decided
    rw [review_post ready]
    exact review_of_state? ready.transition.state_after
  | skip => rwa [review_sharing_of_skip decided]

/-! ### A start and a stop -/

section Undone

variable (started : SameOn context.device (tables.review .post context .running).sharing mid)
include started

/-- After its start the agent is the one that is counted, or else it is still stopped. -/
theorem ready_or_stopped_of_started :
    tables.Ready context.agent context.device .running ∧
        mid.Ready context.agent context.device .stopped ∨
      SameOn context.device tables mid := by
  by_cases hproceed : (tables.review .post context .running).verdict = .ok .proceed
  · have ready := review_eq_proceed_iff.1 hproceed
    have transition := transition_of_proceed hproceed
    refine .inl ⟨ready, ?_, ?_⟩
    · rw [← started.state?_eq]
      exact transition.state_after
    · rw [← started.refcount?_eq]
      exact transition.refcount_after
  · rw [review_sharing_of_ne_proceed hproceed] at started
    exact .inr started

variable (stopped : tables.state? context.agent context.device = some .stopped)
  (hagent : later.agent = context.agent) (hdevice : later.device = context.device)
include stopped hagent hdevice

theorem exists_decision_of_started :
    ∃ decision, (mid.review .pre later .stopped).verdict = .ok decision := by
  rcases ready_or_stopped_of_started started with ⟨-, ready⟩ | same
  · refine ⟨.proceed, review_eq_proceed_iff.2 ?_⟩
    rwa [hagent, hdevice]
  · refine ⟨.skip, review_of_state? ?_⟩
    rwa [hagent, hdevice, ← same.state?_eq]

theorem sameOn_of_started_and_stopped
    (ended : SameOn context.device (mid.review .post later .stopped).sharing last) :
    SameOn context.device tables last := by
  rcases ready_or_stopped_of_started started with ⟨ready, readyStop⟩ | same
  · rw [review_post ready] at started
    have readyLater : mid.Ready later.agent later.device .stopped := by rwa [hagent, hdevice]
    rw [review_post readyLater, hagent, hdevice] at ended
    refine SameOn.trans ⟨?_, fun agent => ?_⟩ ended
    · rw [refcount?_put_self readyStop.refcount?_isSome, ready.2]
      rfl
    · rw [state?_put, ← started.state?_eq, state?_put]
      by_cases heq : agent = context.agent
      · simp [heq, stopped]
      · simp [heq]
  · have hstate : mid.state? later.agent later.device = some .stopped := by
      rw [hagent, hdevice, ← same.state?_eq]
      exact stopped
    rw [review_sharing_of_skip (review_of_state? hstate)] at ended
    exact same.trans ended

end Undone

/-! ### Counts that do not overflow -/

/-- The count of a device is right, and fits into 32 bits. -/
structure CountsExactly (tables : Sharing) (device : DeviceId) : Prop where
  counts : tables.Counts device
  card_lt : (tables.runners device).card < UInt32.size

/-- Only the first agent is ever counted anew. -/
theorem CountsExactly.review (h : tables.CountsExactly device) (request : ReviewRequest) :
    (tables.reviewRequest request).sharing.CountsExactly device := by
  refine ⟨h.counts.review, ?_⟩
  rcases review_sharing tables request.phase request.context request.state with heq | ⟨ready, heq⟩
  · rw [reviewRequest, heq]
    exact h.card_lt
  rw [reviewRequest, heq]
  by_cases hdevice : device = request.context.device
  · subst hdevice
    cases hstate : request.state with
    | running =>
      rw [hstate] at ready
      obtain ⟨known, hcard⟩ := h.counts.ready_running_iff.1 ready
      rw [Nat.mod_eq_of_lt h.card_lt] at hcard
      rw [runners_put_running (by rw [← state?_eq_cell?, known]; rfl),
        Finset.card_eq_zero.1 hcard]
      exact Nat.lt_of_le_of_lt (Finset.card_insert_le _ _) (by decide)
    | stopped =>
      rw [runners_put_stopped]
      exact Finset.card_erase_le.trans_lt h.card_lt
  · rw [runners_put_of_ne hdevice]
    exact h.card_lt

theorem countsExactly_after {topology : Topology}
    (countable : (starters topology device).ncard < UInt32.size) (events : List Event) :
    ((ofTopology topology).after events).CountsExactly device := by
  rw [after_eq_afterReviews]
  refine afterReviews_induction (p := fun tables => tables.CountsExactly device)
    ⟨counts_ofTopology topology device, ?_⟩ (fun _ request h => h.review request) _
  rwa [← coe_runners_ofTopology, Set.ncard_coe_finset] at countable

theorem CountsExactly.ne_zero {agent : AgentId} (h : tables.CountsExactly device)
    (running : tables.state? agent device = some .running)
    (counted : tables.refcount? device = some refcount) : refcount ≠ 0 := by
  rintro rfl
  have hmem : agent.index ∈ tables.runners device := mem_runners.2 running
  have hzero := (h.counts.refcount?_eq_some_iff (index_lt_of_cell? running)).1 counted
  rw [Nat.mod_eq_of_lt h.card_lt] at hzero
  simp [Finset.card_eq_zero.1 hzero] at hmem

end Sharing

end ClockManager
