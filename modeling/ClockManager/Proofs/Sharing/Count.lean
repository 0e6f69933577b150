import ClockManager.Proofs.Bench
import ClockManager.Proofs.Sharing.Holders
import Mathlib.Data.Set.Card
/-!
# Counts count

The sharing policy by itself, asked for one review after another, in whatever order and about
whatever agents and devices, also ones that it does not know. As long as the agents can be told
apart by their numbers, the count of a device is exactly the number of agents that run it. So it
never wraps around, and a request to stop a device is never refused for want of a holder.
-/

namespace ClockManager

/-- What a policy is asked when it reviews a state. -/
structure ReviewRequest where
  phase : Phase
  context : PolicyContext
  state : ClockState
  deriving DecidableEq

def Event.reviewRequest? : Event → Option ReviewRequest
  | exchange ⟨.reviewState phase context state, _⟩ => some ⟨phase, context, state⟩
  | _ => none

namespace Sharing

variable {tables : Sharing} {topology : Topology} {request : ReviewRequest} {device : DeviceId}
  {refcount : UInt32}

def reviewRequest (tables : Sharing) (request : ReviewRequest) : Review :=
  tables.review request.phase request.context request.state

/-- The tables after reviews that were asked for one after another. -/
def afterReviews (tables : Sharing) (requests : List ReviewRequest) : Sharing :=
  requests.foldl (fun tables request => (tables.reviewRequest request).sharing) tables

theorem afterReviews_induction {p : Sharing → Prop} (start : p tables)
    (review : ∀ tables request, p tables → p (tables.reviewRequest request).sharing)
    (requests : List ReviewRequest) : p (tables.afterReviews requests) := by
  refine List.foldlRecOn requests _ start ?_
  intro tables h request _
  exact review tables request h

theorem deviceCount_afterReviews (requests : List ReviewRequest) :
    (tables.afterReviews requests).deviceCount = tables.deviceCount := by
  apply afterReviews_induction (p := fun other => other.deviceCount = tables.deviceCount) rfl
  intro other request h
  exact deviceCount_review.trans h

theorem length_states_afterReviews (requests : List ReviewRequest) :
    (tables.afterReviews requests).states.length = tables.states.length := by
  apply afterReviews_induction (p := fun other => other.states.length = tables.states.length) rfl
  intro other request h
  exact length_states_review.trans h

theorem Counts.afterReviews (counts : tables.Counts device) (requests : List ReviewRequest) :
    (tables.afterReviews requests).Counts device := by
  apply afterReviews_induction (p := fun tables => tables.Counts device) counts
  intro tables request h
  exact h.review

theorem after_eq_afterReviews (tables : Sharing) (events : List Event) :
    tables.after events = tables.afterReviews (events.filterMap Event.reviewRequest?) := by
  induction events generalizing tables with
  | nil => rfl
  | cons event rest ih =>
    rw [after_cons, ih]
    cases event with
    | exchange made =>
      obtain ⟨query, answer⟩ := made
      cases query <;> rfl
    | _ => rfl

/-! ### Agents by their numbers -/

/-- If each row belongs to an agent number, then the agents that run a device can be counted by
their numbers. -/
theorem card_runners_eq_ncard (bounded : tables.states.length ≤ UInt32.size) (device : DeviceId) :
    (tables.runners device).card =
      {agent : AgentId | tables.state? agent device = some .running}.ncard := by
  have himage : (tables.runners device : Set Nat) =
      Set.image AgentId.index {agent | tables.state? agent device = some .running} := by
    ext row
    rw [Finset.mem_coe, mem_runners, Set.mem_image]
    constructor
    · intro running
      have hrow : row < UInt32.size := (row_lt_of_cell? running).trans_le bounded
      have hindex : AgentId.index ⟨UInt32.ofNat row⟩ = row := UInt32.toNat_ofNat_of_lt' hrow
      refine ⟨⟨UInt32.ofNat row⟩, ?_, hindex⟩
      rwa [Set.mem_ofPred_eq, state?_eq_cell?, hindex]
    · rintro ⟨agent, running, rfl⟩
      exact running
  have hinjective : Function.Injective AgentId.index := fun _ _ => AgentId.index_inj.1
  rw [← Set.ncard_coe_finset, himage, Set.ncard_image_of_injective _ hinjective]

theorem Counts.toNat_eq (counts : tables.Counts device)
    (bounded : tables.states.length < UInt32.size)
    (counted : tables.refcount? device = some refcount) :
    refcount.toNat = (tables.runners device).card :=
  counts.toNat_eq_of_card_lt ((tables.card_runners_le device).trans_lt bounded) counted

/-! ### One review -/

theorem refcount?_reviewRequest {after : UInt32} (counted : tables.refcount? device = some refcount)
    (countedAfter : (tables.reviewRequest request).sharing.refcount? device = some after) :
    after = refcount ∨ after.toNat = refcount.toNat + 1 ∨ refcount.toNat = after.toNat + 1 := by
  rcases review_sharing tables request.phase request.context request.state with heq | ⟨ready, heq⟩
  · rw [reviewRequest, heq, counted] at countedAfter
    exact .inl (Option.some.inj countedAfter).symm
  rw [reviewRequest, heq] at countedAfter
  by_cases hdevice : device = request.context.device
  · subst hdevice
    rw [refcount?_put_self (by rw [counted]; rfl)] at countedAfter
    right
    cases hstate : request.state with
    | running =>
      rw [hstate] at ready countedAfter
      cases counted.symm.trans ready.2
      cases countedAfter
      exact .inl rfl
    | stopped =>
      rw [hstate] at ready countedAfter
      cases counted.symm.trans ready.2
      cases countedAfter
      exact .inr rfl
  · rw [refcount?_put_of_ne hdevice, counted] at countedAfter
    exact .inl (Option.some.inj countedAfter).symm

/-- An agent that runs a device is counted, so that a stop is not refused because nobody runs it. -/
theorem Counts.review_ne_invalidState_zero {phase : Phase} {context : PolicyContext}
    {state : ClockState} (counts : tables.Counts context.device)
    (bounded : tables.states.length < UInt32.size) (agent : AgentId) (device : DeviceId)
    (requested : ClockState) :
    (tables.review phase context state).verdict ≠
      .error (.invalidState agent device requested 0) := by
  unfold Sharing.review
  split
  · rename_i held refcount hheld hrefcount
    have hpos : held = .running → refcount ≠ 0 := by
      rintro rfl rfl
      have hcard := counts.toNat_eq bounded hrefcount
      have hmem : context.agent.index ∈ tables.runners context.device := mem_runners.2 hheld
      simp [Finset.card_eq_zero.1 hcard.symm] at hmem
    have hsuppressed (nonzero : refcount ≠ 0) (notice : Notice) :
        (tables.suppress phase (.invalidState context.agent context.device state refcount)
          notice).verdict ≠ .error (.invalidState agent device requested 0) := by
      intro heq
      cases phase with
      | pre => cases heq
      | post =>
        cases heq
        exact nonzero rfl
    dsimp only
    split
    · nofun
    · rename_i hchanges
      cases state with
      | running =>
        dsimp only
        split
        · nofun
        · exact hsuppressed ‹_› _
      | stopped =>
        have running : held = .running := by
          cases held with
          | running => rfl
          | stopped => exact absurd rfl hchanges
        have nonzero : refcount ≠ 0 := hpos running
        dsimp only
        rw [if_neg nonzero]
        split
        · nofun
        · exact hsuppressed nonzero _
  · nofun

/-! ### Any number of reviews -/

end Sharing
end ClockManager
