import ClockManager.Proofs.Platform.Calls
import ClockManager.Proofs.Platform.Deferral
import ClockManager.Proofs.Scope
/-!
# Two paths of one dialogue

A dialogue has no state of its own, so two of its paths can only part where one query got two
answers. Collaborators that follow one strategy do not let that happen. The sharing policy is none
of them, for it answers from its tables; but as long as it is asked about one device alone, it is
enough that its tables have the same entries for that device.
-/

namespace ClockManager

/-! ### Where paths part -/

/-- As long as the same has been asked and answered in both, a query that comes up in both gets the
same answer. -/
def Concur (first second : History) : Prop :=
  ∀ past one other rest more, first = past ++ one :: rest → second = past ++ other :: more →
    one.query = other.query → one = other

theorem Concur.tail {exchange : Exchange} {first second : History}
    (h : Concur (exchange :: first) (exchange :: second)) : Concur first second := by
  rintro past one other rest more rfl rfl heq
  exact h (exchange :: past) one other rest more rfl rfl heq

theorem Dialogue.Takes.unique {α : Type} {d : Dialogue α} {first second : History}
    {result other : α} (takes : d.Takes first result) (takesOther : d.Takes second other)
    (h : Concur first second) : first = second ∧ result = other := by
  induction d generalizing first second with
  | done value =>
    obtain ⟨rfl, rfl⟩ := takes
    obtain ⟨rfl, rfl⟩ := takesOther
    exact ⟨rfl, rfl⟩
  | ask query next ih =>
    obtain ⟨answer, rest, rfl, takes⟩ := takes
    obtain ⟨found, more, rfl, takesOther⟩ := takesOther
    obtain ⟨⟩ := h [] _ _ rest more rfl rfl rfl
    obtain ⟨rfl, rfl⟩ := ih answer takes takesOther h.tail
    exact ⟨rfl, rfl⟩

/-- How collaborators answer, from what they have been asked and have answered before. -/
abbrev Strategy := (past : History) → (query : Query) → query.Answer

/-- All that was answered, but what the policy said, was answered by the strategy. -/
def Strategy.Answers (strategy : Strategy) (history : History) : Prop :=
  ∀ past exchange rest, history = past ++ exchange :: rest → exchange.isReview = false →
    exchange.answer = strategy past exchange.query

/-- The bench answers each query as in this state of it. -/
def Bench.World.strategy (world : Bench.World) : Strategy :=
  fun _ query => (Bench.World.answer query world).1

theorem Bench.World.strategy_answers {world : Bench.World} {history : History}
    (h : ∀ exchange ∈ history, exchange.isReview = false →
      exchange.answer = (Bench.World.answer exchange.query world).1) :
    world.strategy.Answers history := by
  intro past exchange rest split silent
  have hmem : exchange ∈ history := by
    rw [split]
    exact List.mem_append_right _ List.mem_cons_self
  exact h exchange hmem silent

/-! ### Reviews of one device -/

/-- The device that the policy is asked about. -/
def Query.reviewed? : Query → Option DeviceId
  | reviewRate context _ _ => some context.device
  | reviewState _ context _ => some context.device
  | _ => none

/-- The policy is asked about this device alone. -/
def ReviewsOnly (device : DeviceId) (history : History) : Prop :=
  ∀ exchange ∈ history, ∀ reviewed ∈ exchange.query.reviewed?, reviewed = device

theorem reviewsOnly_append {device : DeviceId} {first second : History} :
    ReviewsOnly device (first ++ second) ↔
      ReviewsOnly device first ∧ ReviewsOnly device second := by
  simp only [ReviewsOnly, List.mem_append, or_imp, forall_and]

theorem reviewsOnly_of_ends {owner : SlotOwner} {device : DeviceId} {history : History}
    (h : ∀ exchange ∈ history, exchange.query.Ends owner device) : ReviewsOnly device history := by
  rintro ⟨query, answer⟩ hmem
  have hquery := h _ hmem
  cases query with
  | reviewState phase context =>
    cases phase with
    | pre => exact absurd hquery id
    | post =>
      have hcontext : context = owner.context device := hquery
      simp [Query.reviewed?, hcontext, SlotOwner.context]
  | _ => simp_all [Query.Ends, Query.reviewed?]

theorem reviewsOnly_of_assesses {clock? : Option PolicyContext} {device : DeviceId}
    {history : History} (h : ∀ exchange ∈ history, exchange.query.Assesses clock?)
    (hdevice : ∀ context ∈ clock?, context.device = device) : ReviewsOnly device history := by
  rintro ⟨query, answer⟩ hmem
  have hquery := h _ hmem
  cases query with
  | reviewState phase context =>
    cases phase with
    | pre => simpa [Query.reviewed?, eq_comm] using hdevice context hquery
    | post => exact absurd hquery id
  | reviewRate context => simpa [Query.reviewed?, eq_comm] using hdevice context hquery
  | _ => simp_all [Query.reviewed?]

namespace Sharing

variable {tables other : Sharing} {device : DeviceId} {phase : Phase} {context : PolicyContext}
  {state : ClockState} {history first second : History} {exchange : Exchange}

theorem SameOn.put (h : SameOn device tables other) (agent : AgentId) (refcount : UInt32) :
    SameOn device (tables.put agent.index device.index state refcount)
      (other.put agent.index device.index state refcount) := by
  constructor
  · rw [refcount?_put, refcount?_put, h.refcount?_eq]
  · intro owner
    rw [state?_put, state?_put, h.state?_eq]

/-- The two reviews say the same, and what they enter for a device is the same. -/
def Review.Alike (device : DeviceId) (first second : Review) : Prop :=
  first.verdict = second.verdict ∧ SameOn device first.sharing second.sharing

theorem SameOn.proceed (h : SameOn context.device tables other) (refcount : UInt32) :
    Review.Alike context.device (tables.proceed phase context state refcount)
      (other.proceed phase context state refcount) := by
  refine ⟨rfl, ?_⟩
  cases phase with
  | pre => exact h
  | post => exact h.put context.agent refcount

theorem SameOn.suppress (h : SameOn device tables other) (invalid : PolicyError)
    (notice : Notice) :
    Review.Alike device (tables.suppress phase invalid notice)
      (other.suppress phase invalid notice) := by
  cases phase <;> exact ⟨rfl, h⟩

/-- A review goes by the entries for its device, and so does what it enters for that device. -/
theorem SameOn.review (h : SameOn context.device tables other) (phase : Phase)
    (state : ClockState) :
    Review.Alike context.device (tables.review phase context state)
      (other.review phase context state) := by
  unfold Sharing.review
  rw [h.state?_eq, h.refcount?_eq]
  split
  · dsimp only
    split
    · exact ⟨rfl, h⟩
    · split
      · split
        · exact h.proceed _
        · exact h.suppress _ _
      · split
        · exact ⟨rfl, h⟩
        · split
          · exact h.proceed _
          · exact h.suppress _ _
  · exact ⟨rfl, h⟩

theorem review_sharing_eq (tables : Sharing) (phase : Phase) (context : PolicyContext)
    (state : ClockState) :
    (tables.review phase context state).sharing = tables ∨ ∃ refcount,
      (tables.review phase context state).sharing =
        tables.put context.agent.index context.device.index state refcount := by
  unfold review
  split
  · dsimp only [proceed, suppress]
    split
    · exact .inl rfl
    · cases state <;> cases phase <;> grind
  · exact .inl rfl

theorem sameOn_review_of_ne (h : device ≠ context.device) :
    SameOn device tables (tables.review phase context state).sharing := by
  rcases review_sharing_eq tables phase context state with heq | ⟨refcount, heq⟩
  · rw [heq]
    exact .refl device tables
  · rw [heq]
    exact ⟨(refcount?_put_of_ne h).symm, fun agent => (state?_put_of_ne h).symm⟩

theorem SameOn.after (h : SameOn device tables other) (only : ReviewsOnly device history) :
    SameOn device (tables.after (exchanges history)) (other.after (exchanges history)) := by
  induction history generalizing tables other with
  | nil => exact h
  | cons exchange rest ih =>
    obtain ⟨hfirst, hrest⟩ := List.forall_mem_cons.1 only
    refine ih ?_ hrest
    obtain ⟨query, answer⟩ := exchange
    cases query with
    | reviewState phase context state =>
      obtain rfl : context.device = device := hfirst _ rfl
      exact (h.review phase state).2
    | _ => exact h

theorem SameOn.serves (h : SameOn device tables other) (only : ReviewsOnly device history)
    (serves : tables.Serves (exchanges history)) : other.Serves (exchanges history) := by
  induction history generalizing tables other with
  | nil => exact trivial
  | cons exchange rest ih =>
    obtain ⟨hfirst, hrest⟩ := List.forall_mem_cons.1 only
    rw [exchanges_cons, serves_cons] at serves ⊢
    obtain ⟨query, answer⟩ := exchange
    cases query with
    | reviewState phase context state =>
      obtain rfl : context.device = device := hfirst _ rfl
      obtain ⟨hverdict, hsame⟩ := h.review phase state
      refine ⟨?_, ih hsame hrest serves.2⟩
      exact serves.1.trans (congrArg (StateReview.mk · state) hverdict)
    | _ => exact ⟨serves.1, ih h hrest serves.2⟩

theorem sameOn_after_of_ne {elsewhere : DeviceId} (h : elsewhere ≠ device)
    (only : ReviewsOnly device history) :
    SameOn elsewhere tables (tables.after (exchanges history)) := by
  induction history generalizing tables with
  | nil => exact .refl elsewhere tables
  | cons exchange rest ih =>
    obtain ⟨hfirst, hrest⟩ := List.forall_mem_cons.1 only
    refine SameOn.trans ?_ (ih hrest)
    obtain ⟨query, answer⟩ := exchange
    cases query with
    | reviewState phase context state =>
      obtain rfl : context.device = device := hfirst _ rfl
      exact sameOn_review_of_ne h
    | _ => exact .refl elsewhere tables

/-- Two paths concur if one strategy answers on both, and the policy from tables with the same
entries for the only device that it is asked about. -/
theorem SameOn.concur {strategy : Strategy} (h : SameOn device tables other)
    (only : ReviewsOnly device first) (answers : strategy.Answers first)
    (answersOther : strategy.Answers second) (serves : tables.Serves (exchanges first))
    (servesOther : other.Serves (exchanges second)) : Concur first second := by
  rintro past ⟨query, answer⟩ ⟨_, found⟩ rest more rfl rfl rfl
  by_cases hreview : Exchange.isReview ⟨query, answer⟩
  · rw [exchanges_append, serves_append] at serves servesOther
    have hagrees := serves.2.1
    have hagreesOther := servesOther.2.1
    obtain ⟨hpast, hrest⟩ := reviewsOnly_append.1 only
    have hreviewed := hrest ⟨query, answer⟩ List.mem_cons_self
    cases query with
    | reviewRate context rate rounding =>
      obtain rfl : answer = found := hagrees.trans hagreesOther.symm
      rfl
    | reviewState phase context state =>
      obtain rfl : context.device = device := hreviewed _ rfl
      have hverdict := ((h.after hpast).review phase state).1
      obtain rfl : answer = found := hagrees.trans
        ((congrArg (StateReview.mk · state) hverdict).trans hagreesOther.symm)
      rfl
    | _ => simp [Exchange.isReview] at hreview
  · have hsilent : Exchange.isReview ⟨query, answer⟩ = false := by simpa using hreview
    have hanswer := answers past ⟨query, answer⟩ rest rfl hsilent
    have hfound := answersOther past ⟨query, found⟩ more rfl hsilent
    obtain rfl : answer = found := hanswer.trans hfound.symm
    rfl

end Sharing
end ClockManager
