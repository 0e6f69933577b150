import ClockManager.Proofs.Sharing
import Mathlib.Data.Finset.Card
/-!
# The count of a device

For each device the sharing policy keeps a count, and for each agent the last state that it set. The
count is the number of agents whose last state is running, as far as 32 bits can tell. This holds at
the start, and it still holds after any events, since a review that moves one of the two moves the
other with it.

So a count of one means a sole holder, as long as there are no more agents than agent numbers.
-/

namespace ClockManager

/-- The view starts the device enabled. -/
def AgentView.StartsEnabled (view : AgentView) (device : DeviceId) : Prop :=
  ∃ clock ∈ view.clocks, clock.startsEnabled ∧ clock.device = device

namespace Sharing

variable {tables : Sharing} {phase : Phase} {context : PolicyContext} {state : ClockState}
  {row place : Nat} {device other : DeviceId} {refcount : UInt32} {events : List Event}

/-! ### The agents that run a device -/

/-- The agents, by their rows, that run a device as far as the tables say. -/
def runners (tables : Sharing) (device : DeviceId) : Finset Nat :=
  (Finset.range tables.states.length).filter fun row => tables.cell? row device = some .running

theorem row_lt_of_cell? (h : tables.cell? row device = some state) :
    row < tables.states.length := by
  obtain ⟨entries, hentries, -⟩ := Option.bind_eq_some_iff.1 h
  exact (List.getElem?_eq_some_iff.1 hentries).1

theorem index_lt_of_cell? (h : tables.cell? row device = some state) :
    device.index < tables.deviceCount := by
  obtain ⟨entries, hentries, hstate⟩ := Option.bind_eq_some_iff.1 h
  rw [← tables.length_row entries (List.mem_of_getElem? hentries)]
  exact (List.getElem?_eq_some_iff.1 hstate).1

theorem mem_runners : row ∈ tables.runners device ↔ tables.cell? row device = some .running := by
  rw [runners, Finset.mem_filter, Finset.mem_range, and_iff_right_iff_imp]
  exact row_lt_of_cell?

theorem runners_subset (tables : Sharing) (device : DeviceId) :
    tables.runners device ⊆ Finset.range tables.states.length :=
  Finset.filter_subset _ _

theorem card_runners_le (tables : Sharing) (device : DeviceId) :
    (tables.runners device).card ≤ tables.states.length := by
  have hcard := Finset.card_le_card (tables.runners_subset device)
  rwa [Finset.card_range] at hcard

theorem card_runners_lt (h : tables.cell? row device = some .stopped) :
    (tables.runners device).card < tables.states.length := by
  have hrow : row ∉ tables.runners device := by simp [mem_runners, h]
  have hcard := Finset.card_lt_card ((Finset.ssubset_iff_of_subset (tables.runners_subset device)).2
    ⟨row, Finset.mem_range.2 (row_lt_of_cell? h), hrow⟩)
  rwa [Finset.card_range] at hcard

theorem runners_put_running (h : (tables.cell? row device).isSome) :
    (tables.put row device.index .running refcount).runners device =
      insert row (tables.runners device) := by
  ext place
  rw [Finset.mem_insert, mem_runners, mem_runners, cell?_put]
  by_cases heq : place = row
  · subst heq
    simpa using Option.isSome_iff_exists.1 h
  · simp [heq]

theorem runners_put_stopped :
    (tables.put row device.index .stopped refcount).runners device =
      (tables.runners device).erase row := by
  ext place
  rw [Finset.mem_erase, mem_runners, mem_runners, cell?_put]
  by_cases heq : place = row <;> simp [heq]

theorem runners_put_of_ne (h : other ≠ device) :
    (tables.put row device.index state refcount).runners other = tables.runners other := by
  ext place
  rw [mem_runners, mem_runners, cell?_put, if_neg fun heq => h heq.2]

/-! ### The count -/

/-- The count of a device is the number of agents that run it. -/
def Counts (tables : Sharing) (device : DeviceId) : Prop :=
  ∀ refcount, tables.refcount? device = some refcount →
    refcount = UInt32.ofNat (tables.runners device).card

theorem Counts.toNat_eq_of_card_lt (counts : tables.Counts device)
    (small : (tables.runners device).card < UInt32.size)
    (counted : tables.refcount? device = some refcount) :
    refcount.toNat = (tables.runners device).card := by
  rw [counts refcount counted]
  exact UInt32.toNat_ofNat_of_lt' small

theorem Counts.put_of_ne (counts : tables.Counts other) (h : other ≠ device) :
    (tables.put row device.index state refcount).Counts other := by
  intro found hfound
  rw [refcount?_put_of_ne h] at hfound
  rw [runners_put_of_ne h]
  exact counts found hfound

/-- One more agent runs the device. -/
theorem Counts.put_running (counts : tables.Counts device)
    (stopped : tables.cell? row device = some .stopped)
    (counted : tables.refcount? device = some refcount) :
    (tables.put row device.index .running (refcount + 1)).Counts device := by
  intro found hfound
  have hrow : row ∉ tables.runners device := by simp [mem_runners, stopped]
  rw [refcount?_put, counted] at hfound
  cases hfound
  rw [runners_put_running (by rw [stopped]; rfl), Finset.card_insert_of_notMem hrow,
    UInt32.ofNat_add, ← counts refcount counted]
  rfl

/-- One agent less runs the device. -/
theorem Counts.put_stopped (counts : tables.Counts device)
    (running : tables.cell? row device = some .running)
    (counted : tables.refcount? device = some refcount) :
    (tables.put row device.index .stopped (refcount - 1)).Counts device := by
  intro found hfound
  have hrow : row ∈ tables.runners device := mem_runners.2 running
  have hpos : 1 ≤ (tables.runners device).card := Finset.card_pos.2 ⟨row, hrow⟩
  rw [refcount?_put, counted] at hfound
  cases hfound
  rw [runners_put_stopped, Finset.card_erase_of_mem hrow, UInt32.ofNat_sub hpos,
    ← counts refcount counted]
  rfl

/-- A review leaves the tables as they are, or it enters a transition that it lets through. -/
theorem review_sharing (tables : Sharing) (phase : Phase) (context : PolicyContext)
    (state : ClockState) : (tables.review phase context state).sharing = tables ∨
    tables.Ready context.agent context.device state ∧
      (tables.review phase context state).sharing =
        tables.put context.agent.index context.device.index state (holders state) := by
  cases phase with
  | pre => exact .inl review_pre
  | post =>
    by_cases ready : tables.Ready context.agent context.device state
    · exact .inr ⟨ready, review_post ready⟩
    · have hverdict : (tables.review .post context state).verdict ≠ .ok .proceed :=
        fun h => ready (review_eq_proceed_iff.1 h)
      left
      unfold review at hverdict ⊢
      split
      · rename_i held refcount hheld hrefcount
        rw [hheld, hrefcount] at hverdict
        cases state <;> simp only [proceed, suppress] at hverdict ⊢ <;> grind
      · rfl

theorem Counts.review (counts : tables.Counts device) :
    (tables.review phase context state).sharing.Counts device := by
  rcases review_sharing tables phase context state with heq | ⟨ready, heq⟩
  · rwa [heq]
  · rw [heq]
    by_cases hdevice : device = context.device
    · subst hdevice
      cases state with
      | running => exact counts.put_running ready.1 ready.2
      | stopped => exact counts.put_stopped ready.1 ready.2
    · exact counts.put_of_ne hdevice

theorem length_states_review :
    (tables.review phase context state).sharing.states.length = tables.states.length := by
  rcases review_sharing tables phase context state with heq | ⟨-, heq⟩
  · rw [heq]
  · rw [heq]
    exact List.length_modify ..

theorem Counts.after (counts : tables.Counts device) (events : List Event) :
    (tables.after events).Counts device := by
  refine List.foldlRecOn (motive := fun tables => tables.Counts device) events next counts ?_
  intro tables counts event _
  unfold next
  split
  · exact counts.review
  · exact counts

theorem length_states_after (events : List Event) :
    (tables.after events).states.length = tables.states.length := by
  refine List.foldlRecOn (motive := fun other => other.states.length = tables.states.length)
    events next rfl ?_
  intro other hlength event _
  unfold next
  split
  · exact length_states_review.trans hlength
  · exact hlength

theorem Counts.refcount?_eq_some_iff (counts : tables.Counts device)
    (h : device.index < tables.deviceCount) :
    tables.refcount? device = some refcount ↔
      (tables.runners device).card % UInt32.size = refcount.toNat := by
  obtain ⟨count, counted⟩ := refcount?_eq_some_of_lt h
  rw [counted, counts count counted, Option.some_inj, ← UInt32.toNat_inj, UInt32.toNat_ofNat']

/-- As far as 32 bits can tell, an agent may start a device if nobody runs it. -/
theorem Counts.ready_running_iff {agent : AgentId} (counts : tables.Counts device) :
    tables.Ready agent device .running ↔
      tables.state? agent device = some .stopped ∧
        (tables.runners device).card % UInt32.size = 0 :=
  and_congr_right fun stopped => counts.refcount?_eq_some_iff (index_lt_of_cell? stopped)

/-- It may stop a device if it is the only one to run it. -/
theorem Counts.ready_stopped_iff {agent : AgentId} (counts : tables.Counts device) :
    tables.Ready agent device .stopped ↔
      tables.state? agent device = some .running ∧
        (tables.runners device).card % UInt32.size = 1 :=
  and_congr_right fun running => counts.refcount?_eq_some_iff (index_lt_of_cell? running)

/-! ### As many agents as agent numbers -/

theorem Ready.no_runner {agent : AgentId} (ready : tables.Ready agent device .running)
    (counts : tables.Counts device) (bounded : tables.states.length ≤ UInt32.size)
    (other : AgentId) : tables.state? other device ≠ some .running := by
  obtain ⟨stopped, hcard⟩ := counts.ready_running_iff.1 ready
  have hcount : (tables.runners device).card = 0 := by
    have hlt := (card_runners_lt stopped).trans_le bounded
    rwa [Nat.mod_eq_of_lt hlt] at hcard
  rw [state?_eq_cell?, ne_eq, ← mem_runners, Finset.card_eq_zero.1 hcount]
  exact Finset.notMem_empty _

theorem Ready.sole_runner {agent : AgentId} (ready : tables.Ready agent device .stopped)
    (counts : tables.Counts device) (bounded : tables.states.length ≤ UInt32.size)
    (other : AgentId) : tables.state? other device = some .running ↔ other = agent := by
  obtain ⟨running, hcard⟩ := counts.ready_stopped_iff.1 ready
  have hcount : (tables.runners device).card = 1 := by
    rcases ((tables.card_runners_le device).trans bounded).lt_or_eq with hlt | heq
    · rwa [Nat.mod_eq_of_lt hlt] at hcard
    · rw [heq, Nat.mod_self] at hcard
      omega
  obtain ⟨row, hrow⟩ := Finset.card_eq_one.1 hcount
  have hmem (found : AgentId) :
      tables.state? found device = some .running ↔ found.index = row := by
    rw [state?_eq_cell?, ← mem_runners, hrow, Finset.mem_singleton]
  rw [hmem, ← (hmem agent).1 running, AgentId.index_inj]

/-! ### The tables at start -/

theorem exists_cell?_eq_some (hrow : row < tables.states.length)
    (hdevice : device.index < tables.deviceCount) :
    ∃ state, tables.cell? row device = some state := by
  have hlength := tables.length_row _ (List.getElem_mem hrow)
  refine ⟨tables.states[row][device.index], ?_⟩
  rw [cell?, List.getElem?_eq_getElem hrow, Option.bind_some, List.getElem?_eq_getElem]

theorem length_states_hold :
    (tables.hold row device).states.length = tables.states.length := by
  unfold hold
  split
  · exact List.length_modify ..
  · rfl

theorem Counts.hold (counts : tables.Counts other) : (tables.hold row device).Counts other := by
  unfold Sharing.hold
  split
  · rename_i refcount stopped counted
    by_cases heq : other = device
    · subst heq
      exact counts.put_running stopped counted
    · exact counts.put_of_ne heq
  · exact counts

theorem mem_runners_hold (hplace : place < tables.states.length)
    (hdevice : device.index < tables.deviceCount) :
    row ∈ (tables.hold place device).runners other ↔
      row ∈ tables.runners other ∨ row = place ∧ other = device := by
  obtain ⟨state, hstate⟩ := exists_cell?_eq_some hplace hdevice
  obtain ⟨refcount, hrefcount⟩ := refcount?_eq_some_of_lt hdevice
  have hentry : tables.states[place]?.bind (·[device.index]?) = some state := hstate
  unfold hold
  rw [hentry, hrefcount]
  cases state with
  | running =>
    have hmem := mem_runners.2 hstate
    refine ⟨.inl, fun h => h.elim id ?_⟩
    rintro ⟨rfl, rfl⟩
    exact hmem
  | stopped =>
    by_cases heq : other = device
    · subst heq
      rw [runners_put_running (by rw [hstate]; rfl), Finset.mem_insert, or_comm]
      simp
    · rw [runners_put_of_ne heq]
      simp [heq]

/-- The agent in a row runs the devices of the clocks, and the others what they ran before. -/
theorem mem_runners_foldl_hold (clocks : List ClockRecord) (hplace : place < tables.states.length)
    (hclocks : ∀ clock ∈ clocks, clock.device.index < tables.deviceCount) :
    row ∈ (clocks.foldl (fun tables clock => tables.hold place clock.device) tables).runners
        device ↔
      row ∈ tables.runners device ∨ row = place ∧ ∃ clock ∈ clocks, clock.device = device := by
  induction clocks generalizing tables with
  | nil => simp
  | cons clock rest ih =>
    obtain ⟨hclock, hrest⟩ := List.forall_mem_cons.1 hclocks
    rw [List.foldl_cons, ih (by rwa [length_states_hold]) (by rwa [deviceCount_hold]),
      mem_runners_hold hplace hclock]
    simp only [List.exists_mem_cons_iff, eq_comm (a := device)]
    tauto

theorem size_foldl_hold (clocks : List ClockRecord) (tables : Sharing) (row : Nat) :
    (clocks.foldl (fun tables clock => tables.hold row clock.device) tables).states.length =
        tables.states.length ∧
      (clocks.foldl (fun tables clock => tables.hold row clock.device) tables).deviceCount =
        tables.deviceCount := by
  induction clocks generalizing tables with
  | nil => exact ⟨rfl, rfl⟩
  | cons clock rest ih =>
    obtain ⟨hlength, hcount⟩ := ih (tables.hold row clock.device)
    exact ⟨hlength.trans length_states_hold, hcount.trans (deviceCount_hold row)⟩

theorem mem_runners_foldl_views (views : List (AgentView × Nat))
    (hrows : ∀ view ∈ views, view.2 < tables.states.length)
    (hclocks : ∀ view ∈ views, ∀ clock ∈ view.1.clocks, clock.device.index < tables.deviceCount) :
    row ∈ (views.foldl (fun tables (view, place) =>
          (view.clocks.filter ClockRecord.startsEnabled).foldl
            (fun tables clock => tables.hold place clock.device) tables) tables).runners device ↔
      row ∈ tables.runners device ∨ ∃ view, (view, row) ∈ views ∧ view.StartsEnabled device := by
  induction views generalizing tables with
  | nil => simp
  | cons first rest ih =>
    obtain ⟨view, place⟩ := first
    obtain ⟨hrow, hrows⟩ := List.forall_mem_cons.1 hrows
    obtain ⟨hclock, hclocks⟩ := List.forall_mem_cons.1 hclocks
    obtain ⟨hlength, hcount⟩ :=
      size_foldl_hold (view.clocks.filter ClockRecord.startsEnabled) tables place
    have henabled : ∀ clock ∈ view.clocks.filter ClockRecord.startsEnabled,
        clock.device.index < tables.deviceCount :=
      fun clock hmem => hclock clock (List.mem_filter.1 hmem).1
    rw [List.foldl_cons, ih (by rwa [hlength]) (by rwa [hcount]),
      mem_runners_foldl_hold _ hrow henabled]
    have hview : (∃ clock ∈ view.clocks.filter ClockRecord.startsEnabled, clock.device = device) ↔
        view.StartsEnabled device := by
      simp [AgentView.StartsEnabled, and_assoc]
    rw [hview]
    constructor
    · rintro ((hmem | ⟨rfl, hstarts⟩) | ⟨found, hmem, hstarts⟩)
      · exact .inl hmem
      · exact .inr ⟨view, List.mem_cons_self, hstarts⟩
      · exact .inr ⟨found, List.mem_cons_of_mem _ hmem, hstarts⟩
    · rintro (hmem | ⟨found, hmem, hstarts⟩)
      · exact .inl (.inl hmem)
      · rcases List.mem_cons.1 hmem with heq | hmem
        · cases heq
          exact .inl (.inr ⟨rfl, hstarts⟩)
        · exact .inr ⟨found, hmem, hstarts⟩

theorem runners_idle (agentCount deviceCount : Nat) :
    (idle agentCount deviceCount).runners device = ∅ := by
  refine Finset.eq_empty_of_forall_notMem fun row hrow => ?_
  rw [mem_runners, cell?, idle] at hrow
  obtain ⟨entries, hentries, hstate⟩ := Option.bind_eq_some_iff.1 hrow
  rw [List.eq_of_mem_replicate (List.mem_of_getElem? hentries)] at hstate
  simpa using List.eq_of_mem_replicate (List.mem_of_getElem? hstate)

/-- At the start an agent runs what its view starts enabled. -/
theorem mem_runners_ofTopology {topology : Topology} :
    row ∈ (ofTopology topology).runners device ↔
      ∃ view, topology.agents[row]? = some view ∧ view.StartsEnabled device := by
  have hmem : ∀ view ∈ topology.agents.zipIdx, topology.agents[view.2]? = some view.1 :=
    fun view hview => List.mem_zipIdx_iff_getElem?.1 hview
  have hrows : ∀ view ∈ topology.agents.zipIdx,
      view.2 < (idle topology.agentCount topology.deviceCount).states.length := by
    intro view hview
    rw [idle, List.length_replicate]
    exact (List.getElem?_eq_some_iff.1 (hmem view hview)).1
  rw [ofTopology, mem_runners_foldl_views _ hrows fun view hview =>
    topology.devices_known _ (List.mem_of_getElem? (hmem view hview))]
  simp [runners_idle, List.mem_zipIdx_iff_getElem?]

theorem length_states_ofTopology (topology : Topology) :
    (ofTopology topology).states.length = topology.agentCount := by
  let rows (tables : Sharing) : Prop := tables.states.length = topology.agentCount
  refine List.foldlRecOn (motive := rows) _ _ List.length_replicate fun tables htables view _ => ?_
  exact (size_foldl_hold _ _ _).1.trans htables

theorem counts_ofTopology (topology : Topology) (device : DeviceId) :
    (ofTopology topology).Counts device := by
  let counts (tables : Sharing) : Prop := tables.Counts device
  have hidle : (idle topology.agentCount topology.deviceCount).Counts device := by
    intro refcount hrefcount
    rw [runners_idle]
    exact List.eq_of_mem_replicate (List.mem_of_getElem? hrefcount)
  refine List.foldlRecOn (motive := counts) _ _ hidle fun tables htables view _ => ?_
  exact List.foldlRecOn (motive := counts) _ _ htables fun tables htables clock _ => htables.hold

theorem counts_after_ofTopology (topology : Topology) (events : List Event) (device : DeviceId) :
    ((ofTopology topology).after events).Counts device :=
  (counts_ofTopology topology device).after events

theorem length_states_after_ofTopology (topology : Topology) (events : List Event) :
    ((ofTopology topology).after events).states.length = topology.agentCount := by
  rw [length_states_after, length_states_ofTopology]

/-! ### More agents than agent numbers -/

/-- Agents that all start the one device enabled. -/
def crowd (others : Nat) : Topology where
  maxPending := 0
  devices := ["CPU"]
  agents := List.replicate (others + 1) ⟨"OSPM", [⟨⟨0⟩, true⟩]⟩
  agents_ne := List.cons_ne_nil _ _
  devices_ne := by decide
  names_fit := by decide
  devices_known := by
    intro view hview
    rw [List.eq_of_mem_replicate hview]
    decide

theorem runners_crowd (others : Nat) :
    (ofTopology (crowd others)).runners ⟨0⟩ = Finset.range (others + 1) := by
  ext row
  have hview (view : AgentView) : (crowd others).agents[row]? = some view ↔
      row < others + 1 ∧ view = ⟨"OSPM", [⟨⟨0⟩, true⟩]⟩ := by
    rw [crowd, List.getElem?_replicate]
    grind
  rw [mem_runners_ofTopology, Finset.mem_range]
  simp [hview, AgentView.StartsEnabled]

theorem state?_crowd {others : Nat} {agent : AgentId} (h : agent.index ≤ others) :
    (ofTopology (crowd others)).state? agent ⟨0⟩ = some .running := by
  rw [state?_eq_cell?, ← mem_runners, runners_crowd, Finset.mem_range]
  exact Nat.lt_succ_of_le h

theorem refcount?_crowd (others : Nat) :
    (ofTopology (crowd others)).refcount? ⟨0⟩ = some (UInt32.ofNat (others + 1)) := by
  have hdevice : DeviceId.index ⟨0⟩ < (ofTopology (crowd others)).deviceCount := by
    rw [deviceCount_ofTopology]
    exact Nat.zero_lt_one
  obtain ⟨refcount, counted⟩ := refcount?_eq_some_of_lt hdevice
  rw [counted, counts_ofTopology _ _ _ counted, runners_crowd, Finset.card_range]

theorem resolveClock_crowd (others : Nat) :
    (crowd others).resolveClock (.ok ⟨0⟩) 0 = .ok ⟨⟨0⟩, 0, ⟨⟨0⟩, true⟩⟩ := rfl

theorem verdict_of_uncounted {tables : Sharing} {context : PolicyContext}
    (running : tables.state? context.agent context.device = some .running)
    (counted : tables.refcount? context.device = some 0) :
    (tables.review .pre context .stopped).verdict =
      .error (.invalidState context.agent context.device .stopped 0) := by
  unfold review
  rw [running, counted]
  rfl

/-- With as many agents as agent numbers none is counted, and the device cannot be stopped. -/
theorem verdict_crowd :
    ((ofTopology (crowd (UInt32.size - 1))).review .pre ⟨⟨0⟩, 0, ⟨0⟩⟩ .stopped).verdict =
      .error (.invalidState ⟨0⟩ ⟨0⟩ .stopped 0) :=
  verdict_of_uncounted (state?_crowd (Nat.zero_le _)) (refcount?_crowd _)

/-- With one agent more than agent numbers the count has wrapped around to one. Then an agent may
stop a device that another one runs. -/
theorem ready_crowd : (ofTopology (crowd UInt32.size)).Ready ⟨0⟩ ⟨0⟩ .stopped ∧
    (ofTopology (crowd UInt32.size)).state? ⟨1⟩ ⟨0⟩ = some .running := by
  have hrunning (agent : AgentId) :
      (ofTopology (crowd UInt32.size)).state? agent ⟨0⟩ = some .running :=
    state?_crowd agent.raw.toNat_lt.le
  refine ⟨⟨hrunning _, ?_⟩, hrunning _⟩
  rw [refcount?_crowd]
  rfl

end Sharing
end ClockManager
