import ClockManager.Proofs.Account
import ClockManager.Proofs.Platform.Commits
/-!
# Nobody's clock is stopped

A device is only stopped for an agent that is its sole holder. Who holds it is read off the account
of the device, which is kept from the outside; what ties the account to the platform is that the
wish in flight is what the slot of the device is taken for, and that the agents holding the device
are those that the tables of the policy have running.
-/

namespace ClockManager

def Slot.wish? (slot : Slot) : Option Wish := slot.target?.map (Wish.mk slot.owner.agent)

namespace Platform

variable {topology : Topology} {before after platform : Platform} {events : List Event}
  {moves : List Move} {tables : Sharing} {device other : DeviceId} {account : Account} {slot : Slot}
  {result : Except HardwareError Value}

/-- The account agrees with the slots and the tables. -/
structure Reckons (tables : Sharing) (platform : Platform) (device : DeviceId) (account : Account) :
    Prop where
  inFlight : account.inFlight? = (platform.tracker.slot? device).bind Slot.wish?
  holds_iff : ∀ agent, Account.Holds platform.topology device account.applied agent ↔
    tables.state? agent device = some .running

/-- The event does not stop the device, or it stops it for its sole holder. -/
def StopsSoleHolder (topology : Topology) (device : DeviceId) (account : Account) : Event → Prop
  | .exchange ⟨.setState touched .stopped, _⟩ => touched = device →
    ∃ agent, account.inFlight? = some ⟨agent, .stopped⟩ ∧
      ∀ other, Account.Holds topology device account.applied other → other = agent
  | _ => True

theorem stopsSoleHolder_of_touch?_eq_none {exchange : Exchange} (h : exchange.touch? = none) :
    StopsSoleHolder topology device account (.exchange exchange) := by
  obtain ⟨query, answer⟩ := exchange
  cases query <;> simp_all [Exchange.touch?, StopsSoleHolder]

theorem along_stopsSoleHolder {history : History}
    (h : ∀ exchange ∈ history, exchange.touch? = none) :
    Along (Account.next device) (StopsSoleHolder topology device) account (exchanges history) :=
  along_of_ignored (fun exchange hmem => Account.next_of_touch?_eq_none (h exchange hmem))
    fun exchange hmem => stopsSoleHolder_of_touch?_eq_none (h exchange hmem)

theorem Reckons.of_slot?_eq (h : Reckons tables before device account)
    (topology_eq : after.topology = before.topology)
    (slot?_eq : after.tracker.slot? device = before.tracker.slot? device) :
    Reckons tables after device account := by
  refine ⟨?_, ?_⟩
  · rw [slot?_eq]
    exact h.inFlight
  · rw [topology_eq]
    exact h.holds_iff

/-- Before a stop is carried out, the agent that it is for is the only one to hold the device. -/
theorem Reckons.stopsSoleHolder {work : Work} {exchange : Exchange} {touched : DeviceId}
    {settled? : Option (Except HardwareError Value)}
    (h : Reckons tables before device account) (backs : tables.Backs before)
    (counts : tables.Counts device) (bounded : tables.states.length ≤ UInt32.size)
    (busy : before.tracker.slot? touched = some slot) (target : slot.target? = work.target?)
    (call : exchange.touch? = some ⟨touched, work, settled?⟩) :
    StopsSoleHolder before.topology device account (.exchange exchange) := by
  obtain ⟨query, answer⟩ := exchange
  cases query with
  | setState found state =>
    cases state with
    | running => trivial
    | stopped =>
      cases call
      intro heq
      subst heq
      have hready := backs _ slot .stopped busy target
      refine ⟨slot.owner.agent, ?_, ?_⟩
      · rw [h.inFlight, busy, Option.bind_some, Slot.wish?, target]
        rfl
      · intro other holds
        exact (hready.sole_runner counts bounded other).1 ((h.holds_iff other).1 holds)
  | _ => trivial

theorem carriedOut_eq (consistent : before.Consistent)
    (busy : before.tracker.slot? device = some slot) (inFlight : account.inFlight? = slot.wish?)
    (result : Except HardwareError Value) :
    account.carriedOut result =
      ((slot.applied? result).map (Wish.mk slot.owner.agent)).toList := by
  have htarget := consistent.target_iff device slot busy
  cases result with
  | error error => rfl
  | ok value =>
    cases value with
    | applied =>
      rw [Account.carriedOut, inFlight, Slot.wish?, Slot.applied?]
      by_cases hkind : slot.kind = .setState
      · rw [if_pos hkind]
      · have hnone : slot.target? = none := by
          rw [← Option.not_isSome_iff_eq_none, htarget]
          exact hkind
        rw [if_neg hkind, hnone]
    | _ => rfl

theorem Reckons.conclude (h : Reckons tables before device account) (consistent : before.Consistent)
    (backs : tables.Backs before) (busy : before.tracker.slot? device = some slot)
    (result : Except HardwareError Value) (topology_eq : after.topology = before.topology)
    (freed : after.tracker.slot? device = none) :
    Reckons (tables.commit slot.owner device (slot.applied? result)) after device
      (account.conclude result) := by
  have hwish : account.inFlight? = slot.wish? := by
    rw [h.inFlight, busy]
    rfl
  refine ⟨?_, ?_⟩
  · rw [freed]
    rfl
  · intro agent
    rw [Account.conclude, carriedOut_eq consistent busy hwish, topology_eq]
    cases happlied : slot.applied? result with
    | none => exact h.holds_iff agent
    | some state =>
      have hready := backs device slot state busy (Slot.target?_of_applied? happlied)
      show Account.Holds _ _ (_ :: account.applied) agent ↔ _
      rw [Account.holds_cons, Sharing.commit, Sharing.state?_put]
      by_cases heq : agent = slot.owner.agent
      · subst heq
        obtain ⟨held, hheld⟩ := hready.exists_state?
        rw [if_pos rfl, if_pos rfl, hheld]
        simp
      · rw [if_neg heq, if_neg heq]
        exact h.holds_iff agent

theorem Reckons.commit_of_ne (h : Reckons tables before other account) (hne : other ≠ device)
    (topology_eq : after.topology = before.topology)
    (slot?_eq : after.tracker.slot? other = before.tracker.slot? other) (owner : SlotOwner)
    (applied? : Option ClockState) :
    Reckons (tables.commit owner device applied?) after other account := by
  refine { h.of_slot?_eq topology_eq slot?_eq with holds_iff := ?_ }
  intro agent
  rw [topology_eq, h.holds_iff]
  cases applied? with
  | none => rfl
  | some state => rw [Sharing.commit, Sharing.state?_put_of_ne hne]

theorem Reckons.release (h : Reckons tables before device account) (consistent : before.Consistent)
    (backs : tables.Backs before) (busy : before.tracker.slot? other = some slot)
    (result : Except HardwareError Value) (topology_eq : after.topology = before.topology)
    (released : after.tracker = (before.tracker.release other).2) :
    Reckons (tables.commit slot.owner other (slot.applied? result)) after device
      (if other = device then account.conclude result else account) := by
  by_cases heq : other = device
  · subst heq
    rw [if_pos rfl]
    refine h.conclude consistent backs busy result topology_eq ?_
    rw [released, Tracker.slot?_release, if_pos rfl]
  · have hne : device ≠ other := fun h => heq h.symm
    rw [if_neg heq]
    refine h.commit_of_ne hne topology_eq ?_ _ _
    rw [released, Tracker.slot?_release, if_neg hne]

/-! ### Steps and runs -/

theorem Step.reckons (step : before.Step events after) (consistent : before.Consistent)
    (backs : tables.Backs before) (serves : tables.Serves events) (counts : tables.Counts device)
    (bounded : tables.states.length ≤ UInt32.size)
    (quiet : ∀ service raw payload, .message service raw payload ∉ events)
    (h : Reckons tables before device account) :
    Reckons (tables.after events) after device (events.foldl (Account.next device) account) ∧
      Along (Account.next device) (StopsSoleHolder before.topology device) account events := by
  cases step with
  | answered => exact absurd List.mem_cons_self (quiet _ _ _)
  | contended => exact absurd List.mem_cons_self (quiet _ _ _)
  | claimed => exact absurd List.mem_cons_self (quiet _ _ _)
  | deferred queued busy touched =>
    have htarget := (consistent.slot_isFor queued busy).2
    have hstops := h.stopsSoleHolder backs counts bounded busy htarget touched
    rw [exchanges_cons, Sharing.after_cons, Sharing.next_of_touch? touched, List.foldl_cons,
      Account.next_of_deferred touched]
    refine ⟨h.of_slot?_eq rfl rfl, hstops, ?_⟩
    exact ⟨stopsSoleHolder_of_touch?_eq_none rfl, trivial⟩
  | @settled item queue slot _ result _ _ _ queued busy touched finished =>
    have htarget := (consistent.slot_isFor queued busy).2
    have hstops := h.stopsSoleHolder backs counts bounded busy htarget touched
    have huntouched := touch?_eq_none_of_takes_finish finished
    rw [backs.after_of_settled busy finished touched serves, exchanges_cons, List.foldl_cons,
      Account.foldl_of_untouched huntouched, Account.next_of_settled touched,
      (Topology.takes_finish finished).1]
    refine ⟨?_, hstops, along_stopsSoleHolder huntouched⟩
    exact h.release consistent backs busy result rfl rfl
  | @completed completion slot _ _ _ awaited finished =>
    have busy := (awaited?_eq_some_iff.1 awaited).1
    have huntouched := touch?_eq_none_of_takes_finish finished
    rw [Sharing.after_cons_completion, backs.after_of_takes_finish busy finished serves.2,
      List.foldl_cons, Account.foldl_of_untouched huntouched, (Topology.takes_finish finished).1]
    refine ⟨?_, trivial, along_stopsSoleHolder huntouched⟩
    exact h.release consistent backs busy completion.result rfl rfl
  | unsolicited => exact ⟨h, stopsSoleHolder_of_touch?_eq_none rfl, trivial⟩

theorem Reaches.reckons (reached : before.Reaches events after) (consistent : before.Consistent)
    (backs : tables.Backs before) (serves : tables.Serves events) (counts : tables.Counts device)
    (bounded : tables.states.length ≤ UInt32.size)
    (quiet : ∀ service raw payload, .message service raw payload ∉ events)
    (h : Reckons tables before device account) :
    Reckons (tables.after events) after device (events.foldl (Account.next device) account) ∧
      Along (Account.next device) (StopsSoleHolder before.topology device) account events := by
  induction reached with
  | refl => exact ⟨h, trivial⟩
  | @tail events more _ _ reached step ih =>
    obtain ⟨hreached, hstep⟩ := Sharing.serves_append.1 serves
    obtain ⟨hreckons, halong⟩ := ih hreached fun s r p hmem =>
      quiet s r p (List.mem_append_left _ hmem)
    have hbacks := (reached.commits backs hreached).1
    have hbounded : (tables.after events).states.length ≤ UInt32.size := by
      rwa [Sharing.length_states_after]
    obtain ⟨hreckons', halong'⟩ := step.reckons (reached.consistent consistent) hbacks hstep
      (counts.after events) hbounded (fun s r p hmem => quiet s r p (List.mem_append_right _ hmem))
      hreckons
    rw [reached.topology_eq] at halong'
    rw [Sharing.after_append, List.foldl_append, along_append]
    exact ⟨hreckons', halong, halong'⟩

theorem Received.untouched {service : ServiceId} {raw : UInt32} {payload : Bytes}
    {history : History} {sent : Except TransportError Unit}
    (received : before.Received service raw payload history sent after) :
    ∀ exchange ∈ history, exchange.touch? = none := by
  obtain ⟨consulted, admission, last, rfl, assessed, hlast⟩ := received.exists_assessed
  refine touch?_eq_none_of_consultation_append (Topology.consultation_of_takes_assess assessed) ?_
  rcases hlast with ⟨reply, sent, rfl⟩ | ⟨notice, rfl⟩ <;> rfl

theorem Reckons.take_rejected {move : Move} (h : Reckons tables before device account)
    (rejected : move.isAccepted = false) :
    Reckons tables before device (account.take before.topology device move) := by
  obtain ⟨hinFlight, happlied⟩ :=
    Account.take_of_not_isAccepted before.topology device account rejected
  refine ⟨hinFlight.trans h.inFlight, ?_⟩
  rw [happlied]
  exact h.holds_iff

/-- An accepted message leaves its wish in the account, and in the slot that it claims. -/
theorem Reckons.take_accepted {move : Move} {service : ServiceId} {clock : ResolvedClock}
    {work : Work} {tracker : Tracker} {queue : List WorkItem}
    (h : Reckons tables before device account) (accepted : move.isAccepted = true)
    (wish : move.wish? before.topology device =
      if clock.record.device = device then work.target?.map (Wish.mk clock.agent) else none)
    (acquired : before.tracker.acquire clock.record.device (clock.claim service work) =
      .ok tracker) :
    Reckons tables { before with tracker, queue } device
      (account.take before.topology device move) := by
  obtain ⟨hinFlight, happlied⟩ :=
    Account.take_of_isAccepted before.topology device account accepted
  refine ⟨?_, ?_⟩
  · rw [hinFlight, wish, Tracker.slot?_of_acquire acquired]
    by_cases heq : clock.record.device = device
    · subst heq
      have hidle : account.inFlight? = none := by
        rw [h.inFlight, Tracker.slot?_eq_none_of_acquire acquired]
        rfl
      rw [if_pos rfl, if_pos rfl, hidle, Option.or_none]
      rfl
    · rw [if_neg heq, if_neg fun h => heq h.symm, Option.none_or]
      exact h.inFlight
  · rw [happlied]
    exact h.holds_iff

theorem Received.reckons {service : ServiceId} {raw : UInt32} {payload : Bytes}
    {history : History} {sent : Except TransportError Unit}
    (received : before.Received service raw payload history sent after)
    (serves : tables.Serves (exchanges history)) (result : OperationResult)
    (h : Reckons tables before device account) :
    Reckons tables after device (account.take before.topology device
      ⟨.receive service raw payload, history, result⟩) := by
  cases received with
  | answered assessed => exact h.take_rejected Move.isAccepted_eq_false
  | contended assessed => exact h.take_rejected Move.isAccepted_eq_false
  | @claimed consulted clock work _ assessed acquired =>
    have hconsulted := Topology.consultation_of_takes_assess assessed
    rw [exchanges_append, Sharing.serves_append] at serves
    have hwish := Move.wish?_of_takes_assess device
      (.claimed clock.record.device work.kind service) result assessed serves.1
    exact h.take_accepted (Move.isAccepted_of_consultation hconsulted) hwish acquired

theorem perform_reckons {move : Move} (consistent : before.Consistent)
    (backs : tables.Backs before) (counts : tables.Counts device)
    (bounded : tables.states.length ≤ UInt32.size)
    (takes : (before.perform move.operation).Takes move.history (move.result, after))
    (serves : tables.Serves move.events) (h : Reckons tables before device account) :
    Reckons (tables.after move.events) after device
        (account.enter before.topology device move) ∧
      Along (Account.next device) (StopsSoleHolder before.topology device)
        (account.take before.topology device move) move.events := by
  have reached := perform_reaches consistent takes
  obtain ⟨operation, history, result⟩ := move
  cases operation with
  | receive service raw payload =>
    obtain ⟨sent, received⟩ := takes_perform_receive consistent takes
    have huntouched := received.untouched
    have htables : tables.after (.message service raw payload :: exchanges history) = tables :=
      received.tables_after
    have hentered : account.enter before.topology device ⟨.receive service raw payload, history,
        result⟩ = account.take before.topology device ⟨.receive service raw payload, history,
        result⟩ := Account.foldl_of_untouched huntouched
    refine ⟨?_, trivial, along_stopsSoleHolder huntouched⟩
    rw [hentered]
    exact htables.symm ▸ received.reckons serves.2 result h
  | _ =>
    rw [Account.enter, Account.take_of_not_receive (by nofun)]
    exact reached.reckons consistent backs serves counts bounded
      (Move.not_message_mem_events nofun) h

theorem reckons_start (topology : Topology) (device : DeviceId) :
    Reckons (.ofTopology topology) (start topology) device {} := by
  refine ⟨?_, ?_⟩
  · rw [start, Tracker.slot?_empty]
    rfl
  · intro agent
    rw [Sharing.state?_eq_cell?, ← Sharing.mem_runners, Sharing.mem_runners_ofTopology]
    rfl

/-- A move that goes on a run is entered, and stops a device for its sole holder only. -/
theorem Runs.perform_reckons {move : Move} (run : (start topology).Runs moves before)
    (serves : (Sharing.ofTopology topology).Serves (ClockManager.events (moves ++ [move])))
    (bounded : topology.agentCount ≤ UInt32.size)
    (takes : (before.perform move.operation).Takes move.history (move.result, after))
    (h : Reckons ((Sharing.ofTopology topology).after (ClockManager.events moves)) before device
      account) :
    Reckons ((Sharing.ofTopology topology).after (ClockManager.events (moves ++ [move]))) after
        device (account.enter topology device move) ∧
      Along (Account.next device) (StopsSoleHolder topology device)
        (account.take topology device move) move.events := by
  rw [events_append, Sharing.serves_append, events_singleton] at serves
  have hcounts := Sharing.counts_after_ofTopology topology (ClockManager.events moves) device
  have hbounded : ((Sharing.ofTopology topology).after
      (ClockManager.events moves)).states.length ≤ UInt32.size := by
    rwa [Sharing.length_states_after_ofTopology]
  have hmove := Platform.perform_reckons run.consistent (run.backs serves.1) hcounts hbounded takes
    serves.2 h
  rw [run.topology_eq] at hmove
  rw [events_append, events_singleton, Sharing.after_append]
  exact hmove

theorem Runs.reckons (run : (start topology).Runs moves platform)
    (serves : (Sharing.ofTopology topology).Serves (ClockManager.events moves))
    (bounded : topology.agentCount ≤ UInt32.size) (device : DeviceId) :
    Reckons ((Sharing.ofTopology topology).after (ClockManager.events moves)) platform device
      (Account.after topology device moves) := by
  induction run with
  | nil => exact reckons_start topology device
  | snoc run takes ih =>
    have hrun := ih (Sharing.serves_append.1 (events_append _ _ ▸ serves)).1
    rw [Account.after, List.foldl_append]
    exact (run.perform_reckons serves bounded takes hrun).1

/-- Every call that stops a device is made for an agent that has asked for it, and no other agent
holds the device then, where `got` says which wishes an agent has got. -/
def StopsSoleHolders (topology : Topology) (moves : List Move) (got : Account → List Wish) : Prop :=
  ∀ device past move later earlier answer rest, moves = past ++ move :: later →
    move.events = earlier ++ .exchange ⟨.setState device .stopped, answer⟩ :: rest →
      let account := earlier.foldl (Account.next device)
        ((Account.after topology device past).take topology device move)
      ∃ agent, account.inFlight? = some ⟨agent, .stopped⟩ ∧
        ∀ other, Account.Holds topology device (got account) other → other = agent

end Platform
end ClockManager
