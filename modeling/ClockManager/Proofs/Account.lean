import ClockManager.Proofs.Admission
import ClockManager.Proofs.Report
import ClockManager.Proofs.Sharing.Holders
/-!
# Who holds a device

Who holds a device, as it looks from outside: through the messages and what the transport says of
their senders, the answers, the calls on the hardware and the completions taken for it. An agent
holds a device if the last state that it got for it is running; an agent that has not got any holds
what its view starts enabled.

An account tells two ways of getting a state apart. A request can be carried out by the hardware, or
it can be answered as satisfied without asking the hardware. The policy commits the one and forgets
the other, and only the one protects a holder.
-/

namespace ClockManager

/-- An agent's request for a state of a device. -/
structure Wish where
  agent : AgentId
  state : ClockState
  deriving DecidableEq

namespace Move

/-- The state that the message of a move requests for a device, and the agent that requests it. -/
def wish? (topology : Topology) (device : DeviceId) (move : Move) : Option Wish :=
  match move.operation with
  | .receive _ raw payload =>
    match Request.decodeRaw raw payload with
    | .ok (.configSet index bits) =>
      match ConfigAttributes.ofBits? bits,
          (owner? move.history).map (topology.resolveClock · index) with
      | some state, some (.ok clock) =>
        if clock.record.device = device then some ⟨clock.agent, state⟩ else none
      | _, _ => none
    | _ => none
  | _ => none

/-- The message of a move is answered at once, with success. -/
def isSatisfied (move : Move) : Bool :=
  match move.operation with
  | .receive _ _ _ =>
    (replies move.history).any fun reply => reply.2 = .bytes (Frame.status .success).bytes
  | _ => false

end Move

structure Account where
  /-- The wish that has been accepted and has not ended yet. -/
  inFlight? : Option Wish := none
  /-- The wishes that ended in success, the last one first. -/
  granted : List Wish := []
  /-- Those among them that the hardware has carried out. -/
  applied : List Wish := []

namespace Account

variable {topology : Topology} {device : DeviceId} {account : Account} {move : Move}
  {history : History} {exchange : Exchange}

/-- The wish in flight, if a request that ends in this result has been carried out. -/
def carriedOut (account : Account) : Except HardwareError Value → List Wish
  | .ok .applied => account.inFlight?.toList
  | _ => []

def conclude (account : Account) (result : Except HardwareError Value) : Account :=
  { inFlight? := none
    granted := account.carriedOut result ++ account.granted
    applied := account.carriedOut result ++ account.applied }

/-- A call that is made on the device at once, or a completion that is taken for it, ends the
wish. -/
def next (device : DeviceId) (account : Account) : Event → Account
  | .message _ _ _ => account
  | .completion completion =>
    if completion.device = device then account.conclude completion.result else account
  | .exchange exchange =>
    match exchange.touch? with
    | some ⟨touched, _, some result⟩ =>
      if touched = device then account.conclude result else account
    | _ => account

/-- The wish of a message is in flight if the message is accepted. -/
def take (topology : Topology) (device : DeviceId) (account : Account) (move : Move) : Account :=
  match move.wish? topology device with
  | none => account
  | some wish =>
    if move.isAccepted then { account with inFlight? := some wish }
    else if move.isSatisfied then { account with granted := wish :: account.granted }
    else account

def enter (topology : Topology) (device : DeviceId) (account : Account) (move : Move) : Account :=
  move.events.foldl (next device) (account.take topology device move)

def after (topology : Topology) (device : DeviceId) (moves : List Move) : Account :=
  moves.foldl (enter topology device) {}

/-- The last wish of an agent among those it was granted, or its view if there is none, has the
device running. -/
def Holds (topology : Topology) (device : DeviceId) (granted : List Wish) (agent : AgentId) :
    Prop :=
  match granted.find? (·.agent = agent) with
  | some wish => wish.state = .running
  | none => ∃ view, topology.agent? agent = some view ∧ view.StartsEnabled device

theorem holds_cons {wish : Wish} {granted : List Wish} {agent : AgentId} :
    Holds topology device (wish :: granted) agent ↔
      if agent = wish.agent then wish.state = .running
      else Holds topology device granted agent := by
  by_cases heq : agent = wish.agent
  · subst heq
    simp [Holds]
  · have hne : wish.agent ≠ agent := fun h => heq h.symm
    simp [Holds, heq, hne]

theorem take_of_not_receive
    (h : ∀ service raw payload, move.operation ≠ .receive service raw payload) :
    account.take topology device move = account := by
  unfold take Move.wish?
  split
  · rfl
  · simp_all

/-- The hardware has nothing to do with a message that is answered at once. -/
theorem take_of_not_isAccepted (topology : Topology) (device : DeviceId) (account : Account)
    (h : move.isAccepted = false) :
    (account.take topology device move).inFlight? = account.inFlight? ∧
      (account.take topology device move).applied = account.applied := by
  unfold take
  split
  · exact ⟨rfl, rfl⟩
  · rw [if_neg (by simp [h])]
    split <;> exact ⟨rfl, rfl⟩

theorem take_of_isAccepted (topology : Topology) (device : DeviceId) (account : Account)
    (h : move.isAccepted = true) :
    (account.take topology device move).inFlight? =
        (move.wish? topology device).or account.inFlight? ∧
      (account.take topology device move).applied = account.applied := by
  unfold take
  split
  · rename_i hwish
    rw [hwish]
    exact ⟨rfl, rfl⟩
  · rename_i wish hwish
    rw [if_pos h, hwish]
    exact ⟨rfl, rfl⟩

theorem next_of_touch?_eq_none (h : exchange.touch? = none) :
    account.next device (.exchange exchange) = account := by
  rw [next, h]

theorem foldl_of_untouched (h : ∀ exchange ∈ history, exchange.touch? = none) :
    (exchanges history).foldl (next device) account = account :=
  foldl_of_ignored fun exchange hmem => next_of_touch?_eq_none (h exchange hmem)

theorem next_of_deferred {touched : DeviceId} {work : Work}
    (h : exchange.touch? = some ⟨touched, work, none⟩) :
    account.next device (.exchange exchange) = account := by
  rw [next, h]

theorem next_of_settled {touched : DeviceId} {work : Work} {result : Except HardwareError Value}
    (h : exchange.touch? = some ⟨touched, work, some result⟩) :
    account.next device (.exchange exchange) =
      if touched = device then account.conclude result else account := by
  rw [next, h]

end Account

theorem Move.wish?_of_takes_assess {topology : Topology} {service : ServiceId} {raw : UInt32}
    {payload : Bytes} {consulted : History} {clock : ResolvedClock} {work : Work}
    {tables : Sharing} (device : DeviceId) (notice : Notice) (result : OperationResult)
    (assessed : (topology.assess service raw payload).Takes consulted (.accept clock work))
    (serves : tables.Serves (exchanges consulted)) :
    Move.wish? topology device
        ⟨.receive service raw payload, consulted ++ [⟨.log notice, ()⟩], result⟩ =
      if clock.record.device = device then work.target?.map (Wish.mk clock.agent) else none := by
  have hagrees := serves.agrees_of_consultation (Topology.consultation_of_takes_assess assessed)
  obtain ⟨request, permission, owner, passed, hdecoded, hpermitted, hclock, hpasses, rfl⟩ :=
    Topology.takes_assess_accept assessed
  have howner := hpasses.owner?_eq permission service owner notice
  unfold Move.wish?
  cases hpasses with
  | clockAttributes => simp [hdecoded, Work.target?]
  | rateGet => simp [hdecoded, Work.target?]
  | rateSet => simp [hdecoded, Work.target?]
  | @configSet bits asked review known proceeds =>
    have hreview : review = ⟨(tables.review .pre clock.context asked).verdict, asked⟩ :=
      hagrees ⟨.reviewState .pre clock.context asked, review⟩ (by simp)
    subst hreview
    simp only [hdecoded, known, howner, Option.map_some, hclock, Work.target?]

end ClockManager
