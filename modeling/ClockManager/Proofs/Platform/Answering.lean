import ClockManager.Proofs.Bench
import ClockManager.Proofs.Platform.Step
/-!
# Every message is answered once

A message that is not answered at once is owed an answer until its slot is freed. Steps keep the
balance: what has come in on a channel is what has been answered there and what is still owed.
-/

namespace ClockManager

def Move.isReceipt (service : ServiceId) (move : Move) : Bool :=
  match move.operation with
  | .receive origin _ _ => origin = service
  | _ => false

namespace Event

def isMessage (service : ServiceId) : Event → Bool
  | message origin _ _ => origin = service
  | _ => false

/-- An answer counts whether or not the transport could send it. -/
def isResponse (service : ServiceId) : Event → Bool
  | exchange ⟨.respond receiver _, _⟩ => receiver = service
  | _ => false

end Event

section Counting

variable {service : ServiceId} {history : History}

theorem countP_isMessage_exchanges :
    (exchanges history).countP (Event.isMessage service) = 0 := by
  rw [List.countP_eq_zero]
  simp [exchanges, Event.isMessage]

theorem countP_isMessage_move (move : Move) : move.events.countP (Event.isMessage service) =
    if move.isReceipt service then 1 else 0 := by
  rw [Move.events, List.countP_append, countP_isMessage_exchanges, Nat.add_zero]
  unfold Move.arrival Move.isReceipt
  split
  · rename_i hoperation
    rw [hoperation, List.countP_singleton]
    rfl
  · rename_i hoperation _
    rw [hoperation]
    rfl
  · rename_i hoperation _
    rw [hoperation]
    rfl
  · cases hoperation : move.operation <;> simp_all

/-- A message comes in whenever the platform is told to receive one, and at no other time. -/
theorem countP_isMessage_events (moves : List Move) :
    (events moves).countP (Event.isMessage service) = moves.countP (·.isReceipt service) := by
  induction moves with
  | nil => rfl
  | cons move rest ih =>
    rw [← List.singleton_append, events_append, events_singleton, List.countP_append,
      countP_isMessage_move, ih, List.countP_append, List.countP_singleton]

theorem countP_isResponse_exchanges : (exchanges history).countP (Event.isResponse service) =
    (replies history).countP (·.1 = service) := by
  rw [exchanges, replies, List.countP_map, List.countP_filterMap]
  refine List.countP_congr fun exchange _ => ?_
  obtain ⟨query, answer⟩ := exchange
  cases query <;> simp [Event.isResponse, Exchange.reply?]

/-- Taking a message in is one message, and no answer but by the last exchange. -/
theorem countP_of_takes_assess {topology : Topology} {origin : ServiceId} {raw : UInt32}
    {payload : Bytes} {admission : Admission} {last : Exchange}
    (assessed : (topology.assess origin raw payload).Takes history admission) :
    (Event.message origin raw payload :: exchanges (history ++ [last])).countP
        (Event.isMessage service) = (if origin = service then 1 else 0) ∧
      (Event.message origin raw payload :: exchanges (history ++ [last])).countP
        (Event.isResponse service) = if Event.isResponse service (.exchange last) then 1 else 0 := by
  have hconsulted := Topology.consultation_of_takes_assess assessed
  rw [List.countP_cons, List.countP_cons, countP_isMessage_exchanges, exchanges_append,
    List.countP_append, countP_isResponse_exchanges, replies_of_consultation hconsulted]
  simp [List.countP_cons, Event.isMessage, Event.isResponse]

theorem isResponse_of_touch? {exchange : Exchange} {touch : Touch}
    (h : exchange.touch? = some touch) : Event.isResponse service (.exchange exchange) = false := by
  obtain ⟨query, answer⟩ := exchange
  cases query <;> simp_all [Exchange.touch?, Event.isResponse]

/-- The end of a request holds one answer, to the owner of the slot. -/
theorem countP_isResponse_of_takes_finish {topology : Topology} {tracker left : Tracker}
    {device : DeviceId} {slot : Slot} {result : Except HardwareError Value}
    {sent : Except TransportError Unit}
    (takes : (topology.finish tracker device slot result).Takes history (sent, left)) :
    (exchanges history).countP (Event.isResponse service) =
      if slot.owner.service = service then 1 else 0 := by
  rw [countP_isResponse_exchanges, Topology.replies_of_takes_finish takes, List.countP_singleton]
  simp only [decide_eq_true_eq]

end Counting

namespace Platform

variable {topology : Topology} {before after platform : Platform} {events : List Event}
  {moves : List Move}

/-- How many messages of a channel are owed an answer. -/
def owed (platform : Platform) (service : ServiceId) : Nat :=
  platform.tracker.count (·.owner.service = service)

theorem Step.balance (step : before.Step events after) (service : ServiceId) :
    before.owed service + events.countP (Event.isMessage service) =
      events.countP (Event.isResponse service) + after.owed service := by
  unfold owed
  cases step with
  | answered assessed =>
    rw [(countP_of_takes_assess assessed).1, (countP_of_takes_assess assessed).2, Nat.add_comm]
    simp [Event.isResponse]
  | contended assessed =>
    rw [(countP_of_takes_assess assessed).1, (countP_of_takes_assess assessed).2, Nat.add_comm]
    simp [Event.isResponse]
  | @claimed origin _ _ _ clock work _ assessed acquired =>
    have hcount := Tracker.count_of_acquire (p := (·.owner.service = service)) acquired
    have howner : (clock.claim origin work).owner.service = origin := rfl
    simp only [howner, decide_eq_true_eq] at hcount
    rw [(countP_of_takes_assess assessed).1, (countP_of_takes_assess assessed).2, hcount]
    simp [Event.isResponse]
  | deferred _ _ touched =>
    rw [countP_isMessage_exchanges, exchanges_cons, List.countP_cons,
      isResponse_of_touch? touched]
    simp [Event.isResponse]
  | settled _ busy touched finished =>
    have hcount := Tracker.count_release (p := (·.owner.service = service)) busy
    rw [countP_isMessage_exchanges, exchanges_cons, List.countP_cons,
      isResponse_of_touch? touched, countP_isResponse_of_takes_finish finished,
      (Topology.takes_finish finished).1]
    simp only [decide_eq_true_eq] at hcount
    simp only [Bool.false_eq_true, if_false]
    omega
  | completed awaited finished =>
    have busy := (awaited?_eq_some_iff.1 awaited).1
    have hcount := Tracker.count_release (p := (·.owner.service = service)) busy
    rw [List.countP_cons, List.countP_cons, countP_isMessage_exchanges,
      countP_isResponse_of_takes_finish finished, (Topology.takes_finish finished).1]
    simp only [decide_eq_true_eq] at hcount
    simp only [Event.isMessage, Event.isResponse, Bool.false_eq_true, if_false]
    omega
  | unsolicited => simp [Event.isMessage, Event.isResponse]

theorem Reaches.balance (reached : before.Reaches events after) (service : ServiceId) :
    before.owed service + events.countP (Event.isMessage service) =
      events.countP (Event.isResponse service) + after.owed service := by
  induction reached with
  | refl => simp
  | tail _ step ih =>
    have hstep := step.balance service
    rw [List.countP_append, List.countP_append]
    omega

/-- Whoever the collaborators are, the messages received from a channel are as many as the answers
sent to it and the busy slots that it owns. -/
theorem Runs.received_eq_answered_add_owed (run : (start topology).Runs moves platform)
    (service : ServiceId) :
    moves.countP (·.isReceipt service) =
      (ClockManager.events moves).countP (Event.isResponse service) + platform.owed service := by
  have hbalance := (run.reaches (consistent_start topology)).balance service
  have hstart : (start topology).owed service = 0 := Tracker.count_empty _
  rw [countP_isMessage_events, hstart, Nat.zero_add] at hbalance
  exact hbalance

open Bench in
/-- In the sample session four messages come in on the second channel; three are answered, and the
last one is owed an answer. -/
theorem received_eq_answered_add_owed_sample :
    (sampleSession.after sampleSteps).platform.owed ⟨11⟩ = 1 ∧
      4 = (ClockManager.events (sampleSession.moves sampleSteps)).countP
        (Event.isResponse ⟨11⟩) + 1 :=
  ⟨by decide,
    Runs.received_eq_answered_add_owed (sampleSession.runs_moves sampleSteps) ⟨11⟩⟩

end Platform
end ClockManager
