import ClockManager.Proofs.Platform.Calls
/-!
# Which completions are taken

A completion names nothing but a device. The platform takes it if the slot of the device is busy and
none of its work is queued; it keeps no record of the calls that the hardware has left pending. The
two come to the same in every run: a completion is taken exactly if the last call on its device was
left pending and no completion has been taken for the device since. So late, repeated and made-up
completions are turned away without any effect, and a completion that is taken ends one request.
-/

namespace ClockManager

def Exchange.isAnswer (exchange : Exchange) : Bool :=
  match exchange.query with
  | .respond _ _ => true
  | _ => false

/-- The answers that were given, each with what the transport said to it. -/
def answers (history : History) : History := history.filter Exchange.isAnswer

theorem answers_spoken (history : History) : answers (spoken history) = answers history := by
  rw [answers, spoken, List.filter_filter, answers]
  congr 1
  funext exchange
  obtain ⟨query, answer⟩ := exchange
  cases query <;> rfl

theorem Topology.answers_of_takes_finish {topology : Topology} {tracker left : Tracker}
    {device : DeviceId} {slot : Slot} {result : Except HardwareError Value} {history : History}
    {sent : Except TransportError Unit}
    (takes : (topology.finish tracker device slot result).Takes history (sent, left)) :
    answers history = [⟨.respond slot.owner.service
      (.bytes (topology.endFrame device slot result).bytes), sent⟩] := by
  obtain ⟨-, commits, hspoken, hcommits⟩ := takes_finish takes
  have hsilent : answers commits = [] := by
    rw [answers, List.filter_eq_nil_iff]
    intro exchange hmem
    obtain ⟨state, review, rfl⟩ := SlotOwner.exists_review_of_mem hcommits exchange hmem
    exact Bool.false_ne_true
  rw [← answers_spoken, hspoken, answers, List.filter_append, ← answers, hsilent]
  rfl

namespace Platform

variable {topology : Topology} {platform after : Platform} {moves : List Move} {device : DeviceId}
  {completion : Completion} {history : History} {result : Except CompletionError Unit}

theorem Runs.awaited?_isSome_iff (run : (start topology).Runs moves platform) :
    (platform.awaited? device).isSome ↔ LeftPending device (ClockManager.events moves) := by
  have hstart := consistent_start topology
  have hawaits : platform.Awaits device (DeviceReport.after device (ClockManager.events moves)) :=
    ((run.reaches hstart).awaits hstart (awaits_start topology device)).1
  rw [← DeviceReport.pending?_isSome_iff]
  exact hawaits.symm

/-- A completion is turned away exactly if the last call on its device was not left pending, or a
completion has been taken for the device since; then nothing comes of it but a notice. Otherwise it
frees the slot of its device and no other one, leaves the queue as it is, and is followed by one
answer, to the owner of the slot. -/
theorem Runs.completion_taken_iff (run : (start topology).Runs moves platform)
    (takes : (platform.complete completion).Takes history (result, after)) :
    ((∃ device, result = .error (.unsolicited device)) ↔
        ¬ LeftPending completion.device (ClockManager.events moves)) ∧
      (¬ LeftPending completion.device (ClockManager.events moves) →
        result = .error (.unsolicited completion.device) ∧
          history = [⟨.log (.unsolicited completion.device), ()⟩] ∧ after = platform) ∧
      (LeftPending completion.device (ClockManager.events moves) →
        ∃ slot sent, platform.tracker.slot? completion.device = some slot ∧
          (∀ device, after.tracker.slot? device =
            if device = completion.device then none else platform.tracker.slot? device) ∧
          after.queue = platform.queue ∧ after.topology = platform.topology ∧
          answers history = [⟨.respond slot.owner.service
            (.bytes (topology.endFrame completion.device slot completion.result).bytes), sent⟩] ∧
          result = verdict completion slot sent) := by
  rw [← run.awaited?_isSome_iff]
  rcases takes_complete takes with
    ⟨unawaited, rfl, rfl, rfl⟩ | ⟨slot, sent, tracker, awaited, finished, rfl, rfl⟩
  · simp [unawaited]
  · rw [run.topology_eq] at finished
    have hfreed (device : DeviceId) : tracker.slot? device =
        if device = completion.device then none else platform.tracker.slot? device := by
      rw [(Topology.takes_finish finished).1, Tracker.slot?_release]
    have hbusy := (awaited?_eq_some_iff.1 awaited).1
    have hanswers := Topology.answers_of_takes_finish finished
    refine ⟨?_, fun unawaited => absurd (by rw [awaited]; rfl) unawaited,
      fun _ => ⟨slot, sent, hbusy, hfreed, rfl, rfl, hanswers, rfl⟩⟩
    simp [awaited, verdict_ne_unsolicited]

open Bench in
/-- The GPU is being started when a completion brings a rate for it. The completion is taken, though
a rate is not what the slot waits for. One for the CPU is turned away: no work is pending there. -/
theorem completion_taken_iff_sample :
    let taken := (pendingSession.platform.complete ⟨⟨1⟩, .ok (.rate 5)⟩).trace World.answer
      pendingSession.world
    let refused := (pendingSession.platform.complete ⟨⟨0⟩, .ok (.rate 5)⟩).trace World.answer
      pendingSession.world
    (taken.2.1.1 = .error (.mismatch ⟨1⟩ .setState) ∧
        taken.2.1.2.tracker.slot? ⟨1⟩ = none ∧ (answers taken.1).length = 1) ∧
      refused.1 = [⟨.log (.unsolicited ⟨0⟩), ()⟩] ∧ refused.2.1.2 = pendingSession.platform := by
  intro taken refused
  have run : (start sampleTopology).Runs
      (sampleSession.moves [send 11 (.configSet 0 1), .operate .runNext])
      pendingSession.platform := sampleSession.runs_moves _
  obtain ⟨htaken, -, hends⟩ := run.completion_taken_iff (Dialogue.takes_trace World.answer
    (pendingSession.platform.complete ⟨⟨1⟩, .ok (.rate 5)⟩) pendingSession.world)
  obtain ⟨hrefused, hnothing, -⟩ := run.completion_taken_iff (Dialogue.takes_trace World.answer
    (pendingSession.platform.complete ⟨⟨0⟩, .ok (.rate 5)⟩) pendingSession.world)
  have hpending := not_not.1 fun unpending => absurd (htaken.2 unpending) nofun
  obtain ⟨slot, sent, -, hfreed, -, -, hanswers, -⟩ := hends hpending
  obtain ⟨-, hhistory, hafter⟩ := hnothing (hrefused.1 ⟨⟨0⟩, rfl⟩)
  exact ⟨⟨rfl, hfreed ⟨1⟩, congrArg List.length hanswers⟩, hhistory, hafter⟩

end Platform
end ClockManager
