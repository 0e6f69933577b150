import ClockManager.Proofs.Bench
import ClockManager.Proofs.Checked.Platform
import ClockManager.Proofs.Checked.Sharing
import ClockManager.Proofs.Platform.Consistency
/-!
# Runs without faults

What the machine computes for a message does not depend on the state it is in, and cannot fault. What
does depend on it is the count of the items that a queue run processes, and the tables of the sharing
policy. The queue holds one item for a device at most, so it is as short as the list of devices; and
the tables keep their size. So with few enough agents and devices nothing in a run faults, whoever
the collaborators are and from whatever topology the policy was set up.
-/

namespace ClockManager

open Checked (sizeLimit)

variable {topology shared : Topology}

theorem Topology.Bounded.deviceCount_lt (bounded : topology.Bounded) :
    topology.deviceCount < sizeLimit :=
  Nat.lt_of_le_of_lt (Nat.le_mul_of_pos_left _ (List.length_pos_iff.2 topology.agents_ne))
    bounded.cells_lt

theorem Sharing.flat_reviewChecked_after (bounded : shared.Bounded) (past : List Event)
    (phase : Phase) (context : PolicyContext) (state : ClockState) :
    ((ofTopology shared).after past).flat.reviewChecked phase context state =
      .ok (((ofTopology shared).after past).review phase context state).flat := by
  refine flat_reviewChecked ?_
  rw [length_states_after_ofTopology, deviceCount_after, deviceCount_ofTopology]
  exact bounded.cells_lt

namespace Platform

variable {platform : Platform} {moves : List Move}

theorem Runs.length_queue_lt (bounded : topology.Bounded)
    (run : (start topology).Runs moves platform) : platform.queue.length < sizeLimit := by
  have hstart := consistent_start topology
  have hconsistent := (run.reaches hstart).consistent hstart
  have hdevices := hconsistent.busyCount_le
  rw [run.topology_eq] at hdevices
  exact (hconsistent.length_queue_le.trans hdevices).trans_lt bounded.deviceCount_lt

/-- Nothing in a run faults. The tables of the policy can be set up; each review in the run, made by
checked operations on the tables as they are stored, gives the answer that was given and leaves the
tables for the next one; and on the platform that has been reached every operation takes the same
paths with checks as without them, none of which ends in a fault. -/
theorem Runs.never_faults (bounded : topology.Bounded) (sharedBounded : shared.Bounded)
    (run : (start topology).Runs moves platform)
    (serves : (Sharing.ofTopology shared).Serves (events moves)) :
    Sharing.Flat.ofTopologyChecked shared = .ok (Sharing.ofTopology shared).flat ∧
      (∀ past phase context state answer later,
        events moves = past ++ .exchange ⟨.reviewState phase context state, answer⟩ :: later →
          ∃ review,
            ((Sharing.ofTopology shared).after past).flat.reviewChecked phase context state =
                .ok review ∧
              answer = ⟨review.verdict, state⟩ ∧
              review.tables = ((Sharing.ofTopology shared).after
                (past ++ [.exchange ⟨.reviewState phase context state, answer⟩])).flat) ∧
      ∀ operation history outcome,
        (platform.performChecked operation).run.Takes history outcome ↔
          ∃ ended, outcome = .ok ended ∧ (platform.perform operation).Takes history ended := by
  refine ⟨Sharing.flat_ofTopologyChecked sharedBounded, ?_, ?_⟩
  · intro past phase context state answer later split
    refine ⟨_, Sharing.flat_reviewChecked_after sharedBounded past phase context state, ?_, ?_⟩
    · rw [split, Sharing.serves_append, Sharing.serves_cons] at serves
      exact serves.2.1
    · rw [Sharing.after_append]
      rfl
  · intro operation history outcome
    rw [performChecked_eq (run.length_queue_lt bounded)]
    exact Guarded.takes_lift

open Bench in
/-- The policy was set up for views in which both agents hold the CPU. When the GPU has been started
for the second agent, its count goes up. -/
theorem never_faults_sample :
    let started : Sharing.Flat := ⟨2, [.running, .stopped, .running, .stopped], [2, 0]⟩
    (sampleTopology.Bounded ∧ sharedTopology.Bounded) ∧
      Sharing.Flat.ofTopologyChecked sharedTopology = .ok started ∧
      (∃ review, started.reviewChecked .post ⟨⟨1⟩, 0, ⟨1⟩⟩ .running = .ok review ∧
        review.verdict = .ok .proceed ∧
        review.tables = ⟨2, [.running, .stopped, .running, .running], [2, 1]⟩) ∧
      ∀ operation history fault,
        ¬((mixedSession.after mixedSteps).platform.performChecked operation).run.Takes history
          (.error fault) := by
  intro started
  have hsample : sampleTopology.Bounded := ⟨by decide, by decide⟩
  have hshared : sharedTopology.Bounded := ⟨by decide, by decide⟩
  obtain ⟨htables, hreviews, hoperations⟩ := Runs.never_faults hsample hshared
    (mixedSession.runs_moves mixedSteps) (Session.serves_moves rfl mixedSteps)
  let events := ClockManager.events (mixedSession.moves mixedSteps)
  have hcommit : events = events.take 9 ++
      .exchange ⟨.reviewState .post ⟨⟨1⟩, 0, ⟨1⟩⟩ .running, ⟨.ok .proceed, .running⟩⟩ ::
        events.drop 10 := rfl
  obtain ⟨review, hreview, hanswer, hafter⟩ := hreviews _ _ _ _ _ _ hcommit
  refine ⟨⟨hsample, hshared⟩, htables,
    ⟨review, hreview, (congrArg StateReview.verdict hanswer).symm, hafter⟩, ?_⟩
  intro operation history fault takes
  obtain ⟨_, hok, -⟩ := (hoperations operation history _).1 takes
  cases hok

end Platform
end ClockManager
