import ClockManager.Proofs.Check
import ClockManager.Proofs.Platform.Reception
/-!
# The order of refusals

A message can be at fault in several ways at once. What it is answered is decided by the first check
that it does not pass; a message that passes all checks is accepted. The policy, which may keep a
state of its own, is asked only about messages that are not at fault before, and about each of these
once.
-/

namespace ClockManager.Platform

variable {topology : Topology} {moves : List Move} {platform after : Platform}
  {service : ServiceId} {raw : UInt32} {payload : Bytes} {history consulted : History}
  {sent : Except TransportError Unit} {agents : ServiceId → Except TransportError AgentId}
  {p : Petition}

theorem firstFailing_idle {device : DeviceId} (reaches : p.Reaches .idle)
    (stands : p.device? = some device) (busy : (p.platform.tracker.slot? device).isSome) :
    p.FirstFailing .idle := by
  refine ⟨reaches, fun passes => ?_⟩
  simp [passes device stands] at busy

theorem passes_all {device : DeviceId} (reaches : p.Reaches .idle)
    (stands : p.device? = some device) (free : p.platform.tracker.slot? device = none) :
    ∀ check, p.Passes check := by
  intro check
  by_cases hidle : check = .idle
  · subst hidle
    intro other hother
    cases stands.symm.trans hother
    exact free
  · exact reaches check (Check.mem_before_idle hidle)

/-- What becomes of a message, in terms of its checks. -/
inductive Judged (p : Petition) (sent : Except TransportError Unit) (after : Platform) : Prop where
  | refused (check : Check) (failing : p.FirstFailing check)
      (answers : p.platform.Answers p.service (.bytes (Frame.status (p.status check)).bytes)
        p.heard sent after)
  | accepted (device : DeviceId) (passes : ∀ check, p.Passes check)
      (stands : p.device? = some device)
      (accepts : p.platform.Accepts p.service device p.heard sent after)

section Received

variable (about : ∀ message : Message, message.raw = p.raw → message ∈ Message.queueable)
  (steady : Steady p.agents (exchanges p.heard))
include about steady

theorem decided_of_heard {last : Exchange} {admission : Admission}
    (heard : p.heard = consulted ++ [last])
    (assessed : (p.platform.topology.assess p.service p.raw p.payload).Takes consulted admission)
    (unasked : last.query.isPermission = false) :
    p.Decided ((reviews consulted).map Exchange.query) admission := by
  rw [heard, exchanges_append, steady_append] at steady
  exact Petition.decided_of_takes_assess assessed about steady.1 heard (by simp [unasked])

variable (received : p.platform.Received p.service p.raw p.payload p.heard sent after)
include received

theorem Received.judged : Judged p sent after := by
  generalize hheard : p.heard = heard at received
  cases received with
  | answered assessed =>
    obtain ⟨check, failing, rfl⟩ :=
      (decided_of_heard about steady hheard assessed rfl).exists_firstFailing
    have quiet := replies_of_consultation (Topology.consultation_of_takes_assess assessed)
    exact .refused check failing (by rw [hheard]; exact answers_concat quiet)
  | contended assessed busy =>
    obtain ⟨reaches, stands⟩ := (decided_of_heard about steady hheard assessed rfl).reaches_idle
    have quiet := replies_of_consultation (Topology.consultation_of_takes_assess assessed)
    exact .refused .idle (firstFailing_idle reaches stands busy)
      (by rw [hheard]; exact answers_concat quiet)
  | claimed assessed acquired =>
    obtain ⟨reaches, stands⟩ := (decided_of_heard about steady hheard assessed rfl).reaches_idle
    have free := Tracker.slot?_eq_none_of_acquire acquired
    exact .accepted _ (passes_all reaches stands free) stands
      (by rw [hheard]; exact accepts_of_acquire assessed acquired)

theorem Received.reviews_eq :
    (p.Reaches .approved → (reviews p.heard).map Exchange.query = p.review?.toList) ∧
      (¬ p.Reaches .approved → reviews p.heard = []) := by
  obtain ⟨consulted, admission, last, hheard, assessed, hlast⟩ := received.exists_assessed
  have unasked : last.query.isPermission = false ∧ reviews [last] = [] := by
    rcases hlast with ⟨reply, sent, rfl⟩ | ⟨notice, rfl⟩ <;> exact ⟨rfl, rfl⟩
  have decided := decided_of_heard about steady hheard assessed unasked.1
  rw [hheard, reviews_append, unasked.2, List.append_nil]
  exact decided.asked_eq.imp_right fun unreached h => List.map_eq_nil_iff.1 (unreached h)

end Received

/-- In every run of a platform: a message about a clock, or one of an unknown number, is answered at
once by the status of the first check that it does not pass, and it is accepted if and only if it
passes all of them, for the device that it means. The policy is asked about it if and only if it
passes all checks before that of the policy, once and only if it is to change something; and whether
the sender has permission is always asked, if there is a sender and the message can be read. -/
theorem Runs.refusals_in_order (run : (start topology).Runs moves platform)
    (takes : (platform.receive service raw payload).Takes history (sent, after))
    (steady : Steady agents (exchanges history))
    (about : ∀ message : Message, message.raw = raw → message ∈ Message.queueable) :
    let p : Petition := { service, raw, payload, heard := history, platform, agents }
    (∀ check, p.FirstFailing check →
        platform.Answers service (.bytes (Frame.status (p.status check)).bytes) history sent
          after) ∧
      ((∃ device, platform.Accepts service device history sent after) ↔
        ∀ check, p.Passes check) ∧
      (∀ device, platform.Accepts service device history sent after → p.device? = some device) ∧
      ((∀ check ∈ Check.approved.before, p.Passes check) →
        (reviews history).map Exchange.query = p.review?.toList ∧
          (p.review?.isSome ↔ raw = Message.rateSet.raw ∨ raw = Message.configSet.raw)) ∧
      ((∃ check ∈ Check.approved.before, ¬ p.Passes check) → reviews history = []) ∧
      ∀ agent index, agents service = .ok agent → p.index? = some index →
        ∃ granted, ⟨.allowsResource agent protocolId raw index, granted⟩ ∈ history := by
  intro p
  have received : p.platform.Received p.service p.raw p.payload p.heard sent after :=
    takes_receive run.consistent takes
  have judged := received.judged about steady
  obtain ⟨hasked, hunasked⟩ := received.reviews_eq about steady
  refine ⟨?_, ?_, ?_, fun reaches => ⟨hasked reaches, Petition.review?_isSome_iff reaches⟩, ?_, ?_⟩
  · intro check failing
    cases judged with
    | refused other otherFailing answers => rwa [failing.unique otherFailing]
    | accepted device passes => exact absurd (passes check) failing.2
  · cases judged with
    | refused check failing answers =>
      constructor
      · rintro ⟨device, accepts⟩
        exact absurd accepts answers.not_accepts
      · intro passes
        exact absurd (passes check) failing.2
    | accepted device passes stands accepts => exact ⟨fun _ => passes, fun _ => ⟨device, accepts⟩⟩
  · intro device accepts
    cases judged with
    | refused check failing answers => exact absurd accepts answers.not_accepts
    | accepted other passes stands otherAccepts => rwa [accepts.device_unique otherAccepts]
  · rintro ⟨check, early, fails⟩
    exact hunasked fun reaches => fails (reaches check early)
  · intro agent index sender named
    obtain ⟨consulted, admission, last, hheard, assessed, -⟩ := received.exists_assessed
    have hhistory : history = consulted ++ [last] := hheard
    rw [hhistory, exchanges_append, steady_append] at steady
    obtain ⟨granted, hmem⟩ := Petition.exists_asked assessed steady.1 sender named
    exact ⟨granted, by rw [hhistory]; exact List.mem_append_left _ hmem⟩

open Bench in
/-- A rate is to be set in a clock that does not exist, with a flag that is not known, and not at
once. It is the flag that is complained about. -/
theorem refusals_in_order_sample :
    let path := (startingSession.platform.receive ⟨11⟩ 5 (Request.rateSet 3 9 0).payload).trace
      World.answer startingSession.world
    startingSession.platform.Answers ⟨11⟩ (.bytes (Frame.status .invalidParameters).bytes) path.1
        path.2.1.1 path.2.1.2 ∧
      reviews path.1 = [] := by
  intro path
  have about : ∀ message : Message, message.raw = 5 → message ∈ Message.queueable := by
    intro message hraw
    cases message <;> simp_all [Message.raw, Message.queueable]
  obtain ⟨hrefused, -, -, -, hunasked, -⟩ := Runs.refusals_in_order
    (sampleSession.runs_moves [send 11 (.configSet 0 1)])
    (Dialogue.takes_trace World.answer (startingSession.platform.receive ⟨11⟩ 5
      (Request.rateSet 3 9 0).payload) startingSession.world)
    (by decide : Steady sampleSession.world.transport.owner _) about
  let p : Petition :=
    ⟨⟨⟨11⟩, 5, (Request.rateSet 3 9 0).payload, path.1⟩, startingSession.platform,
      sampleSession.world.transport.owner⟩
  have decoded : Request.decodeRaw p.raw p.payload = .ok (.rateSet 3 9 0) := by decide
  have hpermitted : p.Passes .permitted := ⟨⟨1⟩, 9, rfl, rfl, .tail _ (.head _)⟩
  have hplain : p.FirstFailing .plain := by
    refine ⟨(Petition.reaches_permitted decoded).next rfl hpermitted, ?_⟩
    rw [Petition.passes_plain_iff decoded]
    intro passes
    have hplace := passes 3 RateFlags.places rfl 1 (by decide)
    exact absurd hplace (by decide)
  exact ⟨hrefused .plain hplain, hunasked ⟨.plain, by decide, hplain.2⟩⟩

end ClockManager.Platform
