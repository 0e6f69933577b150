import ClockManager.Proofs.Bench
import ClockManager.Proofs.Platform.Errands
import ClockManager.Proofs.Reply
/-!
# Replies are laid out as their messages ask

A reply that is given when a request ends is made from the slot of its device and from the result,
and nothing is left of the message by then. It is laid out as that message asks all the same, since
the slot was filled for it. A result of another shape than its request waits for is not reported as
success.
-/

namespace ClockManager

/-! ### Which message a reply is for -/

/-- The device and the result with which a request ends. -/
def Event.ending? : Event → Option (DeviceId × Except HardwareError Value)
  | message _ _ _ => none
  | completion taken => some (taken.device, taken.result)
  | exchange made => made.touch?.bind fun touch => touch.settled?.map (touch.device, ·)

/-- The message is answered next: it has just been assessed, or the request that it has made has
just ended on a device with a result. -/
inductive Errand.Awaits (errand : Errand) :
    List Event → Option (DeviceId × Except HardwareError Value) → Prop where
  | atOnce {past : List Event} (latest : errand.IsLatest past)
      (unended : ∀ exchange ∈ errand.heard, (Event.exchange exchange).ending? = none) :
      Awaits errand past none
  | ended {earlier : List Event} {ending : Event} {since : History} {device : DeviceId}
      {result : Except HardwareError Value} (holds : errand.Holds device earlier)
      (ends : ending.ending? = some (device, result))
      (unended : ∀ exchange ∈ since, (Event.exchange exchange).ending? = none) :
      Awaits errand (earlier ++ ending :: exchanges since) (some (device, result))

/-- The event is a message or ends a request; a reply follows the last one of these. -/
def Event.IsTurn (event : Event) : Prop :=
  (∃ service raw payload, event = .message service raw payload) ∨ event.ending?.isSome

theorem Event.isTurn_message (service : ServiceId) (raw : UInt32) (payload : Bytes) :
    (message service raw payload).IsTurn :=
  .inl ⟨service, raw, payload, rfl⟩

theorem Event.isTurn_of_ending? {event : Event} {ended : DeviceId × Except HardwareError Value}
    (h : event.ending? = some ended) : event.IsTurn :=
  .inr (by rw [h]; rfl)

theorem not_isTurn_of_mem_exchanges {history : History} {event : Event}
    (unended : ∀ exchange ∈ history, (Event.exchange exchange).ending? = none)
    (hmem : event ∈ exchanges history) : ¬ event.IsTurn := by
  rintro (⟨service, raw, payload, rfl⟩ | hends)
  · exact not_message_mem_exchanges hmem
  · obtain ⟨exchange, hexchange, rfl⟩ := List.mem_map.1 hmem
    simp [unended exchange hexchange] at hends

theorem Errand.Awaits.unique {errand other : Errand} {past : List Event}
    {ended? otherEnded? : Option (DeviceId × Except HardwareError Value)}
    (h : errand.Awaits past ended?) (hother : other.Awaits past otherEnded?) :
    other = errand ∧ otherEnded? = ended? := by
  have quiet {history : History}
      (unended : ∀ exchange ∈ history, (Event.exchange exchange).ending? = none) :
      ∀ event ∈ exchanges history, ¬ event.IsTurn :=
    fun _ => not_isTurn_of_mem_exchanges unended
  cases h with
  | atOnce latest unended =>
    obtain ⟨earlier, rfl⟩ := latest
    generalize hpast : earlier ++ errand.events = past at hother
    cases hother with
    | atOnce latest => exact ⟨latest.unique ⟨earlier, hpast.symm⟩, rfl⟩
    | ended _ ends unendedOther =>
      obtain ⟨-, rfl, -⟩ := eq_of_append_cons_eq hpast (Event.isTurn_message _ _ _)
        (Event.isTurn_of_ending? ends) (quiet unended) (quiet unendedOther)
      simp [Event.ending?] at ends
  | @ended earlier ending since device result holds ends unended =>
    generalize hpast : earlier ++ ending :: exchanges since = past at hother
    cases hother with
    | atOnce latest unendedOther =>
      obtain ⟨before, hbefore⟩ := latest
      obtain ⟨-, rfl, -⟩ := eq_of_append_cons_eq (hpast.trans hbefore)
        (Event.isTurn_of_ending? ends) (Event.isTurn_message _ _ _) (quiet unended)
        (quiet unendedOther)
      simp [Event.ending?] at ends
    | ended holdsOther endsOther unendedOther =>
      obtain ⟨rfl, rfl, -⟩ := eq_of_append_cons_eq hpast (Event.isTurn_of_ending? ends)
        (Event.isTurn_of_ending? endsOther) (quiet unended) (quiet unendedOther)
      obtain ⟨rfl, rfl⟩ := Prod.mk.inj (Option.some.inj (endsOther.symm.trans ends))
      exact ⟨holdsOther.unique holds, rfl⟩

theorem Event.ending?_of_isConsultation {made : Exchange} (h : made.query.isConsultation) :
    (exchange made).ending? = none := by
  rw [ending?, touch?_eq_none_of_isConsultation h]
  rfl

theorem Event.ending?_of_ends {owner : SlotOwner} {device : DeviceId} {made : Exchange}
    (h : made.query.Ends owner device) : (exchange made).ending? = none := by
  obtain ⟨query, answer⟩ := made
  cases query <;> simp_all [Query.Ends, ending?, Exchange.touch?]

/-! ### When a request ends -/

theorem Topology.Means.exists_name {topology : Topology} {heard : History} {index : UInt32}
    {device : DeviceId} (h : topology.Means heard index device) :
    ∃ name, topology.deviceName? device = some name := by
  obtain ⟨_, _, names⟩ := h
  exact ⟨_, List.getElem?_eq_getElem names.index_lt⟩

theorem Request.Passes.success {topology : Topology} {request : Request} {clock : ResolvedClock}
    {heard reviews : History} {work : Work} {value : Value} (h : request.Passes clock reviews work)
    (means : topology.Means heard clock.index clock.record.device) (fits : value.fits work.kind)
    (service : ServiceId) :
    request.Success topology heard (some (clock.record.device, .ok value)) 0
      (topology.endFrame clock.record.device (clock.claim service work) (.ok value)).layout := by
  dsimp only [Topology.endFrame, ResolvedClock.claim]
  rw [if_pos fits]
  cases h with
  | clockAttributes =>
    cases value with
    | state state =>
      obtain ⟨name, named⟩ := means.exists_name
      have hname := Frame.nameField_eq (topology.names_fit name (List.mem_of_getElem? named))
      rw [named, Option.getD_some, Frame.layout, hname]
      exact .clockAttributes means named
    | rate | applied => exact absurd fits Bool.false_ne_true
  | rateGet =>
    cases value with
    | rate rate => exact .rateGet means
    | state | applied => exact absurd fits Bool.false_ne_true
  | rateSet =>
    cases value with
    | applied => exact .rateSet means
    | state | rate => exact absurd fits Bool.false_ne_true
  | configSet =>
    cases value with
    | applied => exact .configSet means
    | state | rate => exact absurd fits Bool.false_ne_true

/-- What the owner of a slot is told when a request ends is an answer to the message that the slot
was filled for. -/
theorem Errand.Fills.answers {topology : Topology} {errand : Errand} {device : DeviceId}
    {slot : Slot} (h : errand.Fills topology device slot) (result : Except HardwareError Value) :
    topology.Answers errand.service errand.raw errand.payload errand.heard (some (device, result))
      (.bytes (topology.endFrame device slot result).bytes) := by
  obtain ⟨clock, work, assessed, rfl, rfl⟩ := h
  obtain ⟨request, permission, owner, reviews, decoded, -, hclock, passes, hheard⟩ :=
    Topology.takes_assess_accept assessed
  obtain ⟨-, rfl, names⟩ := Topology.resolveClock_eq_ok hclock
  have means : topology.Means errand.heard clock.index clock.record.device := by
    refine ⟨clock.agent, ?_, names⟩
    rw [hheard]
    exact owner?_of_owners_eq_nil passes.owners_eq_nil permission errand.service (.ok clock.agent)
  cases result with
  | error error =>
    refine .refused ⟨.ofHardware error, ?_, rfl⟩
    cases error <;> nofun
  | ok value =>
    by_cases fits : value.fits work.kind
    · rw [Frame.bytes_eq_layout]
      exact .told decoded (passes.success means fits errand.service)
    · refine .refused ⟨.genericError, nofun, ?_⟩
      dsimp only [Topology.endFrame, ResolvedClock.claim]
      rw [if_neg fits]

/-! ### What is sent -/

/-- With a transport that stages, what is sent for an answer is a refusal or a success. -/
theorem Topology.Answers.text_eq {topology : Topology} {errand : Errand} {reply : Reply}
    {ended? : Option (DeviceId × Except HardwareError Value)} {events past later : List Event}
    {staging : ServiceId → List Event → Staging}
    (h : topology.Answers errand.service errand.raw errand.payload errand.heard ended? reply)
    (stages : Stages staging events) (awaits : errand.Awaits past ended?)
    (split : events = past ++ later) :
    (∃ status : Status, status ≠ .success ∧
        reply.text (staging errand.service past) = Word.toBytes status.toWord) ∨
      ∃ request entries, Request.decodeRaw errand.raw errand.payload = .ok request ∧
        request.Success topology errand.heard ended? entries
          (reply.text (staging errand.service past)) := by
  cases h with
  | refused refusal =>
    obtain ⟨status, hne, rfl⟩ := refusal
    exact .inl ⟨status, hne, Frame.bytes_eq_layout (.status status)⟩
  | told decoded success => exact .inr ⟨_, 0, decoded, success⟩
  | @described index start permission rest _ decoded heard_eq describes =>
    obtain ⟨earlier, rfl⟩ : ∃ earlier, past = earlier ++ exchanges rest := by
      cases awaits with
      | atOnce latest =>
        obtain ⟨earlier, rfl⟩ := latest
        refine ⟨earlier ++ .message errand.service errand.raw errand.payload ::
          exchanges permission, ?_⟩
        simp [Errand.events, heard_eq]
    obtain ⟨entries, success⟩ := describes.success stages split permission
    rw [← heard_eq] at success
    exact .inr ⟨_, entries, decoded, success⟩

/-! ### In a run -/

namespace Platform

variable {topology : Topology} {before after platform : Platform} {past more : List Event}
  {moves : List Move} {history : History}

/-- If the event gives a reply, then this answers the one message that is answered next, on the
channel that the message came on. -/
def Corresponds (topology : Topology) (past : List Event) (event : Event) : Prop :=
  ∀ service reply sent, event = .exchange ⟨.respond service reply, sent⟩ →
    ∃ (errand : Errand) (ended? : Option (DeviceId × Except HardwareError Value)),
      errand.Awaits past ended? ∧ errand.service = service ∧
        topology.Answers errand.service errand.raw errand.payload errand.heard ended? reply

theorem corresponds_of_reply?_eq_none {exchange : Exchange} (h : exchange.reply? = none) :
    Corresponds topology past (.exchange exchange) := by
  rintro service reply sent ⟨⟩
  exact absurd h nofun

section Assessment

variable {service : ServiceId} {raw : UInt32} {payload : Bytes} {consulted : History}
  {admission : Admission}

theorem corresponds_of_takes_assess
    (assessed : (topology.assess service raw payload).Takes consulted admission) :
    Throughout (Corresponds topology) past
      (.message service raw payload :: exchanges consulted) := by
  refine ⟨by rintro _ _ _ ⟨⟩, ?_⟩
  rw [← Throughout, throughout_iff]
  rintro earlier _ later split channel reply sent rfl
  have hmem : ⟨.respond channel reply, sent⟩ ∈ consulted :=
    exchange_mem_exchanges.1 (by simp [split])
  exact absurd (Topology.consultation_of_takes_assess assessed _ hmem) Bool.false_ne_true

theorem corresponds_at_once {reply : Reply} {sent : Except TransportError Unit}
    (assessed : (topology.assess service raw payload).Takes consulted admission)
    (answers : topology.Answers service raw payload consulted none reply) :
    Corresponds topology (past ++ .message service raw payload :: exchanges consulted)
      (.exchange ⟨.respond service reply, sent⟩) := by
  have unended : ∀ exchange ∈ consulted, (Event.exchange exchange).ending? = none :=
    fun exchange hmem => Event.ending?_of_isConsultation
      (Topology.consultation_of_takes_assess assessed exchange hmem)
  rintro _ _ _ ⟨⟩
  exact ⟨⟨service, raw, payload, consulted⟩, none,
    .atOnce (Errand.isLatest_append service raw payload consulted past) unended, rfl, answers⟩

end Assessment

theorem corresponds_of_takes_finish {tracker left : Tracker} {device : DeviceId} {slot : Slot}
    {result : Except HardwareError Value} {sent : Except TransportError Unit} {ending : Event}
    (h : before.Charged past) (busy : before.tracker.slot? device = some slot)
    (ends : ending.ending? = some (device, result))
    (finished : (before.topology.finish tracker device slot result).Takes history (sent, left)) :
    Throughout (Corresponds before.topology) (past ++ [ending]) (exchanges history) := by
  obtain ⟨errand, holds, fills⟩ := h device slot busy
  rw [throughout_iff]
  rintro earlier _ later split channel reply answer rfl
  obtain ⟨since, tail, rfl, rfl⟩ := exists_of_exchanges_eq split
  have hreply : (channel, reply) ∈ replies (since ++ ⟨.respond channel reply, answer⟩ :: tail) :=
    List.mem_filterMap.2 ⟨_, List.mem_append_right since List.mem_cons_self, rfl⟩
  rw [Topology.replies_of_takes_finish finished, List.mem_singleton] at hreply
  obtain ⟨rfl, rfl⟩ := Prod.mk.inj hreply
  have unended : ∀ exchange ∈ since, (Event.exchange exchange).ending? = none :=
    fun exchange hmem => Event.ending?_of_ends
      (Topology.ends_of_takes_finish finished exchange (List.mem_append_left _ hmem))
  refine ⟨errand, some (device, result), ?_, fills.service_eq, fills.answers result⟩
  rw [List.append_assoc]
  exact .ended holds ends unended

theorem Step.corresponds (step : before.Step more after) (h : before.Charged past) :
    Throughout (Corresponds before.topology) past more := by
  cases step with
  | answered assessed =>
    rw [exchanges_append, ← List.cons_append, throughout_append]
    exact ⟨corresponds_of_takes_assess assessed,
      corresponds_at_once assessed (Topology.takes_assess_answer assessed), trivial⟩
  | contended assessed =>
    rw [exchanges_append, ← List.cons_append, throughout_append]
    exact ⟨corresponds_of_takes_assess assessed,
      corresponds_at_once assessed (.refused ⟨.busy, nofun, rfl⟩), trivial⟩
  | claimed assessed =>
    rw [exchanges_append, ← List.cons_append, throughout_append]
    exact ⟨corresponds_of_takes_assess assessed, corresponds_of_reply?_eq_none rfl, trivial⟩
  | deferred queued busy touched =>
    have hcall := Exchange.reply?_eq_none_of_touch? touched
    exact ⟨corresponds_of_reply?_eq_none hcall, corresponds_of_reply?_eq_none rfl, trivial⟩
  | settled queued busy touched finished =>
    have hcall := Exchange.reply?_eq_none_of_touch? touched
    refine ⟨corresponds_of_reply?_eq_none hcall, corresponds_of_takes_finish h busy ?_ finished⟩
    rw [Event.ending?, touched]
    rfl
  | completed awaited finished =>
    exact ⟨nofun, corresponds_of_takes_finish h (awaited?_eq_some_iff.1 awaited).1 rfl finished⟩
  | unsolicited => exact ⟨corresponds_of_reply?_eq_none rfl, trivial⟩

theorem Reaches.corresponds (reached : before.Reaches more after) (h : before.Charged past) :
    Throughout (Corresponds before.topology) past more := by
  induction reached with
  | refl => exact trivial
  | tail reached step ih =>
    have hstep := step.corresponds (reached.charged h)
    rw [reached.topology_eq] at hstep
    exact throughout_append.2 ⟨ih, hstep⟩

/-- With a transport that stages: in every run, a reply answers one message, which has just been
assessed or whose request has just ended, on the channel that it came on. What is sent is the word
of a status other than success; or it starts with the word for success and is laid out as the
request asks, and then a result with which the request has ended is a value of the shape that the
request waits for. -/
theorem Runs.replies_as_asked {staging : ServiceId → List Event → Staging} {later : List Event}
    {service : ServiceId} {reply : Reply} {sent : Except TransportError Unit}
    (run : (start topology).Runs moves platform)
    (stages : Stages staging (ClockManager.events moves))
    (split : ClockManager.events moves =
      past ++ .exchange ⟨.respond service reply, sent⟩ :: later) :
    ∃ (errand : Errand) (ended? : Option (DeviceId × Except HardwareError Value)),
      errand.Awaits past ended? ∧
      (∀ other otherEnded?, Errand.Awaits other past otherEnded? →
        other = errand ∧ otherEnded? = ended?) ∧
      errand.service = service ∧
      ((∃ status : Status, status ≠ .success ∧
          reply.text (staging service past) = Word.toBytes status.toWord) ∨
        ∃ request entries, Request.decodeRaw errand.raw errand.payload = .ok request ∧
          request.Success topology errand.heard ended? entries (reply.text (staging service past)) ∧
          Word.toBytes Status.success.toWord <+: reply.text (staging service past) ∧
          (reply.text (staging service past)).length = request.successSize entries ∧
          ∀ device result, ended? = some (device, result) →
            ∃ kind value, request.kind? = some kind ∧ result = .ok value ∧ value.fits kind) := by
  have hstart := consistent_start topology
  have hcorresponds := (run.reaches hstart).corresponds (charged_start topology [])
  obtain ⟨errand, ended?, awaits, rfl, answers⟩ :=
    throughout_iff.1 hcorresponds past _ later split service reply sent rfl
  refine ⟨errand, ended?, awaits, fun other otherEnded? hother => awaits.unique hother, rfl, ?_⟩
  rcases answers.text_eq stages awaits split with refused | ⟨request, entries, decoded, success⟩
  · exact .inl refused
  · refine .inr ⟨request, entries, decoded, success, success.starts, success.length_eq, ?_⟩
    rintro device result rfl
    exact success.exists_fits

open Bench in
/-- The GPU is asked for its rates, and then for its state, which takes a while. Both requests
succeed. -/
theorem replies_as_asked_sample :
    let events := ClockManager.events (sampleSession.moves describingSteps)
    let heard (count : Nat) (request : Request) : History :=
      ((sampleSession.after (describingSteps.take count)).move
        (.receive ⟨11⟩ request.message.raw request.payload)).history.dropLast
    (∃ entries, (Request.describeRates 0 0).Success sampleTopology
        (heard 1 (.describeRates 0 0)) none entries
          ((staged ⟨11⟩ (events.take 10)).take 24)) ∧
      ∃ entries, (Request.clockAttributes 0).Success sampleTopology
        (heard 2 (.clockAttributes 0)) (some (⟨1⟩, .ok (.state .running))) entries
          (Frame.clockAttributes .running "GPU").bytes := by
  intro events heard
  have run := sampleSession.runs_moves describingSteps
  have stages := stages_staged events
  have hpage : events = events.take 10 ++
      .exchange ⟨.respond ⟨11⟩ (.staged 24), .ok ()⟩ :: events.drop 11 := rfl
  have hstate : events = events.take 20 ++ .exchange ⟨.respond ⟨11⟩
      (.bytes (Frame.clockAttributes .running "GPU").bytes), .ok ()⟩ :: events.drop 21 := rfl
  constructor
  · obtain ⟨errand, ended?, -, hunique, -, hreply⟩ := run.replies_as_asked stages hpage
    obtain ⟨rfl, rfl⟩ := hunique
      ⟨⟨11⟩, 4, (Request.describeRates 0 0).payload, heard 1 (.describeRates 0 0)⟩ none
      (.atOnce ⟨[], rfl⟩ (by dsimp only [heard]; decide))
    rcases hreply with ⟨status, -, htext⟩ | ⟨request, entries, decoded, success, -⟩
    · have hlength : 24 = (Word.toBytes status.toWord).length := congrArg List.length htext
      simp [Word.size] at hlength
    · cases decoded
      exact ⟨entries, success⟩
  · obtain ⟨errand, ended?, -, hunique, -, hreply⟩ := run.replies_as_asked stages hstate
    have holds : Errand.Holds
        ⟨⟨11⟩, 3, (Request.clockAttributes 0).payload, heard 2 (.clockAttributes 0)⟩ ⟨1⟩
        (events.take 18) :=
      ⟨events.take 15, _, (events.take 18).drop 16, rfl, ⟨events.take 11, rfl⟩, rfl,
        by dsimp only [events]; decide⟩
    have hpast : events.take 20 = events.take 18 ++
        .completion ⟨⟨1⟩, .ok (.state .running)⟩ :: exchanges [⟨.log (.released ⟨1⟩), ()⟩] := rfl
    rw [hpast] at hunique hreply
    obtain ⟨rfl, rfl⟩ := hunique _ _ (.ended holds rfl (by decide))
    rcases hreply with ⟨status, -, htext⟩ | ⟨request, entries, decoded, success, -⟩
    · have hlength : 24 = (Word.toBytes status.toWord).length := congrArg List.length htext
      simp [Word.size] at hlength
    · cases decoded
      exact ⟨entries, success⟩

end Platform
end ClockManager
