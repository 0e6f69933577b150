import ClockManager.Proofs.Frame
import ClockManager.Proofs.Page
/-!
# What a reply says

A reply is the word of one status, or it starts with the word for success and goes on as the request
asks. `Request.Success` states what follows that word for each kind of request; while a message is
assessed, `takes_assess_answer` shows that nothing else is answered.
-/

namespace ClockManager

/-- What is sent for a reply while this is staged. -/
def Reply.text (staging : Staging) : Reply → Bytes
  | bytes payload => payload
  | staged length => staging.take length

/-- The reply is a status other than success, and nothing else. -/
def Reply.IsRefusal (reply : Reply) : Prop :=
  ∃ status, status ≠ .success ∧ reply = .bytes (Frame.status status).bytes

/-- The sender, by what the transport has said last, means the device by a clock number. -/
def Topology.Means (topology : Topology) (heard : History) (index : UInt32) (device : DeviceId) :
    Prop :=
  ∃ agent, owner? heard = some (.ok agent) ∧ topology.Names agent index device

namespace Request

/-- Bytes of a reply that reports success, given how many entries the page has that it asks for. -/
def successSize (entries : Nat) : Request → Nat
  | protocolVersion => 8
  | protocolAttributes => 8
  | protocolMessageAttributes _ => 8
  | clockAttributes _ => 24
  | describeRates _ _ => 8 + 8 * entries
  | rateSet _ _ _ => 4
  | rateGet _ => 12
  | configSet _ _ => 4

/-- The bytes that report success, given what was heard about the message. A request that was not
answered at once has ended on a device with a result; a page has so many entries. -/
inductive Success (topology : Topology) (heard : History) :
    Request → Option (DeviceId × Except HardwareError Value) → Nat → Bytes → Prop where
  | protocolVersion : Success topology heard protocolVersion none 0
      (Word.toBytes Status.success.toWord ++ Word.toBytes ClockManager.protocolVersion)
  | protocolAttributes (word : UInt32) : Success topology heard protocolAttributes none 0
      (Word.toBytes Status.success.toWord ++ Word.toBytes word)
  | protocolMessageAttributes (message word : UInt32) :
      Success topology heard (protocolMessageAttributes message) none 0
        (Word.toBytes Status.success.toWord ++ Word.toBytes word)
  | describeRates {index start : UInt32} {device : DeviceId} {range : RateRange}
      {reads : History} {maxPayload : Nat} {page : RatePage}
      (means : topology.Means heard index device)
      (reported : ∃ front back, heard = front ++ ⟨.rateRange device, .ok range⟩ :: (reads ++ back))
      (described : (RatePage.describe range start (RatePage.capacity maxPayload)
        fun index => Dialogue.call (.rateAt device index)).Takes reads (.ok page)) :
      Success topology heard (describeRates index start) none page.rates.length
        (page.header ++ page.entries)
  | rateSatisfied {flags index : UInt32} {rate : UInt64} :
      Success topology heard (rateSet flags index rate) none 0
        (Word.toBytes Status.success.toWord)
  | stateSatisfied {index attributes : UInt32} :
      Success topology heard (configSet index attributes) none 0
        (Word.toBytes Status.success.toWord)
  | clockAttributes {index : UInt32} {device : DeviceId} {name : String} {state : ClockState}
      (means : topology.Means heard index device)
      (named : topology.deviceName? device = some name) :
      Success topology heard (clockAttributes index) (some (device, .ok (.state state))) 0
        (Word.toBytes Status.success.toWord ++ Word.toBytes (if state = .running then 1 else 0) ++
          (name.toUTF8.data.toList ++ List.replicate (nameSize - name.utf8ByteSize) 0))
  | rateGet {index : UInt32} {device : DeviceId} {rate : UInt64}
      (means : topology.Means heard index device) :
      Success topology heard (rateGet index) (some (device, .ok (.rate rate))) 0
        (Word.toBytes Status.success.toWord ++ (Word.toBytes (Word.split rate).1 ++
          Word.toBytes (Word.split rate).2))
  | rateSet {flags index : UInt32} {rate : UInt64} {device : DeviceId}
      (means : topology.Means heard index device) :
      Success topology heard (rateSet flags index rate) (some (device, .ok .applied)) 0
        (Word.toBytes Status.success.toWord)
  | configSet {index attributes : UInt32} {device : DeviceId}
      (means : topology.Means heard index device) :
      Success topology heard (configSet index attributes) (some (device, .ok .applied)) 0
        (Word.toBytes Status.success.toWord)

variable {topology : Topology} {heard : History} {request : Request}
  {ended? : Option (DeviceId × Except HardwareError Value)} {entries : Nat} {text : Bytes}

theorem Success.length_eq (h : request.Success topology heard ended? entries text) :
    text.length = request.successSize entries := by
  cases h with
  | describeRates =>
    rw [List.length_append, RatePage.length_header, RatePage.length_entries, RatePage.entriesSize,
      Nat.mul_comm]
    rfl
  | @clockAttributes _ _ name _ _ named =>
    have hfits := topology.names_fit name (List.mem_of_getElem? named)
    have hname : name.toUTF8.data.toList.length = name.utf8ByteSize := rfl
    rw [List.length_append, List.length_append, List.length_append, List.length_replicate, hname,
      Word.length_toBytes, Word.length_toBytes, Nat.add_sub_of_le (Nat.le_of_lt hfits)]
    rfl
  | _ => rfl

theorem Success.starts (h : request.Success topology heard ended? entries text) :
    Word.toBytes Status.success.toWord <+: text := by
  cases h with
  | protocolVersion | protocolAttributes | protocolMessageAttributes | rateGet =>
    exact List.prefix_append _ _
  | describeRates => exact (List.prefix_append _ _).trans (List.prefix_append _ _)
  | clockAttributes => exact (List.prefix_append _ _).trans (List.prefix_append _ _)
  | _ => exact List.prefix_refl _

/-- What a request waits for once it has been accepted. -/
def kind? : Request → Option RequestKind
  | clockAttributes _ => some .getState
  | rateSet _ _ _ => some .setRate
  | rateGet _ => some .getRate
  | configSet _ _ => some .setState
  | _ => none

/-- Success is reported of a result only if that is a value, of the shape that was waited for. -/
theorem Success.exists_fits {device : DeviceId} {result : Except HardwareError Value}
    (h : request.Success topology heard (some (device, result)) entries text) :
    ∃ kind value, request.kind? = some kind ∧ result = .ok value ∧ value.fits kind := by
  cases h <;> exact ⟨_, _, rfl, rfl, rfl⟩

end Request

/-! ### Answers given at once -/

open Dialogue (yields_pure yields_call_bind)

/-- If the message is answered at once, then with a refusal, or with success as its request asks. -/
def Admission.Suits (topology : Topology) (request : Request) (admission : Admission) : Prop :=
  ∀ reply, admission = .answer reply → reply.IsRefusal ∨
    ∃ payload, reply = .bytes payload ∧ ∀ heard, request.Success topology heard none 0 payload

theorem Admission.isRefusal_status {status : Status} {reply : Reply}
    (h : Admission.status status = .answer reply) (hne : status ≠ .success) : reply.IsRefusal :=
  ⟨status, hne, (Admission.answer.inj h).symm⟩

namespace Topology

variable {topology : Topology} {service : ServiceId} {request : Request}

theorem suits_status {status : Status} (h : status ≠ .success) :
    (Admission.status status).Suits topology request :=
  fun _ hreply => .inl (Admission.isRefusal_status hreply h)

theorem suits_accept {clock : ResolvedClock} {work : Work} :
    (Admission.accept clock work).Suits topology request := nofun

theorem suits_frame {frame : Frame}
    (h : ∀ heard, request.Success topology heard none 0 frame.layout) :
    (Admission.frame frame).Suits topology request := by
  rintro reply ⟨⟩
  rw [Frame.bytes_eq_layout]
  exact .inr ⟨_, rfl, h⟩

theorem yields_assessRead {index : UInt32} {work : Work} :
    (topology.assessRead service index work).Yields (·.Suits topology request) := by
  refine yields_call_bind fun owner => ?_
  split
  · exact yields_pure suits_accept
  · exact yields_call_bind fun _ => yields_pure (suits_status nofun)

theorem yields_assessRateSet {flags index : UInt32} {rate : UInt64} :
    (topology.assessRateSet service flags index rate).Yields
      (·.Suits topology (.rateSet flags index rate)) := by
  unfold assessRateSet
  split
  · exact yields_pure (suits_status nofun)
  refine yields_call_bind fun owner => ?_
  split
  · exact yields_pure (suits_status nofun)
  split
  · exact yields_pure (suits_status nofun)
  refine yields_call_bind fun review => ?_
  split
  · exact yields_pure suits_accept
  · exact yields_pure (suits_frame fun _ => .rateSatisfied)
  · exact yields_call_bind fun _ => yields_pure (suits_status nofun)

theorem yields_assessConfigSet {index attributes : UInt32} :
    (topology.assessConfigSet service index attributes).Yields
      (·.Suits topology (.configSet index attributes)) := by
  unfold assessConfigSet
  split
  · exact yields_pure (suits_status nofun)
  refine yields_call_bind fun owner => ?_
  split
  · exact yields_pure (suits_status nofun)
  refine yields_call_bind fun review => ?_
  split
  · exact yields_pure suits_accept
  · exact yields_pure (suits_frame fun _ => .stateSatisfied)
  · exact yields_call_bind fun _ => yields_pure (suits_status nofun)

theorem yields_assessProtocolAttributes :
    (topology.assessProtocolAttributes service).Yields
      (·.Suits topology .protocolAttributes) := by
  refine yields_call_bind fun owner => ?_
  split
  · exact yields_pure (suits_frame fun _ => .protocolAttributes _)
  · exact yields_call_bind fun _ => yields_pure (suits_status nofun)

theorem suits_protocolVersion :
    (Admission.frame .protocolVersion).Suits topology .protocolVersion :=
  suits_frame fun _ => .protocolVersion

theorem suits_messageAttributes {message : UInt32} :
    (Admission.messageAttributes message).Suits topology (.protocolMessageAttributes message) := by
  unfold Admission.messageAttributes
  split
  · exact suits_frame fun _ => .protocolMessageAttributes _ _
  · exact suits_status nofun

end Topology

/-! ### Pages -/

namespace Topology

/-- How a page is told: the hardware is asked for the range of the device that the sender means, and
for the rates of the page; then the entries are staged and the header in front of them. -/
inductive Describes (topology : Topology) (service : ServiceId) (index start : UInt32) :
    History → Reply → Prop where
  | staged {agent : AgentId} {device : DeviceId} {maxPayload : Nat} {range : RateRange}
      {reads : History} {page : RatePage} (names : topology.Names agent index device)
      (described : (RatePage.describe range start (RatePage.capacity maxPayload)
        fun index => Dialogue.call (.rateAt device index)).Takes reads (.ok page)) :
      Describes topology service index start
        (⟨.agentOf service, .ok agent⟩ :: ⟨.maxPayload service, .ok maxPayload⟩ ::
          ⟨.rateRange device, .ok range⟩ :: (reads ++ page.writes service))
        (.staged (RatePage.headerSize + page.entriesSize))

variable {topology : Topology} {service : ServiceId} {history heard : History} {reply : Reply}

theorem takes_assessDescribeRates_answer {index start : UInt32}
    (takes : (topology.assessDescribeRates service index start).Takes history (.answer reply)) :
    reply.IsRefusal ∨ topology.Describes service index start history reply := by
  generalize hadmission : Admission.answer reply = admission at takes
  cases takes_assessDescribeRates takes with
  | refused unstaged failed => exact .inl (Admission.isRefusal_status hadmission.symm failed)
  | described names described written =>
    cases written with
    | entriesFailed => exact .inl (Admission.isRefusal_status hadmission.symm nofun)
    | headerFailed => exact .inl (Admission.isRefusal_status hadmission.symm nofun)
    | complete =>
      cases hadmission
      exact .inr (.staged names described)

/-- What a message may be answered when this has been heard about it and its request has ended so: a
refusal, or success as the request asks, by bytes of its own or by a page that has been staged. -/
inductive Answers (topology : Topology) (service : ServiceId) (raw : UInt32) (payload : Bytes)
    (heard : History) : Option (DeviceId × Except HardwareError Value) → Reply → Prop where
  | refused {ended? : Option (DeviceId × Except HardwareError Value)} {reply : Reply}
      (refusal : reply.IsRefusal) : Answers topology service raw payload heard ended? reply
  | told {ended? : Option (DeviceId × Except HardwareError Value)} {request : Request}
      {text : Bytes} (decoded : Request.decodeRaw raw payload = .ok request)
      (success : request.Success topology heard ended? 0 text) :
      Answers topology service raw payload heard ended? (.bytes text)
  | described {index start : UInt32} {permission rest : History} {reply : Reply}
      (decoded : Request.decodeRaw raw payload = .ok (.describeRates index start))
      (heard_eq : heard = permission ++ rest)
      (describes : topology.Describes service index start rest reply) :
      Answers topology service raw payload heard none reply

theorem takes_assess_answer {raw : UInt32} {payload : Bytes}
    (takes : (topology.assess service raw payload).Takes heard (.answer reply)) :
    topology.Answers service raw payload heard none reply := by
  generalize hadmission : Admission.answer reply = admission at takes
  cases takes_assess takes with
  | @rejected error =>
    refine .refused (Admission.isRefusal_status hadmission.symm ?_)
    cases error <;> nofun
  | denied => exact .refused (Admission.isRefusal_status hadmission.symm nofun)
  | @permitted request permission rest _ decoded _ assessed =>
    subst hadmission
    have told (suits : (Admission.answer reply).Suits topology request) :
        topology.Answers service raw payload (permission ++ rest) none reply := by
      rcases suits reply rfl with refusal | ⟨text, rfl, success⟩
      · exact .refused refusal
      · exact .told decoded (success _)
    cases request with
    | describeRates index start =>
      rcases takes_assessDescribeRates_answer assessed with refusal | describes
      · exact .refused refusal
      · exact .described decoded rfl describes
    | protocolVersion => exact told (assessed.of_yields (yields_pure suits_protocolVersion))
    | protocolAttributes => exact told (assessed.of_yields yields_assessProtocolAttributes)
    | protocolMessageAttributes message =>
      exact told (assessed.of_yields (yields_pure suits_messageAttributes))
    | clockAttributes index => exact told (assessed.of_yields yields_assessRead)
    | rateSet => exact told (assessed.of_yields yields_assessRateSet)
    | rateGet index => exact told (assessed.of_yields yields_assessRead)
    | configSet => exact told (assessed.of_yields yields_assessConfigSet)

/-- With a transport that stages, the page is sent that the hardware has described. -/
theorem Describes.success {staging : ServiceId → List Event → Staging}
    {events past later : List Event} {index start : UInt32} {rest : History}
    (h : topology.Describes service index start rest reply) (stages : Stages staging events)
    (split : events = past ++ exchanges rest ++ later) (permission : History) :
    ∃ entries, (Request.describeRates index start).Success topology (permission ++ rest) none
      entries (reply.text (staging service (past ++ exchanges rest))) := by
  obtain ⟨names, described⟩ := h
  rename_i agent device maxPayload range reads page
  have hreads := RatePage.rateAt_of_takes_describe described
  have howners : owners reads = [] := by
    rw [owners, List.filterMap_eq_nil_iff]
    rintro ⟨query, answer⟩ hmem
    obtain ⟨index, rfl⟩ := hreads _ hmem
    rfl
  have means : topology.Means (permission ++ ⟨.agentOf service, .ok agent⟩ ::
      ⟨.maxPayload service, .ok maxPayload⟩ :: ⟨.rateRange device, .ok range⟩ ::
        (reads ++ page.writes service)) index device := by
    refine ⟨agent, owner?_of_owners_eq_nil ?_ permission service (.ok agent), names⟩
    change owners (reads ++ page.writes service) = []
    rw [owners_append, howners]
    rfl
  have hpage := stages.take_eq_of_described described split
  refine ⟨page.rates.length, ?_⟩
  rw [Reply.text, hpage]
  exact .describeRates means
    ⟨permission ++ [⟨.agentOf service, .ok agent⟩, ⟨.maxPayload service, .ok maxPayload⟩],
      page.writes service, by simp⟩ described

end Topology
end ClockManager
