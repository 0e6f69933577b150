import ClockManager.Proofs.Platform.Permission
import ClockManager.Proofs.Platform.Calls
/-!
# The checks of a message about a clock

A message that asks for work on a clock has to pass eight checks. `Petition.Passes` says what each of
them comes down to, without regard to the order in which anything is computed: in terms of the bytes
of the message, the topology, the slots, and what the collaborators have said. `Check.all` is the
order that decides which of several faults is reported. `Petition.decided_of_takes_assess` shows that
a message is assessed like this; the last check, whether the device is free, is left to the platform.
-/

namespace ClockManager

/-! ### Bits of a word -/

namespace Word

/-- Whether a bit of a word is set. -/
def bit (word : UInt32) (place : Nat) : Bool := word.toNat.testBit place

/-- A word has no bit outside a mask. -/
theorem and_not_eq_zero_iff {word mask : UInt32} :
    word &&& ~~~mask = 0 ↔ ∀ place, bit word place → bit mask place := by
  rw [← UInt32.toBitVec_inj, UInt32.toBitVec_and, UInt32.toBitVec_not,
    BitVec.eq_of_getLsbD_eq_iff]
  constructor
  · intro h place hset
    have hword : word.toBitVec.getLsbD place = true := hset
    have hlt : place < 32 := BitVec.lt_of_getLsbD hword
    show mask.toBitVec.getLsbD place = true
    simpa [hword, hlt] using h place hlt
  · intro h place hlt
    have hmask : word.toBitVec.getLsbD place = true → mask.toBitVec.getLsbD place = true := h place
    simpa [hlt] using hmask

theorem and_one_ne_zero (word : UInt32) : (word &&& 1 != 0) = bit word 0 := by
  have hzero : word &&& 1 = 0 ↔ bit word 0 = false := by
    rw [← UInt32.toNat_inj, UInt32.toNat_and, bit, Nat.testBit_zero]
    simp [Nat.and_one_is_mod]
  grind

end Word

/-- The places of the bits that a flag word may have. -/
def RateFlags.places : List Nat := [0, 2, 3]

/-- The place of the bit that an attribute word may have. -/
def ConfigAttributes.places : List Nat := [0]

theorem RateFlags.ofBits?_isSome_iff {bits : UInt32} :
    (ofBits? bits).isSome ↔ ∀ place, Word.bit bits place → place ∈ places := by
  have hmask (place : Nat) : Word.bit (asyncBit ||| roundUpBit ||| roundAutoBit) place ↔
      place ∈ places := by
    match place with
    | 0 | 1 | 2 | 3 => decide
    | place + 4 => simp [Word.bit, places, asyncBit, roundUpBit, roundAutoBit, Nat.testBit_succ]
  unfold ofBits?
  rw [Option.isSome_ite]
  simp only [Word.and_not_eq_zero_iff, hmask]

theorem RateFlags.async_eq {bits : UInt32} {flags : RateFlags} (h : ofBits? bits = some flags) :
    flags.async = Word.bit bits 0 := by
  unfold ofBits? at h
  split at h
  · obtain ⟨rfl⟩ := h
    exact Word.and_one_ne_zero bits
  · simp at h

theorem ConfigAttributes.ofBits?_isSome_iff {bits : UInt32} :
    (ofBits? bits).isSome ↔ ∀ place, Word.bit bits place → place ∈ places := by
  have hmask (place : Nat) : Word.bit enableBit place ↔ place ∈ places := by
    match place with
    | 0 => decide
    | place + 1 => simp [Word.bit, places, enableBit, Nat.testBit_succ]
  unfold ofBits?
  rw [Option.isSome_ite]
  simp only [Word.and_not_eq_zero_iff, hmask]

/-! ### The checks -/

inductive Check where
  | known
  | sized
  | permitted
  | plain
  | configured
  | prompt
  | approved
  | idle
  deriving DecidableEq

namespace Check

/-- The checks in the order in which a failing one decides. -/
def all : List Check := [known, sized, permitted, plain, configured, prompt, approved, idle]

/-- The checks that come before one. -/
def before (check : Check) : List Check := all.takeWhile (· ≠ check)

theorem mem_before_or_mem_before {check other : Check} (h : check ≠ other) :
    check ∈ other.before ∨ other ∈ check.before := by
  revert h
  cases check <;> cases other <;> decide

theorem mem_before_idle {check : Check} (h : check ≠ .idle) : check ∈ before .idle := by
  revert h
  cases check <;> decide

end Check

/-- The flag word of a request, and the places of the bits that it may have. -/
def Request.flags? : Request → Option (UInt32 × List Nat)
  | rateSet bits _ _ => some (bits, RateFlags.places)
  | configSet _ bits => some (bits, ConfigAttributes.places)
  | _ => none

/-- The messages that become work for the hardware if they are accepted. -/
def Message.queueable : List Message := [clockAttributes, rateSet, rateGet, configSet]

/-- The verdict of a review. -/
def Exchange.verdict? : Exchange → Option Verdict
  | ⟨.reviewRate _ _ _, review⟩ => some review.verdict
  | ⟨.reviewState _ _ _, review⟩ => some review.verdict
  | _ => none

/-- A message with all that its checks depend on: what is heard about it, the platform that it comes
to, and whom the transport takes the channels to belong to. -/
structure Petition extends Errand where
  platform : Platform
  agents : ServiceId → Except TransportError AgentId

namespace Petition

variable {p : Petition} {check later : Check} {request : Request} {index : UInt32}

def request? (p : Petition) : Option Request := (Request.decodeRaw p.raw p.payload).toOption

/-- The number by which the sender means the clock. -/
def index? (p : Petition) : Option UInt32 := p.request?.bind Request.clock?

/-- The clock that the message is about, if there is such a clock. -/
def context? (p : Petition) : Option PolicyContext :=
  p.index?.bind (p.platform.topology.context? (p.agents p.service))

def device? (p : Petition) : Option DeviceId := p.context?.map PolicyContext.device

/-- What the policy has to be asked about the message. -/
def review? (p : Petition) : Option Query :=
  match p.request? with
  | some (.rateSet bits _ rate) =>
    return .reviewRate (← p.context?) rate (← RateFlags.ofBits? bits).rounding
  | some (.configSet _ bits) =>
    return .reviewState .pre (← p.context?) (← ConfigAttributes.ofBits? bits)
  | _ => none

/-- What the policy has said. -/
def verdict? (p : Petition) : Option Verdict := p.heard.findSome? Exchange.verdict?

/-- What it takes to pass a check. -/
def Passes (p : Petition) : Check → Prop
  | .known => p.raw ≤ 7
  | .sized => ∀ message : Message, message.raw = p.raw → p.payload.length = message.payloadSize
  | .permitted =>
    ∃ agent index, p.agents p.service = .ok agent ∧ p.index? = some index ∧
      ⟨.allowsResource agent protocolId p.raw index, true⟩ ∈ p.heard
  | .plain =>
    ∀ bits places, p.request?.bind Request.flags? = some (bits, places) →
      ∀ place, Word.bit bits place → place ∈ places
  | .configured =>
    ∃ agent view index, p.agents p.service = .ok agent ∧
      p.platform.topology.agent? agent = some view ∧ p.index? = some index ∧
        index.toNat < view.clockCount
  | .prompt => ∀ bits index rate, p.request? = some (.rateSet bits index rate) → ¬ Word.bit bits 0
  | .approved => p.review?.isSome → p.verdict? = some (.ok .proceed)
  | .idle => ∀ device, p.device? = some device → p.platform.tracker.slot? device = none

/-- What a message is answered that fails a check. -/
def status (p : Petition) : Check → Status
  | .known => .notFound
  | .sized => .protocolError
  | .permitted => .denied
  | .plain => .invalidParameters
  | .configured => .notFound
  | .prompt => .notSupported
  | .approved =>
    match p.verdict? with
    | some (.ok .skip) => .success
    | _ => .genericError
  | .idle => .busy

/-- All checks before this one are passed. -/
def Reaches (p : Petition) (check : Check) : Prop := ∀ earlier ∈ check.before, p.Passes earlier

/-- Of the checks that are not passed, this one comes first. -/
def FirstFailing (p : Petition) (check : Check) : Prop := p.Reaches check ∧ ¬ p.Passes check

theorem Reaches.next (reaches : p.Reaches check) (follows : later.before = check.before ++ [check])
    (passes : p.Passes check) : p.Reaches later := by
  intro earlier hmem
  rw [follows] at hmem
  rcases List.mem_append.1 hmem with hmem | hmem
  · exact reaches earlier hmem
  · rwa [List.mem_singleton.1 hmem]

theorem FirstFailing.unique {other : Check} (h : p.FirstFailing check)
    (hother : p.FirstFailing other) : check = other := by
  by_contra hne
  rcases Check.mem_before_or_mem_before hne with hbefore | hbefore
  · exact h.2 (hother.1 check hbefore)
  · exact hother.2 (h.1 other hbefore)

/-! ### Checks of the message alone -/

theorem passes_known_and_sized_iff : p.Passes .known ∧ p.Passes .sized ↔
    ∃ request, Request.decodeRaw p.raw p.payload = .ok request :=
  Request.exists_decodeRaw_iff.symm

theorem firstFailing_of_rejected {error : DecodeError}
    (undecoded : Request.decodeRaw p.raw p.payload = .error error) :
    ∃ check ∈ Check.approved.before, p.FirstFailing check ∧ p.status check = error.status := by
  by_cases hknown : p.Passes .known
  · refine ⟨.sized, by decide, ⟨?_, fun hsized => ?_⟩, ?_⟩
    · intro earlier hmem
      rwa [List.mem_singleton.1 hmem]
    · obtain ⟨request, decoded⟩ := passes_known_and_sized_iff.1 ⟨hknown, hsized⟩
      simp [decoded] at undecoded
    · obtain ⟨message, hmessage⟩ := Option.isSome_iff_exists.1 (Message.ofRaw?_isSome_iff.2 hknown)
      have hlength : p.payload.length ≠ message.payloadSize := by
        intro hlength
        obtain ⟨request, rfl, hpayload⟩ := Request.exists_payload_eq hlength
        rw [← hpayload, ← Message.raw_of_ofRaw? hmessage, Request.decodeRaw_payload] at undecoded
        simp at undecoded
      rw [Request.decodeRaw, hmessage] at undecoded
      obtain ⟨rfl⟩ := (Request.decode_of_length_ne hlength).symm.trans undecoded
      rfl
  · have hreaches : p.Reaches .known := fun _ hmem => absurd hmem List.not_mem_nil
    refine ⟨.known, by decide, ⟨hreaches, hknown⟩, ?_⟩
    obtain ⟨rfl⟩ := (Request.decodeRaw_of_unknown hknown p.payload).symm.trans undecoded
    rfl

section Decoded

variable (decoded : Request.decodeRaw p.raw p.payload = .ok request)
include decoded

theorem request?_eq : p.request? = some request := by
  rw [request?, decoded]
  rfl

theorem index?_eq : p.index? = request.clock? := by
  rw [index?, request?_eq decoded]
  rfl

theorem reaches_permitted : p.Reaches .permitted := by
  obtain ⟨hknown, hsized⟩ := passes_known_and_sized_iff.2 ⟨request, decoded⟩
  have hbefore : Check.permitted.before = [.known, .sized] := rfl
  rw [Reaches, hbefore]
  simp [hknown, hsized]

theorem passes_plain_iff : p.Passes .plain ↔
    ∀ bits places, request.flags? = some (bits, places) →
      ∀ place, Word.bit bits place → place ∈ places := by
  rw [Passes, request?_eq decoded]
  rfl

theorem passes_prompt_iff : p.Passes .prompt ↔
    ∀ bits index rate, request = .rateSet bits index rate → ¬ Word.bit bits 0 := by
  simp [Passes, request?_eq decoded]

end Decoded

/-! ### Permission -/

section Permitted

variable {permission rest : History}
  (decoded : Request.decodeRaw p.raw p.payload = .ok request)
  (heard : p.heard = permission ++ rest)
include decoded heard

theorem reaches_plain (named : request.clock? = some index)
    (granted : (request.permitted p.service).Takes permission true)
    (steady : Steady p.agents (exchanges permission)) : p.Reaches .plain := by
  refine (reaches_permitted decoded).next rfl ?_
  obtain ⟨agent, hagent, hasked⟩ := Request.exists_asked granted steady
  rw [Request.asked, named] at hasked
  refine ⟨agent, index, hagent, by rw [index?_eq decoded, named], ?_⟩
  rw [heard, ← Request.message_raw_of_decodeRaw decoded]
  exact List.mem_append_left _ hasked

theorem firstFailing_permitted (refused : (request.permitted p.service).Takes permission false)
    (unasked : ∀ exchange ∈ rest, exchange.query.isPermission = false) :
    p.FirstFailing .permitted := by
  refine ⟨reaches_permitted decoded, ?_⟩
  rintro ⟨agent, found, -, -, hmem⟩
  rw [heard] at hmem
  rcases List.mem_append.1 hmem with hmem | hmem
  · rcases Request.takes_permitted refused with ⟨error, rfl, -⟩ | ⟨asked, rfl⟩
    · cases List.mem_singleton.1 hmem
    · rcases List.mem_cons.1 hmem with heq | hmem
      · cases heq
      · have hrefusal := request.isRefusal_asked asked false
        rw [← List.mem_singleton.1 hmem] at hrefusal
        simp [Exchange.isRefusal] at hrefusal
  · simpa [Query.isPermission] using unasked _ hmem

end Permitted

/-! ### The clock -/

section Clock

variable {clock : ResolvedClock} (named : p.index? = some index)
include named

theorem passes_configured_iff : p.Passes .configured ↔
    ∃ clock, p.platform.topology.resolveClock (p.agents p.service) index = .ok clock := by
  constructor
  · rintro ⟨agent, view, found, hagent, hview, hfound, hlt⟩
    cases named.symm.trans hfound
    have hrecord : view.clock? index = some view.clocks[index.toNat] :=
      List.getElem?_eq_getElem hlt
    exact ⟨⟨agent, index, view.clocks[index.toNat]⟩, by
      simp [Topology.resolveClock, Topology.resolveAgent, hagent, hview, hrecord]⟩
  · rintro ⟨clock, hclock⟩
    obtain ⟨rfl, hagent, view, record, hview, hrecord, -⟩ := Topology.resolveClock_eq_ok hclock
    exact ⟨clock.agent, view, clock.index, hagent, hview, named,
      (List.getElem?_eq_some_iff.1 hrecord).1⟩

theorem firstFailing_configured {error : LookupError} (reaches : p.Reaches .configured)
    (unresolved : p.platform.topology.resolveClock (p.agents p.service) index = .error error) :
    p.FirstFailing .configured := by
  refine ⟨reaches, fun passes => ?_⟩
  obtain ⟨clock, hclock⟩ := (passes_configured_iff named).1 passes
  simp [unresolved] at hclock

variable (resolved : p.platform.topology.resolveClock (p.agents p.service) index = .ok clock)
include resolved

theorem context?_eq : p.context? = some clock.context := by
  rw [context?, named]
  exact Topology.context?_of_ok resolved

theorem device?_eq : p.device? = some clock.record.device := by
  rw [device?, context?_eq named resolved]
  rfl

theorem reaches_prompt (reaches : p.Reaches .configured) : p.Reaches .prompt := by
  apply reaches.next rfl
  rw [passes_configured_iff named]
  exact ⟨clock, resolved⟩

end Clock

/-! ### The decision -/

/-- What the policy is asked about the message, and what becomes of it, as the checks demand. -/
inductive Decided (p : Petition) : List Query → Admission → Prop where
  | refused (check : Check) (early : check ∈ Check.approved.before)
      (failing : p.FirstFailing check) : Decided p [] (.status (p.status check))
  | disapproved (failing : p.FirstFailing .approved) :
      Decided p p.review?.toList (.status (p.status .approved))
  | passed {clock : ResolvedClock} {work : Work} (reaches : p.Reaches .idle)
      (stands : p.device? = some clock.record.device) :
      Decided p p.review?.toList (.accept clock work)

namespace Decided

variable {asked : List Query} {reply : Reply} {admission : Admission} {clock : ResolvedClock}
  {work : Work}

theorem exists_firstFailing (h : p.Decided asked (.answer reply)) :
    ∃ check, p.FirstFailing check ∧ reply = .bytes (Frame.status (p.status check)).bytes := by
  generalize hadmission : Admission.answer reply = admission at h
  cases h with
  | refused check early failing => exact ⟨check, failing, Admission.answer.inj hadmission⟩
  | disapproved failing => exact ⟨.approved, failing, Admission.answer.inj hadmission⟩
  | passed => cases hadmission

theorem reaches_idle (h : p.Decided asked (.accept clock work)) :
    p.Reaches .idle ∧ p.device? = some clock.record.device := by
  generalize hadmission : Admission.accept clock work = admission at h
  cases h with
  | refused => cases hadmission
  | disapproved => cases hadmission
  | passed reaches stands =>
    cases hadmission
    exact ⟨reaches, stands⟩

/-- The policy is asked exactly if all checks before its own are passed. -/
theorem asked_eq (h : p.Decided asked admission) :
    (p.Reaches .approved → asked = p.review?.toList) ∧ (¬ p.Reaches .approved → asked = []) := by
  cases h with
  | refused check early failing => exact ⟨fun reaches => absurd (reaches check early) failing.2,
      fun _ => rfl⟩
  | disapproved failing => exact ⟨fun _ => rfl, fun h => absurd failing.1 h⟩
  | passed reaches =>
    refine ⟨fun _ => rfl, fun h => absurd (fun check early => ?_) h⟩
    apply reaches
    revert early
    cases check <;> decide

end Decided

/-- What follows from a verdict of the policy, when the message is about this work. -/
inductive Follows (clock : ResolvedClock) (work : Work) : Verdict → History → Admission → Prop where
  | proceed : Follows clock work (.ok .proceed) [] (.accept clock work)
  | skip : Follows clock work (.ok .skip) [] (.status .success)
  | error {error : PolicyError} {notice : Notice} :
      Follows clock work (.error error) [⟨.log notice, ()⟩] (.status .genericError)

theorem Follows.reviews_eq_nil {clock : ResolvedClock} {work : Work} {verdict : Verdict}
    {notices : History} {admission : Admission} (h : Follows clock work verdict notices admission) :
    reviews notices = [] := by
  cases h <;> rfl

theorem follows_of_takes {clock : ResolvedClock} {work : Work} {verdict : Verdict}
    {notice : PolicyError → Notice} {notices : History} {admission : Admission}
    (takes : (match verdict with
      | .ok .proceed => return .accept clock work
      | .ok .skip => return .status .success
      | .error error => do
        Dialogue.log (notice error)
        return .status .genericError : Dialogue Admission).Takes notices admission) :
    Follows clock work verdict notices admission := by
  match verdict with
  | .ok .proceed =>
    obtain ⟨rfl, rfl⟩ := takes
    exact .proceed
  | .ok .skip =>
    obtain ⟨rfl, rfl⟩ := takes
    exact .skip
  | .error error =>
    obtain ⟨rest, rfl, rfl, rfl⟩ := Dialogue.takes_log_bind.1 takes
    exact .error

theorem isReview_of_verdict? {exchange : Exchange} {verdict : Verdict}
    (h : exchange.verdict? = some verdict) : exchange.isReview := by
  obtain ⟨query, answer⟩ := exchange
  cases query <;> simp_all [Exchange.verdict?, Exchange.isReview]

section Reviewed

variable {review : Exchange} {verdict : Verdict} {front notices back : History}
  {owner : Except TransportError AgentId}
  (heard : p.heard = front ++ (⟨.agentOf p.service, owner⟩ :: review :: notices ++ back))
  (silent : ∀ exchange ∈ front, exchange.verdict? = none)
  (said : review.verdict? = some verdict)
include heard silent said

theorem verdict?_eq : p.verdict? = some verdict := by
  have hfront : front.findSome? Exchange.verdict? = none := List.findSome?_eq_none_iff.2 silent
  have howner : Exchange.verdict? ⟨.agentOf p.service, owner⟩ = none := rfl
  rw [verdict?, heard, List.findSome?_append, hfront, List.cons_append, List.cons_append,
    List.findSome?_cons, howner, List.findSome?_cons, said]
  rfl

/-- Once everything else has been checked, the message is decided by what the policy says. -/
theorem decided_of_follows {clock : ResolvedClock} {work : Work} {admission : Admission}
    (reaches : p.Reaches .approved) (due : p.review? = some review.query)
    (stands : p.device? = some clock.record.device)
    (follows : Follows clock work verdict notices admission) :
    p.Decided ((reviews (⟨.agentOf p.service, owner⟩ :: review :: notices)).map Exchange.query)
      admission := by
  have hverdict := verdict?_eq heard silent said
  have hasked : (reviews (⟨.agentOf p.service, owner⟩ :: review :: notices)).map Exchange.query =
      p.review?.toList := by
    have howner : Exchange.isReview ⟨.agentOf p.service, owner⟩ = false := rfl
    have hnotices : notices.filter Exchange.isReview = [] := follows.reviews_eq_nil
    rw [reviews, List.filter_cons_of_neg (by simp [howner]),
      List.filter_cons_of_pos (isReview_of_verdict? said), hnotices, due]
    rfl
  have failing (ne : verdict ≠ .ok .proceed) : p.FirstFailing .approved := by
    refine ⟨reaches, fun passes => ne ?_⟩
    have hproceed := passes (by rw [due]; rfl)
    exact Option.some.inj (hverdict.symm.trans hproceed)
  rw [hasked]
  cases follows with
  | proceed => exact .passed (reaches.next rfl fun _ => hverdict) stands
  | skip =>
    have hdecided := Decided.disapproved (failing (by simp))
    rwa [status, hverdict] at hdecided
  | error =>
    have hdecided := Decided.disapproved (failing (by simp))
    rwa [status, hverdict] at hdecided

end Reviewed

section Assessed

variable {bits : UInt32} {rate : UInt64} {work : Work} {front rest back : History}
  {admission : Admission} (reaches : p.Reaches .plain) (steady : Steady p.agents (exchanges rest))
include reaches steady

theorem decided_of_takes_assessRead (decoded : Request.decodeRaw p.raw p.payload = .ok request)
    (named : request.clock? = some index) (flagless : request.flags? = none)
    (takes : (p.platform.topology.assessRead p.service index work).Takes rest admission) :
    p.Decided ((reviews rest).map Exchange.query) admission := by
  have hindex : p.index? = some index := (index?_eq decoded).trans named
  have notRateSet : ∀ bits index rate, request ≠ .rateSet bits index rate := by
    rintro bits index rate rfl
    simp [Request.flags?] at flagless
  have unreviewed : p.review? = none := by
    rw [review?, request?_eq decoded]
    cases request <;> first | rfl | simp [Request.flags?] at flagless
  have hplain : p.Passes .plain := by
    rw [passes_plain_iff decoded, flagless]
    nofun
  have hconfigured : p.Reaches .configured := reaches.next rfl hplain
  unfold Topology.assessRead at takes
  rw [Dialogue.takes_call_bind] at takes
  obtain ⟨owner, tail, rfl, takes⟩ := takes
  obtain rfl : owner = p.agents p.service :=
    steady_exchanges.1 steady p.service owner List.mem_cons_self
  split at takes
  · rename_i clock resolved
    obtain ⟨rfl, rfl⟩ := takes
    have hprompt : p.Passes .prompt := by
      rw [passes_prompt_iff decoded]
      exact fun bits index rate heq => absurd heq (notRateSet bits index rate)
    have happroved : p.Passes .approved := by
      rw [Passes, unreviewed]
      nofun
    have hreviewed : p.Reaches .approved :=
      (reaches_prompt hindex resolved hconfigured).next rfl hprompt
    have hdecided : p.Decided p.review?.toList (.accept clock work) :=
      .passed (hreviewed.next rfl happroved) (device?_eq hindex resolved)
    rwa [unreviewed] at hdecided
  · rename_i error unresolved
    obtain ⟨tail, rfl, rfl, rfl⟩ := Dialogue.takes_log_bind.1 takes
    exact .refused .configured (by decide) (firstFailing_configured hindex hconfigured unresolved)

variable (heard : p.heard = front ++ (rest ++ back))
  (silent : ∀ exchange ∈ front, exchange.verdict? = none)
include heard silent

theorem decided_of_takes_assessRateSet
    (decoded : Request.decodeRaw p.raw p.payload = .ok (.rateSet bits index rate))
    (takes : (p.platform.topology.assessRateSet p.service bits index rate).Takes rest admission) :
    p.Decided ((reviews rest).map Exchange.query) admission := by
  have hindex : p.index? = some index := index?_eq decoded
  have hplain : p.Passes .plain ↔ (RateFlags.ofBits? bits).isSome := by
    rw [passes_plain_iff decoded, RateFlags.ofBits?_isSome_iff]
    simp [Request.flags?]
  unfold Topology.assessRateSet at takes
  split at takes
  · rename_i unknown
    obtain ⟨rfl, rfl⟩ := takes
    exact .refused .plain (by decide) ⟨reaches, by simp [hplain, unknown]⟩
  rename_i flags hflags
  have hconfigured : p.Reaches .configured := reaches.next rfl (hplain.2 (by simp [hflags]))
  rw [Dialogue.takes_call_bind] at takes
  obtain ⟨owner, tail, rfl, takes⟩ := takes
  obtain rfl : owner = p.agents p.service :=
    steady_exchanges.1 steady p.service owner List.mem_cons_self
  split at takes
  · rename_i error unresolved
    obtain ⟨rfl, rfl⟩ := takes
    exact .refused .configured (by decide) (firstFailing_configured hindex hconfigured unresolved)
  rename_i clock resolved
  have hprompts : p.Reaches .prompt := reaches_prompt hindex resolved hconfigured
  have hprompt : p.Passes .prompt ↔ flags.async = false := by
    rw [passes_prompt_iff decoded, RateFlags.async_eq hflags]
    simp
  split at takes
  · rename_i hasync
    obtain ⟨rfl, rfl⟩ := takes
    exact .refused .prompt (by decide) ⟨hprompts, by simp [hprompt, hasync]⟩
  rename_i hasync
  have hreviewed : p.Reaches .approved := hprompts.next rfl (hprompt.2 (by simpa using hasync))
  have due : p.review? = some (.reviewRate clock.context rate flags.rounding) := by
    simp [review?, request?_eq decoded, context?_eq hindex resolved, hflags]
  rw [Dialogue.takes_call_bind] at takes
  obtain ⟨review, tail, rfl, takes⟩ := takes
  exact decided_of_follows heard silent rfl hreviewed due (device?_eq hindex resolved)
    (follows_of_takes takes)

theorem decided_of_takes_assessConfigSet
    (decoded : Request.decodeRaw p.raw p.payload = .ok (.configSet index bits))
    (takes : (p.platform.topology.assessConfigSet p.service index bits).Takes rest admission) :
    p.Decided ((reviews rest).map Exchange.query) admission := by
  have hindex : p.index? = some index := index?_eq decoded
  have hplain : p.Passes .plain ↔ (ConfigAttributes.ofBits? bits).isSome := by
    rw [passes_plain_iff decoded, ConfigAttributes.ofBits?_isSome_iff]
    simp [Request.flags?]
  unfold Topology.assessConfigSet at takes
  split at takes
  · rename_i unknown
    obtain ⟨rfl, rfl⟩ := takes
    exact .refused .plain (by decide) ⟨reaches, by simp [hplain, unknown]⟩
  rename_i state hstate
  have hconfigured : p.Reaches .configured := reaches.next rfl (hplain.2 (by simp [hstate]))
  rw [Dialogue.takes_call_bind] at takes
  obtain ⟨owner, tail, rfl, takes⟩ := takes
  obtain rfl : owner = p.agents p.service :=
    steady_exchanges.1 steady p.service owner List.mem_cons_self
  split at takes
  · rename_i error unresolved
    obtain ⟨rfl, rfl⟩ := takes
    exact .refused .configured (by decide) (firstFailing_configured hindex hconfigured unresolved)
  rename_i clock resolved
  have hprompts : p.Reaches .prompt := reaches_prompt hindex resolved hconfigured
  have hprompt : p.Passes .prompt := by simp [passes_prompt_iff decoded]
  have hreviewed : p.Reaches .approved := hprompts.next rfl hprompt
  have due : p.review? = some (.reviewState .pre clock.context state) := by
    simp [review?, request?_eq decoded, context?_eq hindex resolved, hstate]
  rw [Dialogue.takes_call_bind] at takes
  obtain ⟨review, tail, rfl, takes⟩ := takes
  exact decided_of_follows heard silent rfl hreviewed due (device?_eq hindex resolved)
    (follows_of_takes takes)

end Assessed

section Assess

variable {consulted last : History} {admission : Admission}
  (takes : (p.platform.topology.assess p.service p.raw p.payload).Takes consulted admission)
include takes

/-- A message that names a clock, from an agent that is known, is not decided without asking whether
the agent has permission. -/
theorem exists_asked {agent : AgentId} (steady : Steady p.agents (exchanges consulted))
    (sender : p.agents p.service = .ok agent) (named : p.index? = some index) :
    ∃ granted, ⟨.allowsResource agent protocolId p.raw index, granted⟩ ∈ consulted := by
  have asked {request : Request} {permission rest : History} {granted : Bool}
      (decoded : Request.decodeRaw p.raw p.payload = .ok request)
      (permitted : (request.permitted p.service).Takes permission granted)
      (steady : Steady p.agents (exchanges (permission ++ rest))) :
      ⟨.allowsResource agent protocolId p.raw index, granted⟩ ∈ permission ++ rest := by
    have howner := steady_exchanges.1 steady p.service
    rw [index?_eq decoded] at named
    rcases Request.takes_permitted permitted with ⟨error, rfl, -⟩ | ⟨found, rfl⟩
    · have hfound := howner (.error error) (by simp)
      simp [sender] at hfound
    · have hfound := howner (.ok found) (by simp)
      cases hfound.trans sender
      rw [Request.asked, named, Request.message_raw_of_decodeRaw decoded]
      simp
  cases Topology.takes_assess takes with
  | rejected undecoded => simp [index?, request?, undecoded, Except.toOption] at named
  | denied decoded refused => exact ⟨false, asked decoded refused steady⟩
  | permitted decoded granted => exact ⟨true, asked decoded granted steady⟩

/-- A message about a clock is assessed as the checks demand, but for the last of them. -/
theorem decided_of_takes_assess
    (about : ∀ message : Message, message.raw = p.raw → message ∈ Message.queueable)
    (steady : Steady p.agents (exchanges consulted)) (heard : p.heard = consulted ++ last)
    (unasked : ∀ exchange ∈ last, exchange.query.isPermission = false) :
    p.Decided ((reviews consulted).map Exchange.query) admission := by
  have permissionOnly {request : Request} {permission : History} {granted : Bool}
      (permitted : (request.permitted p.service).Takes permission granted) :
      ∀ exchange ∈ permission, exchange.query.isPermission :=
    permitted.forall_of_asks (request.asks_permitted p.service)
  cases Topology.takes_assess takes with
  | rejected undecoded =>
    obtain ⟨check, early, failing, hstatus⟩ := firstFailing_of_rejected undecoded
    rw [← hstatus]
    exact .refused check early failing
  | @denied request permission decoded refused =>
    rw [List.append_assoc] at heard
    have hnone : reviews (permission ++ [⟨.log (.denied request.message p.service), ()⟩]) = [] := by
      rw [reviews_append, reviews_of_permission (permissionOnly refused)]
      rfl
    rw [hnone]
    refine .refused .permitted (by decide) (firstFailing_permitted decoded heard refused ?_)
    exact List.forall_mem_cons.2 ⟨rfl, unasked⟩
  | @permitted request permission rest _ decoded granted assessed =>
    rw [List.append_assoc] at heard
    rw [exchanges_append, steady_append] at steady
    have hmessage := about request.message (Request.message_raw_of_decodeRaw decoded)
    have silent : ∀ exchange ∈ permission, exchange.verdict? = none := by
      intro exchange hmem
      have hquery := permissionOnly granted exchange hmem
      obtain ⟨query, answer⟩ := exchange
      cases query <;> simp_all [Query.isPermission, Exchange.verdict?]
    have reaches {index : UInt32} (named : request.clock? = some index) : p.Reaches .plain :=
      reaches_plain decoded heard named granted steady.1
    rw [reviews_append, reviews_of_permission (permissionOnly granted), List.nil_append]
    cases request with
    | clockAttributes index =>
      exact decided_of_takes_assessRead (reaches rfl) steady.2 decoded rfl rfl assessed
    | rateGet index =>
      exact decided_of_takes_assessRead (reaches rfl) steady.2 decoded rfl rfl assessed
    | rateSet bits index rate =>
      exact decided_of_takes_assessRateSet (reaches rfl) steady.2 heard silent decoded assessed
    | configSet index bits =>
      exact decided_of_takes_assessConfigSet (reaches rfl) steady.2 heard silent decoded assessed
    | protocolVersion => simp [Request.message, Message.queueable] at hmessage
    | protocolAttributes => simp [Request.message, Message.queueable] at hmessage
    | protocolMessageAttributes => simp [Request.message, Message.queueable] at hmessage
    | describeRates => simp [Request.message, Message.queueable] at hmessage

end Assess

/-- Changes of a rate or of a state are what the policy is asked about. -/
theorem review?_isSome_iff (reaches : p.Reaches .approved) :
    p.review?.isSome ↔ p.raw = Message.rateSet.raw ∨ p.raw = Message.configSet.raw := by
  obtain ⟨request, decoded⟩ := passes_known_and_sized_iff.1
    ⟨reaches .known (by decide), reaches .sized (by decide)⟩
  have hplain := (passes_plain_iff decoded).1 (reaches .plain (by decide))
  have hraw := Request.message_raw_of_decodeRaw decoded
  have hcontext {index : UInt32} (named : request.clock? = some index) :
      ∃ context, p.context? = some context := by
    have hindex : p.index? = some index := (index?_eq decoded).trans named
    obtain ⟨clock, resolved⟩ := (passes_configured_iff hindex).1
      (reaches .configured (by decide))
    exact ⟨_, context?_eq hindex resolved⟩
  rw [← hraw, review?, request?_eq decoded]
  cases request with
  | rateSet bits index rate =>
    obtain ⟨context, hcontext⟩ := hcontext rfl
    obtain ⟨flags, hflags⟩ := Option.isSome_iff_exists.1
      (RateFlags.ofBits?_isSome_iff.2 (hplain _ _ rfl))
    simp [hcontext, hflags, Request.message]
  | configSet index bits =>
    obtain ⟨context, hcontext⟩ := hcontext rfl
    obtain ⟨state, hstate⟩ := Option.isSome_iff_exists.1
      (ConfigAttributes.ofBits?_isSome_iff.2 (hplain _ _ rfl))
    simp [hcontext, hstate, Request.message]
  | _ => simp [Request.message, Message.raw]

end Petition

end ClockManager
