import ClockManager.Proofs.Reply
import ClockManager.Proofs.Request
import Mathlib.Data.List.Forall2
/-!
# Lists of rates

An agent asks for the rates of a device that has a list of them. What it is sent, and what it reads
in that, is determined by the list, the rate that it asks from, and the size of a payload. Nothing
else counts: neither what the platform is busy with, nor what was staged on the channel before.
-/

namespace ClockManager

open Dialogue (call)

/-! ### What a client reads -/

/-- So many rates from the front of the bytes. -/
def readRates? : Nat → Bytes → Option (List UInt64)
  | 0, _ => some []
  | count + 1, bytes => do
    let low ← Word.read? bytes 0
    let high ← Word.read? bytes 1
    let more ← readRates? count (bytes.drop RatePage.entrySize)
    return Word.join low high :: more

structure Telling where
  status : UInt32
  counts : UInt32
  rates : List UInt64
  deriving DecidableEq

namespace Telling

/-- The count in bits 11:0 of the second word. -/
def returned (counts : UInt32) : UInt32 := counts &&& 0xFFF

/-- The count in bits 31:16 of the second word. -/
def remaining (counts : UInt32) : UInt32 := counts >>> 16

/-- A reply to a request for rates is read as a status, a word of counts, and as many rates as that
word says. -/
def ofBytes? (text : Bytes) : Option Telling := do
  let status ← Word.read? text 0
  let counts ← Word.read? text 1
  let rates ← readRates? (returned counts).toNat (text.drop RatePage.headerSize)
  return ⟨status, counts, rates⟩

/-- The index that a client asks from next; there is none once no rates remain. -/
def next? (telling : Telling) (index : UInt32) : Option UInt32 :=
  if remaining telling.counts = 0 then none else some (index + returned telling.counts)

end Telling

theorem read?_pairBytes (value : UInt64) (rest : Bytes) :
    Word.read? (Word.pairBytes value ++ rest) 0 = some (Word.split value).1 ∧
      Word.read? (Word.pairBytes value ++ rest) 1 = some (Word.split value).2 := by
  rw [Word.pairBytes, List.append_assoc]
  constructor
  · exact Word.read?_toBytes _ _
  · have hfront : (Word.toBytes (Word.split value).1).length = Word.size * 1 := rfl
    rw [← Nat.add_zero 1, Word.read?_append_add hfront]
    exact Word.read?_toBytes _ _

theorem readRates?_flatMap (rates : List UInt64) :
    readRates? rates.length (rates.flatMap Word.pairBytes) = some rates := by
  induction rates with
  | nil => rfl
  | cons rate rest ih =>
    obtain ⟨hlow, hhigh⟩ := read?_pairBytes rate (rest.flatMap Word.pairBytes)
    have hdrop : (Word.pairBytes rate ++ rest.flatMap Word.pairBytes).drop RatePage.entrySize =
        rest.flatMap Word.pairBytes := List.drop_left' rfl
    rw [List.flatMap_cons, List.length_cons, readRates?, hlow, hhigh, hdrop, ih]
    exact congrArg (fun first => some (first :: rest)) (Word.join_split rate)

namespace RatePage

variable {page : RatePage}

section Counts

variable (list : page.format = .list) (counted : page.rates.length ≤ countLimit)
include list counted

theorem toNat_returned_list : page.returned.toNat = page.rates.length := by
  have hsmall : page.rates.length < UInt32.size := Nat.lt_of_le_of_lt counted (by decide)
  rw [returned, list]
  exact UInt32.toNat_ofNat_of_lt' hsmall

variable (fits : page.remaining ≤ remainingLimit)
include fits

theorem returned_countsWord : (Telling.returned page.countsWord).toNat = page.rates.length := by
  have hreturned := toNat_returned_list list counted
  obtain ⟨-, -, hword⟩ := countsWord_fields (by rwa [hreturned]) fits
  rw [Telling.returned, hword, hreturned]

theorem remaining_countsWord : Telling.remaining page.countsWord = page.remaining := by
  have hreturned := toNat_returned_list list counted
  exact (countsWord_fields (by rwa [hreturned]) fits).1

theorem ofBytes?_page :
    Telling.ofBytes? (page.header ++ page.entries) =
      some ⟨Status.success.toWord, page.countsWord, page.rates⟩ := by
  have hwords (rest : Bytes) : page.header ++ rest =
      Word.toBytes Status.success.toWord ++ (Word.toBytes page.countsWord ++ rest) :=
    List.append_assoc ..
  have hstatus : Word.read? (page.header ++ page.entries) 0 = some Status.success.toWord := by
    rw [hwords]
    exact Word.read?_toBytes _ _
  have hcounts : Word.read? (page.header ++ page.entries) 1 = some page.countsWord := by
    have hfront : (Word.toBytes Status.success.toWord).length = Word.size * 1 := rfl
    rw [hwords, ← Nat.add_zero 1, Word.read?_append_add hfront]
    exact Word.read?_toBytes _ _
  have hdrop : (page.header ++ page.entries).drop headerSize = page.entries :=
    List.drop_left' page.length_header
  rw [Telling.ofBytes?, hstatus, hcounts, hdrop]
  dsimp only [Option.bind_eq_bind, Option.bind_some]
  rw [returned_countsWord list counted fits, entries, readRates?_flatMap]
  rfl

end Counts

end RatePage

/-! ### A list and who asks for it -/

/-- A list of rates that a client can ask for: by a clock number of the agent that it belongs to,
which stands for a device with these rates. -/
structure Listing where
  topology : Topology
  service : ServiceId
  clock : ResolvedClock
  resolves : topology.resolveClock (.ok clock.agent) clock.index = .ok clock
  rates : List UInt64
  rates_ne : rates ≠ []
  /-- There are not more rates than the hardware can count. -/
  countable : rates.length < UInt32.size

namespace Listing

variable {listing : Listing} {limit : Nat} {start : UInt32} {history : History}

def count (listing : Listing) : UInt32 := UInt32.ofNat listing.rates.length

theorem toNat_count (listing : Listing) : listing.count.toNat = listing.rates.length :=
  UInt32.toNat_ofNat_of_lt' listing.countable

def device (listing : Listing) : DeviceId := listing.clock.record.device

def request (listing : Listing) (start : UInt32) : Request :=
  .describeRates listing.clock.index start

/-- What the collaborators answer when the client has permission, the hardware knows all rates, and
the transport states a size of the payload and stages whatever ends within it. -/
def Answers (listing : Listing) (limit : Nat) : Exchange → Prop
  | ⟨.agentOf service, owner⟩ => service = listing.service → owner = .ok listing.clock.agent
  | ⟨.allowsResource agent protocol message clock, granted⟩ =>
    agent = listing.clock.agent → protocol = protocolId → message = Message.describeRates.raw →
      clock = listing.clock.index → granted = true
  | ⟨.maxPayload service, size⟩ => service = listing.service → size = .ok limit
  | ⟨.rateRange device, range⟩ => device = listing.device → range = .ok (.discrete listing.count)
  | ⟨.rateAt device index, answer⟩ =>
    device = listing.device →
      ∀ rate, listing.rates[index.toNat]? = some rate → answer = .ok rate
  | ⟨.stage service offset bytes, staged⟩ =>
    service = listing.service → offset + bytes.length ≤ limit → staged = .ok ()
  | _ => True

theorem exists_answers (listing : Listing) (limit : Nat) (query : Query) :
    ∃ answer, listing.Answers limit ⟨query, answer⟩ := by
  cases query with
  | agentOf service => exact ⟨.ok listing.clock.agent, fun _ => rfl⟩
  | maxPayload service => exact ⟨.ok limit, fun _ => rfl⟩
  | stage service offset bytes => exact ⟨.ok (), fun _ _ => rfl⟩
  | respond service reply => exact ⟨.ok (), trivial⟩
  | allowsProtocol agent protocol => exact ⟨true, trivial⟩
  | allowsResource agent protocol message clock => exact ⟨true, fun _ _ _ _ => rfl⟩
  | reviewRate context rate rounding => exact ⟨⟨.ok .proceed, rate, rounding⟩, trivial⟩
  | reviewState phase context state => exact ⟨⟨.ok .proceed, state⟩, trivial⟩
  | getState device => exact ⟨.ok .pending, trivial⟩
  | getRate device => exact ⟨.ok .pending, trivial⟩
  | setRate device rate rounding => exact ⟨.ok .pending, trivial⟩
  | setState device state => exact ⟨.ok .pending, trivial⟩
  | rateRange device => exact ⟨.ok (.discrete listing.count), fun _ => rfl⟩
  | rateAt device index =>
    refine ⟨.ok (listing.rates.getD index.toNat 0), fun _ rate listed => ?_⟩
    rw [List.getD_eq_getElem?_getD, listed]
    rfl
  | log notice => exact ⟨(), trivial⟩

/-- A platform of the topology, in whatever state, takes the message in that asks for the rates from
`start` on. -/
structure Asked (listing : Listing) (limit : Nat) (start : UInt32) (history : History) : Prop where
  takes : ∃ (platform after : Platform) (sent : Except TransportError Unit),
    platform.topology = listing.topology ∧
      (platform.receive listing.service (listing.request start).message.raw
        (listing.request start).payload).Takes history (sent, after)
  answers : ∀ exchange ∈ history, listing.Answers limit exchange

/-- In this conversation the client is answered last, and is sent these bytes: whatever has happened
before it, and whatever has been staged by then. -/
inductive Delivers (listing : Listing) (history : History) : Bytes → Prop where
  | intro {consulted : History} {reply : Reply} {sent : Except TransportError Unit}
      {staging : ServiceId → List Event → Staging} {past : List Event}
      (answered : history = consulted ++ [⟨.respond listing.service reply, sent⟩])
      (stages : Stages staging (past ++ exchanges consulted)) :
      Delivers listing history (reply.text (staging listing.service (past ++ exchanges consulted)))

theorem exists_asked (listing : Listing) (limit : Nat) (start : UInt32) :
    ∃ history, listing.Asked limit start history := by
  have hpath := Dialogue.exists_takes (listing.exists_answers limit)
    ((Platform.start listing.topology).receive listing.service (listing.request start).message.raw
      (listing.request start).payload)
  obtain ⟨history, ⟨sent, after⟩, takes, answers⟩ := hpath
  exact ⟨history, ⟨_, after, sent, rfl, takes⟩, answers⟩

/-! ### The page that is described -/

/-- The page from `start` on, for a payload of this size. -/
def page (listing : Listing) (limit start : Nat) : RatePage :=
  let left := listing.rates.length - start
  let capacity := RatePage.capacity limit
  ⟨.list, (listing.rates.drop start).take (RatePage.pageLength left capacity),
    UInt32.ofNat (RatePage.leftAfter left capacity)⟩

def pageText (listing : Listing) (limit start : Nat) : Bytes :=
  (listing.page limit start).header ++ (listing.page limit start).entries

theorem toNat_add_ofNat {count : Nat} (within : start.toNat + count ≤ listing.rates.length) :
    (start + UInt32.ofNat count).toNat = start.toNat + count := by
  have hcountable := listing.countable
  have hsize : UInt32.size = 2 ^ 32 := rfl
  rw [UInt32.toNat_add, UInt32.toNat_ofNat_of_lt' (by omega)]
  omega

theorem forall₂_window {count : Nat} (within : start.toNat + count ≤ listing.rates.length) :
    List.Forall₂ (fun index rate => listing.rates[index.toNat]? = some rate)
      (RatePage.window start count) ((listing.rates.drop start.toNat).take count) := by
  rw [List.forall₂_iff_get]
  refine ⟨?_, ?_⟩
  · simp [RatePage.window]
    omega
  · intro i hi hrate
    have hcount : i < count := by simpa [RatePage.window] using hi
    have hindex := listing.toNat_add_ofNat (show start.toNat + i ≤ _ by omega)
    simp [RatePage.window, hindex]

def rateAt (listing : Listing) (index : UInt32) : Dialogue (Except HardwareError UInt64) :=
  call (.rateAt listing.device index)

/-- The device is asked for the rates of the page. -/
def description (listing : Listing) (limit : Nat) (start : UInt32) :
    Dialogue (Except DescribeError RatePage) :=
  RatePage.describe (.discrete listing.count) start (RatePage.capacity limit) listing.rateAt

theorem eq_ok_of_takes_readRates {indices : List UInt32} {rates : List UInt64}
    {result : Except HardwareError (List UInt64)}
    (listed : List.Forall₂ (fun index rate => listing.rates[index.toNat]? = some rate) indices
      rates)
    (answers : ∀ exchange ∈ history, listing.Answers limit exchange)
    (takes : (RatePage.readRates listing.rateAt indices).Takes history result) :
    result = .ok rates := by
  induction listed generalizing history result with
  | nil => exact takes.2.symm
  | @cons index rate indices rates first _ ih =>
    obtain ⟨answer, rest, rfl, told⟩ := Dialogue.takes_call_bind.1 takes
    obtain ⟨hanswer, hrest⟩ := List.forall_mem_cons.1 answers
    obtain rfl : answer = .ok rate := hanswer rfl rate first
    obtain ⟨_, _, more, rfl, hmore, ended⟩ := Dialogue.takes_bind.1 told
    obtain rfl := ih (List.forall_mem_append.1 hrest).1 hmore
    exact ended.2.symm

section Describe

variable {described : Except DescribeError RatePage}
  (start_lt : start.toNat < listing.rates.length) (room : RatePage.capacity limit ≠ 0)
  (takes : (listing.description limit start).Takes history described)
include start_lt room takes

/-- What is left fits into its field, so the page is described. -/
theorem eq_page_of_takes_describe
    (answers : ∀ exchange ∈ history, listing.Answers limit exchange)
    (fits : RatePage.leftAfter (listing.rates.length - start.toNat) (RatePage.capacity limit) ≤
      RatePage.remainingLimit.toNat) : described = .ok (listing.page limit start.toNat) := by
  have hlt : start < listing.count := by rwa [UInt32.lt_iff_toNat_lt, toNat_count]
  rw [description, RatePage.describe_discrete hlt room] at takes
  dsimp only at takes
  rw [toNat_count, if_neg (Nat.not_lt.2 fits)] at takes
  obtain ⟨reads, rest, rates, rfl, hreads, takes⟩ := Dialogue.takes_bind.1 takes
  have hwithin : start.toNat + RatePage.pageLength (listing.rates.length - start.toNat)
      (RatePage.capacity limit) ≤ listing.rates.length := by
    unfold RatePage.pageLength
    omega
  obtain rfl := eq_ok_of_takes_readRates (forall₂_window hwithin)
    (List.forall_mem_append.1 answers).1 hreads
  exact takes.2.symm

/-- What is left does not fit into its field, so there is no page. -/
theorem eq_overflow_of_takes_describe
    (overflows : RatePage.remainingLimit.toNat <
      RatePage.leftAfter (listing.rates.length - start.toNat) (RatePage.capacity limit)) :
    ∃ remaining, described = .error (.remainingOverflow remaining) := by
  have hlt : start < listing.count := by rwa [UInt32.lt_iff_toNat_lt, toNat_count]
  rw [description, RatePage.describe_discrete hlt room] at takes
  dsimp only at takes
  rw [toNat_count, if_pos overflows] at takes
  exact ⟨_, takes.2.symm⟩

end Describe

/-! ### The answer -/

theorem granted_of_takes_permitted {granted : Bool}
    (answers : ∀ exchange ∈ history, listing.Answers limit exchange)
    (takes : ((listing.request start).permitted listing.service).Takes history granted) :
    granted = true := by
  rcases Request.takes_permitted takes with ⟨error, rfl, -⟩ | ⟨agent, rfl⟩
  · exact absurd (answers _ (List.mem_singleton_self _) rfl) nofun
  · obtain ⟨howner, hasked⟩ := List.forall_mem_cons.1 answers
    obtain rfl : agent = listing.clock.agent := Except.ok.inj (howner rfl)
    exact hasked _ (List.mem_singleton_self _) rfl rfl rfl rfl

/-- What is found out before the description. -/
def inquiry (listing : Listing) (limit : Nat) : History :=
  [⟨.agentOf listing.service, .ok listing.clock.agent⟩,
    ⟨.maxPayload listing.service, .ok limit⟩,
    ⟨.rateRange listing.device, .ok (.discrete listing.count)⟩]

theorem exists_description {admission : Admission}
    (answers : ∀ exchange ∈ history, listing.Answers limit exchange)
    (takes : (listing.topology.assessDescribeRates listing.service listing.clock.index start).Takes
      history admission) :
    ∃ reads rest described, history = listing.inquiry limit ++ (reads ++ rest) ∧
      (listing.description limit start).Takes reads described ∧
      (∀ page, described = .ok page → (page.stage listing.service).Takes rest admission) ∧
      ∀ remaining, described = .error (.remainingOverflow remaining) →
        admission = .status .genericError := by
  unfold Topology.assessDescribeRates at takes
  rw [Dialogue.takes_call_bind] at takes
  obtain ⟨owner, asked, rfl, takes⟩ := takes
  obtain ⟨howner, hasked⟩ := List.forall_mem_cons.1 answers
  obtain rfl : owner = .ok listing.clock.agent := howner rfl
  rw [listing.resolves] at takes
  dsimp only at takes
  rw [Dialogue.takes_call_bind] at takes
  obtain ⟨size, asked, rfl, takes⟩ := takes
  obtain ⟨hsize, hranged⟩ := List.forall_mem_cons.1 hasked
  obtain rfl : size = .ok limit := hsize rfl
  dsimp only at takes
  rw [Dialogue.takes_call_bind] at takes
  obtain ⟨range, asked, rfl, takes⟩ := takes
  obtain ⟨hrange, -⟩ := List.forall_mem_cons.1 hranged
  obtain rfl : range = .ok (.discrete listing.count) := hrange rfl
  dsimp only at takes
  rw [Dialogue.takes_bind] at takes
  obtain ⟨reads, rest, described, rfl, hdescribed, takes⟩ := takes
  refine ⟨reads, rest, described, rfl, hdescribed, ?_, ?_⟩
  · rintro page rfl
    exact takes
  · rintro remaining rfl
    obtain ⟨_, -, -, hadmission⟩ := Dialogue.takes_log_bind.1 takes
    exact hadmission.symm

theorem takes_stage_of_fits {page : RatePage} {admission : Admission}
    (fits : page.Fits (RatePage.capacity limit))
    (answers : ∀ exchange ∈ history, listing.Answers limit exchange)
    (takes : (page.stage listing.service).Takes history admission) :
    history = page.writes listing.service ∧
      admission = .answer (.staged (RatePage.headerSize + page.entriesSize)) := by
  have hsize := fits.size_le
  cases RatePage.takes_stage takes with
  | entriesFailed =>
    obtain ⟨hentries, -⟩ := List.forall_mem_cons.1 answers
    exact absurd (hentries rfl (by rwa [RatePage.length_entries])) nofun
  | headerFailed =>
    obtain ⟨hheader, -⟩ := List.forall_mem_cons.1 (List.forall_mem_cons.1 answers).2
    exact absurd (hheader rfl (by rw [RatePage.length_header]; omega)) nofun
  | complete => exact ⟨rfl, rfl⟩

theorem delivers_iff {consulted : History} {reply : Reply} {sent : Except TransportError Unit}
    {text : Bytes} :
    listing.Delivers (consulted ++ [⟨.respond listing.service reply, sent⟩]) text ↔
      ∃ (staging : ServiceId → List Event → Staging) (past : List Event),
        Stages staging (past ++ exchanges consulted) ∧
          text = reply.text (staging listing.service (past ++ exchanges consulted)) := by
  constructor
  · generalize hhistory : consulted ++ [⟨.respond listing.service reply, sent⟩] = history
    rintro ⟨answered, stages⟩
    obtain ⟨rfl, hlast⟩ := List.append_inj' (hhistory.trans answered) rfl
    cases hlast
    exact ⟨_, _, stages, rfl⟩
  · rintro ⟨staging, past, stages, rfl⟩
    exact ⟨rfl, stages⟩

theorem take_eq_of_stages {permission reads : History} {page : RatePage}
    {staging : ServiceId → List Event → Staging} {past : List Event}
    (described : (listing.description limit start).Takes reads (.ok page))
    (stages : Stages staging (past ++ exchanges (permission ++
      (listing.inquiry limit ++ (reads ++ page.writes listing.service))))) :
    (staging listing.service (past ++ exchanges (permission ++ (listing.inquiry limit ++
      (reads ++ page.writes listing.service))))).take (RatePage.headerSize + page.entriesSize) =
        page.header ++ page.entries := by
  rw [exchanges_append, ← List.append_assoc] at stages ⊢
  exact stages.take_eq_of_described described (List.append_nil _).symm

theorem Asked.exists_assessed (asked : listing.Asked limit start history) :
    ∃ (permission assessed : History) (admission : Admission),
      (listing.topology.assessDescribeRates listing.service listing.clock.index start).Takes
        assessed admission ∧
      (∀ exchange ∈ assessed, listing.Answers limit exchange) ∧
      ∀ reply, admission = .answer reply → ∃ sent,
        history = permission ++ assessed ++ [⟨.respond listing.service reply, sent⟩] := by
  obtain ⟨platform, after, sent, htopology, received⟩ := asked.takes
  obtain ⟨consulted, answered, admission, rfl, assessed, received⟩ :=
    Dialogue.takes_bind.1 received
  have answers := (List.forall_mem_append.1 asked.answers).1
  rw [htopology] at assessed
  have hdecoded := (listing.request start).decodeRaw_payload
  cases Topology.takes_assess assessed with
  | rejected rejected => exact absurd (hdecoded.symm.trans rejected) nofun
  | denied decoded denied =>
    obtain rfl := Except.ok.inj (hdecoded.symm.trans decoded)
    exact absurd (granted_of_takes_permitted (List.forall_mem_append.1 answers).1 denied) nofun
  | @permitted _ permission rest _ decoded _ described =>
    obtain rfl := Except.ok.inj (hdecoded.symm.trans decoded)
    refine ⟨permission, rest, admission, described, (List.forall_mem_append.1 answers).2, ?_⟩
    rintro reply rfl
    obtain ⟨response, _, rfl, rfl, -⟩ := Dialogue.takes_call_bind.1 received
    exact ⟨response, rfl⟩

section Delivered

variable {text : Bytes} (start_lt : start.toNat < listing.rates.length)
  (room : RatePage.capacity limit ≠ 0) (asked : listing.Asked limit start history)
include start_lt room asked

theorem Asked.delivers_page
    (fits : RatePage.leftAfter (listing.rates.length - start.toNat) (RatePage.capacity limit) ≤
      RatePage.remainingLimit.toNat) :
    listing.Delivers history text ↔ text = listing.pageText limit start.toNat := by
  obtain ⟨permission, assessed, admission, takes, answers, answered⟩ := asked.exists_assessed
  obtain ⟨reads, rest, described, rfl, hdescribed, hstaged, -⟩ := exists_description answers takes
  obtain ⟨hreads, hrest⟩ := List.forall_mem_append.1 (List.forall_mem_append.1 answers).2
  obtain rfl := eq_page_of_takes_describe start_lt room hdescribed hreads fits
  obtain ⟨rfl, rfl⟩ := takes_stage_of_fits (RatePage.fits_of_takes_describe hdescribed) hrest
    (hstaged _ rfl)
  obtain ⟨sent, rfl⟩ := answered _ rfl
  refine delivers_iff.trans ?_
  constructor
  · rintro ⟨staging, past, stages, rfl⟩
    exact take_eq_of_stages hdescribed stages
  · rintro rfl
    exact ⟨staged, [], stages_staged _, (take_eq_of_stages hdescribed (stages_staged _)).symm⟩

theorem Asked.delivers_refusal
    (overflows : RatePage.remainingLimit.toNat <
      RatePage.leftAfter (listing.rates.length - start.toNat) (RatePage.capacity limit)) :
    listing.Delivers history text ↔ text = Word.toBytes Status.genericError.toWord := by
  obtain ⟨permission, assessed, admission, takes, answers, answered⟩ := asked.exists_assessed
  obtain ⟨reads, rest, described, rfl, hdescribed, -, hrefused⟩ := exists_description answers takes
  obtain ⟨remaining, rfl⟩ := eq_overflow_of_takes_describe start_lt room hdescribed overflows
  obtain ⟨sent, rfl⟩ := answered _ (hrefused remaining rfl)
  refine delivers_iff.trans ?_
  rw [← Frame.layout, ← Frame.bytes_eq_layout]
  constructor
  · rintro ⟨_, _, -, rfl⟩
    rfl
  · rintro rfl
    exact ⟨staged, [], stages_staged _, rfl⟩

end Delivered

end Listing
end ClockManager
