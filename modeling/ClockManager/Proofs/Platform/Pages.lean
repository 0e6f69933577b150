import ClockManager.Proofs.Bench
import ClockManager.Proofs.Platform.Step
import ClockManager.Proofs.Reply
/-!
# Pages on a channel

A request for rates is refused while nothing has been staged, or the hardware has described a page
and the page is staged. Whatever the hardware reports, its writes and the reply end within the size
that the transport has stated. The two writes meet behind the header, so together they cover the
whole reply, and what earlier replies have left on the channel is never sent.

`Prepared` tells the two ways apart. The rest of the module is about its second one, where the page
fits because it has been described for the size that was stated.
-/

namespace ClockManager

variable {service : ServiceId} {history consulted reads writes : History}

/-- What the exchange stages, or sends of what has been staged, is for this channel and ends within
the size that is stated for it. -/
def Exchange.Within (service : ServiceId) (stated : Option Nat) : Exchange → Prop
  | ⟨.stage channel offset bytes, _⟩ =>
    channel = service ∧ ∃ limit, stated = some limit ∧ offset + bytes.length ≤ limit
  | ⟨.respond channel (.staged length), _⟩ =>
    channel = service ∧ ∃ limit, stated = some limit ∧ length ≤ limit
  | _ => True

theorem Exchange.within_of_unstaged {exchange : Exchange} {stated : Option Nat}
    (consults : exchange.query.isConsultation) (unstaged : exchange.query.isStage = false) :
    exchange.Within service stated := by
  obtain ⟨query, answer⟩ := exchange
  cases query with
  | stage => simp [Query.isStage] at unstaged
  | respond => simp [Query.isConsultation] at consults
  | _ => exact trivial

/-- What is staged on a channel after these exchanges, if nothing but writes changes it. -/
def Staging.after (previous : Staging) (service : ServiceId) (history : History) : Staging :=
  (exchanges history).foldl (staged.next service) previous

theorem Staging.after_append {previous : Staging} {more : History} :
    previous.after service (history ++ more) =
      (previous.after service history).after service more := by
  rw [after, exchanges_append, List.foldl_append]
  rfl

theorem Staging.after_of_unstaged {previous : Staging}
    (unstaged : ∀ exchange ∈ history, exchange.query.isStage = false) :
    previous.after service history = previous := by
  apply foldl_of_ignored
  intro exchange hmem
  have hquery := unstaged exchange hmem
  obtain ⟨query, answer⟩ := exchange
  cases query with
  | stage => simp [Query.isStage] at hquery
  | _ => rfl

/-! ### The writes of a page -/

namespace RatePage

variable {page : RatePage} {admission : Admission} {reply : Reply}

theorem Written.within {limit : Nat} (written : page.Written service writes admission)
    (fits : headerSize + page.entriesSize ≤ limit) :
    ∀ exchange ∈ writes, exchange.Within service (some limit) := by
  have hentries {staged : Except TransportError Unit} :
      Exchange.Within service (some limit) ⟨.stage service headerSize page.entries, staged⟩ := by
    refine ⟨rfl, limit, rfl, ?_⟩
    rwa [length_entries]
  have hheader {staged : Except TransportError Unit} :
      Exchange.Within service (some limit) ⟨.stage service 0 page.header, staged⟩ := by
    refine ⟨rfl, limit, rfl, ?_⟩
    rw [length_header]
    omega
  have hlog {notice : Notice} : Exchange.Within service (some limit) ⟨.log notice, ()⟩ := trivial
  cases written with
  | entriesFailed => simp [hentries, hlog]
  | headerFailed => simp [hentries, hheader, hlog]
  | complete => simp [hentries, hheader]

theorem Written.limit?_append (written : page.Written service writes admission)
    (asked : History) :
    limit? service (exchanges (asked ++ writes)) = limit? service (exchanges asked) := by
  rw [exchanges_append]
  apply limit?_append_of_unstated
  cases written <;> simp [exchanges, Event.limit?, Exchange.limit?]

/-- The writes have been made and the page is sent, or one of them has failed and only that is. -/
theorem Written.complete_or_failed (written : page.Written service writes (.answer reply)) :
    (writes = page.writes service ∧ reply = .staged (headerSize + page.entriesSize)) ∨
      (∃ offset bytes error, ⟨.stage service offset bytes, .error error⟩ ∈ writes) ∧
        reply = .bytes (Word.toBytes Status.genericError.toWord) := by
  generalize hadmission : Admission.answer reply = admission at written
  have hfailed (h : Admission.answer reply = .status .genericError) :
      reply = .bytes (Word.toBytes Status.genericError.toWord) := by
    rw [Admission.answer.inj h, Frame.bytes_eq_layout]
    rfl
  cases written with
  | entriesFailed => exact .inr ⟨⟨_, _, _, List.mem_cons_self⟩, hfailed hadmission⟩
  | headerFailed =>
    exact .inr ⟨⟨_, _, _, List.mem_cons_of_mem _ List.mem_cons_self⟩, hfailed hadmission⟩
  | complete => exact .inl ⟨rfl, Admission.answer.inj hadmission⟩

theorem eq_ok_of_mem_writes {channel : ServiceId} {offset : Nat} {bytes : Bytes}
    {made : Except TransportError Unit}
    (hmem : ⟨.stage channel offset bytes, made⟩ ∈ page.writes service) : made = .ok () := by
  obtain hentries | hheader := List.mem_pair.1 hmem
  · cases hentries
    rfl
  · cases hheader
    rfl

/-- Both writes together determine what is sent, whatever has been staged before. -/
theorem take_after_writes (page : RatePage) (service : ServiceId) (previous : Staging) :
    (previous.after service (page.writes service)).take (headerSize + page.entriesSize) =
      page.header ++ page.entries := by
  have hafter : previous.after service (page.writes service) =
      (previous.write headerSize page.entries).write 0 page.header := by
    simp [Staging.after, exchanges, writes, staged.next]
  have hwhole := Staging.take_write_write previous page.header page.entries
  rwa [length_header, length_entries, ← hafter] at hwhole

end RatePage

/-! ### What a request for rates is answered -/

namespace Platform

variable {platform after : Platform} {raw start : UInt32} {payload : Bytes}
  {sent : Except TransportError Unit} {reply : Reply}

/-- How the reply to a request for rates is prepared: it is a status while nothing is staged, or it
comes of the writes of a page, which the hardware has described for the size that is stated. -/
inductive Prepared (service : ServiceId) (start : UInt32) : History → Reply → Prop where
  | refused {asked : History} {status : Status}
      (unstaged : ∀ exchange ∈ asked, exchange.query.isStage = false) :
      Prepared service start asked (.bytes (Frame.status status).bytes)
  | written {asked reads writes : History} {device : DeviceId} {maxPayload : Nat}
      {range : RateRange} {page : RatePage} {reply : Reply}
      (unstaged : ∀ exchange ∈ asked, exchange.query.isStage = false)
      (stated : limit? service (exchanges asked) = some maxPayload)
      (reported : ⟨.rateRange device, .ok range⟩ ∈ asked) (read : reads <:+: asked)
      (described : (RatePage.describe range start (RatePage.capacity maxPayload)
        fun index => Dialogue.call (.rateAt device index)).Takes reads (.ok page))
      (written : page.Written service writes (.answer reply)) :
      Prepared service start (asked ++ writes) reply

theorem isStage_eq_false_of_takes_permitted {request : Request} {permission : History}
    {granted : Bool} (takes : (request.permitted service).Takes permission granted) :
    ∀ exchange ∈ permission, exchange.query.isStage = false := by
  have asks : (request.permitted service).Asks (·.isStage = false) := by
    refine (request.asks_permitted service).imp fun query h => ?_
    cases query <;> simp_all [Query.isPermission, Query.isStage]
  exact takes.forall_of_asks asks

theorem prepared_of_written {front : History} {device : DeviceId} {maxPayload : Nat}
    {range : RateRange} {page : RatePage}
    (unstaged : ∀ exchange ∈ front, exchange.query.isStage = false)
    (described : (RatePage.describe range start (RatePage.capacity maxPayload)
      fun index => Dialogue.call (.rateAt device index)).Takes reads (.ok page))
    (written : page.Written service writes (.answer reply)) :
    Prepared service start (front ++ ⟨.maxPayload service, .ok maxPayload⟩ ::
      ⟨.rateRange device, .ok range⟩ :: (reads ++ writes)) reply := by
  have hreads : ∀ exchange ∈ reads, exchange.query.isStage = false := fun exchange hmem =>
    (RatePage.quiet_of_takes_describe described service exchange hmem).1
  have hstated : limit? service (exchanges front ++
      .exchange ⟨.maxPayload service, .ok maxPayload⟩ ::
        exchanges (⟨.rateRange device, .ok range⟩ :: reads)) = some maxPayload :=
    RatePage.limit?_of_takes_describe described _
  have prepared : Prepared service start ((front ++ ⟨.maxPayload service, .ok maxPayload⟩ ::
      ⟨.rateRange device, .ok range⟩ :: reads) ++ writes) reply := by
    refine .written ?_ ?_ ?_ ?_ described written
    · simpa [Query.isStage, or_imp, forall_and] using ⟨unstaged, hreads⟩
    · rwa [exchanges_append]
    · simp
    · exact ⟨front ++ [⟨.maxPayload service, .ok maxPayload⟩, ⟨.rateRange device, .ok range⟩], [],
        by simp⟩
  simpa using prepared

theorem exists_prepared {index : UInt32}
    (decoded : Request.decodeRaw raw payload = .ok (.describeRates index start))
    (takes : (platform.receive service raw payload).Takes history (sent, after)) :
    ∃ consulted reply, history = consulted ++ [⟨.respond service reply, sent⟩] ∧
      Consultation consulted ∧ Prepared service start consulted reply := by
  obtain ⟨consulted, last, rfl, ⟨reply, assessed, rfl, rfl⟩ | ⟨clock, work, assessed, -⟩⟩ :=
    exists_of_takes_receive takes
  · refine ⟨consulted, reply, rfl, Topology.consultation_of_takes_assess assessed, ?_⟩
    generalize hadmission : Admission.answer reply = admission at assessed
    cases Topology.takes_assess assessed with
    | rejected undecoded => exact absurd (decoded.symm.trans undecoded) nofun
    | denied _ refused =>
      obtain rfl := Admission.answer.inj hadmission
      apply Prepared.refused
      have hpermission := isStage_eq_false_of_takes_permitted refused
      simpa [Query.isStage, or_imp, forall_and] using hpermission
    | @permitted _ permission _ _ found granted assessed =>
      obtain rfl := Except.ok.inj (decoded.symm.trans found)
      have hpermission := isStage_eq_false_of_takes_permitted granted
      cases Topology.takes_assessDescribeRates assessed with
      | refused unstaged =>
        obtain rfl := Admission.answer.inj hadmission
        exact .refused (List.forall_mem_append.2 ⟨hpermission, unstaged⟩)
      | @described agent _ _ _ _ _ _ _ _ described written =>
        subst hadmission
        have hfront : ∀ exchange ∈ permission ++ [⟨.agentOf service, .ok agent⟩],
            exchange.query.isStage = false :=
          List.forall_mem_append.2 ⟨hpermission, by simp [Query.isStage]⟩
        have prepared := prepared_of_written hfront described written
        rwa [List.append_assoc] at prepared
  · obtain ⟨request, _, _, _, found, _, _, passes, _⟩ := Topology.takes_assess_accept assessed
    obtain rfl := Except.ok.inj (decoded.symm.trans found)
    cases passes

/-- The page as the hardware has described it is what is sent, and nothing else: its fields stand in
the bits of one word, and no byte depends on what has been staged before. -/
structure Conveys (service : ServiceId) (start : UInt32) (consulted : History) (reply : Reply)
    (page : RatePage) : Prop where
  described : ∃ limit device range reads, limit? service (exchanges consulted) = some limit ∧
    ⟨.rateRange device, .ok range⟩ ∈ consulted ∧ reads <:+: consulted ∧
    (RatePage.describe range start (RatePage.capacity limit)
      fun index => Dialogue.call (.rateAt device index)).Takes reads (.ok page)
  reply_eq : reply = .staged (RatePage.headerSize + page.entriesSize)
  text_eq : ∀ previous : Staging, reply.text (previous.after service consulted) =
    Word.toBytes Status.success.toWord ++ Word.toBytes page.countsWord ++
      page.rates.flatMap fun (rate : UInt64) =>
        Word.toBytes rate.toUInt32 ++ Word.toBytes (rate >>> 32).toUInt32
  remaining_eq : page.countsWord >>> 16 = page.remaining
  format_eq : (page.countsWord >>> 12) &&& 0xF = page.format.toWord
  returned_eq : page.countsWord &&& 0xFFF = page.returned
  /-- The number of entries, or one for a range, has not been cut to fit a word. -/
  toNat_returned : page.returned.toNat = page.entryCount

namespace Prepared

variable (prepared : Prepared service start consulted reply)
include prepared

theorem within (consults : Consultation consulted) (sent : Except TransportError Unit) :
    (∀ exchange ∈ consulted, exchange.Within service (limit? service (exchanges consulted))) ∧
      Exchange.Within service (limit? service (exchanges consulted))
        ⟨.respond service reply, sent⟩ := by
  cases prepared with
  | refused unstaged =>
    refine ⟨?_, trivial⟩
    intro exchange hmem
    exact Exchange.within_of_unstaged (consults exchange hmem) (unstaged exchange hmem)
  | written unstaged stated _ _ described written =>
    have hfits := (RatePage.fits_of_takes_describe described).size_le
    obtain ⟨hasked, -⟩ := List.forall_mem_append.1 consults
    rw [written.limit?_append, stated]
    refine ⟨List.forall_mem_append.2 ⟨?_, written.within hfits⟩, ?_⟩
    · intro exchange hmem
      exact Exchange.within_of_unstaged (hasked exchange hmem) (unstaged exchange hmem)
    · rcases written.complete_or_failed with ⟨-, rfl⟩ | ⟨-, rfl⟩
      · exact ⟨rfl, _, rfl, hfits⟩
      · exact trivial

theorem eq_bytes_of_failed {channel : ServiceId} {offset : Nat} {bytes : Bytes}
    {error : TransportError}
    (failed : ⟨.stage channel offset bytes, .error error⟩ ∈ consulted) :
    reply = .bytes (Word.toBytes Status.genericError.toWord) := by
  cases prepared with
  | refused unstaged => simpa [Query.isStage] using unstaged _ failed
  | written unstaged _ _ _ _ written =>
    rcases written.complete_or_failed with ⟨rfl, -⟩ | ⟨-, rfl⟩
    · rcases List.mem_append.1 failed with hasked | hwrite
      · simpa [Query.isStage] using unstaged _ hasked
      · cases RatePage.eq_ok_of_mem_writes hwrite
    · rfl

theorem exists_conveys (staged : ∃ exchange ∈ consulted, exchange.query.isStage)
    (succeeded : ∀ channel offset bytes written,
      ⟨.stage channel offset bytes, written⟩ ∈ consulted → written = .ok ()) :
    ∃ page, Conveys service start consulted reply page := by
  cases prepared with
  | refused unstaged =>
    obtain ⟨exchange, hmem, hstage⟩ := staged
    simp [unstaged exchange hmem] at hstage
  | @written asked _ _ _ _ _ page _ unstaged stated reported read described written =>
    obtain ⟨rfl, rfl⟩ | ⟨⟨offset, bytes, error, hfailed⟩, -⟩ := written.complete_or_failed
    · obtain ⟨fits, remaining_le⟩ := RatePage.fits_and_remaining_le_of_takes_describe described
      obtain ⟨hcount, hcounted⟩ := fits.toNat_returned
      obtain ⟨hremaining, hformat, hreturned⟩ :=
        RatePage.countsWord_fields (hcount.trans_le hcounted) remaining_le
      refine ⟨page, ⟨_, _, _, _, (written.limit?_append asked).trans stated,
        List.mem_append_left _ reported, read.trans (List.prefix_append _ _).isInfix,
        described⟩, rfl, ?_, hremaining, hformat, hreturned, hcount⟩
      intro previous
      rw [Reply.text, Staging.after_append, Staging.after_of_unstaged unstaged,
        RatePage.take_after_writes]
      rfl
    · have hmade := succeeded _ _ _ _ (List.mem_append_right asked hfailed)
      simp at hmade

end Prepared

/-- Whatever the hardware reports and whatever has been staged before, a request for rates stages
and sends nothing that ends beyond the size that the transport has stated. If a write fails, then the
only reply is that something went wrong; if none fails, then it is the page and nothing else. -/
theorem pages_fit_and_decode {index : UInt32}
    (decoded : Request.decodeRaw raw payload = .ok (.describeRates index start))
    (takes : (platform.receive service raw payload).Takes history (sent, after)) :
    (∀ exchange ∈ history, exchange.Within service (limit? service (exchanges history))) ∧
      (∀ channel offset bytes error, ⟨.stage channel offset bytes, .error error⟩ ∈ history →
        replies history = [(service, .bytes (Word.toBytes Status.genericError.toWord))]) ∧
      ((∃ exchange ∈ history, exchange.query.isStage) →
        (∀ channel offset bytes written,
          ⟨.stage channel offset bytes, written⟩ ∈ history → written = .ok ()) →
        ∃ consulted reply page, history = consulted ++ [⟨.respond service reply, sent⟩] ∧
          replies history = [(service, reply)] ∧ Conveys service start consulted reply page) := by
  obtain ⟨consulted, reply, rfl, consults, prepared⟩ := exists_prepared decoded takes
  have hreplies : replies (consulted ++ [⟨.respond service reply, sent⟩]) = [(service, reply)] := by
    rw [replies_append, replies_of_consultation consults]
    rfl
  have hlimit : limit? service (exchanges (consulted ++ [⟨.respond service reply, sent⟩])) =
      limit? service (exchanges consulted) := by
    rw [exchanges_append]
    exact limit?_append_of_unstated (by simp [exchanges, Event.limit?, Exchange.limit?]) _
  refine ⟨?_, ?_, ?_⟩
  · obtain ⟨hconsulted, hreply⟩ := prepared.within consults sent
    rw [hlimit, List.forall_mem_append]
    exact ⟨hconsulted, by simpa using hreply⟩
  · intro channel offset bytes error hmem
    rcases List.mem_append.1 hmem with hconsulted | hlast
    · rw [hreplies, prepared.eq_bytes_of_failed hconsulted]
    · cases List.mem_singleton.1 hlast
  · intro staged succeeded
    have hstaged : ∃ exchange ∈ consulted, exchange.query.isStage := by
      obtain ⟨exchange, hmem, hstage⟩ := staged
      rcases List.mem_append.1 hmem with hconsulted | hlast
      · exact ⟨exchange, hconsulted, hstage⟩
      · cases List.mem_singleton.1 hlast
        simp [Query.isStage] at hstage
    obtain ⟨page, conveys⟩ := prepared.exists_conveys hstaged
      fun channel offset bytes written hmem =>
        succeeded channel offset bytes written (List.mem_append_left _ hmem)
    exact ⟨consulted, reply, page, rfl, hreplies, conveys⟩

open Bench in
/-- The two rates of the GPU are described in 24 bytes, whatever its channel has held before. When
the first write fails instead, only that is said. -/
theorem pages_fit_and_decode_sample :
    let answered (world : World) :=
      (ratedSession.platform.receive ⟨11⟩ 4 (Request.describeRates 0 0).payload).trace
        World.answer world
    let written := (answered ratedSession.world).1
    let failed := (answered (ratedSession.world.change (.failWrite 1))).1
    (∃ consulted page, written = consulted ++ [⟨.respond ⟨11⟩ (.staged 24), .ok ()⟩] ∧
        Conveys ⟨11⟩ 0 consulted (.staged 24) page) ∧
      replies failed = [(⟨11⟩, .bytes (Word.toBytes Status.genericError.toWord))] := by
  intro answered written failed
  have takes (world : World) :
      (ratedSession.platform.receive ⟨11⟩ 4 (Request.describeRates 0 0).payload).Takes
        (answered world).1 ((answered world).2.1.1, (answered world).2.1.2) :=
    Dialogue.takes_trace ..
  have decoded : Request.decodeRaw 4 (Request.describeRates 0 0).payload =
      .ok (.describeRates 0 0) := rfl
  let page : RatePage := ⟨.list, [5, 7], 0⟩
  constructor
  · have hwritten : written = written.take 7 ++
        (page.writes ⟨11⟩ ++ [⟨.respond ⟨11⟩ (.staged 24), .ok ()⟩]) := rfl
    have hunstaged : (written.take 7).all (fun exchange => !exchange.query.isStage) := rfl
    have staged : ∃ exchange ∈ written, exchange.query.isStage := by
      rw [hwritten]
      exact ⟨_, List.mem_append_right _ List.mem_cons_self, rfl⟩
    have succeeded : ∀ channel offset bytes made,
        ⟨.stage channel offset bytes, made⟩ ∈ written → made = .ok () := by
      intro channel offset bytes made hmem
      rw [hwritten, List.mem_append] at hmem
      rcases hmem with hasked | hlater
      · simpa [Query.isStage] using List.all_eq_true.1 hunstaged _ hasked
      · rcases List.mem_append.1 hlater with hwrite | hlast
        · exact RatePage.eq_ok_of_mem_writes hwrite
        · cases List.mem_singleton.1 hlast
    obtain ⟨-, -, conveyed⟩ := pages_fit_and_decode decoded (takes ratedSession.world)
    obtain ⟨consulted, reply, described, hsplit, hreplies, conveys⟩ := conveyed staged succeeded
    have hreply : replies written = [(⟨11⟩, .staged 24)] := rfl
    cases hreplies.symm.trans hreply
    exact ⟨consulted, described, hsplit, conveys⟩
  · obtain ⟨-, fails, -⟩ :=
      pages_fit_and_decode decoded (takes (ratedSession.world.change (.failWrite 1)))
    have hfailed : failed = failed.take 7 ++
        ⟨.stage ⟨11⟩ 8 page.entries, .error (.outOfBounds 8 16)⟩ :: failed.drop 8 := rfl
    apply fails ⟨11⟩ 8 page.entries (.outOfBounds 8 16)
    show _ ∈ failed
    rw [hfailed]
    exact List.mem_append_right _ List.mem_cons_self

end Platform
end ClockManager
