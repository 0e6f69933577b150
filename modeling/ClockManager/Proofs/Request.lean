import ClockManager.Proofs.Word
import ClockManager.Request
import Mathlib.Data.Set.Function
/-!
# Requests on the wire

A request travels as its words. The number of its message fixes how many there are, and all of them
are fields of the request, so nothing is lost in either direction: what is sent for a request is
decoded as that request, and a payload that is decoded is what would be sent for the result.
-/

namespace ClockManager

namespace Message

theorem raw_of_ofRaw? {raw : UInt32} {message : Message} (h : ofRaw? raw = some message) :
    message.raw = raw := by
  have hplaces : ∀ place : Fin all.length, (all.get place).raw = UInt32.ofNat place := by decide
  obtain ⟨hlt, rfl⟩ := List.getElem?_eq_some_iff.1 h
  exact (hplaces ⟨raw.toNat, hlt⟩).trans UInt32.ofNat_toNat

theorem raw_injective : Function.Injective raw := by
  intro message other h
  have hsome := congrArg ofRaw? h
  rw [ofRaw?_raw, ofRaw?_raw] at hsome
  exact Option.some.inj hsome

/-- The numbers of the messages are those up to seven. -/
theorem ofRaw?_isSome_iff {raw : UInt32} : (ofRaw? raw).isSome ↔ raw ≤ 7 := by
  have hlength : all.length = 8 := rfl
  rw [ofRaw?, isSome_getElem?, hlength, UInt32.le_iff_toNat_le]
  exact Nat.lt_succ_iff

/-- Words in the request payload. -/
def wordCount : Message → Nat
  | protocolVersion => 0
  | protocolAttributes => 0
  | protocolMessageAttributes => 1
  | clockAttributes => 1
  | describeRates => 2
  | rateSet => 4
  | rateGet => 1
  | configSet => 2

theorem payloadSize_eq (message : Message) :
    message.payloadSize = Word.size * message.wordCount := by
  cases message <;> rfl

end Message

namespace Request

theorem length_payload (request : Request) :
    request.payload.length = request.message.payloadSize := by
  have hlength : request.payload.length = request.words.length * Word.size := by
    simp only [payload, List.length_flatMap, Word.length_toBytes, List.map_const',
      List.sum_replicate_nat]
  rw [hlength]
  cases request <;> rfl

theorem ofWords?_words (request : Request) :
    ofWords? (fun index => request.words[index]?) request.message = some request := by
  cases request with
  | rateSet flags clock rate =>
    have hrate := congrArg (fun value => some (rateSet flags clock value)) (Word.join_split rate)
    exact hrate
  | _ => rfl

/-- As many words as a message takes are the words of a request of that message. -/
theorem exists_request (message : Message) (words : List UInt32)
    (h : words.length = message.wordCount) :
    ∃ request : Request, request.message = message ∧ request.words = words :=
  match message, words, h with
  | .protocolVersion, [], _ => ⟨.protocolVersion, rfl, rfl⟩
  | .protocolAttributes, [], _ => ⟨.protocolAttributes, rfl, rfl⟩
  | .protocolMessageAttributes, [message], _ => ⟨.protocolMessageAttributes message, rfl, rfl⟩
  | .clockAttributes, [clock], _ => ⟨.clockAttributes clock, rfl, rfl⟩
  | .describeRates, [clock, rateIndex], _ => ⟨.describeRates clock rateIndex, rfl, rfl⟩
  | .rateSet, [flags, clock, low, high], _ =>
    ⟨.rateSet flags clock (Word.join low high), rfl, by rw [Request.words, Word.split_join]⟩
  | .rateGet, [clock], _ => ⟨.rateGet clock, rfl, rfl⟩
  | .configSet, [clock, attributes], _ => ⟨.configSet clock attributes, rfl, rfl⟩

theorem decode_payload (request : Request) :
    decode request.message request.payload = .ok request := by
  have hread : Word.read? request.payload = fun index => request.words[index]? :=
    funext (Word.read?_flatMap_toBytes request.words)
  rw [decode, if_pos request.length_payload, hread, ofWords?_words]
  rfl

/-- A payload of the size of a message is what is sent for a request of that message. -/
theorem exists_payload_eq {message : Message} {payload : Bytes}
    (h : payload.length = message.payloadSize) :
    ∃ request : Request, request.message = message ∧ request.payload = payload := by
  rw [Message.payloadSize_eq] at h
  obtain ⟨words, hcount, hpayload⟩ := Word.exists_words h
  obtain ⟨request, hmessage, hwords⟩ := exists_request message words hcount
  exact ⟨request, hmessage, by rw [Request.payload, hwords, hpayload]⟩

theorem decode_of_length_ne {message : Message} {payload : Bytes}
    (h : payload.length ≠ message.payloadSize) :
    decode message payload = .error (.payloadSize message.payloadSize payload.length) := by
  rw [decode, if_neg h]

/-- Nothing is lost: a payload that is decoded is what is sent for the result. -/
theorem decode_eq_ok_iff {message : Message} {payload : Bytes} {request : Request} :
    decode message payload = .ok request ↔
      request.message = message ∧ request.payload = payload := by
  constructor
  · intro h
    by_cases hlength : payload.length = message.payloadSize
    · obtain ⟨found, rfl, rfl⟩ := exists_payload_eq hlength
      rw [decode_payload] at h
      cases h
      exact ⟨rfl, rfl⟩
    · rw [decode_of_length_ne hlength] at h
      cases h
  · rintro ⟨rfl, rfl⟩
    exact decode_payload request

/-! ### By number -/

variable {raw : UInt32} {payload : Bytes} {request : Request}

theorem decodeRaw_raw (message : Message) (payload : Bytes) :
    decodeRaw message.raw payload = decode message payload := by
  rw [decodeRaw, Message.ofRaw?_raw]

theorem decodeRaw_of_unknown (h : ¬ raw ≤ 7) (payload : Bytes) :
    decodeRaw raw payload = .error (.unknownMessage raw) := by
  rw [← Message.ofRaw?_isSome_iff, Option.not_isSome_iff_eq_none] at h
  rw [decodeRaw, h]

theorem decodeRaw_eq_ok_iff : decodeRaw raw payload = .ok request ↔
    request.message.raw = raw ∧ request.payload = payload := by
  constructor
  · intro h
    unfold decodeRaw at h
    split at h
    · rename_i message hmessage
      obtain ⟨rfl, hpayload⟩ := decode_eq_ok_iff.1 h
      exact ⟨Message.raw_of_ofRaw? hmessage, hpayload⟩
    · cases h
  · rintro ⟨rfl, rfl⟩
    rw [decodeRaw_raw, decode_payload]

theorem decodeRaw_payload (request : Request) :
    decodeRaw request.message.raw request.payload = .ok request :=
  decodeRaw_eq_ok_iff.2 ⟨rfl, rfl⟩

theorem message_raw_of_decodeRaw (h : decodeRaw raw payload = .ok request) :
    request.message.raw = raw :=
  (decodeRaw_eq_ok_iff.1 h).1

/-- The message that a number and a payload are for: the number is known, and the payload is of the
message's size. -/
def identify (raw : UInt32) (payload : Bytes) : Except DecodeError Message :=
  match Message.ofRaw? raw with
  | none => .error (.unknownMessage raw)
  | some message =>
    if payload.length = message.payloadSize then .ok message
    else .error (.payloadSize message.payloadSize payload.length)

/-- The size is checked once more when the payload is read, to no effect. -/
theorem identify_bind_decode (raw : UInt32) (payload : Bytes) :
    (identify raw payload >>= fun message => decode message payload) = decodeRaw raw payload := by
  unfold identify decodeRaw
  cases Message.ofRaw? raw with
  | none => rfl
  | some message =>
    dsimp only
    by_cases h : payload.length = message.payloadSize
    · rw [if_pos h]
      rfl
    · rw [if_neg h, decode_of_length_ne h]
      rfl

/-- Decoding succeeds exactly for known numbers with payloads of the right size. -/
theorem exists_decodeRaw_iff : (∃ request, decodeRaw raw payload = .ok request) ↔
    raw ≤ 7 ∧ ∀ message : Message, message.raw = raw → payload.length = message.payloadSize := by
  constructor
  · rintro ⟨request, h⟩
    obtain ⟨rfl, rfl⟩ := decodeRaw_eq_ok_iff.1 h
    refine ⟨?_, fun message hraw => ?_⟩
    · rw [← Message.ofRaw?_isSome_iff, Message.ofRaw?_raw]
      rfl
    · rw [length_payload, Message.raw_injective hraw]
  · rintro ⟨hle, hlength⟩
    obtain ⟨message, hmessage⟩ := Option.isSome_iff_exists.1 (Message.ofRaw?_isSome_iff.2 hle)
    have hraw := Message.raw_of_ofRaw? hmessage
    obtain ⟨request, rfl, rfl⟩ := exists_payload_eq (hlength message hraw)
    exact ⟨request, decodeRaw_eq_ok_iff.2 ⟨hraw, rfl⟩⟩

/-- The payloads of a message and its requests correspond one to one. -/
theorem bijOn_decodeRaw (message : Message) : Set.BijOn (decodeRaw message.raw)
    {payload | payload.length = message.payloadSize}
    (Except.ok '' {request | request.message = message}) := by
  refine ⟨fun payload hlength => ?_, fun payload hlength other hother h => ?_, ?_⟩
  · obtain ⟨request, rfl, rfl⟩ := exists_payload_eq hlength
    exact ⟨request, rfl, (decodeRaw_payload request).symm⟩
  · obtain ⟨request, rfl, rfl⟩ := exists_payload_eq hlength
    rw [decodeRaw_payload] at h
    exact (decodeRaw_eq_ok_iff.1 h.symm).2
  · rintro _ ⟨request, rfl, rfl⟩
    exact ⟨request.payload, request.length_payload, decodeRaw_payload request⟩

/-- A number and a payload are decoded exactly if the number is that of a message, which those up to
seven are, and the payload is of that message's size. Otherwise the error says which of the two is
wrong, the number first. What is sent for a request is decoded as the request, and a payload that is
decoded is what is sent for the result; so for each message its payloads and its requests correspond
one to one. -/
theorem codec_exact :
    (∀ raw payload, (identify raw payload >>= fun message => decode message payload) =
      decodeRaw raw payload) ∧
    (∀ raw payload, (∃ request, decodeRaw raw payload = .ok request) ↔
      raw ≤ 7 ∧ ∀ message : Message, message.raw = raw → payload.length = message.payloadSize) ∧
    (∀ raw, ¬ raw ≤ 7 → ∀ payload, decodeRaw raw payload = .error (.unknownMessage raw)) ∧
    (∀ (message : Message) (payload : Bytes), payload.length ≠ message.payloadSize →
      decodeRaw message.raw payload =
        .error (.payloadSize message.payloadSize payload.length)) ∧
    (∀ request, decodeRaw request.message.raw request.payload = .ok request) ∧
    (∀ raw payload request, decodeRaw raw payload = .ok request →
      request.message.raw = raw ∧ request.payload = payload) ∧
    ∀ message : Message, Set.BijOn (decodeRaw message.raw)
      {payload | payload.length = message.payloadSize}
      (Except.ok '' {request | request.message = message}) := by
  refine ⟨identify_bind_decode, fun _ _ => exists_decodeRaw_iff, fun _ => decodeRaw_of_unknown,
    fun message payload hlength => ?_, decodeRaw_payload, fun _ _ _ => decodeRaw_eq_ok_iff.1,
    bijOn_decodeRaw⟩
  rw [decodeRaw_raw, decode_of_length_ne hlength]

/-- A rate travels with its low word first; four bytes less are no request of any kind. -/
theorem codec_exact_sample :
    decodeRaw 5 [4, 0, 0, 0, 7, 0, 0, 0, 0, 0, 0, 0x80, 2, 0, 0, 0] =
        .ok (.rateSet 4 7 0x280000000) ∧
      decodeRaw 5 [4, 0, 0, 0, 7, 0, 0, 0, 0, 0, 0, 0x80] = .error (.payloadSize 16 12) ∧
      decodeRaw 8 [] = .error (.unknownMessage 8) := by
  obtain ⟨-, -, hunknown, hlength, hdecodes, -, -⟩ := codec_exact
  have hpayload : (Request.rateSet 4 7 0x280000000).payload =
      [4, 0, 0, 0, 7, 0, 0, 0, 0, 0, 0, 0x80, 2, 0, 0, 0] := by decide
  have hrateSet := hdecodes (.rateSet 4 7 0x280000000)
  rw [hpayload] at hrateSet
  exact ⟨hrateSet, hlength .rateSet _ (by decide), hunknown 8 (by decide) []⟩

end Request
end ClockManager
