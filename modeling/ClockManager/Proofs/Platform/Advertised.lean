import ClockManager.Proofs.Frame
import ClockManager.Proofs.Platform.Contention
import ClockManager.Proofs.Word
/-!
# The clocks that are advertised

An agent is told how many clocks it has, in 16 bits of a word, and numbers its clocks from zero. For
a view that fits into 16 bits the clocks it can name are those below the number that it is told. The
number told of a larger view is too small, down to none at all for a view of 65536 clocks.
-/

namespace ClockManager

/-! ### The fields of the word -/

/-- Bits 15:0, the number of clocks. -/
def advertisedCount (word : UInt32) : Nat := word.toNat % 2 ^ 16

/-- Bits 23:16, the pending limit. -/
def advertisedPending (word : UInt32) : Nat := word.toNat / 2 ^ 16 % 2 ^ 8

/-- Bits 31:24, which stand for nothing. -/
def reservedBits (word : UInt32) : Nat := word.toNat / 2 ^ 24

section Fields

variable {maxPending : UInt8} {clockCount : Nat}

theorem Frame.toNat_protocolAttributesWord :
    (protocolAttributesWord maxPending clockCount).toNat =
      clockCount % 2 ^ 16 + 2 ^ 16 * maxPending.toNat := by
  have hpending := maxPending.toNat_lt
  have hcount : (UInt32.ofNat clockCount &&& 0xFFFF).toNat = clockCount % 2 ^ 16 := by
    have hmask : (0xFFFF : UInt32).toNat = 2 ^ 16 - 1 := rfl
    rw [UInt32.toNat_and, hmask, Nat.and_two_pow_sub_one_eq_mod, UInt32.toNat_ofNat']
    exact Nat.mod_mod_of_dvd _ ⟨2 ^ 16, rfl⟩
  rw [protocolAttributesWord, UInt32.or_comm, ← hcount]
  refine Word.toNat_or_shiftLeft (by decide) ?_ ?_
  · rw [hcount]
    exact Nat.mod_lt _ (by decide)
  · simp [UInt32.size]
    omega

theorem advertisedCount_protocolAttributesWord :
    advertisedCount (Frame.protocolAttributesWord maxPending clockCount) =
      clockCount % 2 ^ 16 := by
  rw [advertisedCount, Frame.toNat_protocolAttributesWord]
  omega

theorem advertisedPending_protocolAttributesWord :
    advertisedPending (Frame.protocolAttributesWord maxPending clockCount) =
      maxPending.toNat := by
  have hpending := maxPending.toNat_lt
  rw [advertisedPending, Frame.toNat_protocolAttributesWord]
  omega

theorem reservedBits_protocolAttributesWord :
    reservedBits (Frame.protocolAttributesWord maxPending clockCount) = 0 := by
  have hpending := maxPending.toNat_lt
  rw [reservedBits, Frame.toNat_protocolAttributesWord]
  omega

end Fields

/-! ### The clocks that can be named -/

namespace Topology

variable {topology : Topology} {agent : AgentId} {view : AgentView} {index : UInt32}
  {service : ServiceId} {consulted : History} {admission : Admission}

def Addressable (topology : Topology) (agent : AgentId) (index : UInt32) : Prop :=
  ∃ clock, topology.resolveClock (.ok agent) index = .ok clock

theorem addressable_iff (configured : topology.agent? agent = some view) :
    topology.Addressable agent index ↔ index.toNat < view.clockCount := by
  simp only [Addressable, resolveClock, resolveAgent, configured]
  cases hclock : view.clock? index with
  | none =>
    refine iff_of_false nofun ?_
    exact Nat.not_lt.2 (List.getElem?_eq_none_iff.1 hclock)
  | some record => exact iff_of_true ⟨_, rfl⟩ (List.getElem?_eq_some_iff.1 hclock).1

/-- A number of at most 16 bits that is cut to 16 bits stays as it is, and a larger one does not. -/
theorem addressable_iff_lt_mod_iff (configured : topology.agent? agent = some view) :
    (∀ index, topology.Addressable agent index ↔ index.toNat < view.clockCount % 2 ^ 16) ↔
      view.clockCount < 2 ^ 16 := by
  constructor
  · intro h
    by_contra hlarge
    have hcut := Nat.mod_lt view.clockCount (by decide : 2 ^ 16 > 0)
    -- The first clock that is not advertised is still a clock.
    have hindex : (UInt32.ofNat (view.clockCount % 2 ^ 16)).toNat = view.clockCount % 2 ^ 16 :=
      UInt32.toNat_ofNat_of_lt' (hcut.trans (by decide))
    have hclock := h (.ofNat (view.clockCount % 2 ^ 16))
    rw [addressable_iff configured, hindex] at hclock
    exact Nat.lt_irrefl _ (hclock.1 (hcut.trans_le (Nat.not_lt.1 hlarge)))
  · intro hsmall index
    rw [Nat.mod_eq_of_lt hsmall, addressable_iff configured]

/-! ### The answer -/

theorem takes_assessProtocolAttributes (configured : topology.agent? agent = some view)
    (vouched : Vouched agent consulted)
    (takes : (topology.assessProtocolAttributes service).Takes consulted admission) :
    admission = .frame (.protocolAttributes topology.maxPending view.clockCount) := by
  unfold assessProtocolAttributes at takes
  rw [Dialogue.takes_call_bind] at takes
  obtain ⟨owner, rest, rfl, takes⟩ := takes
  cases vouched.eq_ok
  rw [resolveAgent, configured] at takes
  exact (Dialogue.takes_pure.1 takes).2.symm

end Topology

namespace Platform

variable {before after : Platform} {service : ServiceId} {agent : AgentId} {view : AgentView}
  {history : History} {sent : Except TransportError Unit}

/-- The word that an agent is sent on asking for the attributes of the protocol. -/
def advertisement (platform : Platform) (view : AgentView) : UInt32 :=
  Frame.protocolAttributesWord platform.topology.maxPending view.clockCount

theorem replies_protocolAttributes (configured : before.topology.agent? agent = some view)
    (vouched : Vouched agent history)
    (takes : (before.receive service Message.protocolAttributes.raw
      Request.protocolAttributes.payload).Takes history (sent, after)) :
    replies history = [(service, .bytes (Word.toBytes Status.success.toWord ++
        Word.toBytes (before.advertisement view)))] ∧ after = before := by
  have hassessed {consulted last : History} {admission : Admission}
      (heq : history = consulted ++ last)
      (assessed : (before.topology.assess service Message.protocolAttributes.raw
        Request.protocolAttributes.payload).Takes consulted admission) :
      admission =
        .frame (.protocolAttributes before.topology.maxPending view.clockCount) := by
    rw [heq, vouched_append] at vouched
    obtain ⟨permission, rest, rfl, -, hrest⟩ :=
      Topology.takes_assess_of_vouched rfl vouched.1 assessed
    exact Topology.takes_assessProtocolAttributes configured (vouched_append.1 vouched.1).2 hrest
  obtain ⟨consulted, last, heq, answered | accepted⟩ := exists_of_takes_receive takes
  · obtain ⟨reply, assessed, rfl, rfl⟩ := answered
    obtain ⟨rfl⟩ := Admission.answer.inj (hassessed heq assessed)
    refine ⟨?_, rfl⟩
    rw [heq, replies_append,
      replies_of_consultation (Topology.consultation_of_takes_assess assessed),
      Frame.bytes_eq_layout]
    rfl
  · obtain ⟨clock, work, assessed, -⟩ := accepted
    exact absurd (hassessed heq assessed) nofun

/-- An agent that may use the protocol is told the pending limit and how many clocks it has, and
the platform stays as it is. Each clock below that number can be named; and if the agent has fewer
than 65536 clocks, and only then, no other clock can. -/
theorem advertises_addressable (configured : before.topology.agent? agent = some view)
    (vouched : Vouched agent history)
    (takes : (before.receive service Message.protocolAttributes.raw
      Request.protocolAttributes.payload).Takes history (sent, after)) :
    ∃ word, replies history = [(service, .bytes (Word.toBytes Status.success.toWord ++
        Word.toBytes word))] ∧ after = before ∧
      reservedBits word = 0 ∧ advertisedPending word = before.topology.maxPending.toNat ∧
      (∀ index : UInt32, index.toNat < advertisedCount word →
        before.topology.Addressable agent index) ∧
      ((∀ index : UInt32, before.topology.Addressable agent index ↔
          index.toNat < advertisedCount word) ↔
        view.clockCount < 2 ^ 16) := by
  obtain ⟨hreplies, hafter⟩ := replies_protocolAttributes configured vouched takes
  refine ⟨_, hreplies, hafter, reservedBits_protocolAttributesWord,
    advertisedPending_protocolAttributesWord, ?_, ?_⟩
  · intro index hindex
    rw [advertisement, advertisedCount_protocolAttributesWord] at hindex
    exact (Topology.addressable_iff configured).2 (hindex.trans_le (Nat.mod_le ..))
  · rw [advertisement, advertisedCount_protocolAttributesWord]
    exact Topology.addressable_iff_lt_mod_iff configured

section Sample

open Bench

/-- The second agent is told that it has two clocks, and has no third one. -/
theorem advertises_addressable_sample :
    let path := (sampleSession.platform.receive ⟨11⟩ Message.protocolAttributes.raw
      Request.protocolAttributes.payload).trace World.answer sampleSession.world
    ∃ word, replies path.1 = [(⟨11⟩, .bytes (Word.toBytes Status.success.toWord ++
        Word.toBytes word))] ∧ advertisedPending word = 2 ∧
      ∀ index : UInt32, sampleTopology.Addressable ⟨1⟩ index ↔
        index.toNat < advertisedCount word := by
  intro path
  obtain ⟨word, hreplies, -, -, hpending, -, haddressable⟩ := advertises_addressable
    (rfl : sampleTopology.agent? ⟨1⟩ = some ⟨"OSPM", [⟨⟨1⟩, false⟩, ⟨⟨0⟩, false⟩]⟩)
    (⟨by decide, by decide⟩ : Vouched ⟨1⟩ path.1) (Dialogue.takes_trace World.answer _ _)
  exact ⟨word, hreplies, hpending, haddressable.2 (by decide)⟩

/-- One clock more than 16 bits can count. -/
def wideView : AgentView := ⟨"PSCI", List.replicate (2 ^ 16) ⟨⟨0⟩, false⟩⟩

theorem clockCount_wideView : wideView.clockCount = 2 ^ 16 := List.length_replicate

def wideTopology : Topology where
  maxPending := 2
  devices := ["GPU"]
  agents := [wideView]
  agents_ne := List.cons_ne_nil _ _
  devices_ne := by decide
  names_fit := by decide
  devices_known := by
    intro view hview clock hclock
    rw [List.mem_singleton.1 hview] at hclock
    rw [List.eq_of_mem_replicate hclock]
    decide

def wideHistory : History :=
  [⟨.agentOf ⟨10⟩, .ok ⟨0⟩⟩, ⟨.allowsProtocol ⟨0⟩ protocolId, true⟩, ⟨.agentOf ⟨10⟩, .ok ⟨0⟩⟩,
    ⟨.respond ⟨10⟩ (.bytes (Frame.protocolAttributes 2 wideView.clockCount).bytes), .ok ()⟩]

/-- The agent of the wide view is told that it has no clocks, and it has 65536. -/
theorem not_advertised_wide :
    ((Platform.start wideTopology).receive ⟨10⟩ Message.protocolAttributes.raw
        Request.protocolAttributes.payload).Takes wideHistory (.ok (), .start wideTopology) ∧
      Vouched ⟨0⟩ wideHistory ∧
      replies wideHistory = [(⟨10⟩, .bytes (Word.toBytes Status.success.toWord ++
        Word.toBytes 0x20000))] ∧
      advertisedCount 0x20000 = 0 ∧
      ∀ index : UInt32, wideTopology.Addressable ⟨0⟩ index ↔ index.toNat < 2 ^ 16 := by
  have configured : wideTopology.agent? ⟨0⟩ = some wideView := rfl
  have takes : ((Platform.start wideTopology).receive ⟨10⟩ Message.protocolAttributes.raw
      Request.protocolAttributes.payload).Takes wideHistory (.ok (), .start wideTopology) :=
    ⟨_, _, rfl, _, _, rfl, _, _, rfl, _, _, rfl, rfl, rfl⟩
  have vouched : Vouched ⟨0⟩ wideHistory := by
    refine ⟨?_, ?_⟩ <;> simp [wideHistory, owners, Exchange.owner?, Exchange.isDenial]
  obtain ⟨hreplies, -⟩ := replies_protocolAttributes configured vouched takes
  have hword : (Platform.start wideTopology).advertisement wideView = 0x20000 := by
    rw [advertisement, clockCount_wideView]
    rfl
  rw [hword] at hreplies
  refine ⟨takes, vouched, hreplies, rfl, fun index => ?_⟩
  rw [Topology.addressable_iff configured, clockCount_wideView]

end Sample

end Platform
end ClockManager
