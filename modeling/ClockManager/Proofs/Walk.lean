import ClockManager.Proofs.Bench
import ClockManager.Proofs.Listing
/-!
# Walks along a list of rates

A client reads a list page by page. It asks from the index zero, adds the count of each page to its
index, and goes on until no rates remain. The size of a payload may change from one request to the
next; the list that it has read in the end does not depend on that.

A page can say that up to 65535 rates are left. Whether there is a page only depends on the first
payload: behind a page that could be told, all that is left can be counted.
-/

namespace ClockManager

theorem RatePage.capacity_ne_zero {limit : Nat} (h : headerSize + entrySize ≤ limit) :
    RatePage.capacity limit ≠ 0 :=
  Nat.pos_iff_ne_zero.1 (Nat.div_pos (Nat.le_sub_of_add_le' h) (by decide))

namespace Listing

variable {listing : Listing} {limit n : Nat} {limits : Nat → Nat} {start : UInt32}
  {history : History} {text : Bytes} {read : List UInt64}

/-! ### One page -/

/-- The rates that are left behind the page from an index on. -/
def leftBehind (listing : Listing) (limit start : Nat) : Nat :=
  RatePage.leftAfter (listing.rates.length - start) (RatePage.capacity limit)

def telling (listing : Listing) (limit start : Nat) : Telling :=
  let page := listing.page limit start
  ⟨Status.success.toWord, page.countsWord, page.rates⟩

theorem length_rates_page (start : Nat) : (listing.page limit start).rates.length =
    RatePage.pageLength (listing.rates.length - start) (RatePage.capacity limit) := by
  rw [page, List.length_take, List.length_drop]
  exact Nat.min_eq_left (Nat.min_le_left ..)

theorem counted_page (start : Nat) :
    (listing.page limit start).rates.length ≤ RatePage.countLimit := by
  rw [length_rates_page]
  exact Nat.le_trans (Nat.min_le_right ..) (Nat.min_le_right ..)

section Told

variable (fits : listing.leftBehind limit start.toNat ≤ RatePage.remainingLimit.toNat)
include fits

theorem toNat_remaining_page :
    (listing.page limit start.toNat).remaining.toNat = listing.leftBehind limit start.toNat :=
  UInt32.toNat_ofNat_of_lt' (Nat.lt_of_le_of_lt fits (by decide))

theorem remaining_page_le :
    (listing.page limit start.toNat).remaining ≤ RatePage.remainingLimit := by
  rwa [UInt32.le_iff_toNat_le, toNat_remaining_page fits]

theorem ofBytes?_pageText : Telling.ofBytes? (listing.pageText limit start.toNat) =
    some (listing.telling limit start.toNat) :=
  RatePage.ofBytes?_page rfl (counted_page _) (remaining_page_le fits)

theorem next?_telling :
    (listing.telling limit start.toNat).next? start =
      if listing.leftBehind limit start.toNat = 0 then none
      else some (start + UInt32.ofNat
        (RatePage.pageLength (listing.rates.length - start.toNat) (RatePage.capacity limit))) := by
  have hremaining : Telling.remaining (listing.telling limit start.toNat).counts =
      (listing.page limit start.toNat).remaining :=
    RatePage.remaining_countsWord rfl (counted_page _) (remaining_page_le fits)
  have hreturned : Telling.returned (listing.telling limit start.toNat).counts =
      UInt32.ofNat (listing.page limit start.toNat).rates.length := by
    rw [← RatePage.returned_countsWord rfl (counted_page _) (remaining_page_le fits),
      UInt32.ofNat_toNat]
    rfl
  have hnone : (listing.page limit start.toNat).remaining = 0 ↔
      listing.leftBehind limit start.toNat = 0 := by
    rw [← UInt32.toNat_inj, toNat_remaining_page fits]
    rfl
  rw [Telling.next?, hremaining, hreturned, length_rates_page]
  exact if_congr hnone rfl rfl

end Told

/-! ### Walks -/

/-- Whoever asks from `start` on is answered, and what it is sent satisfies `p`. -/
def Gets (listing : Listing) (limit : Nat) (start : UInt32) (p : Bytes → Prop) : Prop :=
  (∃ history, listing.Asked limit start history) ∧
    ∀ history, listing.Asked limit start history →
      (∃ text, listing.Delivers history text) ∧ ∀ text, listing.Delivers history text → p text

theorem gets_iff {p : Bytes → Prop} {sent : Bytes}
    (delivers : ∀ {history text}, listing.Asked limit start history →
      (listing.Delivers history text ↔ text = sent)) : listing.Gets limit start p ↔ p sent := by
  constructor
  · rintro ⟨⟨history, asked⟩, gets⟩
    exact (gets history asked).2 sent ((delivers asked).2 rfl)
  · refine fun h => ⟨listing.exists_asked limit start, fun history asked => ⟨⟨sent, ?_⟩, ?_⟩⟩
    · exact (delivers asked).2 rfl
    · rintro text delivered
      rwa [(delivers asked).1 delivered]

/-- How far a client has come: the requests it has made, the index from which it asks next unless it
has finished, and the rates it has read. Request number `n` finds a payload of `limits n` bytes. -/
inductive Walk (listing : Listing) (limits : Nat → Nat) :
    Nat → Option UInt32 → List UInt64 → Prop where
  | start : Walk listing limits 0 (some 0) []
  | page {n : Nat} {index : UInt32} {read : List UInt64} {history : History} {text : Bytes}
      {telling : Telling} (walk : Walk listing limits n (some index) read)
      (asked : listing.Asked (limits n) index history) (delivered : listing.Delivers history text)
      (told : Telling.ofBytes? text = some telling) :
      Walk listing limits (n + 1) (telling.next? index) (read ++ telling.rates)

/-- A client that goes on from an index has read the rates before it, at least one by each request,
and can be told how many rates will be left. -/
structure Underway (listing : Listing) (limits : Nat → Nat) (n : Nat) (index : UInt32)
    (read : List UInt64) : Prop where
  index_lt : index.toNat < listing.rates.length
  le_index : n ≤ index.toNat
  read_eq : read = listing.rates.take index.toNat
  fits : listing.leftBehind (limits n) index.toNat ≤ RatePage.remainingLimit.toNat

theorem underway_start (fits : listing.leftBehind (limits 0) 0 ≤ RatePage.remainingLimit.toNat) :
    listing.Underway limits 0 0 [] :=
  ⟨List.length_pos_iff.2 listing.rates_ne, Nat.zero_le _, List.take_zero.symm, fits⟩

/-- A client has finished within as many requests as there are rates, or is on its way. -/
def Stands (listing : Listing) (limits : Nat → Nat) (n : Nat) :
    Option UInt32 → List UInt64 → Prop
  | none, read => n ≤ listing.rates.length ∧ read = listing.rates
  | some index, read => listing.Underway limits n index read

section Underway

variable {index : UInt32} (room : ∀ n, RatePage.capacity (limits n) ≠ 0)
  (h : listing.Underway limits n index read)
include room h

theorem Underway.delivers_page (asked : listing.Asked (limits n) index history) :
    listing.Delivers history text ↔ text = listing.pageText (limits n) index.toNat :=
  asked.delivers_page h.index_lt (room n) h.fits

theorem Underway.next :
    listing.Stands limits (n + 1) ((listing.telling (limits n) index.toNat).next? index)
      (read ++ (listing.telling (limits n) index.toNat).rates) := by
  obtain ⟨index_lt, le_index, rfl, fits⟩ := h
  let length := RatePage.pageLength (listing.rates.length - index.toNat)
    (RatePage.capacity (limits n))
  have hpos : 0 < length := RatePage.pageLength_pos (Nat.sub_pos_of_lt index_lt) (room n)
  have hsplit : length + listing.leftBehind (limits n) index.toNat =
      listing.rates.length - index.toNat := RatePage.pageLength_add_leftAfter ..
  let next := index + UInt32.ofNat length
  have hnext : next.toNat = index.toNat + length := listing.toNat_add_ofNat (by omega)
  have hread : listing.rates.take index.toNat ++ (listing.telling (limits n) index.toNat).rates =
      listing.rates.take next.toNat := hnext ▸ List.take_add.symm
  rw [next?_telling fits, hread]
  split
  · exact ⟨by omega, List.take_of_length_le (by omega)⟩
  · -- Behind the next page there is no more than there is before it.
    have hleft : listing.leftBehind (limits (n + 1)) next.toNat ≤
        listing.rates.length - next.toNat := Nat.sub_le ..
    have index_lt : next.toNat < listing.rates.length := by omega
    have le_index : n + 1 ≤ next.toNat := by omega
    have hfits : listing.leftBehind (limits (n + 1)) next.toNat ≤
        RatePage.remainingLimit.toNat := by omega
    exact ⟨index_lt, le_index, rfl, hfits⟩

end Underway

def TellsSuccess (text : Bytes) : Prop :=
  ∃ telling, Telling.ofBytes? text = some telling ∧ telling.status = Status.success.toWord

section Walk

variable (room : ∀ n, RatePage.capacity (limits n) ≠ 0)
include room

theorem Underway.gets_success {index : UInt32} (h : listing.Underway limits n index read) :
    listing.Gets (limits n) index TellsSuccess :=
  (gets_iff (h.delivers_page room)).2 ⟨_, ofBytes?_pageText h.fits, rfl⟩

/-- Each page brings a client nearer to the end, so it comes to it. -/
theorem Underway.exists_finished {index : UInt32} (h : listing.Underway limits n index read)
    (walk : listing.Walk limits n (some index) read) :
    ∃ n ≤ listing.rates.length, listing.Walk limits n none listing.rates := by
  -- The index is never behind the number of requests, so the number is bounded by the list.
  induction hleft : listing.rates.length - n using Nat.strong_induction_on
    generalizing n index read with
  | _ left ih =>
    obtain ⟨history, asked⟩ := listing.exists_asked (limits n) index
    have next := walk.page asked ((h.delivers_page room asked).2 rfl) (ofBytes?_pageText h.fits)
    have stands := h.next room
    generalize (listing.telling (limits n) index.toNat).next? index = next? at next stands
    generalize read ++ (listing.telling (limits n) index.toNat).rates = read at next stands
    cases next? with
    | none =>
      obtain ⟨hle, rfl⟩ := stands
      exact ⟨n + 1, hle, next⟩
    | some index =>
      have hlt := Nat.lt_of_le_of_lt stands.le_index stands.index_lt
      exact ih _ (by omega) stands next rfl

variable (fits : listing.leftBehind (limits 0) 0 ≤ RatePage.remainingLimit.toNat)
include fits

theorem Walk.stands {next? : Option UInt32} (walk : listing.Walk limits n next? read) :
    listing.Stands limits n next? read := by
  induction walk with
  | start => exact underway_start fits
  | page _ asked delivered told ih =>
    obtain rfl := (Underway.delivers_page room ih asked).1 delivered
    obtain rfl := Option.some.inj ((ofBytes?_pageText ih.fits).symm.trans told)
    exact Underway.next room ih

end Walk

open Bench in
/-- The second agent asks for the rates of the GPU, by the number of its first clock. -/
def ofSample (rates : List UInt64) (rates_ne : rates ≠ [])
    (countable : rates.length < UInt32.size) : Listing where
  topology := sampleTopology
  service := ⟨11⟩
  clock := ⟨⟨1⟩, 0, ⟨⟨1⟩, false⟩⟩
  resolves := by decide
  rates
  rates_ne
  countable

/-- The GPU has one rate so many times. -/
def ofSampleCount (count : Nat) (pos : 0 < count) (countable : count < UInt32.size) : Listing :=
  ofSample (List.replicate count 5) (by simpa using Nat.ne_of_gt pos) (by simpa using countable)

/-- A client that starts with a payload whose page can tell how many rates are left reads the whole
list, whatever the sizes of the payloads are as long as each has room for one rate. It can finish;
it never makes more requests than there are rates; when it has finished it has read the rates in
order, each once; and until then it has read those before its index and is told success next. If the
first page cannot tell how many rates are left, the client is told of a generic error instead. -/
theorem walk_reads_rates (listing : Listing) (limits : Nat → Nat)
    (roomy : ∀ n, RatePage.headerSize + RatePage.entrySize ≤ limits n) :
    (listing.leftBehind (limits 0) 0 ≤ RatePage.remainingLimit.toNat →
      (∃ n ≤ listing.rates.length, listing.Walk limits n none listing.rates) ∧
        (∀ n read, listing.Walk limits n none read →
          n ≤ listing.rates.length ∧ read = listing.rates) ∧
        ∀ n index read, listing.Walk limits n (some index) read →
          n < listing.rates.length ∧ read = listing.rates.take index.toNat ∧
            listing.Gets (limits n) index TellsSuccess) ∧
    (RatePage.remainingLimit.toNat < listing.leftBehind (limits 0) 0 →
      listing.Gets (limits 0) 0 (· = Word.toBytes Status.genericError.toWord)) := by
  have room (n : Nat) : RatePage.capacity (limits n) ≠ 0 := RatePage.capacity_ne_zero (roomy n)
  refine ⟨fun fits => ⟨?_, ?_, ?_⟩, fun overflows => ?_⟩
  · exact (underway_start fits).exists_finished room .start
  · intro n read walk
    exact walk.stands room fits
  · intro n index read walk
    have underway : listing.Underway limits n index read := walk.stands room fits
    exact ⟨Nat.lt_of_le_of_lt underway.le_index underway.index_lt, underway.read_eq,
      underway.gets_success room⟩
  · have hpos : (0 : UInt32).toNat < listing.rates.length :=
      List.length_pos_iff.2 listing.rates_ne
    exact (gets_iff fun asked => asked.delivers_refusal hpos (room 0) overflows).2 rfl

/-- Payloads have room for one rate, and later for two. The first page of three rates can tell that
two are left; that of 65537 rates cannot tell that 65536 are. -/
theorem walk_reads_rates_sample :
    let limits (n : Nat) := if n = 0 then 16 else 24
    let listing := ofSample [5, 7, 9] nofun (by decide)
    let crowded := ofSampleCount 65537 (by decide) (by decide)
    (∃ n ≤ 3, listing.Walk limits n none [5, 7, 9]) ∧
      crowded.Gets 16 0 (· = Word.toBytes Status.genericError.toWord) := by
  intro limits listing crowded
  have roomy (n : Nat) : RatePage.headerSize + RatePage.entrySize ≤ limits n := by
    dsimp only [limits]
    split <;> decide
  have hlength : crowded.rates.length = 65537 := List.length_replicate
  have hcrowded : RatePage.remainingLimit.toNat < crowded.leftBehind 16 0 := by
    rw [leftBehind, hlength]
    decide
  exact ⟨((walk_reads_rates listing limits roomy).1 (by decide)).1,
    (walk_reads_rates crowded limits roomy).2 hcrowded⟩

end Listing
end ClockManager
