import ClockManager.Proofs.Page
/-!
# The law of pages

A page is described with a function that tells one rate at a time. The function may keep a state and
answer differently each time that it is called, so it matters which calls are made, and in which
order. `description` keeps a record of them; `describe_eq_description` says that nothing else is
changed by that.

The limits of a page are stated in natural numbers here: what is computed in words of 32 bits never
wraps around.
-/

namespace ClockManager.RatePage

variable {σ : Type}

structure Reading where
  index : UInt32
  answer : Except HardwareError UInt64
  deriving DecidableEq

/-- A function that tells rates, with a record of the calls. -/
def recorded (rateAt : UInt32 → StateM σ (Except HardwareError UInt64)) (index : UInt32) :
    StateM (σ × List Reading) (Except HardwareError UInt64) :=
  fun (state, readings) =>
    let (answer, state) := rateAt index state
    (answer, state, readings ++ [⟨index, answer⟩])

/-- What comes of a description, the state that it leaves, and the calls that it makes. -/
def description (range : RateRange) (start : UInt32) (capacity : Nat)
    (rateAt : UInt32 → StateM σ (Except HardwareError UInt64)) (state : σ) :
    Except DescribeError RatePage × σ × List Reading :=
  describe range start capacity (recorded rateAt) (state, [])

/-! ### The calls -/

/-- The calls that are made for rates, in order, until one of them fails, and what comes of them. -/
inductive Reads : List UInt32 → List Reading → Except HardwareError (List UInt64) → Prop where
  | done : Reads [] [] (.ok [])
  | failed {index : UInt32} {rest : List UInt32} {error : HardwareError} :
      Reads (index :: rest) [⟨index, .error error⟩] (.error error)
  | told {index : UInt32} {rest : List UInt32} {rate : UInt64} {readings : List Reading}
      {result : Except HardwareError (List UInt64)} (more : Reads rest readings result) :
      Reads (index :: rest) (⟨index, .ok rate⟩ :: readings) (result.map (rate :: ·))

theorem exists_readRates (rateAt : UInt32 → StateM σ (Except HardwareError UInt64))
    (indices : List UInt32) (state : σ) (before : List Reading) :
    ∃ result after readings, Reads indices readings result ∧
      readRates rateAt indices state = (result, after) ∧
      readRates (recorded rateAt) indices (state, before) =
        (result, after, before ++ readings) := by
  induction indices generalizing state before with
  | nil => exact ⟨.ok [], state, [], .done, rfl, by rw [List.append_nil]; rfl⟩
  | cons index rest ih =>
    rcases hanswer : rateAt index state with ⟨answer, mid⟩
    have hrecorded : recorded rateAt index (state, before) =
        (answer, mid, before ++ [⟨index, answer⟩]) := by
      simp only [recorded, hanswer]
    cases answer with
    | error error =>
      refine ⟨.error error, mid, [⟨index, .error error⟩], .failed, ?_, ?_⟩
      · simp only [readRates, bind, StateT.bind, hanswer]
        rfl
      · simp only [readRates, bind, StateT.bind, hrecorded]
        rfl
    | ok rate =>
      obtain ⟨result, after, readings, reads, hresult, hafter⟩ :=
        ih mid (before ++ [⟨index, .ok rate⟩])
      refine ⟨result.map (rate :: ·), after, ⟨index, .ok rate⟩ :: readings, .told reads, ?_, ?_⟩
      · simp only [readRates, bind, StateT.bind, hanswer, hresult]
        cases result <;> rfl
      · simp only [readRates, bind, StateT.bind, hrecorded, hafter]
        cases result <;> simp [List.append_assoc] <;> rfl

theorem Reads.told_or_failed {indices : List UInt32} {readings : List Reading}
    {result : Except HardwareError (List UInt64)} (h : Reads indices readings result) :
    (∃ rates, result = .ok rates ∧ readings.map Reading.index = indices ∧
        readings.map Reading.answer = rates.map .ok) ∨
      ∃ (rates : List UInt64) (error : HardwareError), result = .error error ∧
        rates.length < indices.length ∧
        readings.map Reading.index = indices.take (rates.length + 1) ∧
        readings.map Reading.answer = rates.map .ok ++ [.error error] := by
  induction h with
  | done => exact .inl ⟨[], rfl, rfl, rfl⟩
  | failed => exact .inr ⟨[], _, rfl, Nat.succ_pos _, rfl, rfl⟩
  | @told index rest rate readings result more ih =>
    rcases ih with ⟨rates, rfl, hindices, hanswers⟩ | ⟨rates, error, rfl, hlt, hindices, hanswers⟩
    · refine .inl ⟨rate :: rates, rfl, ?_, ?_⟩
      · rw [List.map_cons, hindices]
      · rw [List.map_cons, hanswers, List.map_cons]
    · refine .inr ⟨rate :: rates, error, rfl, Nat.succ_lt_succ hlt, ?_, ?_⟩
      · rw [List.map_cons, hindices, List.length_cons, List.take_succ_cons]
      · rw [List.map_cons, hanswers, List.map_cons, List.cons_append]

theorem map_toNat_window {start : UInt32} {length : Nat}
    (within : start.toNat + length ≤ UInt32.size) :
    (window start length).map UInt32.toNat = List.range' start.toNat length := by
  apply List.ext_getElem
  · simp [window]
  · intro i hi hrange
    have hlt : i < length := by simpa [window] using hi
    have hsmall : (UInt32.ofNat i).toNat = i := UInt32.toNat_ofNat_of_lt' (by omega)
    have hsize : UInt32.size = 2 ^ 32 := rfl
    simp [window, hsmall]
    omega

/-! ### The description -/

section Description

variable {count start : UInt32} {capacity : Nat}
  (rateAt : UInt32 → StateM σ (Except HardwareError UInt64)) (state : σ)

/-- The page of these rates, unless one of them could not be told. -/
def ofReads (remaining : UInt32) :
    Except HardwareError (List UInt64) → Except DescribeError RatePage
  | .error error => .error (.hardware error)
  | .ok rates => .ok ⟨.list, rates, remaining⟩

theorem description_of_le (h : count ≤ start) :
    description (.discrete count) start capacity rateAt state =
      (.error (.outOfRange start count), state, []) := by
  rw [description, describe, if_pos h]
  rfl

theorem description_of_no_room (h : start < count) (full : capacity = 0) :
    description (.discrete count) start capacity rateAt state =
      (.error .insufficientSize, state, []) := by
  rw [description, describe, if_neg (UInt32.not_le.2 h), if_pos full]
  rfl

theorem description_of_overflow (h : start < count) (room : capacity ≠ 0)
    (overflows : remainingLimit.toNat < leftAfter (count.toNat - start.toNat) capacity) :
    description (.discrete count) start capacity rateAt state =
      (.error (.remainingOverflow (UInt32.ofNat (leftAfter (count.toNat - start.toNat) capacity))),
        state, []) := by
  rw [description, describe_discrete h room]
  dsimp only
  rw [if_pos overflows]
  rfl

theorem exists_description_of_fits (h : start < count) (room : capacity ≠ 0)
    (fits : leftAfter (count.toNat - start.toNat) capacity ≤ remainingLimit.toNat) :
    ∃ result after readings,
      Reads (window start (pageLength (count.toNat - start.toNat) capacity)) readings result ∧
      description (.discrete count) start capacity rateAt state =
        (ofReads (UInt32.ofNat (leftAfter (count.toNat - start.toNat) capacity)) result, after,
          readings) := by
  obtain ⟨result, after, readings, reads, -, hrecorded⟩ := exists_readRates rateAt
    (window start (pageLength (count.toNat - start.toNat) capacity)) state []
  refine ⟨result, after, readings, reads, ?_⟩
  rw [description, describe_discrete h room]
  dsimp only
  rw [if_neg (Nat.not_lt.2 fits)]
  simp only [bind, StateT.bind, hrecorded]
  cases result <;> rfl

theorem description_linear (min max step : UInt64) :
    description (.linear min max step) start capacity rateAt state =
      (if tripletLength ≤ capacity then .ok ⟨.range, [min, max, step], 0⟩
        else .error .insufficientSize, state, []) := by
  rw [description, describe]
  by_cases hroom : capacity < tripletLength
  · rw [if_pos hroom, if_neg (Nat.not_le.2 hroom)]
    rfl
  · rw [if_neg hroom, if_pos (Nat.not_lt.1 hroom)]
    rfl

/-- The record of the calls is kept beside the description and does not influence it. -/
theorem describe_eq_description (range : RateRange) (start : UInt32) (capacity : Nat) :
    describe range start capacity rateAt state =
      ((description range start capacity rateAt state).1,
        (description range start capacity rateAt state).2.1) := by
  unfold description
  cases range with
  | discrete count =>
    dsimp only [describe]
    split
    · rfl
    split
    · rfl
    split
    · rfl
    obtain ⟨result, after, readings, -, hplain, hrecorded⟩ := exists_readRates rateAt
      (window start (min (count - start) (UInt32.ofNat (min capacity countLimit))).toNat) state []
    simp only [bind, StateT.bind, hplain, hrecorded]
    cases result <;> rfl
  | linear min max step =>
    dsimp only [describe]
    split <;> rfl

theorem description_of_fits (h : start < count) (room : capacity ≠ 0)
    (fits : leftAfter (count.toNat - start.toNat) capacity ≤ remainingLimit.toNat) :
    let ended := description (.discrete count) start capacity rateAt state
    let length := pageLength (count.toNat - start.toNat) capacity
    (∃ page, ended.1 = .ok page ∧ page.format = .list ∧ page.rates.length = length ∧
        page.remaining.toNat = leftAfter (count.toNat - start.toNat) capacity ∧
        ended.2.2.map (·.index.toNat) = List.range' start.toNat length ∧
        ended.2.2.map Reading.answer = page.rates.map .ok) ∨
      ∃ (rates : List UInt64) (error : HardwareError), ended.1 = .error (.hardware error) ∧
        rates.length < length ∧
        ended.2.2.map (·.index.toNat) = List.range' start.toNat (rates.length + 1) ∧
        ended.2.2.map Reading.answer = rates.map .ok ++ [.error error] := by
  obtain ⟨result, after, readings, reads, hended⟩ :=
    exists_description_of_fits rateAt state h room fits
  have hcount : count.toNat < UInt32.size := count.toNat_lt
  have hwithin (bound : Nat)
      (hle : bound ≤ pageLength (count.toNat - start.toNat) capacity) :
      start.toNat + bound ≤ UInt32.size := by
    have hadd := pageLength_add_leftAfter (count.toNat - start.toNat) capacity
    have hlt : start.toNat < count.toNat := UInt32.lt_iff_toNat_lt.1 h
    omega
  have hindex {bound : Nat} (hle : bound ≤ pageLength (count.toNat - start.toNat) capacity)
      (hread : readings.map Reading.index = window start bound) :
      readings.map (·.index.toNat) = List.range' start.toNat bound := by
    rw [← map_toNat_window (hwithin bound hle), ← hread, List.map_map]
    rfl
  have hlength (bound : Nat) : (window start bound).length = bound := by
    rw [window, List.length_map, List.length_range]
  dsimp only
  rw [hended]
  rcases reads.told_or_failed with
    ⟨rates, rfl, hread, hanswer⟩ | ⟨rates, error, rfl, hlt, hread, hanswer⟩
  · refine .inl ⟨_, rfl, rfl, ?_, ?_, hindex (Nat.le_refl _) hread, hanswer⟩
    · have hsame := congrArg List.length hread
      have hrates := congrArg List.length hanswer
      simp only [List.length_map, hlength] at hsame hrates
      exact hrates.symm.trans hsame
    · exact UInt32.toNat_ofNat_of_lt' (Nat.lt_of_le_of_lt fits (by decide))
  · rw [hlength] at hlt
    refine .inr ⟨rates, error, rfl, hlt, ?_, hanswer⟩
    refine hindex hlt (hread.trans ?_)
    rw [window, ← List.map_take, List.take_range, Nat.min_eq_left hlt]
    rfl

end Description

/-- A page of a list is refused if there is no rate from `start` on, if there is no room for one, or
if more rates would remain than can be stated, in this order, and then no rate is asked for. Otherwise
the rates of the page are asked for in order, once each, and nothing else is, up to the first one that
cannot be told; that failure is returned, or else the page of all of them. A range is a page of three
entries from wherever it is asked, if there is room for them. The function that tells the rates may
keep any state; that its calls are recorded changes nothing. -/
theorem page_law (rateAt : UInt32 → StateM σ (Except HardwareError UInt64)) (state : σ)
    (start : UInt32) (capacity : Nat) :
    (∀ range, describe range start capacity rateAt state =
      ((description range start capacity rateAt state).1,
        (description range start capacity rateAt state).2.1)) ∧
    (∀ count : UInt32,
      let ended := description (.discrete count) start capacity rateAt state
      let left := count.toNat - start.toNat
      let length := min left (min capacity 4095)
      let remaining := left - length
      (ended.1 = .error (.outOfRange start count) ↔ count ≤ start) ∧
      (ended.1 = .error .insufficientSize ↔ start < count ∧ capacity = 0) ∧
      (∀ overflow, ended.1 = .error (.remainingOverflow overflow) ↔
        start < count ∧ capacity ≠ 0 ∧ 65535 < remaining ∧ overflow.toNat = remaining) ∧
      (count ≤ start ∨ capacity = 0 ∨ 65535 < remaining → ended.2 = (state, [])) ∧
      (start < count → capacity ≠ 0 → remaining ≤ 65535 →
        1 ≤ length ∧ start.toNat + length ≤ count.toNat ∧
        ((∃ page, ended.1 = .ok page ∧ page.format = .list ∧ page.rates.length = length ∧
            page.remaining.toNat = remaining ∧
            ended.2.2.map (·.index.toNat) = List.range' start.toNat length ∧
            ended.2.2.map Reading.answer = page.rates.map .ok) ∨
          ∃ (rates : List UInt64) (error : HardwareError),
            ended.1 = .error (.hardware error) ∧ rates.length < length ∧
            ended.2.2.map (·.index.toNat) = List.range' start.toNat (rates.length + 1) ∧
            ended.2.2.map Reading.answer = rates.map .ok ++ [.error error]))) ∧
    ∀ min max step, description (.linear min max step) start capacity rateAt state =
      (if 3 ≤ capacity then .ok ⟨.range, [min, max, step], 0⟩ else .error .insufficientSize,
        state, []) := by
  refine ⟨fun range => describe_eq_description rateAt state range start capacity, ?_,
    description_linear rateAt state⟩
  intro count ended left length remaining
  by_cases hle : count ≤ start
  · have hended : ended = (.error (.outOfRange start count), state, []) :=
      description_of_le rateAt state hle
    have hnot : ¬ start < count := UInt32.not_lt.2 hle
    refine ⟨?_, ?_, ?_, fun _ => by rw [hended], fun h => absurd h hnot⟩
    · simp [hended, hle]
    · simp [hended, hnot]
    · simp [hended, hnot]
  have hlt : start < count := UInt32.not_le.1 hle
  by_cases hroom : capacity = 0
  · have hended : ended = (.error .insufficientSize, state, []) :=
      description_of_no_room rateAt state hlt hroom
    refine ⟨?_, ?_, ?_, fun _ => by rw [hended], fun _ h => absurd hroom h⟩
    · simp [hended, hle]
    · simp [hended, hlt, hroom]
    · simp [hended, hroom]
  by_cases hoverflow : 65535 < remaining
  · have hended : ended = (.error (.remainingOverflow (UInt32.ofNat remaining)), state, []) :=
      description_of_overflow rateAt state hlt hroom hoverflow
    have hexact : (UInt32.ofNat remaining).toNat = remaining := by
      have hcount : count.toNat < UInt32.size := count.toNat_lt
      exact UInt32.toNat_ofNat_of_lt' (by omega)
    refine ⟨?_, ?_, ?_, fun _ => by rw [hended], fun _ _ h => absurd hoverflow (Nat.not_lt.2 h)⟩
    · simp [hended, hle]
    · simp [hended, hroom]
    · intro overflow
      have hsame : UInt32.ofNat remaining = overflow ↔ overflow.toNat = remaining := by
        rw [← UInt32.toNat_inj, hexact, eq_comm]
      simp [hended, hlt, hroom, hoverflow, hsame]
  have hpage := description_of_fits rateAt state hlt hroom (Nat.not_lt.1 hoverflow)
  have unrefused (error : DescribeError) (h : ∀ failure, error ≠ .hardware failure) :
      ended.1 ≠ .error error := by
    intro hended
    rcases hpage with ⟨page, hok, -⟩ | ⟨rates, failure, hfailed, -⟩
    · cases hok.symm.trans hended
    · cases hfailed.symm.trans hended
      exact h failure rfl
  refine ⟨?_, ?_, ?_, ?_, fun _ _ _ => ⟨?_, ?_, hpage⟩⟩
  · exact iff_of_false (unrefused _ nofun) hle
  · exact iff_of_false (unrefused _ nofun) fun h => hroom h.2
  · intro overflow
    exact iff_of_false (unrefused _ nofun) fun h => hoverflow h.2.2.1
  · simp [hle, hroom, hoverflow]
  · exact pageLength_pos (Nat.sub_pos_of_lt (UInt32.lt_iff_toNat_lt.1 hlt)) hroom
  · have hadd : length + remaining = left := pageLength_add_leftAfter left capacity
    have hlt : start.toNat < count.toNat := UInt32.lt_iff_toNat_lt.1 hlt
    omega

/-- The second of three rates cannot be told, and the third is not asked for. -/
example : (description (.discrete 4) 1 9 (fun index asked => (if index = 2 then .error .busy
    else .ok 7, asked + 1)) 0) =
      (.error (.hardware .busy), 2, [⟨1, .ok 7⟩, ⟨2, .error .busy⟩]) := by
  rfl

end ClockManager.RatePage
