import ClockManager.Proofs.Dialogue
/-!
# Operations that can fault

The definitions of the platform are total. A machine is not: it stops at an index outside a list, at
a number outside its type, at a copy between lists of different lengths, and at an assertion that
does not hold. So what it does is written once more, in terms of the operations below, each of which
ends in a `Fault` where the machine would stop. In the modules that build on this one a `…Checked`
definition stands for the definition without that ending, and a theorem says that it returns the
same and never faults.

Sizes and indices are numbers below `sizeLimit`; the numbers in a message are 32-bit words. To ask
for more memory than there is is not among the faults.
-/

namespace ClockManager

/-- Why the machine stops. -/
inductive Fault where
  | overflow
  | outOfBounds
  | lengthMismatch
  | assertion
  deriving DecidableEq

/-- A computation that can fault. -/
abbrev Checked := Except Fault

namespace Checked

variable {α β : Type} {m n : Nat}

@[simp] theorem ok_bind (value : α) (next : α → Checked β) :
    (Except.ok value : Checked α) >>= next = next value := rfl

/-! ### Numbers -/

def sizeLimit : Nat := UInt64.size

def add (m n : Nat) : Checked Nat :=
  if m + n < sizeLimit then .ok (m + n) else .error .overflow

def mul (m n : Nat) : Checked Nat :=
  if m * n < sizeLimit then .ok (m * n) else .error .overflow

def addWord (a b : UInt32) : Checked UInt32 :=
  if a.toNat + b.toNat < UInt32.size then .ok (a + b) else .error .overflow

def subWord (a b : UInt32) : Checked UInt32 :=
  if b ≤ a then .ok (a - b) else .error .overflow

theorem add_of_lt (h : m + n < sizeLimit) : add m n = .ok (m + n) := if_pos h

theorem mul_of_lt (h : m * n < sizeLimit) : mul m n = .ok (m * n) := if_pos h

theorem addWord_of_lt {a b : UInt32} (h : a.toNat + b.toNat < UInt32.size) :
    addWord a b = .ok (a + b) := if_pos h

example : addWord 0xFFFFFFFF 1 = .error .overflow := rfl

theorem subWord_of_le {a b : UInt32} (h : b ≤ a) : subWord a b = .ok (a - b) := if_pos h

/-! ### Lists -/

variable {list source : List α} {index start stop : Nat} {value : α}

def get (list : List α) (index : Nat) : Checked α :=
  list[index]?.elim (.error .outOfBounds) .ok

def set (list : List α) (index : Nat) (value : α) : Checked (List α) :=
  if index < list.length then .ok (list.set index value) else .error .outOfBounds

/-- The entries from `start` on, up to `stop` and without it. -/
def slice (list : List α) (start stop : Nat) : Checked (List α) :=
  if start ≤ stop ∧ stop ≤ list.length then .ok ((list.take stop).drop start)
  else .error .outOfBounds

/-- Replaces such a slice of a list by another list, which must be as long. -/
def copy (list : List α) (start stop : Nat) (source : List α) : Checked (List α) := do
  let replaced ← slice list start stop
  if replaced.length = source.length then return list.take start ++ source ++ list.drop stop
  else throw .lengthMismatch

def ensure (condition : Bool) : Checked Unit :=
  if condition then .ok () else .error .assertion

theorem get_of_getElem? (h : list[index]? = some value) : get list index = .ok value := by
  rw [get, h]
  rfl

theorem set_of_lt (h : index < list.length) : set list index value = .ok (list.set index value) :=
  if_pos h

theorem slice_of_le (hstart : start ≤ stop) (hstop : stop ≤ list.length) :
    slice list start stop = .ok ((list.take stop).drop start) := if_pos ⟨hstart, hstop⟩

theorem copy_of_le (hlength : start + source.length = stop) (hstop : stop ≤ list.length) :
    copy list start stop source = .ok (list.take start ++ source ++ list.drop stop) := by
  have hreplaced : ((list.take stop).drop start).length = source.length := by
    rw [List.length_drop, List.length_take]
    omega
  rw [copy, slice_of_le (by omega) hstop, ok_bind, if_pos hreplaced]
  rfl

theorem mapM_of_forall {f : α → Checked β} {plain : α → β} {list : List α}
    (h : ∀ entry ∈ list, f entry = .ok (plain entry)) : list.mapM f = .ok (list.map plain) := by
  induction list with
  | nil => rfl
  | cons entry rest ih =>
    obtain ⟨hentry, hrest⟩ := List.forall_mem_cons.1 h
    rw [List.mapM_cons, hentry, ok_bind, ih hrest]
    rfl

/-- A fold that goes on without a fault as long as `p` holds, and keeps `p`. -/
theorem foldlM_of_invariant {σ τ : Type} {f : σ → α → Checked σ} {plain : τ → α → τ}
    {view : τ → σ} {p : τ → Prop} {list : List α} {state : τ} (start : p state)
    (step : ∀ state, p state → ∀ entry ∈ list,
      f (view state) entry = .ok (view (plain state entry)) ∧ p (plain state entry)) :
    list.foldlM f (view state) = .ok (view (list.foldl plain state)) ∧
      p (list.foldl plain state) := by
  induction list generalizing state with
  | nil => exact ⟨rfl, start⟩
  | cons entry rest ih =>
    obtain ⟨hentry, hkept⟩ := step state start entry List.mem_cons_self
    rw [List.foldlM_cons, hentry, ok_bind, List.foldl_cons]
    exact ih hkept fun state h other hother => step state h other (List.mem_cons_of_mem _ hother)

/-- What such a fold returns, if it does, as long as that is known of its steps. -/
theorem foldlM_eq_ok_of_invariant {σ τ : Type} {f : σ → α → Checked σ} {plain : τ → α → τ}
    {view : τ → σ} {p : τ → Prop} {list : List α} {state : τ} {result : σ} (start : p state)
    (step : ∀ state, p state → ∀ entry ∈ list, ∀ next, f (view state) entry = .ok next →
      next = view (plain state entry) ∧ p (plain state entry))
    (returned : list.foldlM f (view state) = .ok result) :
    result = view (list.foldl plain state) ∧ p (list.foldl plain state) := by
  induction list generalizing state with
  | nil => exact ⟨(Except.ok.inj returned).symm, start⟩
  | cons entry rest ih =>
    rw [List.foldlM_cons] at returned
    cases hentry : f (view state) entry with
    | error fault =>
      rw [hentry] at returned
      cases returned
    | ok next =>
      obtain ⟨rfl, hkept⟩ := step state start entry List.mem_cons_self next hentry
      rw [hentry, ok_bind] at returned
      rw [List.foldl_cons]
      refine ih hkept (fun state h other hother => ?_) returned
      exact step state h other (List.mem_cons_of_mem _ hother)

end Checked

/-! ### Dialogues -/

/-- A dialogue that can fault. -/
abbrev Guarded := ExceptT Fault Dialogue

namespace Guarded

variable {α β : Type}

theorem ok_bind (value : α) (next : α → Guarded β) :
    (liftM (Except.ok value : Checked α) : Guarded α) >>= next = next value := rfl

/-- A dialogue that is taken over as it is has the same paths, none of which ends in a fault. -/
theorem takes_lift {d : Dialogue α} {history : History} {outcome : Checked α} :
    (liftM d : Guarded α).run.Takes history outcome ↔
      ∃ value, outcome = .ok value ∧ d.Takes history value := by
  induction d generalizing history with
  | done value =>
    constructor
    · rintro ⟨rfl, rfl⟩
      exact ⟨value, rfl, rfl, rfl⟩
    · rintro ⟨_, rfl, rfl, rfl⟩
      exact ⟨rfl, rfl⟩
  | ask query next ih =>
    constructor
    · rintro ⟨answer, rest, rfl, hrest⟩
      obtain ⟨value, rfl, takes⟩ := (ih answer).1 hrest
      exact ⟨value, rfl, answer, rest, rfl, takes⟩
    · rintro ⟨value, rfl, answer, rest, rfl, takes⟩
      exact ⟨answer, rest, rfl, (ih answer).2 ⟨value, rfl, takes⟩⟩

/-- What follows a dialogue may fault only after a result that cannot come of it. -/
theorem bind_of_takes {guarded : Guarded α} {d : Dialogue α} {next : α → Guarded β}
    {plain : α → Dialogue β} (hd : guarded = liftM d)
    (h : ∀ history value, d.Takes history value → next value = liftM (plain value)) :
    guarded >>= next = liftM (d >>= plain) := by
  subst hd
  induction d with
  | done value => exact h [] value ⟨rfl, rfl⟩
  | ask query rest ih =>
    refine congrArg (Dialogue.ask query) (funext fun answer => ih answer ?_)
    intro history value takes
    exact h _ value ⟨answer, history, rfl, takes⟩

theorem bind_of_eq {guarded : Guarded α} {d : Dialogue α} {next : α → Guarded β}
    {plain : α → Dialogue β} (hd : guarded = liftM d)
    (h : ∀ value, next value = liftM (plain value)) :
    guarded >>= next = liftM (d >>= plain) :=
  bind_of_takes hd fun _ value _ => h value

theorem lift_bind {d : Dialogue α} {next : α → Guarded β} {plain : α → Dialogue β}
    (h : ∀ value, next value = liftM (plain value)) :
    (liftM d : Guarded α) >>= next = liftM (d >>= plain) :=
  bind_of_eq rfl h

end Guarded
end ClockManager
