import ClockManager.Operation
/-!
# Histories

What passes between the platform and its collaborators. A dialogue can take any path on which each
answer is one that its query allows; so what holds on every path holds for all collaborators, however
they behave. `Dialogue.exists_takes_run` says that each conversation is such a path.
-/

namespace ClockManager

/-- One query and the answer that came back. -/
structure Exchange where
  query : Query
  answer : query.Answer

abbrev History := List Exchange

namespace Dialogue

variable {α β : Type}

/-- The dialogue can end in `result` after exactly the exchanges of `history`. -/
def Takes : Dialogue α → History → α → Prop
  | done value, history, result => history = [] ∧ value = result
  | ask query next, history, result =>
    ∃ answer rest, history = ⟨query, answer⟩ :: rest ∧ Takes (next answer) rest result

@[simp] theorem takes_pure {value result : α} {history : History} :
    (pure value : Dialogue α).Takes history result ↔ history = [] ∧ value = result := Iff.rfl

@[simp] theorem takes_call {query : Query} {answer : query.Answer} {history : History} :
    (call query).Takes history answer ↔ history = [⟨query, answer⟩] := by
  simp only [call, Takes]
  constructor
  · rintro ⟨_, _, rfl, rfl, rfl⟩
    rfl
  · rintro rfl
    exact ⟨answer, [], rfl, rfl, rfl⟩

@[simp] theorem takes_log {notice : Notice} {history : History} {done : Unit} :
    (log notice).Takes history done ↔ history = [⟨.log notice, ()⟩] :=
  @takes_call (.log notice) done history

/-- A path through two dialogues in turn is a path through the first and one through the second. -/
@[simp] theorem takes_bind {d : Dialogue α} {next : α → Dialogue β} {history : History}
    {result : β} :
    (d >>= next).Takes history result ↔
      ∃ first second value, history = first ++ second ∧ d.Takes first value ∧
        (next value).Takes second result := by
  induction d generalizing history with
  | done value =>
    constructor
    · intro h
      exact ⟨[], history, value, rfl, ⟨rfl, rfl⟩, h⟩
    · rintro ⟨_, _, _, rfl, ⟨rfl, rfl⟩, h⟩
      exact h
  | ask query rest ih =>
    constructor
    · rintro ⟨answer, tail, rfl, h⟩
      obtain ⟨first, second, value, rfl, hfirst, hsecond⟩ := (ih answer).1 h
      exact ⟨_ :: first, second, value, rfl, ⟨answer, first, rfl, hfirst⟩, hsecond⟩
    · rintro ⟨_, second, value, rfl, ⟨answer, first, rfl, hfirst⟩, hsecond⟩
      exact ⟨answer, first ++ second, rfl, (ih answer).2 ⟨_, _, _, rfl, hfirst, hsecond⟩⟩

/-- Whoever answers, the dialogue takes a path that ends in its result. -/
theorem exists_takes_run {σ : Type} (answerer : Answerer σ) (d : Dialogue α) (state : σ) :
    ∃ history, d.Takes history (d.run answerer state).1 := by
  induction d generalizing state with
  | done value => exact ⟨[], rfl, rfl⟩
  | ask query next ih =>
    obtain ⟨rest, hrest⟩ := ih (answerer query state).1 (answerer query state).2
    exact ⟨_ :: rest, _, rest, rfl, hrest⟩

end Dialogue

/-- One operation with the exchanges it took and what it returned. -/
structure Move where
  operation : Operation
  history : History
  result : OperationResult

/-- The platform can get from the first state to the last by these moves. -/
inductive Platform.Runs (start : Platform) : List Move → Platform → Prop where
  | nil : Runs start [] start
  | snoc {moves : List Move} {before after : Platform} {move : Move} (run : Runs start moves before)
      (takes : (before.perform move.operation).Takes move.history (move.result, after)) :
      Runs start (moves ++ [move]) after

end ClockManager
