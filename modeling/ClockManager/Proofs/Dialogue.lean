import ClockManager.History
/-!
# Paths of a dialogue

Views of a dialogue that do not depend on who answers. `Asks` bounds what a dialogue can ask on any of
its paths, and `Yields` what can come of it; `trace` records the one path it takes with given
collaborators. Proofs about the platform use the first two to rule out whole kinds of exchanges and
results, and the last to exhibit runs.
-/

namespace ClockManager.Dialogue

variable {α β σ : Type} {p : Query → Prop}

theorem takes_call_bind {query : Query} {next : query.Answer → Dialogue β} {history : History}
    {result : β} :
    (call query >>= next).Takes history result ↔
      ∃ answer rest, history = ⟨query, answer⟩ :: rest ∧ (next answer).Takes rest result := Iff.rfl

theorem takes_log_bind {notice : Notice} {next : Unit → Dialogue β} {history : History}
    {result : β} :
    (log notice >>= next).Takes history result ↔
      ∃ rest, history = ⟨.log notice, ()⟩ :: rest ∧ (next ()).Takes rest result :=
  ⟨fun ⟨_, rest, hcons, h⟩ => ⟨rest, hcons, h⟩, fun ⟨rest, hcons, h⟩ => ⟨(), rest, hcons, h⟩⟩

/-- Dialogues in turn can be bracketed either way. -/
theorem bind_bind {γ : Type} (d : Dialogue α) (next : α → Dialogue β)
    (last : β → Dialogue γ) : (d >>= next) >>= last = d >>= fun value => next value >>= last := by
  induction d with
  | done value => rfl
  | ask query rest ih => exact congrArg (ask query) (funext ih)

/-! ### What can be asked -/

/-- Whatever is answered, every query of the dialogue satisfies `p`. -/
def Asks (p : Query → Prop) : Dialogue α → Prop
  | done _ => True
  | ask query next => p query ∧ ∀ answer, (next answer).Asks p

theorem asks_pure (value : α) : (pure value : Dialogue α).Asks p := trivial

theorem asks_call {query : Query} (h : p query) : (call query).Asks p := ⟨h, fun _ => trivial⟩

theorem Asks.bind {d : Dialogue α} {next : α → Dialogue β} (hd : d.Asks p)
    (hnext : ∀ value, (next value).Asks p) : (d >>= next).Asks p := by
  induction d with
  | done value => exact hnext value
  | ask query rest ih => exact ⟨hd.1, fun answer => ih answer (hd.2 answer)⟩

theorem asks_call_bind {query : Query} {next : query.Answer → Dialogue β} (h : p query)
    (hnext : ∀ answer, (next answer).Asks p) : (call query >>= next).Asks p := ⟨h, hnext⟩

theorem Asks.imp {q : Query → Prop} {d : Dialogue α} (hd : d.Asks p)
    (h : ∀ query, p query → q query) : d.Asks q := by
  induction d with
  | done value => exact trivial
  | ask query next ih => exact ⟨h query hd.1, fun answer => ih answer (hd.2 answer)⟩

/-- A path holds no other exchanges than those of queries that the dialogue can ask. -/
theorem Takes.forall_of_asks {d : Dialogue α} {history : History} {result : α}
    (takes : d.Takes history result) (h : d.Asks p) : ∀ exchange ∈ history, p exchange.query := by
  induction d generalizing history with
  | done value =>
    obtain ⟨rfl, _⟩ := takes
    simp
  | ask query next ih =>
    obtain ⟨answer, rest, rfl, hrest⟩ := takes
    intro exchange hmem
    rcases List.mem_cons.1 hmem with rfl | hmem
    · exact h.1
    · exact ih answer hrest (h.2 answer) exchange hmem

/-! ### What can come of it -/

/-- Whatever is answered, the dialogue ends in a result that satisfies `q`. -/
def Yields (q : α → Prop) : Dialogue α → Prop
  | done value => q value
  | ask _ next => ∀ answer, (next answer).Yields q

theorem yields_pure {q : α → Prop} {value : α} (h : q value) :
    (pure value : Dialogue α).Yields q := h

theorem yields_call_bind {query : Query} {next : query.Answer → Dialogue β} {q : β → Prop}
    (h : ∀ answer, (next answer).Yields q) : (call query >>= next).Yields q := h

theorem Takes.of_yields {q : α → Prop} {d : Dialogue α} {history : History} {result : α}
    (takes : d.Takes history result) (h : d.Yields q) : q result := by
  induction d generalizing history with
  | done value =>
    obtain ⟨-, rfl⟩ := takes
    exact h
  | ask query next ih =>
    obtain ⟨answer, rest, -, hrest⟩ := takes
    exact ih answer hrest (h answer)

/-- If each query has an answer that satisfies `p`, then so do the exchanges of some path. -/
theorem exists_takes {p : Exchange → Prop} (h : ∀ query, ∃ answer, p ⟨query, answer⟩)
    (d : Dialogue α) : ∃ history result, d.Takes history result ∧ ∀ made ∈ history, p made := by
  induction d with
  | done value => exact ⟨[], value, ⟨rfl, rfl⟩, by simp⟩
  | ask query next ih =>
    obtain ⟨answer, hanswer⟩ := h query
    obtain ⟨rest, result, takes, hrest⟩ := ih answer
    exact ⟨_, result, ⟨answer, rest, rfl, takes⟩, List.forall_mem_cons.2 ⟨hanswer, hrest⟩⟩

/-! ### The path with given collaborators -/

/-- The path that a dialogue takes with `answerer`, where it ends, and the state it leaves. -/
def trace (answerer : Answerer σ) : Dialogue α → σ → History × α × σ
  | done value, state => ([], value, state)
  | ask query next, state =>
    let (answer, state) := answerer query state
    let (history, ending) := trace answerer (next answer) state
    (⟨query, answer⟩ :: history, ending)

theorem takes_trace (answerer : Answerer σ) (d : Dialogue α) (state : σ) :
    d.Takes (d.trace answerer state).1 (d.trace answerer state).2.1 := by
  induction d generalizing state with
  | done value => exact ⟨rfl, rfl⟩
  | ask query next ih => exact ⟨_, _, rfl, ih _ _⟩

theorem trace_snd (answerer : Answerer σ) (d : Dialogue α) (state : σ) :
    (d.trace answerer state).2 = d.run answerer state := by
  induction d generalizing state with
  | done value => rfl
  | ask query next ih => exact ih _ _

end ClockManager.Dialogue
