import ClockManager.Proofs.Dialogue
import Mathlib.Data.List.Induction
/-!
# Events

What happens in a run, in order: messages arrive, completions are taken, and the platform and its
collaborators hold exchanges. The properties of runs are stated about this list. The rest of the
module sorts exchanges by what they are to a run: a call that touches a clock, an answer, a question
that leaves no trace, a notice that nobody should ever see.
-/

namespace ClockManager

inductive Event where
  | message (service : ServiceId) (raw : UInt32) (payload : Bytes)
  | completion (completion : Completion)
  | exchange (exchange : Exchange)

/-- What set a move off: the message that arrived, or the completion unless it was turned away. -/
def Move.arrival (move : Move) : List Event :=
  match move.operation, move.result with
  | .receive service raw payload, _ => [.message service raw payload]
  | .complete _, .completed (.error (.unsolicited _)) => []
  | .complete completion, _ => [.completion completion]
  | _, _ => []

def exchanges (history : History) : List Event := history.map .exchange

def Move.events (move : Move) : List Event := move.arrival ++ exchanges move.history

/-- Everything that happens in a run. -/
def events (moves : List Move) : List Event := moves.flatMap Move.events

@[simp] theorem exchanges_nil : exchanges [] = [] := rfl

@[simp] theorem exchanges_cons (exchange : Exchange) (history : History) :
    exchanges (exchange :: history) = .exchange exchange :: exchanges history := rfl

@[simp] theorem exchanges_append (first second : History) :
    exchanges (first ++ second) = exchanges first ++ exchanges second :=
  List.map_append

theorem exchange_mem_exchanges {history : History} {made : Exchange} :
    .exchange made ∈ exchanges history ↔ made ∈ history := by
  simp [exchanges]

/-- Where an exchange stands among events that are all exchanges, it stands in their history. -/
theorem exists_of_exchanges_eq {history : History} {past later : List Event} {made : Exchange}
    (h : exchanges history = past ++ .exchange made :: later) :
    ∃ before after, history = before ++ made :: after ∧ past = exchanges before := by
  obtain ⟨before, rest, rfl, rfl, hrest⟩ := List.map_eq_append_iff.1 h
  obtain ⟨found, after, rfl, hfound, -⟩ := List.map_eq_cons_iff.1 hrest
  obtain rfl := Event.exchange.inj hfound
  exact ⟨before, after, rfl, rfl⟩

theorem not_message_mem_exchanges {history : History} {service : ServiceId} {raw : UInt32}
    {payload : Bytes} : .message service raw payload ∉ exchanges history := by
  simp [exchanges]

/-- Messages arrive in moves that take one in. -/
theorem Move.not_message_mem_events {move : Move}
    (h : ∀ service raw payload, move.operation ≠ .receive service raw payload)
    (service : ServiceId) (raw : UInt32) (payload : Bytes) :
    .message service raw payload ∉ move.events := by
  intro hmem
  rcases List.mem_append.1 hmem with hmem | hmem
  · unfold Move.arrival at hmem
    split at hmem <;> simp_all
  · exact not_message_mem_exchanges hmem

@[simp] theorem events_nil : events [] = [] := rfl

@[simp] theorem events_append (moves more : List Move) :
    events (moves ++ more) = events moves ++ events more :=
  List.flatMap_append

@[simp] theorem events_singleton (move : Move) : events [move] = move.events :=
  List.flatMap_singleton ..

/-! ### Along a list of events -/

section Along

variable {σ : Type} {next : σ → Event → σ} {allowed : σ → Event → Prop} {state : σ}
  {events more rest : List Event}

/-- Each event is allowed in the state that the events before it have led to. -/
def Along (next : σ → Event → σ) (allowed : σ → Event → Prop) : σ → List Event → Prop
  | _, [] => True
  | state, event :: rest => allowed state event ∧ Along next allowed (next state event) rest

theorem along_append : Along next allowed state (events ++ more) ↔
    Along next allowed state events ∧ Along next allowed (events.foldl next state) more := by
  induction events generalizing state with
  | nil => simp [Along]
  | cons event rest ih => simp [Along, ih, and_assoc]

theorem Along.allowed_of_eq_append {event : Event} (h : Along next allowed state events)
    (split : events = more ++ event :: rest) : allowed (more.foldl next state) event := by
  rw [split, along_append] at h
  exact h.2.1

/-- What is allowed whatever has happened before is allowed all along. -/
theorem along_of_forall (h : ∀ event ∈ events, ∀ state, allowed state event) :
    Along next allowed state events := by
  induction events generalizing state with
  | nil => exact trivial
  | cons event rest ih =>
    obtain ⟨hevent, hrest⟩ := List.forall_mem_cons.1 h
    exact ⟨hevent state, ih hrest⟩

variable {history : History}

/-- Exchanges that are ignored change nothing, one after the other. -/
theorem foldl_of_ignored (h : ∀ exchange ∈ history, next state (.exchange exchange) = state) :
    (exchanges history).foldl next state = state := by
  induction history with
  | nil => rfl
  | cons exchange rest ih =>
    obtain ⟨hfirst, hrest⟩ := List.forall_mem_cons.1 h
    rw [exchanges_cons, List.foldl_cons, hfirst]
    exact ih hrest

theorem along_of_ignored (h : ∀ exchange ∈ history, next state (.exchange exchange) = state)
    (ok : ∀ exchange ∈ history, allowed state (.exchange exchange)) :
    Along next allowed state (exchanges history) := by
  induction history with
  | nil => exact trivial
  | cons exchange rest ih =>
    obtain ⟨hfirst, hrest⟩ := List.forall_mem_cons.1 h
    obtain ⟨hok, hokRest⟩ := List.forall_mem_cons.1 ok
    refine ⟨hok, ?_⟩
    rw [hfirst]
    exact ih hrest hokRest

end Along

/-! ### Calls that touch a clock -/

/-- A call that touches a clock: what is asked of which device, and what the answer settles. -/
structure Touch where
  device : DeviceId
  work : Work
  settled? : Option (Except HardwareError Value)

def Exchange.touch? : Exchange → Option Touch
  | ⟨.getState device, answer⟩ => some ⟨device, .getState, settle .state answer⟩
  | ⟨.getRate device, answer⟩ => some ⟨device, .getRate, settle .rate answer⟩
  | ⟨.setRate device rate rounding, answer⟩ =>
    some ⟨device, .setRate rate rounding, settle (fun _ => .applied) answer⟩
  | ⟨.setState device state, answer⟩ =>
    some ⟨device, .setState state, settle (fun _ => .applied) answer⟩
  | _ => none

def Touch.item (touch : Touch) : WorkItem := ⟨touch.device, touch.work⟩

def Event.call? : Event → Option WorkItem
  | exchange made => made.touch?.map Touch.item
  | _ => none

/-- The work that the hardware was asked to do, call by call. -/
def calls (events : List Event) : List WorkItem := events.filterMap Event.call?

@[simp] theorem calls_nil : calls [] = [] := rfl

@[simp] theorem calls_append (events more : List Event) :
    calls (events ++ more) = calls events ++ calls more :=
  List.filterMap_append

@[simp] theorem calls_cons_message {service : ServiceId} {raw : UInt32} {payload : Bytes}
    {events : List Event} : calls (.message service raw payload :: events) = calls events := rfl

@[simp] theorem calls_cons_completion {completion : Completion} {events : List Event} :
    calls (.completion completion :: events) = calls events := rfl

theorem calls_cons_of_touch? {exchange : Exchange} {touch : Touch} {events : List Event}
    (h : exchange.touch? = some touch) :
    calls (.exchange exchange :: events) = touch.item :: calls events :=
  List.filterMap_cons_some (by rw [Event.call?, h]; rfl)

theorem calls_exchanges_of_untouched {history : History}
    (h : ∀ exchange ∈ history, exchange.touch? = none) : calls (exchanges history) = [] := by
  rw [calls, List.filterMap_eq_nil_iff]
  intro event hevent
  obtain ⟨exchange, hmem, rfl⟩ := List.mem_map.1 hevent
  rw [Event.call?, h exchange hmem]
  rfl

/-! ### Notices -/

/-- The notices of states that should not arise: work for a device that is idle, a request for a
device that has no slot, and a change of state that has lost its target. -/
def Notice.isDefect : Notice → Bool
  | idleItem _ => true
  | untracked _ => true
  | targetLost _ => true
  | _ => false

def Query.isDefect : Query → Bool
  | log notice => notice.isDefect
  | _ => false

def Exchange.isNotice (exchange : Exchange) : Bool :=
  match exchange.query with
  | .log _ => true
  | _ => false

/-- The exchanges that are more than notices. -/
def spoken (history : History) : History := history.filter (!·.isNotice)

@[simp] theorem spoken_nil : spoken [] = [] := rfl

@[simp] theorem spoken_append (first second : History) :
    spoken (first ++ second) = spoken first ++ spoken second :=
  List.filter_append ..

/-! ### Questions that leave no trace -/

/-- The queries by which the platform makes up its mind about a message. They touch no clock, commit
nothing, answer nobody and report no defect. -/
def Query.isConsultation : Query → Bool
  | respond _ _ => false
  | reviewState .post _ _ => false
  | getState _ => false
  | getRate _ => false
  | setRate _ _ _ => false
  | setState _ _ => false
  | log notice => !notice.isDefect
  | _ => true

def Consultation (history : History) : Prop := ∀ exchange ∈ history, exchange.query.isConsultation

theorem isDefect_of_isConsultation {query : Query} (h : query.isConsultation) :
    query.isDefect = false := by
  cases query <;> simp_all [Query.isConsultation, Query.isDefect]

theorem touch?_eq_none_of_isConsultation {exchange : Exchange}
    (h : exchange.query.isConsultation) : exchange.touch? = none := by
  obtain ⟨query, answer⟩ := exchange
  cases query <;> simp_all [Query.isConsultation, Exchange.touch?]

/-! ### Answers of the transport, and answers given on it -/

def Exchange.owner? : Exchange → Option (Except TransportError AgentId)
  | ⟨.agentOf _, answer⟩ => some answer
  | _ => none

/-- What the transport said, each time that it was asked whose channel a message came on. -/
def owners (history : History) : List (Except TransportError AgentId) :=
  history.filterMap Exchange.owner?

theorem owners_append (first second : History) :
    owners (first ++ second) = owners first ++ owners second :=
  List.filterMap_append

/-- What it said last. -/
def owner? (history : History) : Option (Except TransportError AgentId) := (owners history).getLast?

theorem owner?_of_owners_eq_nil {rest : History} (h : owners rest = []) (front : History)
    (service : ServiceId) (owner : Except TransportError AgentId) :
    owner? (front ++ ⟨.agentOf service, owner⟩ :: rest) = some owner := by
  have hcons : owners (⟨.agentOf service, owner⟩ :: rest) = owner :: owners rest := rfl
  rw [owner?, owners_append, hcons, h, List.getLast?_append]
  rfl

def Exchange.reply? : Exchange → Option (ServiceId × Reply)
  | ⟨.respond service reply, _⟩ => some (service, reply)
  | _ => none

/-- The answers that were given, and on which channels, whether or not they could be sent. -/
def replies (history : History) : List (ServiceId × Reply) := history.filterMap Exchange.reply?

@[simp] theorem replies_nil : replies [] = [] := rfl

@[simp] theorem replies_append (first second : History) :
    replies (first ++ second) = replies first ++ replies second :=
  List.filterMap_append

theorem Exchange.reply?_eq_none_of_touch? {exchange : Exchange} {touch : Touch}
    (h : exchange.touch? = some touch) : exchange.reply? = none := by
  obtain ⟨query, answer⟩ := exchange
  cases query <;> simp_all [Exchange.touch?, Exchange.reply?]

theorem replies_cons_of_touch? {exchange : Exchange} {touch : Touch} {rest : History}
    (h : exchange.touch? = some touch) : replies (exchange :: rest) = replies rest :=
  List.filterMap_cons_none (Exchange.reply?_eq_none_of_touch? h)

theorem replies_spoken (history : History) : replies (spoken history) = replies history := by
  rw [replies, spoken, List.filterMap_filter]
  congr 1
  funext exchange
  obtain ⟨query, answer⟩ := exchange
  cases query <;> rfl

theorem replies_of_consultation {history : History} (h : Consultation history) :
    replies history = [] := by
  rw [replies, List.filterMap_eq_nil_iff]
  intro exchange hmem
  have hquery := h exchange hmem
  obtain ⟨query, answer⟩ := exchange
  cases query <;> simp_all [Exchange.reply?, Query.isConsultation]

/-- A message is accepted if it is not answered at once. -/
def Move.isAccepted (move : Move) : Bool :=
  match move.operation with
  | .receive _ _ _ => (replies move.history).isEmpty
  | _ => false

theorem Move.isAccepted_eq_false {service : ServiceId} {raw : UInt32} {payload : Bytes}
    {consulted : History} {reply : Reply} {sent : Except TransportError Unit}
    {result : OperationResult} :
    Move.isAccepted ⟨.receive service raw payload, consulted ++ [⟨.respond service reply, sent⟩],
      result⟩ = false := by
  simp [Move.isAccepted, replies, Exchange.reply?]

theorem Move.isAccepted_of_consultation {service : ServiceId} {raw : UInt32} {payload : Bytes}
    {consulted : History} {notice : Notice} {result : OperationResult}
    (h : Consultation consulted) :
    Move.isAccepted ⟨.receive service raw payload, consulted ++ [⟨.log notice, ()⟩], result⟩ := by
  rw [Move.isAccepted, replies_append, replies_of_consultation h]
  rfl

/-! ### Runs in parts -/

namespace Platform

variable {start mid after : Platform} {moves more : List Move} {move : Move}

theorem Runs.trans (first : start.Runs moves mid) (second : mid.Runs more after) :
    start.Runs (moves ++ more) after := by
  induction second with
  | nil => rwa [List.append_nil]
  | snoc _ takes ih =>
    rw [← List.append_assoc]
    exact ih.snoc takes

theorem runs_append_singleton : start.Runs (moves ++ [move]) after ↔
    ∃ mid, start.Runs moves mid ∧
      (mid.perform move.operation).Takes move.history (move.result, after) := by
  constructor
  · intro run
    generalize hall : moves ++ [move] = all at run
    cases run with
    | nil => simp at hall
    | snoc run takes =>
      obtain ⟨rfl, hlast⟩ := List.append_inj' hall rfl
      cases hlast
      exact ⟨_, run, takes⟩
  · rintro ⟨mid, run, takes⟩
    exact run.snoc takes

theorem runs_nil : start.Runs [] after ↔ after = start := by
  constructor
  · intro run
    generalize hall : ([] : List Move) = all at run
    cases run with
    | nil => rfl
    | snoc => simp at hall
  · rintro rfl
    exact .nil

theorem runs_singleton : start.Runs [move] after ↔
    (start.perform move.operation).Takes move.history (move.result, after) := by
  rw [← List.nil_append [move], runs_append_singleton]
  simp only [runs_nil, exists_eq_left]

theorem runs_append : start.Runs (moves ++ more) after ↔
    ∃ mid, start.Runs moves mid ∧ mid.Runs more after := by
  refine ⟨fun run => ?_, fun ⟨mid, first, second⟩ => first.trans second⟩
  induction more using List.reverseRecOn generalizing after with
  | nil => exact ⟨after, by rwa [List.append_nil] at run, .nil⟩
  | append_singleton more move ih =>
    rw [← List.append_assoc, runs_append_singleton] at run
    obtain ⟨last, run, takes⟩ := run
    obtain ⟨mid, first, second⟩ := ih run
    exact ⟨mid, first, second.snoc takes⟩

end Platform

end ClockManager
