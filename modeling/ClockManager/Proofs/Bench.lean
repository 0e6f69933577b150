import ClockManager.Bench.Session
import ClockManager.Proofs.Sharing
/-!
# Sessions are runs

Whatever happens on the bench, the operations of a session are a run of its platform, and a bench
that holds the sharing policy serves that run. So what holds of all runs holds of every session. The
sessions at the end are small ones to look at: two agents share a device that one of them holds.
-/

namespace ClockManager

namespace Bench

def Session.move (session : Session) (operation : Operation) : Move :=
  let path := (session.platform.perform operation).trace World.answer session.world
  ⟨operation, path.1, path.2.1.1⟩

/-- The moves of a session, one for each operation among its steps. -/
def Session.moves (session : Session) : List Step → List Move
  | [] => []
  | step :: rest =>
    let later := (session.perform step).2.moves rest
    match step with
    | .operate operation => session.move operation :: later
    | .change _ => later

def Session.after (session : Session) (steps : List Step) : Session :=
  steps.foldl (fun session step => (session.perform step).2) session

theorem Session.runs_move (session : Session) (operation : Operation) :
    session.platform.Runs [session.move operation]
      (session.perform (.operate operation)).2.platform := by
  have takes := Dialogue.takes_trace World.answer (session.platform.perform operation)
    session.world
  have run : session.platform.Runs ([] ++ [session.move operation])
      ((session.platform.perform operation).trace World.answer session.world).2.1.2 :=
    .snoc .nil takes
  rwa [Dialogue.trace_snd] at run

theorem Session.runs_moves (session : Session) (steps : List Step) :
    session.platform.Runs (session.moves steps) (session.after steps).platform := by
  induction steps generalizing session with
  | nil => exact .nil
  | cons step rest ih =>
    cases step with
    | operate operation => exact (session.runs_move operation).trans (ih _)
    | change changes => exact ih (session.perform (.change changes)).2

theorem Session.moves_append (session : Session) (steps more : List Step) :
    session.moves (steps ++ more) = session.moves steps ++ (session.after steps).moves more := by
  induction steps generalizing session with
  | nil => rfl
  | cons step rest ih =>
    have hrest := ih (session.perform step).2
    cases step with
    | operate operation => exact congrArg (session.move operation :: ·) hrest
    | change changes => exact hrest

/-! ### The sharing policy on the bench -/

variable {tables : Sharing} {world : World}

theorem World.answer_of_policy (h : world.policy = .sharing tables) (query : Query) :
    tables.Agrees (.exchange ⟨query, (World.answer query world).1⟩) ∧
      (World.answer query world).2.policy =
        .sharing (tables.next (.exchange ⟨query, (World.answer query world).1⟩)) := by
  cases query with
  | reviewRate context rate rounding =>
    have hreview : World.answer (.reviewRate context rate rounding) world =
        world.reviewRate context rate rounding := rfl
    rw [hreview, World.reviewRate, h]
    exact ⟨rfl, h⟩
  | reviewState phase context state =>
    have hreview : World.answer (.reviewState phase context state) world =
        world.reviewState phase context state := rfl
    rw [hreview, World.reviewState, h]
    refine ⟨rfl, ?_⟩
    dsimp only
    cases (tables.review phase context state).notice? <;> rfl
  | allowsProtocol agent protocol =>
    refine ⟨trivial, ?_⟩
    dsimp only [World.answer, World.allowsProtocol]
    split <;> exact h
  | allowsResource agent protocol message resource =>
    refine ⟨trivial, ?_⟩
    dsimp only [World.answer, World.allowsResource]
    split <;> exact h
  | _ => exact ⟨trivial, h⟩

theorem World.policy_change (world : World) (change : Change) :
    (world.change change).policy = world.policy := by
  cases change <;> rfl

theorem World.policy_changes (changes : List Change) :
    (changes.foldl World.change world).policy = world.policy := by
  induction changes generalizing world with
  | nil => rfl
  | cons change rest ih => exact ih.trans (world.policy_change change)

theorem World.serves_trace {α : Type} (h : world.policy = .sharing tables) (d : Dialogue α) :
    tables.Serves (exchanges (d.trace World.answer world).1) ∧
      (d.run World.answer world).2.policy =
        .sharing (tables.after (exchanges (d.trace World.answer world).1)) := by
  induction d generalizing world tables with
  | done value => exact ⟨trivial, h⟩
  | ask query next ih =>
    obtain ⟨hagrees, hpolicy⟩ := World.answer_of_policy h query
    obtain ⟨hserves, hrest⟩ := ih _ hpolicy
    exact ⟨⟨hagrees, hserves⟩, hrest⟩

/-- A bench that holds the sharing policy serves the sessions on it. -/
theorem Session.serves_moves {session : Session} (h : session.world.policy = .sharing tables)
    (steps : List Step) : tables.Serves (events (session.moves steps)) := by
  induction steps generalizing session tables with
  | nil => exact trivial
  | cons step rest ih =>
    cases step with
    | operate operation =>
      obtain ⟨hserves, hpolicy⟩ := World.serves_trace h (session.platform.perform operation)
      have hafter : tables.after (session.move operation).events =
          tables.after (exchanges (session.move operation).history) := by
        rw [Move.events, Sharing.after_append, Sharing.after_arrival]
      have hmove : tables.Serves (session.move operation).events := by
        rw [Move.events, Sharing.serves_append, Sharing.after_arrival]
        exact ⟨Sharing.serves_arrival _, hserves⟩
      refine Sharing.serves_append.2 ⟨hmove, ?_⟩
      rw [hafter]
      exact ih hpolicy
    | change changes => exact ih ((World.policy_changes changes).trans h)

/-! ### A small session -/

/-- The first agent holds the one device that it shares with the second agent. -/
def sampleTopology : Topology where
  maxPending := 2
  devices := ["CPU", "GPU"]
  agents := [⟨"PSCI", [⟨⟨0⟩, true⟩]⟩, ⟨"OSPM", [⟨⟨1⟩, false⟩, ⟨⟨0⟩, false⟩]⟩]
  agents_ne := by decide
  devices_ne := by decide
  names_fit := by decide
  devices_known := by decide

/-- Service 10 belongs to the first agent and service 11 to the second one. -/
def sampleSession : Session where
  platform := .start sampleTopology
  world :=
    { transport := .ofBindings 128 [(⟨10⟩, ⟨0⟩), (⟨11⟩, ⟨1⟩)]
      hardware :=
        { devices := List.replicate 2
            { state := .stopped, rate := 0, range := .discrete 0, rates := .table [] }
          deferred := [⟨1⟩] }
      policy := .sharing (.ofTopology sampleTopology) }

def send (service : UInt32) (request : Request) : Step :=
  .operate (.receive ⟨service⟩ request.message.raw request.payload)

/-- The GPU is started, which takes a while. In the meantime the CPU cannot be stopped, because the
hardware fails, and is shared, which needs no hardware. Then it is asked for its state, twice. -/
def sampleSteps : List Step :=
  [send 11 (.configSet 0 1), .operate .runNext,
    send 10 (.configSet 0 0), .change [.failures [some .hardware]], .operate .runNext,
    send 11 (.configSet 1 1),
    .operate (.complete ⟨⟨1⟩, .ok .applied⟩),
    send 11 (.configSet 0 0), .operate .runQueue,
    send 10 (.clockAttributes 0), send 11 (.clockAttributes 1)]

/-- After the sample session the hardware fails, and neither of the next two answers can be sent. -/
def drainingSession : Session :=
  ((sampleSession.after sampleSteps).perform
    (.change [.failures [some .hardware], .failRespond 2])).2

/-- The second agent shares the CPU, and the first agent stops it. -/
def sharingSteps : List Step :=
  [send 11 (.configSet 1 1), send 10 (.configSet 0 0), .operate .runNext]

def startingSession : Session := sampleSession.after [send 11 (.configSet 0 1)]

/-- The GPU is to be started, and will not take a while. -/
def promptSession : Session := (startingSession.perform (.change [.deferred []])).2

def pendingSession : Session := (startingSession.perform (.operate .runNext)).2

def busySteps : List Step :=
  [send 10 (.configSet 0 0), send 11 (.configSet 0 0), .operate .runNext]

/-- The GPU is started, and the CPU is stopped in the meantime. -/
def startingSteps : List Step :=
  .operate .runNext :: busySteps ++ [.operate (.complete ⟨⟨1⟩, .ok .applied⟩)]

def runningSession : Session := startingSession.after startingSteps

def stoppingSteps : List Step := [.operate .runNext, .operate (.complete ⟨⟨1⟩, .ok .applied⟩)]

def failedSession : Session :=
  ((pendingSession.after busySteps).perform
    (.operate (.complete ⟨⟨1⟩, .error .hardware⟩))).2

/-- Both agents hold the CPU at the start. -/
def sharedTopology : Topology where
  maxPending := 2
  devices := ["CPU", "GPU"]
  agents := [⟨"PSCI", [⟨⟨0⟩, true⟩]⟩, ⟨"OSPM", [⟨⟨1⟩, false⟩, ⟨⟨0⟩, true⟩]⟩]
  agents_ne := by decide
  devices_ne := by decide
  names_fit := by decide
  devices_known := by decide

def sharedSession : Session where
  platform := .start sharedTopology
  world := { sampleSession.world with policy := .sharing (.ofTopology sharedTopology) }

/-- The CPU is asked to stop while the GPU is being started. -/
def sharedSteps : List Step :=
  [send 11 (.configSet 0 1), send 10 (.configSet 0 0), .operate .runQueue,
    .operate (.complete ⟨⟨1⟩, .ok .applied⟩)]

/-- The sample platform under a policy that takes the CPU to be held by both agents. -/
def mixedSession : Session := { sampleSession with world := sharedSession.world }

def mixedSteps : List Step :=
  [send 11 (.configSet 0 1), .operate .runNext, .operate (.complete ⟨⟨1⟩, .ok .applied⟩)]

/-- A policy turns what is asked of the GPU around, and rejects the commit of it. -/
def contrarySession : Session where
  platform := .start sampleTopology
  world := { sampleSession.world with policy := .scripted { invert := [0], rejectPost := [0] } }

/-- The GPU is asked to stop, and brought to run after a while. -/
def contrarySteps : List Step :=
  [send 11 (.configSet 0 0), .operate .runNext, .operate (.complete ⟨⟨1⟩, .ok .applied⟩)]

/-- The GPU, which has two rates now, is asked for them, and then for its state. -/
def describingSteps : List Step :=
  [.change [.device 1
      { state := .running, rate := 5, range := .discrete 2, rates := .table [5, 7] }],
    send 11 (.describeRates 0 0), send 11 (.clockAttributes 0), .operate .runNext,
    .operate (.complete ⟨⟨1⟩, .ok (.state .running)⟩)]

def ratedSession : Session := sampleSession.after (describingSteps.take 1)

end Bench
end ClockManager
