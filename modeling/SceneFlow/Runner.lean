import SceneFlow.Config
import SceneFlow.Machine.Tick
import SceneFlow.Machine.Wording
import SceneFlow.Program
import SceneFlow.Simulation

/-!
Runners: a machine that is ticked by a clock, with counters of what has happened, a channel that
every transition is sent to, and an end after which no more events are taken. What loads the
resources and what the channel does with a transition is left open.
-/

namespace SceneFlow

structure Counters where
  ticks : Nat
  transitions : Nat
  accepted : Nat
  dropped : Nat
  deriving DecidableEq

inductive RunnerFailure
  | failure (failure : Failure)
  | invalidProgram (path : String) (errors : Nat)
  | shuttingDown
  deriving DecidableEq

namespace RunnerFailure

def code : RunnerFailure → String
  | failure reason => reason.code
  | invalidProgram _ _ => "INVALID_PROGRAM"
  | shuttingDown => "SHUTTING_DOWN"

def message : RunnerFailure → String
  | failure reason => "core error: " ++ reason.message
  | invalidProgram path errors => "program '" ++ path ++ "' has " ++ errors.repr ++ " error(s)"
  | shuttingDown => "runner shutting down"

end RunnerFailure

/-- Whatever loads resources: what becomes of them by a call at a moment of the clock, whether the
latest call is complete, and what is logged of a call. -/
structure Loader (σ : Type) where
  perform : Nat → Call → σ → σ
  isComplete : Nat → σ → Bool
  lines : Call → List LogLine

def Simulation.loader : Loader Simulation := ⟨perform, isComplete, fun call => [call.line]⟩

/-- Whatever hands transitions on to those who have subscribed. A receiver is known by a number. -/
structure Broadcast (κ : Type) where
  create : Nat → κ
  send : Transition → κ → κ
  subscribe : κ → Nat × κ

structure Runner (σ κ : Type) where
  graph : Graph
  machine : Machine
  loader : Loader σ
  resources : σ
  clock : Nat
  interval : Nat
  counters : Counters
  shuttingDown : Bool
  broadcast : Broadcast κ
  channel : κ

namespace Runner

variable {σ κ : Type}

def millisecond : Nat := 1000000

def new (graph : Graph) (machine : Machine) (loader : Loader σ) (resources : σ) (clock : Nat)
    (broadcast : Broadcast κ) (config : Config) : Runner σ κ where
  graph := graph
  machine := machine
  loader := loader
  resources := resources
  clock := clock
  interval := config.tickInterval
  counters := ⟨0, 0, 0, 0⟩
  shuttingDown := false
  broadcast := broadcast
  channel := broadcast.create (max 1 config.transitionBuffer)

def create (graph : Graph) (broadcast : Broadcast κ) (config : Config) :
    Except Failure (Runner Simulation κ × List LogLine) :=
  match Machine.make graph with
  | .error failure => .error failure
  | .ok ⟨machine, notices⟩ =>
    let resources := .create (config.activationLatency * millisecond)
    .ok (new graph machine Simulation.loader resources 0 broadcast config,
      notices.map (Notice.line graph.toDiagram))

def load [Checksum] (broadcast : Broadcast κ) (config : Config) (bytes : Option ByteArray) :
    Except RunnerFailure (Runner Simulation κ × List LogLine) :=
  match Program.load bytes with
  | .error failure => .error (.failure failure)
  | .ok program =>
    if !program.isValid then .error (.invalidProgram config.path program.faults.length)
    else
      match create program.graph broadcast config with
      | .error failure => .error (.failure failure)
      | .ok (runner, greeting) =>
        let loaded : LogLine :=
          ⟨.info, "Loaded program " ++ config.path ++ " (" ++ program.summary ++ ")"⟩
        .ok (runner, program.log ++ loaded :: greeting)

def send (name : String) (runner : Runner σ κ) :
    Except Failure (Submission × Runner σ κ × List LogLine) :=
  match runner.machine.submit runner.graph name with
  | .error failure => .error failure
  | .ok receipt =>
    .ok (receipt.submission, { runner with machine := receipt.machine },
      receipt.notices.map (Notice.line runner.graph.toDiagram))

def countSubmission (counters : Counters) : Submission → Counters
  | .accepted => { counters with accepted := counters.accepted + 1 }
  | .dropped => { counters with dropped := counters.dropped + 1 }

def submit (name : String) (runner : Runner σ κ) :
    Except RunnerFailure (Submission × Runner σ κ × List LogLine) :=
  if runner.shuttingDown then .error .shuttingDown
  else
    match runner.send name with
    | .error failure => .error (.failure failure)
    | .ok (submission, runner, log) =>
      .ok (submission, { runner with counters := countSubmission runner.counters submission }, log)

def publish (outcome : Outcome) (runner : Runner σ κ) : Runner σ κ :=
  let counters := { runner.counters with ticks := runner.counters.ticks + 1 }
  match outcome with
  | .transitioned transition =>
    { runner with
      counters := { counters with transitions := counters.transitions + 1 }
      channel := runner.broadcast.send transition runner.channel }
  | _ => { runner with counters }

def tick (runner : Runner σ κ) : Outcome × Runner σ κ × List LogLine :=
  let (machine, call) := runner.machine.begin runner.graph runner.clock
  let resources := call.elim runner.resources fun call =>
    runner.loader.perform runner.clock call runner.resources
  let ready := runner.loader.isComplete runner.clock resources
  let step := machine.advance runner.graph runner.clock ready
  (step.outcome, { runner with machine := step.machine, resources }.publish step.outcome,
    call.toList.flatMap runner.loader.lines
      ++ step.notices.map (Notice.line runner.graph.toDiagram))

def ticks : Nat → Runner σ κ → Runner σ κ × List LogLine
  | 0, runner => (runner, [])
  | count + 1, runner =>
    let (_, runner, log) := runner.tick
    let (runner, others) := ticks count runner
    (runner, log ++ others)

def sleep (duration : Nat) (runner : Runner σ κ) : Runner σ κ :=
  { runner with clock := runner.clock + duration * millisecond }

def shutdown (runner : Runner σ κ) : Runner σ κ := { runner with shuttingDown := true }

/-- How many ticks fit: one at the beginning, and one after each interval before the end. -/
def ticksWithin (duration interval : Nat) : Nat := max 1 ((duration + interval - 1) / interval)

/-- Ticks for a number of milliseconds and shuts down. The machine's own clock stands still. -/
def run (duration : Nat) (runner : Runner σ κ) : Runner σ κ × List LogLine :=
  let started : LogLine :=
    ⟨.info, "Runner started in state " ++ runner.graph.stateName runner.machine.current
      ++ " (tick_interval_ms=" ++ runner.interval.repr ++ ")"⟩
  let count := if runner.shuttingDown then 0 else ticksWithin duration runner.interval
  let (runner, log) := ticks count runner
  let stopped : LogLine :=
    ⟨.info, "Runner stopped after " ++ runner.counters.ticks.repr ++ " ticks, "
      ++ runner.counters.transitions.repr ++ " transitions"⟩
  (runner.shutdown, started :: log ++ [stopped])

def subscribe (runner : Runner σ κ) : Nat × Runner σ κ :=
  let (receiver, channel) := runner.broadcast.subscribe runner.channel
  (receiver, { runner with channel })

structure Snapshot where
  state : String
  phase : Phase
  /-- The states visited before, the latest last. -/
  history : List String
  pending : Nat
  ticks : Nat
  transitions : Nat
  deriving DecidableEq

def snapshot (runner : Runner σ κ) : Snapshot where
  state := runner.graph.stateName runner.machine.current
  phase := runner.machine.phase
  history := runner.machine.history.reverse.map runner.graph.stateName
  pending := runner.machine.mailbox.pending.length
  ticks := runner.counters.ticks
  transitions := runner.counters.transitions

end Runner

end SceneFlow
