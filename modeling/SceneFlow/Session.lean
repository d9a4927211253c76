import SceneFlow.Machine.Wording
import SceneFlow.Number.Literal
import SceneFlow.Program
import SceneFlow.Stage
import SceneFlow.Text.Blank

/-!
Interactive sessions: a program that is stepped by hand, line by line. The clock moves only when a
line says so.
-/

namespace SceneFlow

inductive Request
  | nothing
  | help
  | quit
  | tick (seconds : Option String)
  | state
  | events
  | history
  | table
  | reload
  | submit (event : String)
  | unknown (word : String)
  deriving DecidableEq

/-- A command is known by the lower-case form of the first word of its line. -/
def Request.ofLine (line : String) : Request :=
  match Text.words line with
  | [] => .nothing
  | first :: others =>
    match Text.lowerCase first with
    | "help" | "?" => .help
    | "quit" | "exit" | "q" => .quit
    | "tick" | "t" => .tick others.head?
    | "state" | "s" => .state
    | "events" | "e" => .events
    | "history" | "h" => .history
    | "table" => .table
    | "reload" => .reload
    | word => if others.isEmpty then .submit first else .unknown word

structure Clock where
  /-- The time in nanoseconds. It starts from what the platform's clock shows. -/
  reading : Nat
  range : Nat
  deriving DecidableEq

def Clock.forward? (clock : Clock) (step : Nat) : Option Clock :=
  let reading := clock.reading + step
  if reading < clock.range then some { clock with reading } else none

/-- What a session meets outside: the platform's clock, and the bytes of the program's file if it
can be read. -/
structure World where
  clock : Clock
  file : Option ByteArray

structure Session where
  path : String
  program : Program
  stage : Stage
  clock : Clock

inductive Answer
  | text (text : String)
  | failure (failure : Failure)
  | notNumber
  | farewell
  deriving DecidableEq

structure Response where
  answer : Answer
  session : Session
  faults : List Fault
  log : List LogLine

namespace Session

def helpText : String :=
  "\nAvailable commands:\n"
    ++ "  help                  Show this help\n"
    ++ "  <event>               Submit an event to the current state\n"
    ++ "  tick [secs]           Advance the clock (default 0) and run one tick\n"
    ++ "  state                 Show the current state and status\n"
    ++ "  events                List events the current state accepts\n"
    ++ "  history               Show the transition history\n"
    ++ "  table                 Show the transition table\n"
    ++ "  reload                Recompile the program and restart the machine\n"
    ++ "\n"
    ++ "  quit, exit            Exit the REPL\n"

structure Loading where
  session : Except Failure Session
  faults : List Fault
  log : List LogLine

def load [Checksum] (path : String) (world : World) : Loading :=
  match Program.load world.file with
  | .error failure => ⟨.error failure, [], []⟩
  | .ok program =>
    match program.validGraph with
    | .error failure => ⟨.error failure, program.faults, program.log⟩
    | .ok graph =>
      match Stage.create graph with
      | .error failure => ⟨.error failure, program.faults, program.log⟩
      | .ok (stage, notices) =>
        ⟨.ok ⟨path, program, stage, world.clock⟩, program.faults,
          program.log ++ notices.map (Notice.line graph.toDiagram)⟩

def graph (session : Session) : Graph := session.program.graph

def currentName (session : Session) : String :=
  session.graph.stateName session.stage.machine.current

def phaseText : Phase → String
  | .entering => "Entering"
  | .activating _ _ => "ActivatingResource"
  | .waiting _ => "WaitingForTransition"

def insertText (text : String) : List String → List String
  | [] => [text]
  | other :: rest =>
    if text < other then text :: other :: rest
    else if text = other then other :: rest
    else other :: insertText text rest

def acceptedNames (diagram : Diagram) (machine : Machine) : List String :=
  (machine.mailbox.accepted.map diagram.eventName).foldr insertText []

def historyNames (diagram : Diagram) (machine : Machine) : List String :=
  machine.history.reverse.map diagram.stateName

def transitionText (diagram : Diagram) (transition : Transition) : String :=
  let trigger := match transition.trigger with
    | .timed seconds => "after " ++ seconds.text .plain ++ "s"
    | .named event => diagram.eventName event
    | .back event => diagram.eventName event ++ " (back)"
  diagram.stateName transition.source ++ " → " ++ diagram.stateName transition.target
    ++ " [" ++ trigger ++ "]"
    ++ String.join (transition.discarded.map fun event =>
      "\n  Discarded " ++ diagram.eventName event)

def answer (session : Session) (answer : Answer) : Response := ⟨answer, session, [], []⟩

def tickAt (session : Session) (clock : Clock) : Response :=
  let (stage, _, step) := session.stage.tick session.graph clock.reading true
  let session := { session with stage, clock }
  let text := match step.outcome with
    | .transitioned transition => transitionText session.graph.toDiagram transition
    | .activating => "Activating resource"
    | .idle => "Idle in " ++ session.currentName
  ⟨.text text, session, [], step.notices.map (Notice.line session.graph.toDiagram)⟩

def tick (session : Session) (word : Option String) : Response :=
  match word.elim (some (.zero false)) Number.Binary64.ofLiteral? with
  | none => session.answer .notNumber
  | some seconds =>
    match seconds.delay?.bind session.clock.forward? with
    | none => session.answer (.text "Usage: tick [non-negative seconds]")
    | some clock => session.tickAt clock

def stateText (session : Session) : String :=
  let machine := session.stage.machine
  let resource := (machine.currentState? session.graph).bind State.resource
  let pending := machine.mailbox.pending.length
  session.currentName ++ " (" ++ phaseText machine.phase ++ ")"
    ++ resource.elim "" ("\n  Resource: " ++ ·)
    ++ if 0 < pending then "\n  Pending: " ++ pending.repr else ""

def listText (empty : String) (lines : List String) : String :=
  if lines.isEmpty then empty else "\n".intercalate (lines.map ("  " ++ ·))

def historyText (session : Session) : String :=
  let names := historyNames session.graph.toDiagram session.stage.machine
  if names.isEmpty then "No history" else " → ".intercalate names

def submit (session : Session) (event : String) : Response :=
  match session.stage.machine.submit session.graph event with
  | .error failure => session.answer (.failure failure)
  | .ok receipt =>
    let text := match receipt.submission with
      | .accepted => "Accepted " ++ event ++ " (tick to apply)"
      | .dropped => "Dropped " ++ event ++ ": not accepted in " ++ session.currentName
    ⟨.text text, { session with stage := { session.stage with machine := receipt.machine } }, [],
      receipt.notices.map (Notice.line session.graph.toDiagram)⟩

def reload [Checksum] (session : Session) (world : World) : Response :=
  let loading := load session.path world
  match loading.session with
  | .error failure => ⟨.failure failure, session, loading.faults, loading.log⟩
  | .ok fresh =>
    ⟨.text ("Reloaded " ++ fresh.path ++ " (checksum " ++ fresh.graph.checksum ++ ")"), fresh,
      loading.faults, loading.log⟩

def respond [Checksum] (session : Session) (world : World) : Request → Response
  | .nothing => session.answer (.text "")
  | .help => session.answer (.text helpText)
  | .quit => session.answer .farewell
  | .tick seconds => session.tick seconds
  | .state => session.answer (.text session.stateText)
  | .events =>
    let names := acceptedNames session.graph.toDiagram session.stage.machine
    session.answer (.text (listText "No events accepted" names))
  | .history => session.answer (.text session.historyText)
  | .table =>
    let rows := session.graph.table.map session.graph.rowText
    session.answer (.text (listText "No transitions" rows))
  | .reload => session.reload world
  | .submit event => session.submit event
  | .unknown word =>
    session.answer (.text ("Unknown command: " ++ word ++ ". Type 'help' for help."))

end Session

end SceneFlow
