import SceneFlow.Session

/-!
Transcripts: what an interactive session shows and logs from its beginning to its end, given the
lines that are read and the world as it is when they are.
-/

namespace SceneFlow

def Answer.shown : Answer → String
  | text shown => shown ++ "\n\n"
  | failure reason => "Error: " ++ reason.message ++ "\n\n"
  | notNumber => "Error: invalid float literal\n\n"
  | farewell => ""

/-- A line that is read, in the world as it is then. -/
structure Input where
  world : World
  line : String

structure Transcript where
  output : String
  faults : List Fault
  log : List LogLine
  failure : Option Failure

namespace Session

def request? (line : String) : Option Request :=
  let line := Text.trim line
  if line = "" then none else some (.ofLine line)

def inputEnd : String := "^D\n"

def converse [Checksum] (session : Session) : List Input → Transcript
  | [] => ⟨inputEnd, [], [], none⟩
  | input :: inputs =>
    match request? input.line with
    | none => session.converse inputs
    | some request =>
      let response := session.respond input.world request
      let rest : Transcript :=
        match response.answer with
        | .farewell => ⟨"", [], [], none⟩
        | _ => response.session.converse inputs
      ⟨response.answer.shown ++ rest.output, response.faults ++ rest.faults,
        response.log ++ rest.log, rest.failure⟩

def heading (path : String) : String := "scenefsm REPL\nLoading " ++ path ++ "...\n"

def welcome (session : Session) : String :=
  "Ready in state " ++ session.currentName ++ "\nType 'help' for available commands.\n\n"

def transcript [Checksum] (path : String) (world : World) (inputs : List Input) : Transcript :=
  let loading := load path world
  match loading.session with
  | .error failure => ⟨heading path, loading.faults, loading.log, some failure⟩
  | .ok session =>
    let rest := session.converse inputs
    ⟨heading path ++ session.welcome ++ rest.output, loading.faults ++ rest.faults,
      loading.log ++ rest.log, none⟩

end Session

end SceneFlow
