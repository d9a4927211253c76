import SceneFlow.Report
import SceneFlow.Session.Transcript

/-!
The command line: reports on a program in a file, and interactive sessions with it.
-/

namespace SceneFlow.Main

def bytes? (path : String) : IO (Option ByteArray) := do
  try
    return some (← IO.FS.readBinFile path)
  catch _ =>
    return none

def fail (message : String) : IO UInt32 := do
  IO.eprintln ("Error: " ++ message)
  return 1

def display (report : Report) : IO UInt32 := do
  unless report.text.isEmpty do IO.println report.text
  return if report.success then 0 else 1

def reportOn (path : String) (report : Program → Report) : IO UInt32 := do
  match Program.load (← bytes? path) with
  | .ok program => display (report program)
  | .error failure => fail failure.message

def reportTokens (path : String) : IO UInt32 := do
  match fileText (← bytes? path) with
  | .ok source => display (Report.tokens source)
  | .error failure => fail failure.message

/-- Seconds of a clock are counted in 63 bits. -/
def clockRange : Nat := 0x8000000000000000 * second

def world (path : String) : IO World := do
  return ⟨⟨← IO.monoNanosNow, clockRange⟩, ← bytes? path⟩

partial def converse (session : Session) : IO UInt32 := do
  let line ← (← IO.getStdin).getLine
  if line.isEmpty then
    IO.print Session.inputEnd
    return 0
  match Session.request? line with
  | none => converse session
  | some request =>
    let world ← if request = .reload then world session.path else pure ⟨session.clock, none⟩
    let response := session.respond world request
    for fault in response.faults do IO.eprintln fault.text
    IO.print response.answer.shown
    if response.answer = .farewell then return 0
    converse response.session

def interact (path : String) : IO UInt32 := do
  IO.print (Session.heading path)
  let loading := Session.load path (← world path)
  for fault in loading.faults do IO.eprintln fault.text
  match loading.session with
  | .error failure => fail failure.message
  | .ok session =>
    IO.print session.welcome
    converse session

def usage : String :=
  "Usage: sceneflow check FILE | tokens FILE | commands FILE | graph [--json] FILE | repl FILE"

def run (arguments : List String) : IO UInt32 :=
  match arguments with
  | ["check", path] => reportOn path (Report.check path)
  | ["tokens", path] => reportTokens path
  | ["commands", path] => reportOn path Report.commands
  | ["graph", path] => reportOn path Report.graph
  | ["graph", "--json", path] | ["graph", path, "--json"] => reportOn path Report.json
  | ["repl", path] => interact path
  | _ => fail usage

end SceneFlow.Main

def main (arguments : List String) : IO UInt32 := SceneFlow.Main.run arguments
