import RecordGraph.Shell.Arguments

namespace RecordGraph.Shell

open scoped Ids

def readFile? (path : String) : IO (Option String) := do
  try
    return some (← IO.FS.readFile path)
  catch _ => return none

def readEnvironment (vars : Option String) : IO (Entries String) := do
  let names := Settings.variableNames ++ Terminal.variableNames ++ Variables.words (vars.getD "")
  let names := LogFilter.variableName :: names
  let mut env : Entries String := []
  for name in names do
    if let some value ← IO.getEnv name then
      env := env.put name value
  return env

def milliseconds (nanoseconds : Nat) : String :=
  let hundredths := (nanoseconds + 5000) / 10000
  s!"{hundredths / 100}.{Time.padded 2 (hundredths % 100)}"

/-- Reads lines until a command or the end of the input ends the session; gives its status. -/
partial def converse (t : Terminal) (limits : PageLimits) (input output : IO.FS.Stream) (s : Session) : IO UInt32 := do
  output.putStr (t.ask s)
  output.flush
  let line ← input.getLine
  if line.isEmpty then
    output.putStr (farewell t.palette)
    return 0
  let some text := readLine? line.toList
    | return Ending.brokenOff.status.toUInt32
  let before ← IO.monoNanosNow
  let (next, event) := s.feed limits text
  let shown := showEvent t.palette next.database.catalog "" event
  let after ← if shown.isEmpty then pure before else IO.monoNanosNow
  output.putStr (showEvent t.palette next.database.catalog (milliseconds (after - before)) event)
  output.flush
  if event.isLast then return 0 else converse t limits input output next

def runQuery (p : Palette) (limits : PageLimits) (output : IO.FS.Stream) (query : String) : IO UInt32 := do
  let before ← IO.monoNanosNow
  let (outcome, _) := (execute limits query).on .initial
  let after ← if (showOutcome p "" outcome).isEmpty then pure before else IO.monoNanosNow
  output.putStr (showOutcome p (milliseconds (after - before)) outcome)
  return if outcome.toBool then 0 else 1

def program (args : List String) : IO UInt32 := do
  let some a := Arguments.ofList? args
    | IO.eprintln "usage: [-q QUERY] [-c DIRECTORY]"
      return 2
  let document ← readFile? (a.directory ++ "/" ++ Settings.documentName)
  let vars ← readFile? (a.directory ++ "/" ++ Settings.variablesName)
  let input ← IO.getStdin
  let output ← IO.getStdout
  let env := Settings.environment vars (← readEnvironment vars)
  match env, env.bind (Settings.ofEnvironment document) with
  | .ok env, .ok settings =>
    unless LogFilter.isReady env settings.logFilter do
      return Ending.brokenOff.status.toUInt32
    let t := Terminal.ofEnvironment env (← input.isTty) (← output.isTty)
    match a.query with
    | some query => runQuery t.palette settings.limits output query
    | none =>
      output.putStr (banner t.palette)
      converse t settings.limits input output .start
  | .error e, _ | _, .error e =>
    IO.eprintln ("Error: " ++ e.message)
    return (Ending.refused e).status.toUInt32

end RecordGraph.Shell

def main (args : List String) : IO UInt32 := RecordGraph.Shell.program args
