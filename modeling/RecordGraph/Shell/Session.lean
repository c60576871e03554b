import RecordGraph.Shell.Display
import RecordGraph.Shell.Terminal
import RecordGraph.Shell.Typing

namespace RecordGraph.Shell

open Text

/-- A session: the state of the database, and the lines of the query that is still open. -/
structure Session where
  database : Database
  buffer : String

def Session.start : Session := ⟨.initial, ""⟩

/-- How many more braces are opened than closed. A backslash makes the next character count for nothing. -/
def openBraces : List Char → Int
  | [] => 0
  | '\\' :: _ :: cs => openBraces cs
  | c :: cs => (if c = '{' then 1 else if c = '}' then -1 else 0) + openBraces cs

def isIncomplete (text : String) : Bool := 0 < openBraces text.toList

inductive Command
  | exit
  | help
  | schema
  | clear
  | unknown (text : String)
  deriving DecidableEq, Repr

def Command.ofText : String → Command
  | ".exit" | ".quit" | ".q" => exit
  | ".help" | ".h" | ".?" => help
  | ".schema" => schema
  | ".clear" => clear
  | text => unknown text

inductive Event
  /-- Nothing: the line is blank, or the query goes on. -/
  | nothing
  | command (command : Command)
  | query (text : String) (outcome : Except Fault Json)

def trimmed (text : String) : String := String.ofList (trim text.toList)

namespace Session

def feed [Ids] (limits : PageLimits) (s : Session) (line : String) : Session × Event :=
  let word := trimmed line
  if s.buffer = "" ∧ word = "" then (s, .nothing)
  else if s.buffer = "" ∧ word.startsWith "." then (s, .command (.ofText word))
  else
    let buffer := s.buffer ++ line ++ "\n"
    if isIncomplete buffer then ({ s with buffer := buffer }, .nothing)
    else
      let query := trimmed buffer
      let (outcome, database) := (execute limits query).on s.database
      (⟨database, ""⟩, .query query outcome)

def feedAll [Ids] (limits : PageLimits) (s : Session) : List String → Session × List Event
  | [] => (s, [])
  | line :: lines =>
    let (t, event) := s.feed limits line
    let (u, events) := t.feedAll limits lines
    (u, event :: events)

end Session

def farewell (p : Palette) : String := unlines [p.paint .dimmed "Goodbye!"]

def showCommand (p : Palette) (c : Catalog) : Command → String
  | .exit => farewell p
  | .help => help p
  | .schema => showCatalog p c
  | .clear => "\x1b[2J\x1b[1;1H" ++ banner p
  | .unknown text =>
    unlines ["  " ++ p.paint .red "Unknown command:" ++ " " ++ text, "  Type " ++ p.paint .yellow ".help" ++ " for help"]

/-- What an event shows; the catalog is the one after it, and a query took `elapsed` milliseconds. -/
def showEvent (p : Palette) (c : Catalog) (elapsed : String) : Event → String
  | .nothing => ""
  | .command command => showCommand p c command
  | .query _ outcome => showOutcome p elapsed outcome

def Event.isLast : Event → Bool
  | .command .exit => true
  | _ => false

/-- What is shown before a line is read: another prompt while a query is open. -/
def Terminal.ask (t : Terminal) (s : Session) : String :=
  if t.prompts then
    if s.buffer = "" then t.palette.paint .cyan "nodeql>" ++ " " else t.palette.paint .dimmed "   ..." ++ " "
  else ""

/-- How the program ends: its status, and what it has written. -/
structure Ending where
  status : Nat
  output : String
  deriving DecidableEq, Repr

namespace Ending

def after (shown : String) (e : Ending) : Ending := { e with output := shown ++ e.output }

/-- The program breaks off without a word. -/
def brokenOff : Ending := ⟨101, ""⟩

end Ending

/-- What a session shows for some lines. The end of the lines ends it like the command, a line that could not be read
breaks it off. -/
def transcript [Ids] (t : Terminal) (limits : PageLimits) (elapsed : String) (s : Session) : List (Option String) → Ending
  | [] => ⟨0, t.ask s ++ farewell t.palette⟩
  | none :: _ => Ending.brokenOff.after (t.ask s)
  | some line :: lines =>
    let (next, event) := s.feed limits line
    let shown := t.ask s ++ showEvent t.palette next.database.catalog elapsed event
    if event.isLast then ⟨0, shown⟩ else (transcript t limits elapsed next lines).after shown

end RecordGraph.Shell
