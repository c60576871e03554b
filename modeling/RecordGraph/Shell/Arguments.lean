import RecordGraph.Settings.Basic
import RecordGraph.Settings.LogFilter
import RecordGraph.Shell.Session

namespace RecordGraph.Shell

structure Arguments where
  query : Option String
  config : Option String
  deriving DecidableEq, Repr

namespace Arguments

/-- The directory of the settings: the current one if none is named. -/
def directory (a : Arguments) : String := a.config.getD "."

/-- The arguments with one more option, which must be new. A directory has a name. -/
def set (a : Arguments) (isQuery : Bool) (value : String) : Option Arguments :=
  if isQuery then
    if a.query.isSome then none else some { a with query := some value }
  else
    if a.config.isSome ∨ value = "" then none else some { a with config := some value }

/-- Whether an argument can be the value of the option before it: it does not look like an option. -/
def isValue (text : String) : Bool := !text.startsWith "-" || text = "-"

/-- The value attached to a short option: an equals sign before it does not belong to it. -/
def attached (cs : List Char) : String :=
  match cs with
  | '=' :: rest => String.ofList rest
  | _ => String.ofList cs

def option? (text : String) : Option (Bool × Option String) :=
  match text.toList with
  | '-' :: '-' :: rest =>
    let name := String.ofList (rest.takeWhile (· != '='))
    let value := match rest.dropWhile (· != '=') with
      | _ :: value => some (String.ofList value)
      | [] => none
    if name = "query" then some (true, value) else if name = "config" then some (false, value) else none
  | '-' :: 'q' :: rest => some (true, if rest.isEmpty then none else some (attached rest))
  | '-' :: 'c' :: rest => some (false, if rest.isEmpty then none else some (attached rest))
  | _ => none

def add (a : Arguments) : List String → Option Arguments
  | [] => some a
  | ["--"] => some a
  | [text] =>
    match option? text with
    | some (isQuery, some value) => a.set isQuery value
    | _ => none
  | text :: next :: rest =>
    match option? text with
    | some (isQuery, some value) => (a.set isQuery value).bind fun a => a.add (next :: rest)
    | some (isQuery, none) => if isValue next then (a.set isQuery next).bind fun a => a.add rest else none
    | none => none

def ofList? (args : List String) : Option Arguments := add ⟨none, none⟩ args

end Arguments

def runOnce [Ids] (p : Palette) (limits : PageLimits) (elapsed query : String) : Ending :=
  let outcome := ((execute limits query).on .initial).1
  ⟨if outcome.toBool then 0 else 1, showOutcome p elapsed outcome⟩

def Ending.refused : SettingsFault → Ending
  | .unsettableVariable => .brokenOff
  | _ => ⟨1, ""⟩

def runWith [Ids] (t : Terminal) (settings : Settings) (elapsed : String) (query : Option String) (input : String) : Ending :=
  match query with
  | some query => runOnce t.palette settings.limits elapsed query
  | none =>
    let lines := (Text.physicalLines input.toList).map readLine?
    (transcript t settings.limits elapsed .start lines).after (banner t.palette)

/-- A whole run of the program on an input that is known from the start. `files` gives the document and the file of
variables of a directory; neither input nor output is a terminal. Nothing is shown before the log is set up. -/
def run [Ids] (elapsed : String) (files : String → Option String × Option String) (env : Entries String)
    (args : List String) (input : String) : Ending :=
  match Arguments.ofList? args with
  | none => ⟨2, ""⟩
  | some a =>
    let (document, vars) := files a.directory
    let start : Except SettingsFault (Entries String × Settings) := do
      let env ← Settings.environment vars env
      return (env, ← Settings.ofEnvironment document env)
    match start with
    | .error e => .refused e
    | .ok (env, settings) =>
      if LogFilter.isReady env settings.logFilter then
        runWith (.ofEnvironment env false false) settings elapsed a.query input
      else .brokenOff

end RecordGraph.Shell
