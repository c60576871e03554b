import RecordGraph.Decimal.Numeral
import RecordGraph.Entries
import RecordGraph.Pattern.Reader
import RecordGraph.Text.Blank
import RecordGraph.Text.Bytes
import RecordGraph.Text.Letter

namespace RecordGraph.LogFilter

open Text

inductive Flaw
  | malformed
  | insideCharacter
  deriving DecidableEq, Repr

/-- Where the reading of a directive stands. A number is the position at which a part starts. -/
inductive Stage
  | start
  | target
  | span (first : Nat)
  | field (first : Nat)
  | fields
  | afterSpan
  | level (first : Nat)
  deriving DecidableEq, Repr

def part (directive : List Char) (first last : Nat) : Except Flaw (List Char) :=
  match slice? first last directive with
  | some cs => .ok cs
  | none => .error .insideCharacter

def startsTarget (c : Char) : Bool := ['-', ':', '_'].contains c || isLetter c || isNumeral c

/-- Whether a text is a level: a number up to five or a name in letters of either case. No text is the widest level. -/
def isLevel (cs : List Char) : Bool :=
  let name := (String.ofList cs).toLower
  ["", "off", "error", "warn", "info", "debug", "trace"].contains name || (Decimal.count? name).any (· ≤ 5)

/-- Whether a text is the value of a field: a number or a search pattern. -/
def isValue (cs : List Char) : Bool := (Decimal.double? cs).isSome || Pattern.isSearchable cs

/-- Whether a text is a field. What follows a second equals sign does not count. -/
def isField (cs : List Char) : Bool :=
  match cs, cs.dropWhile (· != '=') with
  | [], _ => false
  | _, [] => true
  | _, _ :: value => isValue (value.takeWhile (· != '='))

namespace Stage

def next (directive : List Char) (position : Nat) (c : Char) : Stage → Except Flaw Stage
  | start => if c = '[' then .ok (.span (position + 1)) else if startsTarget c then .ok .target else .error .malformed
  | target =>
    if c = '=' then (part directive 0 position).map fun _ => .level (position + 1)
    else if c = '[' then (part directive 0 position).map fun _ => .span (position + 1)
    else .ok .target
  | span first =>
    if c = ']' then (part directive first position).map fun _ => .afterSpan
    else if c = '{' then (part directive first position).map fun _ => .field (position + 1)
    else .ok (.span first)
  | field first =>
    if c = '}' then do
      let field ← part directive first position
      if isField field then .ok .fields else .error .malformed
    else .ok (.field first)
  | fields => if c = ']' then .ok .afterSpan else .error .malformed
  | afterSpan => if c = '=' then .ok (.level (position + 1)) else .error .malformed
  | level first => .ok (.level first)

/-- Whether a directive can end here. The last part takes the blanks after the directive with it. -/
def finish (directive : List Char) : Stage → Except Flaw Unit
  | target | afterSpan => .ok ()
  | level first => do
    let level ← part directive first (byteSize directive)
    if isLevel level then .ok () else .error .malformed
  | start | span _ | field _ | fields => .error .malformed

end Stage

def readOn (directive : List Char) (position : Nat) (s : Stage) : List Char → Except Flaw Unit
  | [] => s.finish directive
  | c :: cs => do readOn directive (position + c.utf8Size) (← s.next directive position c) cs

def readDirective (directive : List Char) : Except Flaw Unit := readOn directive 0 .start (trim directive)

/-- The directives of a filter: the texts between its commas that are not empty. -/
def directives (filter : String) : List (List Char) :=
  (filter.toList.splitBy fun a b => a != ',' && b != ',').filter (· ≠ [','])

/-- Reads a filter up to its first flaw. -/
def read (filter : String) : Except Flaw Unit := (directives filter).forM readDirective

/-- Whether a filter can be used: its malformed directives are left out. -/
def isUsable (filter : String) : Bool :=
  (directives filter).all fun d =>
    match readDirective d with
    | .error .insideCharacter => false
    | _ => true

/-- The variable whose filter goes before that of the settings if it has no flaw. -/
def variableName : String := "RUST_LOG"

def isReady (env : Entries String) (filter : String) : Bool :=
  match (env.get? variableName).map read with
  | some (.ok _) => true
  | some (.error .insideCharacter) => false
  | some (.error .malformed) | none => isUsable filter

end RecordGraph.LogFilter
