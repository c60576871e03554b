import RecordGraph.Json.Reader
import RecordGraph.Fault

namespace RecordGraph.Parameter

def required (call : String) (raw : Entries String) (name : String) : Except Fault String :=
  match raw.get? name with
  | some v => .ok v
  | none => .error (.missingParameter call name)

def optional (raw : Entries String) (name : String) : Option String := raw.get? name

def object (parameter value : String) : Except Fault (Entries Json) :=
  match Json.ofText? value with
  | some (.object entries) => .ok entries
  | some _ => .error (.invalidParameter parameter .notObject)
  | none => .error (.invalidParameter parameter .notJson)

def string? : Json → Option String
  | .string s => some s
  | _ => none

def stringList (parameter value : String) : Except Fault (List String) :=
  match Json.ofText? value with
  | some (.array items) =>
    match items.mapM string? with
    | some l => .ok l
    | none => .error (.invalidParameter parameter .notStringList)
  | _ => .error (.invalidParameter parameter .notStringList)

def count (parameter value : String) : Except Fault Nat :=
  match Decimal.count? value with
  | some n => .ok n
  | none => .error (.invalidParameter parameter (.notCount value))

def boolean (parameter value : String) : Except Fault Bool :=
  if value = "true" then .ok true
  else if value = "false" then .ok false
  else .error (.invalidParameter parameter (.notBoolean value))

end RecordGraph.Parameter
