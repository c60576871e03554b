import RecordGraph.Fault
import RecordGraph.Json.Basic
import RecordGraph.Decimal.Numeral
import RecordGraph.Text.Blank
import RecordGraph.Time.Reader

namespace RecordGraph

open Decimal Time

inductive Kind
  | string
  | int
  | float
  | boolean
  | datetime
  | connection
  deriving DecidableEq, Repr

namespace Kind

def text : Kind → String
  | string => "string"
  | int => "int"
  | float => "float"
  | boolean => "boolean"
  | datetime => "datetime"
  | connection => "connection"

def ofText (name : String) : Except Fault Kind :=
  match name with
  | "string" => .ok string
  | "int" => .ok int
  | "float" => .ok float
  | "boolean" => .ok boolean
  | "datetime" => .ok datetime
  | "connection" => .ok connection
  | _ => .error (.invalidFieldKind name)

theorem ofText_text (k : Kind) : ofText k.text = .ok k := by cases k <;> rfl

end Kind

/-- A stored value. The value of a connection is the id of a record. -/
inductive Value
  | string (text : String)
  | int (value : Int64)
  | float (value : Double)
  | boolean (value : Bool)
  | datetime (value : Instant)
  | connection (id : String)
  deriving DecidableEq

namespace Value

def kind : Value → Kind
  | string _ => .string
  | int _ => .int
  | float _ => .float
  | boolean _ => .boolean
  | datetime _ => .datetime
  | connection _ => .connection

def text? : Value → Option String
  | string text => some text
  | connection id => some id
  | _ => none

def toJson : Value → Json
  | string text => .string text
  | int value => .int value.toInt
  | float value => .ofDouble value
  | boolean value => .bool value
  | datetime value => .string value.text
  | connection id => .string id

/-- Equality as filters see it: floating-point numbers are compared as numbers. -/
def same : Value → Value → Bool
  | float x, float y => x.same y
  | v, w => v = w

def int64? (i : Int) : Option Int64 :=
  if Int64.minValue.toInt ≤ i ∧ i ≤ Int64.maxValue.toInt then some (Int64.ofInt i) else none

def toDouble : Number → Double
  | .int i => .ofInt i
  | .float x => x

/-- The value of a kind that a JSON value stands for, if there is one. Texts of numbers may have blanks around them. -/
def ofJson? : Kind → Json → Option Value
  | .string, .string s => some (string s)
  | .int, .number (.int i) => (int64? i).map int
  | .int, .string s => ((integer? (Text.trim s.toList)).bind int64?).map int
  | .float, .number n => some (float (toDouble n))
  | .float, .string s => ((double? (Text.trim s.toList)).filter Double.isFinite).map float
  | .boolean, .bool b => some (boolean b)
  | .boolean, .string s => if s = "true" then some (boolean true) else if s = "false" then some (boolean false) else none
  | .datetime, .string s => (Instant.ofText? s).map datetime
  | .connection, .string s => if s = "" then none else some (connection s)
  | .connection, .number (.int i) => some (connection (toString i))
  | _, _ => none

def coerce (kind : Kind) (value : Json) : Except Fault Value :=
  match ofJson? kind value with
  | some v => .ok v
  | none => .error (.notConvertible value.text kind.text)

theorem kind_of_ofJson? {k : Kind} {j : Json} {v : Value} (h : ofJson? k j = some v) : v.kind = k := by
  unfold ofJson? at h
  grind [kind, Option.map_eq_some_iff]

theorem kind_of_coerce {k : Kind} {j : Json} {v : Value} (h : coerce k j = .ok v) : v.kind = k := by
  unfold coerce at h
  split at h
  · next h1 => simp only [Except.ok.injEq] at h; exact h ▸ kind_of_ofJson? h1
  · simp at h

end Value

end RecordGraph
