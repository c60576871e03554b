import RecordGraph.Entries
import RecordGraph.Decimal.Notation
import RecordGraph.Text.Quoted

namespace RecordGraph

open Decimal

inductive Number
  | int (value : Int)
  | float (value : Double)
  deriving DecidableEq, Repr

inductive Json
  | null
  | bool (value : Bool)
  | number (value : Number)
  | string (value : String)
  | array (items : List Json)
  | object (entries : List (String × Json))
  deriving Repr

def Number.text : Number → String
  | int i => toString i
  | float x => x.text .plain

namespace Json

instance : Inhabited Json := ⟨null⟩

def int (i : Int) : Json := number (.int i)

/-- A floating-point number; what is not finite has no text, and is null. -/
def ofDouble (x : Double) : Json := if x.isFinite then number (.float x) else null

def strings (l : List String) : Json := array (l.map string)

mutual

/-- The compact text of a value. -/
def text : Json → String
  | null => "null"
  | bool b => if b then "true" else "false"
  | number n => n.text
  | string s => Text.quote s
  | array items => "[" ++ textOfItems items ++ "]"
  | object entries => "\x7b" ++ textOfEntries entries ++ "\x7d"

def textOfItems : List Json → String
  | [] => ""
  | [v] => text v
  | v :: vs => text v ++ "," ++ textOfItems vs

def textOfEntries : List (String × Json) → String
  | [] => ""
  | [(k, v)] => Text.quote k ++ ":" ++ text v
  | (k, v) :: es => Text.quote k ++ ":" ++ text v ++ "," ++ textOfEntries es

end

end Json

end RecordGraph
