import RecordGraph.Call.Request
import RecordGraph.Text.Inspect

namespace RecordGraph

open Decimal

namespace Inspect

/-- A constructor with named parts. -/
def parts (name : String) (l : List (String × String)) : String :=
  name ++ " \x7b " ++ ", ".intercalate (l.map fun e => e.1 ++ ": " ++ e.2) ++ " \x7d"

def wrapped (name content : String) : String := name ++ "(" ++ content ++ ")"

def option (f : α → String) : Option α → String
  | none => "None"
  | some a => wrapped "Some" (f a)

def bool (b : Bool) : String := if b then "true" else "false"

def double (x : Double) : String :=
  if x.isNaN then "NaN"
  else if x.isFinite then x.text .inspected
  else if x.negative then "-inf" else "inf"

def texts (l : List String) : String := "[" ++ ", ".intercalate (l.map Text.inspect) ++ "]"

end Inspect

open Inspect

mutual

def Json.inspect : Json → String
  | null => "Null"
  | bool b => wrapped "Bool" (Inspect.bool b)
  | number n => wrapped "Number" n.text
  | string s => wrapped "String" (Text.inspect s)
  | array items => "Array [" ++ inspectItems items ++ "]"
  | object entries => "Object \x7b" ++ inspectEntries entries ++ "\x7d"

def Json.inspectItems : List Json → String
  | [] => ""
  | [v] => v.inspect
  | v :: vs => v.inspect ++ ", " ++ inspectItems vs

def Json.inspectEntries : List (String × Json) → String
  | [] => ""
  | [(k, v)] => Text.inspect k ++ ": " ++ v.inspect
  | (k, v) :: es => Text.inspect k ++ ": " ++ v.inspect ++ ", " ++ inspectEntries es

end

def Kind.inspect : Kind → String
  | string => "String"
  | int => "Int"
  | float => "Float"
  | boolean => "Boolean"
  | datetime => "Datetime"
  | connection => "Connection"

def Value.inspect : Value → String
  | string text => wrapped "String" (Text.inspect text)
  | int value => wrapped "Int" (toString value.toInt)
  | float value => wrapped "Float" (double value)
  | boolean value => wrapped "Boolean" (bool value)
  | datetime value => wrapped "DateTime" value.text
  | connection id => wrapped "Connection" (Text.inspect id)

def Side.inspect : Side → String
  | one => "One"
  | many => "Many"

def Link.inspect (l : Link) : String :=
  parts "ConnectionDef" [("target_type", Text.inspect l.targetType), ("target_field", Text.inspect l.targetField),
    ("cardinality", l.side.inspect)]

def Field.inspect (f : Field) : String :=
  parts "FieldDef" [("name", Text.inspect f.name), ("kind", f.kind.inspect), ("built_in", bool f.builtIn),
    ("required", bool f.required), ("default", option Value.inspect f.default), ("connection", option Link.inspect f.link)]

def Request.inspect : Request → String
  | schema => "Schema"
  | type name => parts "Type" [("name", Text.inspect name)]
  | node t id => parts "Node" [("type_name", Text.inspect t), ("id", Text.inspect id)]
  | nodes t first after =>
    parts "Nodes" [("type_name", Text.inspect t), ("first", option toString first), ("after", option Text.inspect after)]
  | createType name => parts "CreateType" [("name", Text.inspect name)]
  | deleteType name => parts "DeleteType" [("name", Text.inspect name)]
  | createField t field => parts "CreateField" [("type_name", Text.inspect t), ("field", field.inspect)]
  | deleteField t field =>
    parts "DeleteField" [("type_name", Text.inspect t), ("field_name", Text.inspect field)]
  | createConnection t field targetType targetField required =>
    parts "CreateConnection" [("type_name", Text.inspect t), ("field_name", Text.inspect field),
      ("target_type", Text.inspect targetType), ("target_field_name", Text.inspect targetField), ("required", bool required)]
  | deleteConnection t field =>
    parts "DeleteConnection" [("type_name", Text.inspect t), ("field_name", Text.inspect field)]
  | createIndex t name fields =>
    parts "CreateIndex" [("type_name", Text.inspect t), ("name", Text.inspect name), ("fields", texts fields)]
  | deleteIndex t name => parts "DeleteIndex" [("type_name", Text.inspect t), ("name", Text.inspect name)]
  | create t data =>
    parts "Create" [("type_name", Text.inspect t), ("data", "\x7b" ++ Json.inspectEntries data ++ "\x7d")]
  | update t id data =>
    parts "Update" [("type_name", Text.inspect t), ("id", Text.inspect id),
      ("data", "\x7b" ++ Json.inspectEntries data ++ "\x7d")]
  | delete t id => parts "Delete" [("type_name", Text.inspect t), ("id", Text.inspect id)]

end RecordGraph
