import RecordGraph.Schema.Value

namespace RecordGraph

/-- The two sides of a connection: the one that holds the id of a record, and the one that lists the records back. -/
inductive Side
  | one
  | many
  deriving DecidableEq, Repr

def Side.text : Side → String
  | one => "one"
  | many => "many"

def Side.ofText? : String → Option Side
  | "one" => some one
  | "many" => some many
  | _ => none

/-- What a connection field is paired with, and which side it is. -/
structure Link where
  targetType : String
  targetField : String
  side : Side
  deriving DecidableEq, Repr

def Link.describe (l : Link) : Json :=
  .object [("targetType", .string l.targetType), ("targetField", .string l.targetField),
    ("cardinality", .string l.side.text)]

structure Field where
  name : String
  kind : Kind
  builtIn : Bool := false
  required : Bool := false
  default : Option Value := none
  link : Option Link := none
  deriving DecidableEq

structure Index where
  name : String
  fields : List String
  builtIn : Bool := false
  deriving DecidableEq, Repr

/-- A type. Only node types have records. -/
structure RecordType where
  name : String
  isNode : Bool
  fields : Entries Field
  indexes : Entries Index
  deriving DecidableEq

/-- The name of the field, and of the index over it, that every node type has from the start. -/
def idName : String := "id"

namespace Field

def id : Field := ⟨idName, .string, true, false, none, none⟩

def connection (name targetType targetField : String) (side : Side) : Field :=
  ⟨name, .connection, false, false, none, some ⟨targetType, targetField, side⟩⟩

def isConnection (f : Field) : Bool := f.link.isSome

/-- Whether records store a value for it: the many side of a connection is computed instead. -/
def isStored (f : Field) : Bool :=
  match f.link with
  | some l => l.side ≠ .many
  | none => true

def describe (f : Field) : Json :=
  .object <|
    [("name", .string f.name), ("type", .string f.kind.text), ("builtIn", .bool f.builtIn),
      ("required", .bool f.required)] ++
    (match f.default with
      | some v => [("default", v.toJson)]
      | none => []) ++
    (match f.link with
      | some l => [("connection", l.describe)]
      | none => [])

end Field

namespace Index

def id : Index := ⟨idName, [idName], true⟩

def covers (i : Index) (field : String) : Bool := i.fields.contains field

def describe (i : Index) : Json :=
  .object [("name", .string i.name), ("fields", .strings i.fields), ("builtIn", .bool i.builtIn)]

end Index

namespace RecordType

def node (name : String) : RecordType := ⟨name, true, [(idName, .id)], [(idName, .id)]⟩

/-- A type without fields that has no records. -/
def reserved (name : String) : RecordType := ⟨name, false, [], []⟩

def field? (t : RecordType) (name : String) : Option Field := t.fields.get? name

def hasField (t : RecordType) (name : String) : Bool := t.fields.has name

def index? (t : RecordType) (name : String) : Option Index := t.indexes.get? name

/-- The links of the connection fields, each with the name of its field. -/
def links (t : RecordType) : List (String × Link) :=
  t.fields.values.filterMap fun f => f.link.map (f.name, ·)

/-- The type without a field. The indexes stay. -/
def eraseField (t : RecordType) (name : String) : RecordType := { t with fields := t.fields.erase name }

/-- The type without the indexes over a field that are not built in. -/
def dropIndexes (t : RecordType) (field : String) : RecordType :=
  { t with indexes := t.indexes.filter fun e => e.2.builtIn || !e.2.covers field }

def removeField (t : RecordType) (name : String) : RecordType := (t.eraseField name).dropIndexes name

def removeIndex (t : RecordType) (name : String) : RecordType := { t with indexes := t.indexes.erase name }

def describe (t : RecordType) : Json :=
  .object [("name", .string t.name), ("isNode", .bool t.isNode),
    ("fields", .array (t.fields.values.map Field.describe)),
    ("indexes", .array (t.indexes.values.map Index.describe))]

end RecordType

end RecordGraph
