import RecordGraph.Schema.Definition
import RecordGraph.Stateful
import RecordGraph.Ids

namespace RecordGraph

/-- A stored record. The id is not among its fields. -/
structure Record where
  id : String
  type : String
  fields : Entries Value
  deriving DecidableEq

namespace Record

/-- The record with these fields; an id among them is dropped. -/
def make (type id : String) (fields : Entries Value) : Record := ⟨id, type, fields.erase idName⟩

def merge (r : Record) (fields : Entries Value) : Record :=
  { r with fields := (fields.erase idName).foldl (fun m e => m.put e.1 e.2) r.fields }

def removeField (r : Record) (name : String) : Record := { r with fields := r.fields.erase name }

def get? (r : Record) (name : String) : Option Json :=
  if name = idName then some (.string r.id) else (r.fields.get? name).map Value.toJson

def toJson (r : Record) : Json :=
  .object ((idName, .string r.id) :: r.fields.map fun e => (e.1, e.2.toJson))

end Record

/-- Conditions on the fields of a record: each field has to hold its value. -/
abbrev Filters := List (String × Value)

def Record.meets (r : Record) (condition : String × Value) : Bool :=
  if condition.1 = idName then condition.2.text? = some r.id
  else (r.fields.get? condition.1).any condition.2.same

def Filters.matches (fs : Filters) (r : Record) : Bool := fs.all r.meets

/-- The records of a type under their ids, in the order of their insertion. -/
abbrev Table := Entries Record

/-- The tables of the types that ever had a record, and how many records were ever inserted. -/
structure Store where
  tables : Entries Table
  inserted : Nat
  deriving DecidableEq

namespace Store

def empty : Store := ⟨[], 0⟩

def table (s : Store) (type : String) : Table := (s.tables.get? type).getD []

def get? (s : Store) (type id : String) : Option Record := (s.tables.get? type).bind (·.get? id)

/-- The records of a type that meet some conditions, in the order of their insertion. -/
def list (s : Store) (type : String) (filters : Filters) : List Record := (s.table type).values.filter filters.matches

def count (s : Store) (type : String) : Nat := (s.table type).length

/-- Adds a record under an id of its own, which is returned. -/
def insert [Ids] (s : Store) (type : String) (fields : Entries Value) : String × Store :=
  let id := Ids.id (s.inserted + 1)
  (id, ⟨s.tables.put type ((s.table type).put id (.make type id fields)), s.inserted + 1⟩)

def modifyTable (s : Store) (type : String) (f : Table → Table) : Store := { s with tables := s.tables.modify type f }

def update (s : Store) (type id : String) (fields : Entries Value) : Except Fault Store :=
  match s.get? type id with
  | some _ => .ok (s.modifyTable type (·.modify id (·.merge fields)))
  | none => .error (.recordNotFound type id)

def delete (s : Store) (type id : String) : Except Fault Store :=
  match s.get? type id with
  | some _ => .ok (s.modifyTable type (·.erase id))
  | none => .error (.recordNotFound type id)

def dropType (s : Store) (type : String) : Store := { s with tables := s.tables.erase type }

def removeField (s : Store) (type name : String) : Store :=
  s.modifyTable type fun t => t.map fun e => (e.1, e.2.removeField name)

end Store

-- Any operation of a store may be refused. Of those on a store in memory, only the ones on a record that is not there are.
namespace RecordStore

open Stateful

def insert [Ids] (type : String) (fields : Entries Value) : Stateful Store String := do
  let (id, s) := (← get).insert type fields
  set s
  return id

def update (type id : String) (fields : Entries Value) : Stateful Store Unit := do
  set (← ask (·.update type id fields))

def delete (type id : String) : Stateful Store Unit := do
  set (← ask (·.delete type id))

def get? (type id : String) : Stateful Store (Option Record) := return (← get).get? type id

def list (type : String) (filters : Filters) : Stateful Store (List Record) := return (← get).list type filters

def dropType (type : String) : Stateful Store Unit := modify (·.dropType type)

def removeField (type name : String) : Stateful Store Unit := modify (·.removeField type name)

end RecordStore

end RecordGraph
