import RecordGraph.Call.Parameter
import RecordGraph.Schema.Catalog

namespace RecordGraph

inductive Call
  | schema
  | type
  | node
  | nodes
  | createType
  | deleteType
  | createField
  | deleteField
  | createConnection
  | deleteConnection
  | createIndex
  | deleteIndex
  | create
  | update
  | delete
  deriving DecidableEq, Repr

/-- The decoded parameters of a call. -/
inductive Request
  | schema
  | type (name : String)
  | node (type id : String)
  | nodes (type : String) (first : Option Nat) (after : Option String)
  | createType (name : String)
  | deleteType (name : String)
  | createField (type : String) (field : Field)
  | deleteField (type field : String)
  | createConnection (type field targetType targetField : String) (required : Bool)
  | deleteConnection (type field : String)
  | createIndex (type name : String) (fields : List String)
  | deleteIndex (type name : String)
  | create (type : String) (data : List (String × Json))
  | update (type id : String) (data : List (String × Json))
  | delete (type id : String)

namespace Call

def all : List Call :=
  [schema, type, node, nodes, createType, deleteType, createField, deleteField, createConnection, deleteConnection,
    createIndex, deleteIndex, create, update, delete]

def name : Call → String
  | schema => "schema"
  | type => "type"
  | node => "node"
  | nodes => "nodes"
  | createType => "createType"
  | deleteType => "deleteType"
  | createField => "createField"
  | deleteField => "deleteField"
  | createConnection => "createConnection"
  | deleteConnection => "deleteConnection"
  | createIndex => "createIndex"
  | deleteIndex => "deleteIndex"
  | create => "create"
  | update => "update"
  | delete => "delete"

def parameters : Call → List String
  | schema => []
  | type => ["name"]
  | node => ["type", "id"]
  | nodes => ["type", "first", "after"]
  | createType => ["name"]
  | deleteType => ["name"]
  | createField => ["type", "fieldName", "fieldType", "required", "default"]
  | deleteField => ["type", "fieldName"]
  | createConnection => ["type", "fieldName", "targetType", "targetFieldName", "required"]
  | deleteConnection => ["type", "fieldName"]
  | createIndex => ["type", "name", "fields"]
  | deleteIndex => ["type", "name"]
  | create => ["type", "data"]
  | update => ["type", "id", "data"]
  | delete => ["type", "id"]

def ofName (name : String) : Except Fault Call :=
  match all.find? fun c => c.name = name with
  | some c => .ok c
  | none => .error (.unknownCall name)

def sortedNames : List String := (all.map name).mergeSort fun a b => a ≤ b

theorem ofName_name (c : Call) : ofName c.name = .ok c := by cases c <;> rfl

open Parameter

def need (c : Call) (raw : Entries String) (parameter : String) : Except Fault String :=
  required c.name raw parameter

/-- The field that a `createField` asks for. -/
def newField (raw : Entries String) (name : String) (kind : Kind) : Except Fault Field := do
  let required ← match optional raw "required" with
    | some v => boolean "required" v
    | none => pure false
  let default ← match optional raw "default" with
    | some v => (Value.coerce kind (.string v)).map some
    | none => pure none
  return ⟨name, kind, false, required, default, none⟩

/-- Decodes and checks the parameters of a call, which are all known. -/
def decode (c : Call) (catalog : Catalog) (raw : Entries String) : Except Fault Request :=
  match c with
  | schema => return .schema
  | type => do
    let name ← c.need raw "name"
    let _ ← catalog.getType name
    return .type name
  | node => do
    let type ← c.need raw "type"
    let id ← c.need raw "id"
    let _ ← catalog.requireNode type
    return .node type id
  | nodes => do
    let type ← c.need raw "type"
    let _ ← catalog.requireNode type
    let first ← match optional raw "first" with
      | some v => (count "first" v).map some
      | none => pure none
    return .nodes type first (optional raw "after")
  | createType => do
    let name ← c.need raw "name"
    catalog.checkCreateType name
    return .createType name
  | deleteType => do
    let name ← c.need raw "name"
    catalog.checkDeleteType name
    return .deleteType name
  | createField => do
    let type ← c.need raw "type"
    let field ← c.need raw "fieldName"
    let kind ← c.need raw "fieldType"
    let _ ← catalog.requireNode type
    let field ← newField raw field (← Kind.ofText kind)
    catalog.checkCreateField type field
    return .createField type field
  | deleteField => do
    let type ← c.need raw "type"
    let field ← c.need raw "fieldName"
    catalog.checkDeleteField type field
    return .deleteField type field
  | createConnection => do
    let type ← c.need raw "type"
    let field ← c.need raw "fieldName"
    let targetType ← c.need raw "targetType"
    let targetField ← c.need raw "targetFieldName"
    let required ← match optional raw "required" with
      | some v => boolean "required" v
      | none => pure false
    catalog.checkCreateConnection type field targetType targetField
    return .createConnection type field targetType targetField required
  | deleteConnection => do
    let type ← c.need raw "type"
    let field ← c.need raw "fieldName"
    catalog.checkDeleteConnection type field
    return .deleteConnection type field
  | createIndex => do
    let type ← c.need raw "type"
    let name ← c.need raw "name"
    let fields ← c.need raw "fields"
    let _ ← catalog.requireNode type
    let fields ← stringList "fields" fields
    catalog.checkCreateIndex type name fields
    return .createIndex type name fields
  | deleteIndex => do
    let type ← c.need raw "type"
    let name ← c.need raw "name"
    catalog.checkDeleteIndex type name
    return .deleteIndex type name
  | create => do
    let type ← c.need raw "type"
    let _ ← catalog.requireNode type
    return .create type (← object "data" (← c.need raw "data"))
  | update => do
    let type ← c.need raw "type"
    let _ ← catalog.requireNode type
    let id ← c.need raw "id"
    return .update type id (← object "data" (← c.need raw "data"))
  | delete => do
    let type ← c.need raw "type"
    let _ ← catalog.requireNode type
    let id ← c.need raw "id"
    return .delete type id

/-- The first phase: a parameter that the call does not take is refused, the others are decoded and checked. -/
def process (c : Call) (catalog : Catalog) (raw : Entries String) : Except Fault Request :=
  match raw.find? fun p => !c.parameters.contains p.1 with
  | some p => .error (.invalidParameter p.1 (.notOfCall c.name))
  | none => c.decode catalog raw

def describe (c : Call) : String :=
  let parameters := ", ".intercalate (c.parameters.map fun p => s!"\"{p}\"")
  "RootCall \x7b name: \"" ++ c.name ++ "\", parameters: [" ++ parameters ++ "] \x7d"

end Call

end RecordGraph
