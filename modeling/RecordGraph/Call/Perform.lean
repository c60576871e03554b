import RecordGraph.Call.Inspect
import RecordGraph.Schema.Payload
import RecordGraph.Page

namespace RecordGraph

/-- The state that calls run against. -/
structure Database where
  catalog : Catalog
  store : Store
  deriving DecidableEq

def Database.initial : Database := ⟨.initial, .empty⟩

/-- What a call gives back, before the selection is applied to it. -/
inductive Output
  | json (value : Json)
  | record (type : String) (record : Record)
  | connection (type : String) (count : Nat) (records : List Record)

namespace Output

/-- A page of records with the number of all of them. -/
def listing (count : Nat) (records : List Record) : Json :=
  .object [("count", .int count), ("nodes", .array (records.map Record.toJson))]

def toJson : Output → Json
  | json value => value
  | record _ r => r.toJson
  | connection _ count records => listing count records

end Output

abbrev Operation := Stateful Database

namespace Operation

/-- An operation on the catalog. What it reaches is kept also if it is refused. -/
def onCatalog (a : Mutation α) : Operation α :=
  ExceptT.mk fun db => ((a.on db.catalog).1, { db with catalog := (a.on db.catalog).2 })

def onStore (a : Stateful Store α) : Operation α :=
  ExceptT.mk fun db => ((a.on db.store).1, { db with store := (a.on db.store).2 })

def ask (f : Catalog → Except Fault α) : Operation α := Stateful.ask fun db => f db.catalog

/-- The record of a type and an id, which has to exist. -/
def fetch (type id : String) : Operation Record := do
  match ← onStore (RecordStore.get? type id) with
  | some r => return r
  | none => throw (.recordNotFound type id)

end Operation

open Operation

def changed (type : Json) : Output := .json (.object [("success", .bool true), ("type", type)])

def changedType (name : String) : Operation Output := do
  return changed (← ask (·.getType name)).describe

def changedTypes (name target : String) : Operation Output := do
  let t ← ask (·.getType name)
  let u ← ask (·.getType target)
  return .json (.object [("success", .bool true), ("type", t.describe), ("targetType", u.describe)])

/-- The values that data gives to the fields of a node type. -/
def accepted (type : String) (data : Entries Json) (purpose : Purpose) : Operation (Entries Value) :=
  ask fun c => do (← c.requireNode type).accept data purpose

namespace Call

def readSchema : Operation Output := do
  return .json (.object [("types", .array ((← get).catalog.types.values.map RecordType.describe))])

def readNodes (limits : PageLimits) (type : String) (first : Option Nat) (after : Option String) : Operation Output := do
  let _ ← ask (·.requireNode type)
  let records ← onStore (RecordStore.list type [])
  let shown ← ask fun _ => page records first after limits
  return .connection type records.length shown

/-- Deletes a type with its records, and the values of other types' fields that refer to it. -/
def performDeleteType (name : String) : Operation Output := do
  let removed ← onCatalog (.deleteType name)
  onStore (RecordStore.dropType name)
  (removed.links.filter fun l => l.2.side = .many && l.2.targetType ≠ name).forM fun l =>
    onStore (RecordStore.removeField l.2.targetType l.2.targetField)
  return changed removed.describe

def performDeleteConnection (type field : String) : Operation Output := do
  let (removed, paired) ← onCatalog (.deleteConnection type field)
  let target := (removed.link.map Link.targetType).getD type
  if removed.isStored then onStore (RecordStore.removeField type removed.name)
  else
    match paired with
    | some other => if other.isStored then onStore (RecordStore.removeField target other.name)
    | none => pure ()
  changedTypes type target

/-- The second phase of a call, with the parameters of any call. -/
def perform [Ids] (limits : PageLimits) : Call → Request → Operation Output
  | .schema, .schema => readSchema
  | .type, .type name => do return .json (← ask (·.getType name)).describe
  | .node, .node typeName id => do
    let _ ← ask (·.requireNode typeName)
    return .record typeName (← fetch typeName id)
  | .nodes, .nodes typeName first after => readNodes limits typeName first after
  | .createType, .createType name => do return changed (← onCatalog (.createType name)).describe
  | .deleteType, .deleteType name => performDeleteType name
  | .createField, .createField typeName field => do
    let _ ← onCatalog (.createField typeName field)
    changedType typeName
  | .deleteField, .deleteField typeName field => do
    let _ ← onCatalog (.deleteField typeName field)
    onStore (RecordStore.removeField typeName field)
    changedType typeName
  | .createConnection, .createConnection typeName field targetType targetField required => do
    onCatalog (.createConnection typeName field targetType targetField required)
    changedTypes typeName targetType
  | .deleteConnection, .deleteConnection typeName field => performDeleteConnection typeName field
  | .createIndex, .createIndex typeName name fields => do
    let _ ← onCatalog (.createIndex typeName name fields)
    changedType typeName
  | .deleteIndex, .deleteIndex typeName name => do
    let _ ← onCatalog (.deleteIndex typeName name)
    changedType typeName
  | .create, .create typeName data => do
    let fields ← accepted typeName data .create
    let id ← onStore (RecordStore.insert typeName fields)
    return .record typeName (← fetch typeName id)
  | .update, .update typeName id data => do
    let fields ← accepted typeName data .update
    onStore (RecordStore.update typeName id fields)
    return .record typeName (← fetch typeName id)
  | .delete, .delete typeName id => do
    let _ ← ask (·.requireNode typeName)
    let r ← fetch typeName id
    onStore (RecordStore.delete typeName id)
    return .record typeName r
  | call, request =>
    throw (.internal s!"root call \"{call.name}\" received parameters {request.inspect}")

end Call

end RecordGraph
