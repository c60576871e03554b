import RecordGraph.Call.Perform
import RecordGraph.Query.Selection

namespace RecordGraph

open Query

/-- Only the many side of a connection takes parameters. -/
def rejectParameters (name : String) (parameters : Entries String) : Except Fault Unit :=
  match parameters with
  | [] => .ok ()
  | (parameter, _) :: _ => .error (.invalidParameter parameter (.ofFieldWithout name))

/-- The object of some named values; a later one replaces an earlier one of the same name. -/
def assemble (values : List (String × Json)) : Json := .object (Entries.ofList values)

mutual

def Json.onObjects (f : List (String × Json) → Except Fault Json) : Json → Except Fault Json
  | .object entries => f entries
  | .array items => (Json.onObjectsOf f items).map .array
  | v => .ok v

def Json.onObjectsOf (f : List (String × Json) → Except Fault Json) : List Json → Except Fault (List Json)
  | [] => .ok []
  | v :: vs => do
    let w ← Json.onObjects f v
    return w :: (← Json.onObjectsOf f vs)

end

mutual

/-- The value that an item selects from an object: null where there is none. -/
def projectItem (entries : Entries Json) : Selection → Except Fault (String × Json)
  | .mk _ name aliasName parameters children => do
    rejectParameters name parameters
    let v := (entries.get? name).getD .null
    let w ← if children.isEmpty then pure v
      else v.onObjects fun entries => (projectItems entries children).map assemble
    return (aliasName.getD name, w)

def projectItems (entries : Entries Json) : List Selection → Except Fault (List (String × Json))
  | [] => .ok []
  | s :: ss => do
    let v ← projectItem entries s
    return v :: (← projectItems entries ss)

end

def project (v : Json) (selection : List Selection) : Except Fault Json :=
  if selection.isEmpty then .ok v
  else v.onObjects fun entries => (projectItems entries selection).map assemble

def refersTo (field : String) (r : Record) : Filters := [(field, .connection r.id)]

/-- A page of the records that refer to a record through a connection, and the number of all of them. -/
def referring (db : Database) (limits : PageLimits) (link : Link) (r : Record) (field : String)
    (parameters : Entries String) : Except Fault (Nat × List Record) := do
  let first ← match parameters.get? "first" with
    | some v => (Parameter.count "first" v).map some
    | none => pure none
  match parameters.find? fun p => p.1 ≠ "first" && p.1 ≠ "after" with
  | some p => throw (.invalidParameter p.1 (.notOfField field))
  | none =>
    let records := db.store.list link.targetType (refersTo link.targetField r)
    return (records.length, ← page records first (parameters.get? "after") limits)

mutual

def recordItem (db : Database) (limits : PageLimits) (t : RecordType) (r : Record) :
    Selection → Except Fault (String × Json)
  | .mk form name aliasName parameters children => do
    let output := aliasName.getD name
    match t.field? name with
    | none => throw (.unknownField t.name name)
    | some f =>
      match f.link with
      | none =>
        rejectParameters name parameters
        if form ≠ .leaf then throw (.fieldIsNotConnection t.name name)
        return (output, (r.get? name).getD .null)
      | some link =>
        if link.side = .many then
          let (count, records) ← referring db limits link r name parameters
          let v ← if children.isEmpty then pure (Output.listing count records)
            else (listingItems db limits link.targetType count records children).map assemble
          return (output, v)
        else
          rejectParameters name parameters
          match (r.fields.get? name).bind Value.text? with
          | none => return (output, .null)
          | some id =>
            if form = .leaf then return (output, .string id)
            match db.store.get? link.targetType id with
            | none => return (output, .null)
            | some target =>
              let v ← if children.isEmpty then pure target.toJson
                else do
                  let u ← db.catalog.requireNode link.targetType
                  (recordItems db limits u target children).map assemble
              return (output, v)

def recordItems (db : Database) (limits : PageLimits) (t : RecordType) (r : Record) :
    List Selection → Except Fault (List (String × Json))
  | [] => .ok []
  | s :: ss => do
    let v ← recordItem db limits t r s
    return v :: (← recordItems db limits t r ss)

/-- The value that an item selects from a page of records: their number, or what it selects from each of them. -/
def listingItem (db : Database) (limits : PageLimits) (type : String) (count : Nat) (records : List Record) :
    Selection → Except Fault (String × Json)
  | .mk _ name aliasName parameters children => do
    rejectParameters name parameters
    let output := aliasName.getD name
    if name = "count" then return (output, .int count)
    else if name = "nodes" then
      let values ← records.mapM fun r => do
        if children.isEmpty then pure r.toJson
        else do
          let t ← db.catalog.requireNode type
          (recordItems db limits t r children).map assemble
      return (output, .array values)
    else throw (.unknownField type name)

def listingItems (db : Database) (limits : PageLimits) (type : String) (count : Nat) (records : List Record) :
    List Selection → Except Fault (List (String × Json))
  | [] => .ok []
  | s :: ss => do
    let v ← listingItem db limits type count records s
    return v :: (← listingItems db limits type count records ss)

end

def resolveRecord (db : Database) (limits : PageLimits) (type : String) (r : Record) (selection : List Selection) :
    Except Fault Json := do
  if selection.isEmpty then return r.toJson
  let t ← db.catalog.requireNode type
  return assemble (← recordItems db limits t r selection)

def resolveListing (db : Database) (limits : PageLimits) (type : String) (count : Nat) (records : List Record)
    (selection : List Selection) : Except Fault Json := do
  if selection.isEmpty then return Output.listing count records
  return assemble (← listingItems db limits type count records selection)

def resolve (db : Database) (limits : PageLimits) (output : Output) (selection : List Selection) : Except Fault Json :=
  match output with
  | .json v => project v selection
  | .record type r => resolveRecord db limits type r selection
  | .connection type count records => resolveListing db limits type count records selection

end RecordGraph
