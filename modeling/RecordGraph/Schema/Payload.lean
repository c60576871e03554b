import RecordGraph.Schema.Definition

namespace RecordGraph

/-- What the data is for: a new record needs its required fields and gets defaults, a changed one keeps what it has. -/
inductive Purpose
  | create
  | update
  deriving DecidableEq, Repr

namespace RecordType

/-- The value that data gives to a field, which has to be one that data can give a value to. -/
def supply (t : RecordType) (entry : String × Json) : Except Fault (String × Value) := do
  match t.field? entry.1 with
  | none => throw (.unknownField t.name entry.1)
  | some f =>
    if f.builtIn then throw (.fieldIsBuiltIn t.name entry.1)
    if !f.isStored then throw (.fieldIsConnection t.name entry.1)
    return (entry.1, ← Value.coerce f.kind entry.2)

/-- The value that a field gets: what is supplied, or in a new record its default. -/
def settle (t : RecordType) (purpose : Purpose) (supplied : Entries Value) (f : Field) :
    Except Fault (Option (String × Value)) :=
  match supplied.get? f.name, f.default with
  | some v, _ => .ok (some (f.name, v))
  | none, default =>
    if purpose = .update ∨ f.builtIn ∨ !f.isStored then .ok none
    else
      match default with
      | some v => .ok (some (f.name, v))
      | none => if f.required then .error (.missingRequiredField t.name f.name) else .ok none

/-- The values that data gives to the fields of a type, in the order of the fields. -/
def accept (t : RecordType) (data : Entries Json) (purpose : Purpose) : Except Fault (Entries Value) := do
  let supplied ← data.mapM t.supply
  let settled ← t.fields.values.mapM (t.settle purpose supplied)
  return settled.filterMap id

end RecordType

end RecordGraph
