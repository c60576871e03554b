import RecordGraph.Schema.Definition
import RecordGraph.Stateful

namespace RecordGraph

/-- All types, in the order in which they were made. -/
structure Catalog where
  types : Entries RecordType
  deriving DecidableEq

/-- The type that is there from the start and is kept for the edges of connections. -/
def edgesName : String := "edges"

/-- Whether a text is a type name: ASCII letters and digits, at least one. -/
def isTypeName (s : String) : Bool := s ≠ "" && s.toList.all Char.isAlphanum

/-- Whether a text is an identifier: ASCII letters, digits and underscores, at least one, and no digit first. -/
def isIdentifier (s : String) : Bool :=
  match s.toList with
  | [] => false
  | c :: cs => (c.isAlpha || c == '_') && cs.all fun c => c.isAlphanum || c == '_'

namespace Catalog

def initial : Catalog := ⟨[(edgesName, .reserved edgesName)]⟩

def type? (c : Catalog) (name : String) : Option RecordType := c.types.get? name

def hasType (c : Catalog) (name : String) : Bool := c.types.has name

def getType (c : Catalog) (name : String) : Except Fault RecordType :=
  match c.type? name with
  | some t => .ok t
  | none => .error (.typeNotFound name)

/-- The node type of a name, which has to exist. -/
def requireNode (c : Catalog) (name : String) : Except Fault RecordType := do
  let t ← c.getType name
  if t.isNode then return t else throw (.typeIsNotNode name)

/-- A type is new, and its name is well formed. The names of types that are no nodes are reserved. -/
def checkCreateType (c : Catalog) (name : String) : Except Fault Unit := do
  match c.type? name with
  | some t => throw (if t.isNode then .typeAlreadyExists name else .invalidTypeName name)
  | none => if !isTypeName name then throw (.invalidTypeName name)

def checkDeleteType (c : Catalog) (name : String) : Except Fault Unit := do
  let _ ← c.requireNode name

def checkFieldName (t : RecordType) (name : String) : Except Fault Unit := do
  if !isIdentifier name then throw (.invalidFieldName name)
  if t.hasField name then throw (.fieldAlreadyExists t.name name)

/-- A plain field can be made: connections come in pairs and are made elsewhere. -/
def checkCreateField (c : Catalog) (type : String) (f : Field) : Except Fault Unit := do
  let t ← c.requireNode type
  checkFieldName t f.name
  if f.kind = .connection ∨ f.isConnection then throw (.invalidFieldKind Kind.connection.text)

def existingField (t : RecordType) (name : String) : Except Fault Field :=
  match t.field? name with
  | some f => .ok f
  | none => .error (.fieldNotFound t.name name)

def checkDeleteField (c : Catalog) (type name : String) : Except Fault Unit := do
  let f ← existingField (← c.requireNode type) name
  if f.builtIn then throw (.fieldIsBuiltIn type name)
  if f.isConnection then throw (.fieldIsConnection type name)

def checkCreateConnection (c : Catalog) (type field targetType targetField : String) : Except Fault Unit := do
  let t ← c.requireNode type
  let u ← c.requireNode targetType
  checkFieldName t field
  checkFieldName u targetField
  if type = targetType ∧ field = targetField then throw (.invalidParameter "targetFieldName" .sameFieldTwice)

def checkDeleteConnection (c : Catalog) (type name : String) : Except Fault Unit := do
  let f ← existingField (← c.requireNode type) name
  if !f.isConnection then throw (.fieldIsNotConnection type name)

/-- A field that records store, so that it can be indexed. -/
def checkIndexed (t : RecordType) (type field : String) : Except Fault Unit := do
  let f ← existingField t field
  if !f.isStored then throw (.fieldIsConnection type field)

def checkCreateIndex (c : Catalog) (type name : String) (fields : List String) : Except Fault Unit := do
  let t ← c.requireNode type
  if (t.index? name).isSome then throw (.indexAlreadyExists type name)
  if !isIdentifier name then throw (.invalidParameter "name" (.notIndexName name))
  if fields.isEmpty then throw (.invalidParameter "fields" .noIndexFields)
  fields.forM (checkIndexed t type)

def checkDeleteIndex (c : Catalog) (type name : String) : Except Fault Unit := do
  let t ← c.requireNode type
  match t.index? name with
  | none => throw (.indexNotFound type name)
  | some i => if i.builtIn then throw (.indexIsBuiltIn type name)

def modifyType (c : Catalog) (name : String) (f : RecordType → RecordType) : Catalog := ⟨c.types.modify name f⟩

def removeType (c : Catalog) (name : String) : Catalog := ⟨c.types.erase name⟩

end Catalog

/-- An operation on a catalog. It runs its check first and then looks up again what it changes, so that it can be refused
also after a change has been made. -/
abbrev Mutation := Stateful Catalog

namespace Mutation

open Stateful Catalog

/-- The node type of a name, looked up to be changed in place. -/
def node (name : String) : Mutation RecordType := do
  let _ ← ask (·.requireNode name)
  ask (·.getType name)

def createType (name : String) : Mutation RecordType := do
  ask (·.checkCreateType name)
  let (t, types) := (← get).types.putNew name (.node name)
  set (Catalog.mk types)
  return t

/-- Deletes a node type, and on other types the fields that its connections are paired with. -/
def deleteType (name : String) : Mutation RecordType := do
  ask (·.checkDeleteType name)
  let t ← ask (·.getType name)
  modify (·.removeType name)
  t.links.forM fun l => modify (·.modifyType l.2.targetType (·.removeField l.2.targetField))
  return t

/-- Makes a plain field. It is never built in. -/
def createField (type : String) (f : Field) : Mutation Field := do
  ask (·.checkCreateField type f)
  let t ← node type
  let (g, fields) := t.fields.putNew f.name { f with builtIn := false }
  modify (·.modifyType type ({ · with fields := fields }))
  return g

def takeField (type name : String) : Mutation Field := do
  let t ← node type
  match t.field? name with
  | none => throw (.fieldNotFound type name)
  | some f =>
    modify (·.modifyType type (·.eraseField name))
    return f

/-- Deletes a plain field and the indexes over it. -/
def deleteField (type name : String) : Mutation Field := do
  ask (·.checkDeleteField type name)
  let f ← takeField type name
  modify (·.modifyType type (·.dropIndexes name))
  return f

def putField (type name : String) (f : Field) : Mutation Unit := do
  let _ ← node type
  modify (·.modifyType type fun t => { t with fields := t.fields.put name f })

/-- Makes both sides of a connection: `field` holds the id of a record of `targetType`, and `targetField` lists the
records that refer to it. -/
def createConnection (type field targetType targetField : String) (required : Bool) : Mutation Unit := do
  ask (·.checkCreateConnection type field targetType targetField)
  putField type field { Field.connection field targetType targetField .one with required := required }
  putField targetType targetField (.connection targetField type field .many)

def takePaired (l : Link) : Mutation (Option Field) := do
  let paired := ((← get).type? l.targetType).bind (·.field? l.targetField)
  modify (·.modifyType l.targetType (·.eraseField l.targetField))
  return paired

/-- Deletes a connection from either of its sides, with the indexes over both. The field and the one that it was paired
with are returned. -/
def deleteConnection (type name : String) : Mutation (Field × Option Field) := do
  ask (·.checkDeleteConnection type name)
  let f ← takeField type name
  let paired ← match f.link with
    | some l => takePaired l
    | none => pure none
  modify (·.modifyType type (·.dropIndexes name))
  match f.link, paired with
  | some l, some g => modify (·.modifyType l.targetType (·.dropIndexes g.name))
  | _, _ => pure ()
  return (f, paired)

def createIndex (type name : String) (fields : List String) : Mutation Index := do
  ask (·.checkCreateIndex type name fields)
  let t ← node type
  let (i, indexes) := t.indexes.putNew name ⟨name, fields, false⟩
  modify (·.modifyType type ({ · with indexes := indexes }))
  return i

def deleteIndex (type name : String) : Mutation Index := do
  ask (·.checkDeleteIndex type name)
  let t ← node type
  match t.index? name with
  | none => throw (.indexNotFound type name)
  | some i =>
    modify (·.modifyType type (·.removeIndex name))
    return i

end Mutation

end RecordGraph
