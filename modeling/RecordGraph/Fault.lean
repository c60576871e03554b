import RecordGraph.Query.Token

namespace RecordGraph

inductive Objection
  | notOfCall (call : String)
  | notOfField (field : String)
  | ofFieldWithout (field : String)
  | notJson
  | notObject
  | notStringList
  | notCount (text : String)
  | notBoolean (text : String)
  | noSuchRecord (id : String)
  | sameFieldTwice
  | notIndexName (name : String)
  | noIndexFields
  | other (text : String)
  deriving DecidableEq, Repr

def Objection.text : Objection → String
  | notOfCall call => s!"root call \"{call}\" does not take this parameter"
  | notOfField field => s!"\"{field}\" does not take this parameter"
  | ofFieldWithout field => s!"\"{field}\" does not take parameters"
  | notJson => "invalid JSON"
  | notObject => "expected a JSON object"
  | notStringList => "expected a JSON array of strings"
  | notCount text => s!"\"{text}\" is not a non-negative integer"
  | notBoolean text => s!"\"{text}\" is not true or false"
  | noSuchRecord id => s!"no record with id \"{id}\""
  | sameFieldTwice => "a connection from a type to itself needs two distinct field names"
  | notIndexName name => s!"\"{name}\" is not a valid index name"
  | noIndexFields => "an index needs at least one field"
  | other text => text

/-- Why a request is refused. -/
inductive Fault
  | misread (what : Query.Misread)
  | unknownCall (call : String)
  | missingParameter (call parameter : String)
  | invalidParameter (parameter : String) (objection : Objection)
  | typeNotFound (type : String)
  | typeIsNotNode (type : String)
  | typeAlreadyExists (type : String)
  | invalidTypeName (type : String)
  | invalidFieldName (field : String)
  | invalidFieldKind (kind : String)
  | fieldAlreadyExists (type field : String)
  | fieldNotFound (type field : String)
  | fieldIsBuiltIn (type field : String)
  | fieldIsConnection (type field : String)
  | fieldIsNotConnection (type field : String)
  | indexAlreadyExists (type index : String)
  | indexNotFound (type index : String)
  | indexIsBuiltIn (type index : String)
  | unknownField (type field : String)
  | missingRequiredField (type field : String)
  | notConvertible (value kind : String)
  | recordNotFound (type id : String)
  | internal (text : String)
  deriving DecidableEq, Repr

namespace Fault

/-- The stable name of the kind of fault. -/
def kind : Fault → String
  | misread _ => "SyntaxError"
  | unknownCall _ => "UnknownRootCall"
  | missingParameter .. => "MissingParameter"
  | invalidParameter .. => "InvalidParameter"
  | typeNotFound _ => "TypeNotFound"
  | typeIsNotNode _ => "TypeIsNotNode"
  | typeAlreadyExists _ => "TypeAlreadyExists"
  | invalidTypeName _ => "InvalidTypeName"
  | invalidFieldName _ => "InvalidFieldName"
  | invalidFieldKind _ => "InvalidFieldKind"
  | fieldAlreadyExists .. => "FieldAlreadyExists"
  | fieldNotFound .. => "FieldNotFound"
  | fieldIsBuiltIn .. => "FieldIsBuiltIn"
  | fieldIsConnection .. => "FieldIsConnection"
  | fieldIsNotConnection .. => "FieldIsNotConnection"
  | indexAlreadyExists .. => "IndexAlreadyExists"
  | indexNotFound .. => "IndexNotFound"
  | indexIsBuiltIn .. => "IndexIsBuiltIn"
  | unknownField .. => "UnknownField"
  | missingRequiredField .. => "MissingRequiredField"
  | notConvertible .. => "ValueConversionError"
  | recordNotFound .. => "RecordNotFound"
  | internal _ => "InternalError"

def message : Fault → String
  | misread what => s!"Syntax error at {what.position.text}: {what.complaint.text}"
  | unknownCall call => s!"Root call \"{call}\" does not exist"
  | missingParameter call parameter => s!"Root call \"{call}\" requires parameter \"{parameter}\""
  | invalidParameter parameter objection => s!"Invalid parameter \"{parameter}\": {objection.text}"
  | typeNotFound type => s!"Type \"{type}\" does not exist"
  | typeIsNotNode type => s!"Type \"{type}\" is not a node"
  | typeAlreadyExists type => s!"Type \"{type}\" already exists"
  | invalidTypeName type =>
    s!"Invalid type name \"{type}\". Valid type name may only consist of ASCII letters or numbers"
  | invalidFieldName field => s!"Invalid field name \"{field}\". Field names must be identifiers"
  | invalidFieldKind kind => s!"Invalid field type \"{kind}\""
  | fieldAlreadyExists type field => s!"Type \"{type}\" already has a field \"{field}\""
  | fieldNotFound type field => s!"Type \"{type}\" does not have a field \"{field}\""
  | fieldIsBuiltIn type field => s!"Field \"{field}\" of \"{type}\" is a built-in"
  | fieldIsConnection type field => s!"Field \"{field}\" of \"{type}\" is a connection"
  | fieldIsNotConnection type field => s!"Field \"{field}\" of \"{type}\" is not a connection"
  | indexAlreadyExists type index => s!"Type \"{type}\" already has an index \"{index}\""
  | indexNotFound type index => s!"Type \"{type}\" does not have an index \"{index}\""
  | indexIsBuiltIn type index => s!"Index \"{index}\" of \"{type}\" is a built-in"
  | unknownField type field => s!"Type \"{type}\" does not have a field \"{field}\""
  | missingRequiredField type field => s!"Type \"{type}\" has missing required field \"{field}\""
  | notConvertible value kind => s!"Can not convert {value} to {kind}"
  | recordNotFound type id => s!"Record \"{id}\" of type \"{type}\" not found"
  | internal text => s!"Internal error: {text}"

end Fault

end RecordGraph
