import RecordGraph.Schema.Catalog

namespace RecordGraph

/-- Whether two maps agree, name by name. -/
def Entries.agree {β : Type} (same : β → β → Bool) (l m : Entries β) : Bool :=
  l.length = m.length && l.all fun e => (m.get? e.1).any (same e.2)

namespace Field

def agrees (f g : Field) : Bool :=
  f.name = g.name && f.kind = g.kind && f.builtIn = g.builtIn && f.required = g.required && f.link = g.link &&
    match f.default, g.default with
    | some v, some w => v.same w
    | none, none => true
    | _, _ => false

end Field

def RecordType.agrees (t u : RecordType) : Bool :=
  t.name = u.name && t.isNode = u.isNode && t.fields.agree Field.agrees u.fields &&
    t.indexes.agree (fun i j => i = j) u.indexes

def Catalog.agrees (c d : Catalog) : Bool := c.types.agree RecordType.agrees d.types

end RecordGraph
