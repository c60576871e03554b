import RecordGraph.Schema.Catalog
import RecordGraph.Proofs.Outcome
import RecordGraph.Proofs.Entries

namespace RecordGraph

open Entries Outcome

namespace RecordType

def addField (t : RecordType) (f : Field) : RecordType := { t with fields := t.fields ++ [(f.name, f)] }

def addIndex (t : RecordType) (i : Index) : RecordType := { t with indexes := t.indexes ++ [(i.name, i)] }

end RecordType

namespace Catalog

variable {c d : Catalog} {t u : RecordType} {f g : Field} {i : Index} {name type field : String}

def addType (c : Catalog) (t : RecordType) : Catalog := ⟨c.types ++ [(t.name, t)]⟩

def createType (c : Catalog) (name : String) : Except Fault (RecordType × Catalog) := do
  c.checkCreateType name
  return (.node name, c.addType (.node name))

/-- The catalog without the fields at the other ends of some links. -/
def unlink (c : Catalog) (links : List (String × Link)) : Catalog :=
  links.foldl (fun c l => c.modifyType l.2.targetType (·.removeField l.2.targetField)) c

def deleteType (c : Catalog) (name : String) : Except Fault (RecordType × Catalog) := do
  let t ← c.requireNode name
  return (t, (c.removeType name).unlink t.links)

def createField (c : Catalog) (type : String) (f : Field) : Except Fault (Field × Catalog) := do
  c.checkCreateField type f
  let f := { f with builtIn := false }
  return (f, c.modifyType type (·.addField f))

def deletableField (c : Catalog) (type name : String) : Except Fault Field := do
  let f ← existingField (← c.requireNode type) name
  if f.builtIn then throw (.fieldIsBuiltIn type name)
  if f.isConnection then throw (.fieldIsConnection type name)
  return f

def deleteField (c : Catalog) (type name : String) : Except Fault (Field × Catalog) := do
  let f ← c.deletableField type name
  return (f, c.modifyType type (·.removeField name))

def createConnection (c : Catalog) (type field targetType targetField : String) (required : Bool) :
    Except Fault Catalog := do
  c.checkCreateConnection type field targetType targetField
  let forward := { Field.connection field targetType targetField .one with required := required }
  let backward := Field.connection targetField type field .many
  return (c.modifyType type (·.addField forward)).modifyType targetType (·.addField backward)

def existingConnection (c : Catalog) (type name : String) : Except Fault Field := do
  let f ← existingField (← c.requireNode type) name
  if !f.isConnection then throw (.fieldIsNotConnection type name)
  return f

/-- The field that a link leads to from a field of a type, when that field is gone. -/
def pairedWith (c : Catalog) (type name : String) (l : Link) : Option Field :=
  ((c.modifyType type (·.eraseField name)).type? l.targetType).bind (·.field? l.targetField)

/-- The catalog without a field and the one that its link leads to. The indexes over the latter go if it was there. -/
def unpair (c : Catalog) (type name : String) (l : Link) : Catalog :=
  let d := (c.modifyType type (·.eraseField name)).modifyType l.targetType (·.eraseField l.targetField)
  match c.pairedWith type name l with
  | some g => (d.modifyType type (·.dropIndexes name)).modifyType l.targetType (·.dropIndexes g.name)
  | none => d.modifyType type (·.dropIndexes name)

def deleteConnection (c : Catalog) (type name : String) : Except Fault ((Field × Option Field) × Catalog) := do
  let f ← c.existingConnection type name
  match f.link with
  | none => return ((f, none), c.modifyType type (·.removeField name))
  | some l => return ((f, c.pairedWith type name l), c.unpair type name l)

def createIndex (c : Catalog) (type name : String) (fields : List String) : Except Fault (Index × Catalog) := do
  c.checkCreateIndex type name fields
  let i : Index := ⟨name, fields, false⟩
  return (i, c.modifyType type (·.addIndex i))

def deletableIndex (c : Catalog) (type name : String) : Except Fault Index := do
  let t ← c.requireNode type
  match t.index? name with
  | none => throw (.indexNotFound type name)
  | some i => if i.builtIn then throw (.indexIsBuiltIn type name) else return i

def deleteIndex (c : Catalog) (type name : String) : Except Fault (Index × Catalog) := do
  let i ← c.deletableIndex type name
  return (i, c.modifyType type (·.removeIndex name))

theorem getType_ok : c.getType name = .ok t ↔ c.type? name = some t := by
  unfold getType
  cases c.type? name <;> simp

theorem requireNode_ok : c.requireNode name = .ok t ↔ c.type? name = some t ∧ t.isNode = true := by
  simp only [requireNode, getType, bind_eq_ok, guard_eq_ok', pure_eq_ok]
  cases c.type? name with
  | none => simp
  | some u =>
    simp only [Except.ok.injEq, exists_eq_left', Option.some.injEq]
    constructor
    · rintro ⟨hu, rfl⟩
      exact ⟨rfl, hu⟩
    · rintro ⟨rfl, hu⟩
      exact ⟨hu, rfl⟩

theorem checkFieldName_ok {x : Unit} : checkFieldName t name = .ok x ↔ isIdentifier name = true ∧ name ∉ names t.fields := by
  simp only [checkFieldName, throw_bind, guard_eq_ok, pure_eq_ok]
  simp [RecordType.hasField, ← has_iff]

theorem createType_ok : c.createType name = .ok (t, d) ↔
    (c.type? name = none ∧ isTypeName name = true) ∧ t = .node name ∧ d = c.addType (.node name) := by
  simp only [createType, checkCreateType, bind_eq_ok, pure_eq_ok, Prod.mk.injEq]
  cases c.type? name with
  | some u => simp
  | none =>
    simp only [guard_eq_ok, pure_eq_ok]
    simp [@eq_comm _ _ t, @eq_comm _ _ d]

theorem deleteType_ok : c.deleteType name = .ok (t, d) ↔
    c.requireNode name = .ok t ∧ d = (c.removeType name).unlink t.links := by
  simp only [deleteType, bind_eq_ok, pure_eq_ok, Prod.mk.injEq]
  constructor
  · rintro ⟨u, hu, rfl, rfl⟩
    exact ⟨hu, rfl⟩
  · rintro ⟨ht, rfl⟩
    exact ⟨t, ht, rfl, rfl⟩

theorem createField_ok : c.createField type f = .ok (g, d) ↔
    (∃ t, c.requireNode type = .ok t ∧ isIdentifier f.name = true ∧ f.name ∉ names t.fields) ∧
      (f.kind ≠ .connection ∧ f.link = none) ∧
      g = { f with builtIn := false } ∧ d = c.modifyType type (·.addField { f with builtIn := false }) := by
  simp only [createField, checkCreateField, bind_eq_ok, guard_eq_ok, pure_eq_ok, checkFieldName_ok, Prod.mk.injEq]
  constructor
  · rintro ⟨_, ⟨t, ht, _, hn, hk, -⟩, rfl, rfl⟩
    exact ⟨⟨t, ht, hn⟩, by simpa [Field.isConnection] using hk, rfl, rfl⟩
  · rintro ⟨⟨t, ht, hn⟩, hk, rfl, rfl⟩
    exact ⟨(), ⟨t, ht, (), hn, by simpa [Field.isConnection] using hk, trivial⟩, rfl, rfl⟩

theorem existingField_ok : existingField t name = .ok f ↔ t.field? name = some f := by
  unfold existingField
  split <;> simp_all

theorem deletableField_ok : c.deletableField type name = .ok f ↔
    (∃ t, c.requireNode type = .ok t ∧ t.field? name = some f) ∧ f.builtIn = false ∧ f.link = none := by
  simp only [deletableField, bind_eq_ok, existingField_ok, throw_bind, guard_eq_ok, pure_eq_ok]
  constructor
  · rintro ⟨t, ht, f, hf, hb, hl, rfl⟩
    exact ⟨⟨t, ht, hf⟩, by simpa using hb, by simpa [Field.isConnection] using hl⟩
  · rintro ⟨⟨t, ht, hf⟩, hb, hl⟩
    exact ⟨t, ht, f, hf, by simp [hb], by simp [Field.isConnection, hl], rfl⟩

theorem deleteField_ok : c.deleteField type name = .ok (f, d) ↔
    c.deletableField type name = .ok f ∧ d = c.modifyType type (·.removeField name) := by
  simp only [deleteField, bind_eq_ok, pure_eq_ok, Prod.mk.injEq]
  constructor
  · rintro ⟨f, hf, rfl, rfl⟩
    exact ⟨hf, rfl⟩
  · rintro ⟨hf, rfl⟩
    exact ⟨f, hf, rfl, rfl⟩

theorem createConnection_ok {targetType targetField : String} {required : Bool} :
    c.createConnection type field targetType targetField required = .ok d ↔
      (∃ t, c.requireNode type = .ok t ∧ isIdentifier field = true ∧ field ∉ names t.fields) ∧
      (∃ u, c.requireNode targetType = .ok u ∧ isIdentifier targetField = true ∧ targetField ∉ names u.fields) ∧
      ¬(type = targetType ∧ field = targetField) ∧
      d = (c.modifyType type (·.addField { Field.connection field targetType targetField .one with
          required := required })).modifyType targetType
        (·.addField (.connection targetField type field .many)) := by
  simp only [createConnection, checkCreateConnection, bind_eq_ok, checkFieldName_ok, guard_eq_ok, pure_eq_ok]
  constructor
  · rintro ⟨_, ⟨t, ht, u, hu, _, htf, _, huf, hne, -⟩, rfl⟩
    exact ⟨⟨t, ht, htf⟩, ⟨u, hu, huf⟩, hne, rfl⟩
  · rintro ⟨⟨t, ht, htf⟩, ⟨u, hu, huf⟩, hne, rfl⟩
    exact ⟨(), ⟨t, ht, u, hu, (), htf, (), huf, hne, trivial⟩, rfl⟩

theorem existingConnection_ok : c.existingConnection type name = .ok f ↔
    (∃ t, c.requireNode type = .ok t ∧ t.field? name = some f) ∧ ∃ l, f.link = some l := by
  simp only [existingConnection, bind_eq_ok, existingField_ok, throw_bind, guard_eq_ok, pure_eq_ok]
  constructor
  · rintro ⟨t, ht, f, hf, hl, rfl⟩
    exact ⟨⟨t, ht, hf⟩, Option.ne_none_iff_exists'.mp (by simpa [Field.isConnection] using hl)⟩
  · rintro ⟨⟨t, ht, hf⟩, hl⟩
    exact ⟨t, ht, f, hf, by simp [Field.isConnection, Option.isSome_iff_exists.mpr hl], rfl⟩

theorem deleteConnection_ok {paired : Option Field} : c.deleteConnection type name = .ok ((f, paired), d) ↔
    c.existingConnection type name = .ok f ∧ ∃ l, f.link = some l ∧
      paired = c.pairedWith type name l ∧ d = c.unpair type name l := by
  simp only [deleteConnection, bind_eq_ok]
  constructor
  · rintro ⟨f', hf, h⟩
    obtain ⟨l, hl⟩ := (existingConnection_ok.mp hf).2
    simp only [hl, pure_eq_ok, Prod.mk.injEq] at h
    obtain ⟨⟨rfl, rfl⟩, rfl⟩ := h
    exact ⟨hf, l, hl, rfl, rfl⟩
  · rintro ⟨hf, l, hl, rfl, rfl⟩
    refine ⟨f, hf, ?_⟩
    simp only [hl, pure_eq_ok]

theorem checkIndexed_ok {x : Unit} : checkIndexed t type field = .ok x ↔
    ∃ f, t.field? field = some f ∧ f.isStored = true := by
  simp only [checkIndexed, bind_eq_ok, existingField_ok, guard_eq_ok, pure_eq_ok]
  simp

theorem createIndex_ok {fields : List String} : c.createIndex type name fields = .ok (i, d) ↔
    (∃ t, c.requireNode type = .ok t ∧ name ∉ names t.indexes ∧
      ∀ n ∈ fields, ∃ f, t.field? n = some f ∧ f.isStored = true) ∧
      (isIdentifier name = true ∧ fields ≠ []) ∧
      i = ⟨name, fields, false⟩ ∧ d = c.modifyType type (·.addIndex ⟨name, fields, false⟩) := by
  simp only [createIndex, checkCreateIndex, bind_eq_ok, throw_bind, guard_eq_ok, pure_eq_ok, forM_eq_ok,
    checkIndexed_ok, Prod.mk.injEq]
  simp only [RecordType.index?, get?_isSome, has_iff]
  constructor
  · rintro ⟨_, ⟨t, ht, hi, hn, hf, hs⟩, rfl, rfl⟩
    exact ⟨⟨t, ht, hi, hs⟩, ⟨by simpa using hn, by simpa using hf⟩, rfl, rfl⟩
  · rintro ⟨⟨t, ht, hi, hs⟩, ⟨hn, hf⟩, rfl, rfl⟩
    exact ⟨(), ⟨t, ht, hi, by simp [hn], by simpa using hf, hs⟩, rfl, rfl⟩

theorem deletableIndex_ok : c.deletableIndex type name = .ok i ↔
    (∃ t, c.requireNode type = .ok t ∧ t.index? name = some i) ∧ i.builtIn = false := by
  simp only [deletableIndex, bind_eq_ok]
  constructor
  · rintro ⟨t, ht, h⟩
    cases hi : t.index? name with
    | none => simp [hi] at h
    | some j =>
      simp only [hi, guard_eq_ok, pure_eq_ok] at h
      obtain ⟨hb, rfl⟩ := h
      exact ⟨⟨t, ht, hi⟩, by simpa using hb⟩
  · rintro ⟨⟨t, ht, hi⟩, hb⟩
    exact ⟨t, ht, by simp [hi, hb, pure, Except.pure]⟩

theorem deleteIndex_ok : c.deleteIndex type name = .ok (i, d) ↔
    c.deletableIndex type name = .ok i ∧ d = c.modifyType type (·.removeIndex name) := by
  simp only [deleteIndex, bind_eq_ok, pure_eq_ok, Prod.mk.injEq]
  constructor
  · rintro ⟨i, hi, rfl, rfl⟩
    exact ⟨hi, rfl⟩
  · rintro ⟨hi, rfl⟩
    exact ⟨i, hi, rfl, rfl⟩

end Catalog

end RecordGraph
