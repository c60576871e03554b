import RecordGraph.Proofs.Catalog.Accepted
import Mathlib.Data.List.Induction

namespace RecordGraph

open Entries

namespace RecordType

variable {t : RecordType} {f : Field} {i : Index} {n m : String}

theorem field?_addField : (t.addField f).field? n = (t.field? n).or (if f.name = n then some f else none) :=
  get?_append

theorem field?_eraseField : (t.eraseField m).field? n = if n = m then none else t.field? n := get?_erase

theorem field?_removeField : (t.removeField m).field? n = if n = m then none else t.field? n := get?_erase

theorem mem_links {l : Link} : (n, l) ∈ t.links ↔ ∃ e ∈ t.fields, e.2.name = n ∧ e.2.link = some l := by
  simp only [links, values, List.mem_filterMap, List.mem_map, Option.map_eq_some_iff, Prod.mk.injEq]
  constructor
  · rintro ⟨_, ⟨e, he, rfl⟩, _, hl, hn, rfl⟩
    exact ⟨e, he, hn, hl⟩
  · rintro ⟨e, he, hn, hl⟩
    exact ⟨e.2, ⟨e, he, rfl⟩, l, hl, hn, rfl⟩

end RecordType

namespace Catalog

variable {c : Catalog} {t : RecordType} {f : Field} {T U n m : String} {g : RecordType → RecordType}

/-- The field of a name in the type of a name. -/
def field? (c : Catalog) (type name : String) : Option Field := (c.type? type).bind (·.field? name)

theorem field?_of_type? (h : c.type? T = some t) : c.field? T n = t.field? n := by simp [field?, h]

theorem field?_of_requireNode (h : c.requireNode T = .ok t) : c.field? T n = t.field? n :=
  field?_of_type? (requireNode_ok.mp h).1

theorem type?_modifyType : (c.modifyType T g).type? U = (c.type? U).map fun t => if U = T then g t else t := get?_modify

theorem field?_modifyType :
    (c.modifyType T g).field? U n = (c.type? U).bind fun t => if U = T then (g t).field? n else t.field? n := by
  rw [field?, type?_modifyType]
  cases c.type? U with
  | none => rfl
  | some t => by_cases h : U = T <;> simp [h]

theorem modifyType_modifyType {h : RecordType → RecordType} :
    (c.modifyType T g).modifyType T h = c.modifyType T fun t => h (g t) := congrArg mk modify_modify

theorem modifyType_comm {h : RecordType → RecordType} (hgh : ∀ t, h (g t) = g (h t)) :
    (c.modifyType T g).modifyType U h = (c.modifyType U h).modifyType T g := congrArg mk (modify_comm hgh)

theorem field?_modifyType_of_fields (hf : ∀ t, (g t).fields = t.fields) :
    (c.modifyType T g).field? U n = c.field? U n := by
  rw [field?_modifyType, field?]
  congr 1
  funext t
  simp [RecordType.field?, hf]

theorem field?_dropIndexes : (c.modifyType T (·.dropIndexes m)).field? U n = c.field? U n :=
  field?_modifyType_of_fields fun _ => rfl

theorem field?_eraseField :
    (c.modifyType T (·.eraseField m)).field? U n = if U = T ∧ n = m then none else c.field? U n := by
  rw [field?_modifyType, field?]
  cases c.type? U with
  | none => simp
  | some t =>
    by_cases hU : U = T
    · simp [hU, RecordType.field?_eraseField]
    · simp [hU]

theorem field?_removeField :
    (c.modifyType T (·.removeField m)).field? U n = if U = T ∧ n = m then none else c.field? U n := by
  rw [← field?_eraseField, field?_modifyType, field?_modifyType]
  rfl

theorem field?_addField (ht : c.type? T = some t) (hf : c.field? T f.name = none) :
    (c.modifyType T (·.addField f)).field? U n = if U = T ∧ n = f.name then some f else c.field? U n := by
  rw [field?_modifyType]
  by_cases hU : U = T
  · subst hU
    rw [field?_of_type? ht] at hf
    simp only [ht, field?, Option.bind_some, RecordType.field?_addField, if_true, true_and]
    by_cases hn : n = f.name
    · simp [hn, hf]
    · simp [hn, Ne.symm hn]
  · simp [hU, field?]

theorem type?_addType : (c.addType t).type? U = (c.type? U).or (if t.name = U then some t else none) := get?_append

theorem field?_addType (h : c.type? t.name = none) :
    (c.addType t).field? U n = if U = t.name then t.field? n else c.field? U n := by
  rw [field?, type?_addType]
  by_cases hU : U = t.name
  · simp [hU, h]
  · simp [hU, Ne.symm hU, field?]

theorem type?_removeType : (c.removeType T).type? U = if U = T then none else c.type? U := get?_erase

theorem field?_removeType : (c.removeType T).field? U n = if U = T then none else c.field? U n := by
  rw [field?, type?_removeType]
  split <;> rfl

/-- Whether a field is at the other end of one of some links. -/
def Targeted (links : List (String × Link)) (type name : String) : Prop :=
  ∃ l ∈ links, l.2.targetType = type ∧ l.2.targetField = name

instance {links : List (String × Link)} : Decidable (Targeted links T n) :=
  inferInstanceAs (Decidable (∃ l ∈ links, _))

theorem field?_unlink_of_targeted {links : List (String × Link)} (h : Targeted links U n) :
    (c.unlink links).field? U n = none := by
  induction links using List.reverseRecOn with
  | nil => obtain ⟨l, hl, _⟩ := h; cases hl
  | append_singleton links l ih =>
    simp only [unlink, List.foldl_append, List.foldl_cons, List.foldl_nil] at ih ⊢
    rw [field?_removeField]
    split
    · rfl
    · next hne =>
      obtain ⟨k, hk, hU, hn⟩ := h
      rcases List.mem_append.mp hk with hk | hk
      · exact ih ⟨k, hk, hU, hn⟩
      · rw [List.mem_singleton.mp hk] at hU hn
        exact absurd ⟨hU.symm, hn.symm⟩ hne

theorem field?_unlink_of_not_targeted {links : List (String × Link)} (h : ¬Targeted links U n) :
    (c.unlink links).field? U n = c.field? U n := by
  induction links using List.reverseRecOn with
  | nil => rfl
  | append_singleton links l ih =>
    simp only [unlink, List.foldl_append, List.foldl_cons, List.foldl_nil] at ih ⊢
    rw [field?_removeField, if_neg]
    · exact ih fun ⟨k, hk, hT⟩ => h ⟨k, List.mem_append_left _ hk, hT⟩
    · rintro ⟨rfl, rfl⟩
      exact h ⟨l, by simp, rfl, rfl⟩

theorem field?_unlink {links : List (String × Link)} :
    (c.unlink links).field? U n = if Targeted links U n then none else c.field? U n := by
  split
  · next h => exact field?_unlink_of_targeted h
  · next h => exact field?_unlink_of_not_targeted h

variable {l : Link}

theorem pairedWith_eq :
    c.pairedWith T n l = if l.targetType = T ∧ l.targetField = n then none else c.field? l.targetType l.targetField :=
  field?_eraseField

theorem field?_unpair : (c.unpair T n l).field? U m =
    if (U = T ∧ m = n) ∨ (U = l.targetType ∧ m = l.targetField) then none else c.field? U m := by
  have herased : ((c.modifyType T (·.eraseField n)).modifyType l.targetType (·.eraseField l.targetField)).field? U m =
      if (U = T ∧ m = n) ∨ (U = l.targetType ∧ m = l.targetField) then none else c.field? U m := by
    rw [field?_eraseField, field?_eraseField]
    by_cases hT : U = T ∧ m = n <;> simp [hT]
  rw [← herased, unpair]
  cases c.pairedWith T n l with
  | none => exact field?_dropIndexes
  | some g => exact field?_dropIndexes.trans field?_dropIndexes

/-- Where a field is under its own name and its link leads to another one, the two go one after the other. -/
theorem unpair_eq {g : Field} (hg : c.pairedWith T n l = some g) (hn : g.name = l.targetField) :
    c.unpair T n l = (c.modifyType T (·.removeField n)).modifyType l.targetType (·.removeField l.targetField) := by
  have hcomm : ∀ t : RecordType, (t.eraseField l.targetField).dropIndexes n = (t.dropIndexes n).eraseField l.targetField :=
    fun _ => rfl
  rw [unpair, hg]
  dsimp only
  rw [hn, modifyType_comm (g := (·.eraseField l.targetField)) hcomm, modifyType_modifyType, modifyType_modifyType]
  rfl

/-- Whether the type of a name is there and has records. -/
def IsNode (c : Catalog) (name : String) : Prop := ∃ t, c.requireNode name = .ok t

theorem isNode_iff : c.IsNode T ↔ ∃ t, c.type? T = some t ∧ t.isNode = true := by
  simp only [IsNode, requireNode_ok]

theorem isNode_modifyType (hn : ∀ t, (g t).isNode = t.isNode) : (c.modifyType T g).IsNode U ↔ c.IsNode U := by
  rw [isNode_iff, isNode_iff, type?_modifyType]
  cases c.type? U with
  | none => simp
  | some t => by_cases h : U = T <;> simp [h, hn]

theorem isNode_unlink {links : List (String × Link)} : (c.unlink links).IsNode U ↔ c.IsNode U := by
  induction links generalizing c with
  | nil => rfl
  | cons l links ih => exact ih.trans (isNode_modifyType fun _ => rfl)

theorem isNode_unpair : (c.unpair T n l).IsNode U ↔ c.IsNode U := by
  have herased : ((c.modifyType T (·.eraseField n)).modifyType l.targetType (·.eraseField l.targetField)).IsNode U ↔
      c.IsNode U := Iff.trans (isNode_modifyType fun _ => rfl) (isNode_modifyType fun _ => rfl)
  rw [← herased, unpair]
  cases c.pairedWith T n l with
  | none => exact isNode_modifyType fun _ => rfl
  | some g => exact Iff.trans (isNode_modifyType fun _ => rfl) (isNode_modifyType fun _ => rfl)

theorem isNode_addType : (c.addType (.node T)).IsNode U ↔ c.IsNode U ∨ (c.type? U = none ∧ U = T) := by
  rw [isNode_iff, isNode_iff, type?_addType]
  cases c.type? U with
  | some t => simp
  | none => simp [RecordType.node, @eq_comm _ T U]

theorem isNode_removeType : (c.removeType T).IsNode U ↔ c.IsNode U ∧ U ≠ T := by
  rw [isNode_iff, isNode_iff, type?_removeType]
  by_cases h : U = T <;> simp [h]

section Operations

variable {d : Catalog} {e : Field} {i : Index} {V k : String}

theorem field?_of_fresh (ht : c.requireNode T = .ok t) (hn : n ∉ names t.fields) : c.field? T n = none := by
  rw [field?_of_requireNode ht]
  exact get?_eq_none_iff.mpr hn

theorem field?_of_createType (h : c.createType T = .ok (t, d)) :
    d.field? U n = if U = T ∧ n = idName then some .id else c.field? U n := by
  obtain ⟨⟨hT, -⟩, -, rfl⟩ := createType_ok.mp h
  rw [field?_addType hT]
  by_cases hU : U = (RecordType.node T).name
  · have hc : c.field? T n = none := by simp [field?, hT]
    have hid : (RecordType.node T).field? n = if idName = n then some .id else none := by
      by_cases hn : idName = n <;> simp [hn, RecordType.field?, RecordType.node, get?]
    rw [if_pos hU, hid]
    obtain rfl : U = T := hU
    simp [hc, @eq_comm _ n]
  · rw [if_neg hU, if_neg fun hV => hU hV.1]

theorem field?_of_deleteType (h : c.deleteType T = .ok (t, d)) :
    d.field? U n = if U = T ∨ Targeted t.links U n then none else c.field? U n := by
  obtain ⟨-, rfl⟩ := deleteType_ok.mp h
  rw [field?_unlink, field?_removeType]
  by_cases hT : Targeted t.links U n <;> simp [hT]

theorem field?_of_createField (h : c.createField T f = .ok (e, d)) :
    d.field? U n = if U = T ∧ n = f.name then some { f with builtIn := false } else c.field? U n := by
  obtain ⟨⟨t, ht, -, hn⟩, -, -, rfl⟩ := createField_ok.mp h
  exact field?_addField (f := { f with builtIn := false }) (requireNode_ok.mp ht).1 (field?_of_fresh ht hn)

theorem field?_of_deleteField (h : c.deleteField T m = .ok (f, d)) :
    d.field? U n = if U = T ∧ n = m then none else c.field? U n := by
  obtain ⟨-, rfl⟩ := deleteField_ok.mp h
  exact field?_removeField

theorem field?_of_createConnection {b : Bool} (h : c.createConnection T n U m b = .ok d) :
    d.field? V k = if V = U ∧ k = m then some (.connection m T n .many)
      else if V = T ∧ k = n then some { Field.connection n U m .one with required := b }
      else c.field? V k := by
  obtain ⟨⟨t, ht, -, hn⟩, ⟨u, hu, -, hm⟩, hne, rfl⟩ := createConnection_ok.mp h
  have hfirst (W j : String) := field?_addField (U := W) (n := j)
    (f := { Field.connection n U m .one with required := b }) (requireNode_ok.mp ht).1 (field?_of_fresh ht hn)
  have hfresh := (hfirst U m).trans (if_neg fun ⟨hU, hm⟩ => hne ⟨hU.symm, hm.symm⟩)
  rw [field?_of_fresh hu hm] at hfresh
  obtain ⟨u', hu'⟩ : ∃ u', (c.modifyType T (·.addField { Field.connection n U m .one with
      required := b })).type? U = some u' := by
    rw [type?_modifyType, (requireNode_ok.mp hu).1]
    exact ⟨_, rfl⟩
  exact (field?_addField (f := .connection m T n .many) hu' hfresh).trans (congrArg _ (hfirst V k))

theorem field?_of_deleteConnection {p : Option Field} {l : Link} (h : c.deleteConnection T n = .ok ((f, p), d))
    (hl : f.link = some l) : d.field? U m =
      if (U = T ∧ m = n) ∨ (U = l.targetType ∧ m = l.targetField) then none else c.field? U m := by
  obtain ⟨-, l', hl', -, rfl⟩ := deleteConnection_ok.mp h
  obtain rfl : l = l' := Option.some.inj (hl.symm.trans hl')
  exact field?_unpair

theorem field?_of_createIndex {fields : List String} (h : c.createIndex T m fields = .ok (i, d)) :
    d.field? U n = c.field? U n := by
  obtain ⟨-, -, -, rfl⟩ := createIndex_ok.mp h
  exact field?_modifyType_of_fields fun _ => rfl

theorem field?_of_deleteIndex (h : c.deleteIndex T m = .ok (i, d)) : d.field? U n = c.field? U n := by
  obtain ⟨-, rfl⟩ := deleteIndex_ok.mp h
  exact field?_modifyType_of_fields fun _ => rfl

end Operations

end Catalog

end RecordGraph
