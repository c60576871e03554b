import RecordGraph.Engine.Resolve
import RecordGraph.Proofs.Outcome

namespace RecordGraph

open Entries Query Outcome

/-- The id that a record stores for a connection. -/
def Record.reference? (r : Record) (n : String) : Option String := (r.fields.get? n).bind Value.text?

/-- What the items of a selection select from: a record, or a page of records with the number of all of them. -/
inductive Place
  | record (type : String) (r : Record)
  | page (type : String) (count : Nat) (shown : List Record)

def Place.item (db : Database) (limits : PageLimits) : Place → Selection → Except Fault (String × Json)
  | .record T r, s => db.catalog.requireNode T >>= fun e => recordItem db limits e r s
  | .page T count shown, s => listingItem db limits T count shown s

variable {db : Database} {limits : PageLimits} {T f g : String} {k : Field} {l : Link} {r : Record}
variable {e : RecordType} {s : Selection} {form : Form} {aliasName : Option String} {children : List Selection}
variable {parameters : Entries String}

theorem recordItems_eq_mapM : recordItems db limits e r children = children.mapM (recordItem db limits e r) := by
  induction children with
  | nil => rfl
  | cons s children ih => rw [recordItems, List.mapM_cons, ih]

theorem listingItems_eq_mapM {count : Nat} {shown : List Record} :
    listingItems db limits T count shown children = children.mapM (listingItem db limits T count shown) := by
  induction children with
  | nil => rfl
  | cons s children ih => rw [listingItems, List.mapM_cons, ih]

theorem resolveRecord_eq (T : String) (r : Record) : resolveRecord db limits T r children =
    if children.isEmpty then .ok r.toJson
    else db.catalog.requireNode T >>= fun e => (recordItems db limits e r children).map assemble := by
  unfold resolveRecord
  split
  · rfl
  · rfl

theorem resolveRecord_singleton (he : db.catalog.requireNode T = .ok e) :
    resolveRecord db limits T r [s] = (recordItem db limits e r s).map fun p => .object [p] := by
  rw [resolveRecord_eq, he, ok_bind, recordItems_eq_mapM, List.mapM_cons, List.mapM_nil]
  cases recordItem db limits e r s <;> rfl

theorem resolveListing_eq (T : String) (count : Nat) (shown : List Record) : resolveListing db limits T count shown children =
    if children.isEmpty then .ok (Output.listing count shown)
    else (listingItems db limits T count shown children).map assemble := by
  unfold resolveListing
  split
  · rfl
  · cases listingItems db limits T count shown children <;> rfl

theorem recordItem_plain (hf : e.field? f = some k) (hl : k.link = none) :
    recordItem db limits e r (.mk .leaf f aliasName [] children) = .ok (aliasName.getD f, (r.get? f).getD .null) := by
  rw [recordItem]
  simp only [hf, hl, rejectParameters, ok_bind]
  rfl

theorem recordItem_many (hf : e.field? g = some k) (hl : k.link = some l) (hs : l.side = .many) :
    recordItem db limits e r (.mk form g aliasName parameters children) =
      referring db limits l r g parameters >>= fun found =>
        (resolveListing db limits l.targetType found.1 found.2 children).map fun v => (aliasName.getD g, v) := by
  rw [recordItem]
  simp only [hf, hl, hs, if_true]
  cases referring db limits l r g parameters with
  | error x => rfl
  | ok found =>
    simp only [ok_bind, resolveListing_eq]
    split
    · rfl
    · cases listingItems db limits l.targetType found.1 found.2 children <;> rfl

/-- The one side of a connection that is selected without a body is the stored id. -/
theorem recordItem_leaf (hf : e.field? f = some k) (hl : k.link = some l) (hs : l.side = .one) :
    recordItem db limits e r (.mk .leaf f aliasName [] children) =
      .ok (aliasName.getD f, (r.reference? f).elim .null .string) := by
  rw [recordItem]
  simp only [hf, hl, hs, rejectParameters, ok_bind]
  rw [Record.reference?]
  cases (r.fields.get? f).bind Value.text? <;> rfl

/-- With a body, the one side of a connection is the record of that id. -/
theorem recordItem_body (hf : e.field? f = some k) (hl : k.link = some l) (hs : l.side = .one) (hform : form ≠ .leaf) :
    recordItem db limits e r (.mk form f aliasName [] children) =
      match (r.reference? f).bind (db.store.get? l.targetType) with
      | none => .ok (aliasName.getD f, .null)
      | some u => (resolveRecord db limits l.targetType u children).map fun v => (aliasName.getD f, v) := by
  rw [recordItem]
  simp only [hf, hl, hs, reduceCtorEq, if_false, rejectParameters, ok_bind]
  rw [Record.reference?]
  cases (r.fields.get? f).bind Value.text? with
  | none => rfl
  | some id =>
    simp only [if_neg hform, Option.bind_some]
    cases db.store.get? l.targetType id with
    | none => rfl
    | some u =>
      simp only [resolveRecord_eq]
      split
      · rfl
      · cases db.catalog.requireNode l.targetType with
        | error x => rfl
        | ok e' =>
          simp only [ok_bind]
          cases recordItems db limits e' u children <;> rfl

theorem listingItem_nodes {count : Nat} {shown : List Record} :
    listingItem db limits T count shown (.mk form "nodes" aliasName [] children) =
      (shown.mapM fun t => resolveRecord db limits T t children) >>= fun values =>
        pure (aliasName.getD "nodes", .array values) := by
  simp only [resolveRecord_eq]
  rfl

/-- Where only a page is asked for, the many side of a connection is a page of the records that refer to the record. -/
theorem referring_eq {size : Option Nat} (hfirst : (parameters.get? "first").map (Parameter.count "first") = size.map .ok)
    (honly : ∀ p ∈ parameters, p.1 = "first" ∨ p.1 = "after") : referring db limits l r g parameters =
      (page (db.store.list l.targetType (refersTo l.targetField r)) size (parameters.get? "after") limits).map
        fun shown => ((db.store.list l.targetType (refersTo l.targetField r)).length, shown) := by
  have hnone : (parameters.find? fun p => p.1 ≠ "first" && p.1 ≠ "after") = none := by
    rw [List.find?_eq_none]
    intro p hp
    rcases honly p hp with h | h
    · simp [h]
    · simp [h]
  rw [referring, hnone]
  cases hget : parameters.get? "first" with
  | none =>
    rw [hget] at hfirst
    cases size with
    | none =>
      simp only [pure_bind]
      cases page (db.store.list l.targetType (refersTo l.targetField r)) none (parameters.get? "after") limits <;> rfl
    | some n => cases hfirst
  | some v =>
    rw [hget] at hfirst
    cases size with
    | none => cases hfirst
    | some n =>
      have hcount : Parameter.count "first" v = .ok n := Option.some.inj hfirst
      simp only [hcount, Except.map, ok_bind]
      cases page (db.store.list l.targetType (refersTo l.targetField r)) (some n) (parameters.get? "after") limits <;> rfl

end RecordGraph
