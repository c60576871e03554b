import RecordGraph.Engine.Execute
import RecordGraph.Proofs.Catalog.Mutation
import RecordGraph.Proofs.Store

namespace RecordGraph

open Stateful (on_bind)

namespace Operation

variable {α β : Type} {db : Database} {P : Database → Prop}

/-- Whether an action leaves every state as it is. -/
def Reads (a : Operation α) : Prop := ∀ db, (a.on db).2 = db

theorem Reads.ends_bind {a : Operation α} {k : α → Operation β} (ha : Reads a) (hdb : P db)
    (h : ∀ x, P ((k x).on db).2) : P ((a >>= k).on db).2 := by
  have hd := ha db
  rw [on_bind]
  rcases he : a.on db with ⟨x | x, d⟩ <;> rw [he] at hd <;> obtain rfl : d = db := hd
  · exact hdb
  · exact h x

theorem Reads.bind {a : Operation α} {f : α → Operation β} (ha : Reads a) (hf : ∀ x, Reads (f x)) :
    Reads (a >>= f) := by
  intro db
  exact ha.ends_bind (P := (· = db)) rfl fun x => hf x db

theorem reads_pure {x : α} : Reads (pure x : Operation α) := fun _ => rfl

theorem reads_throw {e : Fault} : Reads (throw e : Operation α) := fun _ => rfl

theorem reads_get : Reads (get : Operation Database) := fun _ => rfl

theorem reads_ask {f : Catalog → Except Fault α} : Reads (ask f) := fun _ => rfl

theorem reads_onStore {a : Stateful Store α} {f : Store → α} (ha : a.ComesTo fun s => .ok (f s, s)) : Reads (onStore a) := by
  intro db
  show (⟨db.catalog, (a.on db.store).2⟩ : Database) = db
  rw [ha.on_eq]
  rfl

theorem reads_fetch {type id : String} : Reads (fetch type id) := by
  refine (reads_onStore RecordStore.comesTo_get?).bind fun r => ?_
  split
  · exact reads_pure
  · exact reads_throw

theorem Reads.ends {a : Operation α} (ha : Reads a) (h : P db) : P (a.on db).2 := by
  rw [ha db]
  exact h

/-- What only reads after an action does not count. -/
theorem state_bind_of_reads {a : Operation α} {k : α → Operation β} (hk : ∀ x, Reads (k x)) :
    ((a >>= k).on db).2 = (a.on db).2 := by
  rw [on_bind]
  rcases a.on db with ⟨x | x, d⟩
  · rfl
  · exact hk x d

theorem on_ask_bind {f : Catalog → Except Fault α} {k : α → Operation β} :
    (ask f >>= k).on db = match f db.catalog with
      | .ok a => (k a).on db
      | .error e => (.error e, db) := Stateful.on_ask_bind

theorem ends_ask {f : Catalog → Except Fault α} {k : α → Operation β} (hdb : P db)
    (h : ∀ a, f db.catalog = .ok a → P ((k a).on db).2) : P ((ask f >>= k).on db).2 := by
  rw [on_ask_bind]
  cases hf : f db.catalog with
  | error e => exact hdb
  | ok a => exact h a hf

/-- What an operation on the catalog comes to. Where it is refused, the catalog is as it was. -/
theorem on_onCatalog_bind {a : Mutation α} {f : Catalog → Except Fault (α × Catalog)} {k : α → Operation β} (ha : a.ComesTo f) :
    (onCatalog a >>= k).on db = match f db.catalog with
      | .ok (x, c) => (k x).on ⟨c, db.store⟩
      | .error e => (.error e, db) := by
  rw [on_bind, show (onCatalog a).on db = ((a.on db.catalog).1, ⟨(a.on db.catalog).2, db.store⟩) from rfl, ha.on_eq]
  cases f db.catalog <;> rfl

theorem on_onStore_bind {a : Stateful Store α} {f : Store → Except Fault (α × Store)} {k : α → Operation β} (ha : a.ComesTo f) :
    (onStore a >>= k).on db = match f db.store with
      | .ok (x, s) => (k x).on ⟨db.catalog, s⟩
      | .error e => (.error e, db) := by
  rw [on_bind, show (onStore a).on db = ((a.on db.store).1, ⟨db.catalog, (a.on db.store).2⟩) from rfl, ha.on_eq]
  cases f db.store <;> rfl

theorem ends_onCatalog {a : Mutation α} {f : Catalog → Except Fault (α × Catalog)} {k : α → Operation β} (ha : a.ComesTo f)
    (hdb : P db) (h : ∀ x c, f db.catalog = .ok (x, c) → P ((k x).on ⟨c, db.store⟩).2) :
    P ((onCatalog a >>= k).on db).2 := by
  rw [on_onCatalog_bind ha]
  cases hf : f db.catalog with
  | error e => exact hdb
  | ok y => exact h y.1 y.2 hf

theorem ends_onStore {a : Stateful Store α} {f : Store → Except Fault (α × Store)} {k : α → Operation β} (ha : a.ComesTo f)
    (hdb : P db) (h : ∀ x s, f db.store = .ok (x, s) → P ((k x).on ⟨db.catalog, s⟩).2) :
    P ((onStore a >>= k).on db).2 := by
  rw [on_onStore_bind ha]
  cases hf : f db.store with
  | error e => exact hdb
  | ok y => exact h y.1 y.2 hf

theorem ends_clean {a : Stateful Store Unit} {f : Store → Store} {k : Unit → Operation β}
    (ha : a.ComesTo fun s => .ok ((), f s)) (h : P ((k ()).on ⟨db.catalog, f db.store⟩).2) :
    P ((onStore a >>= k).on db).2 := by
  rw [on_onStore_bind ha]
  exact h

theorem on_fetch_bind {type id : String} {k : Record → Operation β} :
    (fetch type id >>= k).on db = match db.store.get? type id with
      | some r => (k r).on db
      | none => (.error (.recordNotFound type id), db) := by
  rw [fetch, bind_assoc, on_onStore_bind RecordStore.comesTo_get?]
  dsimp only
  cases db.store.get? type id <;> rfl

theorem ends_forM_clean {a : α → Stateful Store Unit} {f : α → Store → Store} {l : List α} {k : PUnit → Operation β}
    (ha : ∀ x, (a x).ComesTo fun s => .ok ((), f x s))
    (h : P ((k ()).on ⟨db.catalog, l.foldl (fun s x => f x s) db.store⟩).2) :
    P (((l.forM fun x => onStore (a x)) >>= k).on db).2 := by
  rw [List.forM_eq_forM]
  induction l generalizing db with
  | nil => exact h
  | cons x l ih =>
    rw [List.forM_cons, bind_assoc]
    exact ends_clean (ha x) (ih h)

end Operation

/-- The store without the values of the fields at the other ends of some links. -/
def Store.unlink (s : Store) (links : List (String × Link)) : Store :=
  links.foldl (fun s l => s.removeField l.2.targetType l.2.targetField) s

/-- The links of a deleted type whose other ends are stored by records of other types. -/
def RecordType.storedLinks (t : RecordType) (name : String) : List (String × Link) :=
  t.links.filter fun l => l.2.side = .many && l.2.targetType ≠ name

/-- The store without the values of the stored one of two paired fields. -/
def Store.removePair (s : Store) (type target : String) (f : Field) (paired : Option Field) : Store :=
  if f.isStored then s.removeField type f.name
  else
    match paired with
    | some g => if g.isStored then s.removeField target g.name else s
    | none => s

variable [Ids]

/-- What the second phase of a call can do to a state. -/
inductive Effect (db : Database) : Call → Request → Database → Prop
  | none {call : Call} {request : Request} : Effect db call request db
  | createType {name : String} {t : RecordType} {c : Catalog} (h : db.catalog.createType name = .ok (t, c)) :
    Effect db .createType (.createType name) ⟨c, db.store⟩
  | deleteType {name : String} {t : RecordType} {c : Catalog} (h : db.catalog.deleteType name = .ok (t, c)) :
    Effect db .deleteType (.deleteType name) ⟨c, (db.store.dropType name).unlink (t.storedLinks name)⟩
  | createField {type : String} {f g : Field} {c : Catalog} (h : db.catalog.createField type f = .ok (g, c)) :
    Effect db .createField (.createField type f) ⟨c, db.store⟩
  | deleteField {type name : String} {f : Field} {c : Catalog} (h : db.catalog.deleteField type name = .ok (f, c)) :
    Effect db .deleteField (.deleteField type name) ⟨c, db.store.removeField type name⟩
  | createConnection {type field targetType targetField : String} {required : Bool} {c : Catalog}
    (h : db.catalog.createConnection type field targetType targetField required = .ok c) :
    Effect db .createConnection (.createConnection type field targetType targetField required) ⟨c, db.store⟩
  | deleteConnection {type name : String} {f : Field} {paired : Option Field} {c : Catalog}
    (h : db.catalog.deleteConnection type name = .ok ((f, paired), c)) :
    Effect db .deleteConnection (.deleteConnection type name)
      ⟨c, db.store.removePair type ((f.link.map Link.targetType).getD type) f paired⟩
  | createIndex {type name : String} {fields : List String} {i : Index} {c : Catalog}
    (h : db.catalog.createIndex type name fields = .ok (i, c)) :
    Effect db .createIndex (.createIndex type name fields) ⟨c, db.store⟩
  | deleteIndex {type name : String} {i : Index} {c : Catalog} (h : db.catalog.deleteIndex type name = .ok (i, c)) :
    Effect db .deleteIndex (.deleteIndex type name) ⟨c, db.store⟩
  | create {type : String} {data : Entries Json} {t : RecordType} {fields : Entries Value}
    (ht : db.catalog.requireNode type = .ok t) (ha : t.accept data .create = .ok fields) :
    Effect db .create (.create type data) ⟨db.catalog, (db.store.insert type fields).2⟩
  | update {type id : String} {data : Entries Json} {t : RecordType} {fields : Entries Value} {s : Store}
    (ht : db.catalog.requireNode type = .ok t) (ha : t.accept data .update = .ok fields)
    (hs : db.store.update type id fields = .ok s) : Effect db .update (.update type id data) ⟨db.catalog, s⟩
  | delete {type id : String} {s : Store} (hs : db.store.delete type id = .ok s) :
    Effect db .delete (.delete type id) ⟨db.catalog, s⟩

namespace Call

open Operation

section

variable {db : Database}

omit [Ids]

theorem reads_changedType {name : String} : Reads (changedType name) := reads_ask.bind fun _ => reads_pure

theorem reads_changedTypes {name target : String} : Reads (changedTypes name target) :=
  reads_ask.bind fun _ => reads_ask.bind fun _ => reads_pure

theorem reads_readNodes {limits : PageLimits} {type : String} {first : Option Nat} {after : Option String} :
    Reads (readNodes limits type first after) :=
  reads_ask.bind fun _ => (reads_onStore RecordStore.comesTo_list).bind fun _ => reads_ask.bind fun _ => reads_pure

end

variable {db : Database}

theorem effect_performDeleteType {name : String} :
    Effect db .deleteType (.deleteType name) ((performDeleteType name).on db).2 := by
  refine ends_onCatalog Mutation.comesTo_deleteType .none fun t c h => ?_
  refine ends_clean RecordStore.comesTo_dropType (ends_forM_clean (fun _ => RecordStore.comesTo_removeField) ?_)
  exact reads_pure.ends (.deleteType h)

theorem effect_performDeleteConnection {type name : String} :
    Effect db .deleteConnection (.deleteConnection type name) ((performDeleteConnection type name).on db).2 := by
  refine ends_onCatalog Mutation.comesTo_deleteConnection .none fun ⟨f, paired⟩ c h => ?_
  have he : Effect db .deleteConnection (.deleteConnection type name) _ := .deleteConnection h
  unfold Store.removePair at he
  dsimp only
  split
  · next hf =>
    rw [if_pos hf] at he
    exact ends_clean RecordStore.comesTo_removeField (reads_changedTypes.ends he)
  next hf =>
  rw [if_neg hf] at he
  cases paired with
  | none => exact reads_changedTypes.ends he
  | some g =>
    dsimp only at he ⊢
    split
    · next hg =>
      rw [if_pos hg] at he
      exact ends_clean RecordStore.comesTo_removeField (reads_changedTypes.ends he)
    · next hg =>
      rw [if_neg hg] at he
      exact reads_changedTypes.ends he

/-- Whatever becomes of a call, the state after it is one of those that `Effect` lists. -/
theorem effect_perform {limits : PageLimits} {call : Call} {request : Request} :
    Effect db call request ((call.perform limits request).on db).2 := by
  fun_cases perform limits call request with
  | case1 => exact (reads_get.bind fun _ => reads_pure).ends .none
  | case2 => exact (reads_ask.bind fun _ => reads_pure).ends .none
  | case3 => exact (reads_ask.bind fun _ => reads_fetch.bind fun _ => reads_pure).ends .none
  | case4 => exact reads_readNodes.ends .none
  | case5 => exact ends_onCatalog Mutation.comesTo_createType .none fun _ _ h => reads_pure.ends (.createType h)
  | case6 => exact effect_performDeleteType
  | case7 => exact ends_onCatalog Mutation.comesTo_createField .none fun _ _ h => reads_changedType.ends (.createField h)
  | case8 =>
    refine ends_onCatalog Mutation.comesTo_deleteField .none fun _ _ h => ?_
    exact ends_clean RecordStore.comesTo_removeField (reads_changedType.ends (.deleteField h))
  | case9 =>
    refine ends_onCatalog Mutation.comesTo_createConnection .none fun _ c h => ?_
    exact reads_changedTypes.ends (.createConnection (Outcome.map_unit_eq_ok.mp h))
  | case10 => exact effect_performDeleteConnection
  | case11 => exact ends_onCatalog Mutation.comesTo_createIndex .none fun _ _ h => reads_changedType.ends (.createIndex h)
  | case12 => exact ends_onCatalog Mutation.comesTo_deleteIndex .none fun _ _ h => reads_changedType.ends (.deleteIndex h)
  | case13 typeName data =>
    refine ends_ask .none fun fields h => ?_
    obtain ⟨t, ht, ha⟩ := Outcome.bind_eq_ok.mp h
    refine ends_onStore RecordStore.comesTo_insert .none fun id s hs => ?_
    obtain ⟨-, rfl⟩ := Prod.mk.inj (Except.ok.inj hs)
    exact (reads_fetch.bind fun _ => reads_pure).ends (.create ht ha)
  | case14 typeName id data =>
    refine ends_ask .none fun fields h => ?_
    obtain ⟨t, ht, ha⟩ := Outcome.bind_eq_ok.mp h
    refine ends_onStore RecordStore.comesTo_update .none fun _ s hs => ?_
    exact (reads_fetch.bind fun _ => reads_pure).ends (.update ht ha (Outcome.map_unit_eq_ok.mp hs))
  | case15 typeName id =>
    refine ends_ask .none fun t _ => reads_fetch.ends_bind .none fun r => ?_
    refine ends_onStore RecordStore.comesTo_delete .none fun _ s hs => ?_
    exact reads_pure.ends (.delete (Outcome.map_unit_eq_ok.mp hs))
  | case16 => exact reads_throw.ends .none

theorem effect_of_perform {limits : PageLimits} {call : Call} {request : Request} {answer : Except Fault Output} {db' : Database}
    (h : (call.perform limits request).on db = (answer, db')) : Effect db call request db' := by
  have hstate : ((call.perform limits request).on db).2 = db' := congrArg Prod.snd h
  exact hstate ▸ effect_perform

variable {T id : String} {t : RecordType} {r : Record} {s : Store} {data : Entries Json} {fields : Entries Value} {e : Fault}

theorem on_update (ht : db.catalog.requireNode T = .ok t) (ha : t.accept data .update = .ok fields)
    (hs : db.store.update T id fields = .ok s) (hr : s.get? T id = some r) :
    (Call.update.perform limits (.update T id data)).on db = (.ok (.record T r), ⟨db.catalog, s⟩) := by
  rw [perform, accepted, on_ask_bind, ht, Outcome.ok_bind, ha]
  dsimp only
  rw [on_onStore_bind RecordStore.comesTo_update, hs]
  show (fetch T id >>= _).on _ = _
  rw [on_fetch_bind, hr]
  rfl

theorem on_update_refused (ht : db.catalog.requireNode T = .ok t) (ha : t.accept data .update = .error e) :
    (Call.update.perform limits (.update T id data)).on db = (.error e, db) := by
  rw [perform, accepted, on_ask_bind, ht, Outcome.ok_bind, ha]

end Call

end RecordGraph
