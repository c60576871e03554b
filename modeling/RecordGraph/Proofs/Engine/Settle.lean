import RecordGraph.Proofs.Engine.Reachable
import RecordGraph.Proofs.Catalog.Strip
import RecordGraph.Proofs.Engine.Fits

namespace RecordGraph

open Outcome
open Stateful (on_bind)

def Store.require (s : Store) (type id : String) : Except Fault Record :=
  match s.get? type id with
  | some r => .ok r
  | none => .error (.recordNotFound type id)

namespace Operation

variable {α β : Type} {db db' : Database} {x : Except Fault Database} {e : Fault}

/-- Whether an action comes down to a computation: it succeeds with the state that this one gives, or it is refused as
this one is and changes nothing. -/
def Settles (a : Operation α) (db : Database) (x : Except Fault Database) : Prop :=
  match x with
  | .ok db' => ∃ o, a.on db = (.ok o, db')
  | .error e => a.on db = (.error e, db)

theorem Settles.of_ok {a : Operation α} {o : α} (h : Settles a db x) (ha : a.on db = (.ok o, db')) : x = .ok db' := by
  cases x with
  | error e =>
    have hon : a.on db = (.error e, db) := h
    rw [ha] at hon
    cases hon
  | ok d =>
    obtain ⟨o', ho⟩ := h
    rw [ha] at ho
    rw [(Prod.mk.inj ho).2]

theorem Settles.of_error {a : Operation α} (h : Settles a db x) (ha : a.on db = (.error e, db')) :
    x = .error e ∧ db' = db := by
  cases x with
  | error e' =>
    have hon : a.on db = (.error e', db) := h
    rw [ha] at hon
    obtain ⟨he, hd⟩ := Prod.mk.inj hon
    exact ⟨congrArg _ (Except.error.inj he).symm, hd⟩
  | ok d =>
    obtain ⟨o, ho⟩ := h
    rw [ha] at ho
    cases ho

theorem Settles.map_on {a : Operation α} (h : Settles a db x) : ((a.on db).1.map fun _ => ()) = x.map fun _ => () := by
  cases x with
  | error e =>
    have hon : a.on db = (.error e, db) := h
    rw [hon]
    rfl
  | ok db' =>
    obtain ⟨o, ho⟩ := h
    rw [ho]
    rfl

theorem settles_pure {o : α} : Settles (pure o) db (.ok db) := ⟨o, rfl⟩

theorem settles_bind {a : Operation α} {k : α → Operation β} {d : Database} (ha : Settles a db (.ok db'))
    (hk : ∀ o, Settles (k o) db' (.ok d)) : Settles (a >>= k) db (.ok d) := by
  obtain ⟨o, ho⟩ := ha
  obtain ⟨p, hp⟩ := hk o
  refine ⟨p, ?_⟩
  rw [on_bind, ho]
  exact hp

theorem settles_ask {f : Catalog → Except Fault α} {k : α → Operation β} {g : α → Except Fault Database}
    (h : ∀ a, f db.catalog = .ok a → Settles (k a) db (g a)) : Settles (ask f >>= k) db (f db.catalog >>= g) := by
  have hon : (ask f >>= k).on db = _ := on_ask_bind
  cases hf : f db.catalog with
  | error e =>
    rw [hf] at hon
    exact hon
  | ok a =>
    rw [hf] at hon
    have hk := h a hf
    unfold Settles at hk ⊢
    rw [hon]
    exact hk

theorem settles_ask_ok {f : Catalog → Except Fault α} {k : α → Operation β} {a : α} (hf : f db.catalog = .ok a)
    (h : Settles (k a) db x) : Settles (ask f >>= k) db x := by
  have hon : Settles (ask f >>= k) db (f db.catalog >>= fun _ => x) := by
    apply settles_ask
    intro b hb
    rw [hf, Except.ok.injEq] at hb
    exact hb ▸ h
  rw [hf] at hon
  exact hon

theorem settles_read {a : Stateful Store α} {f : Store → α} {k : α → Operation β} (ha : a.ComesTo fun s => .ok (f s, s))
    (h : Settles (k (f db.store)) db x) : Settles (onStore a >>= k) db x := by
  unfold Settles at h ⊢
  rw [on_onStore_bind ha]
  exact h

theorem settles_get {k : Database → Operation β} (h : Settles (k db) db x) : Settles (get >>= k) db x := by
  unfold Settles at h ⊢
  rw [on_bind]
  exact h

theorem settles_onCatalog {a : Mutation α} {f : Catalog → Except Fault (α × Catalog)} {k : α → Operation β}
    {next : α × Catalog → Database} (ha : a.ComesTo f)
    (h : ∀ x c, f db.catalog = .ok (x, c) → Settles (k x) ⟨c, db.store⟩ (.ok (next (x, c)))) :
    Settles (onCatalog a >>= k) db (f db.catalog >>= fun p => pure (next p)) := by
  have hon : (onCatalog a >>= k).on db = _ := on_onCatalog_bind ha
  cases hf : f db.catalog with
  | error e =>
    rw [hf] at hon
    exact hon
  | ok p =>
    rw [hf] at hon
    obtain ⟨o, ho⟩ := h p.1 p.2 hf
    exact ⟨o, hon.trans ho⟩

theorem settles_onStore {a : Stateful Store α} {f : Store → Except Fault (α × Store)} {k : α → Operation β}
    {next : α × Store → Database} (ha : a.ComesTo f)
    (h : ∀ x s, f db.store = .ok (x, s) → Settles (k x) ⟨db.catalog, s⟩ (.ok (next (x, s)))) :
    Settles (onStore a >>= k) db (f db.store >>= fun p => pure (next p)) := by
  have hon : (onStore a >>= k).on db = _ := on_onStore_bind ha
  cases hf : f db.store with
  | error e =>
    rw [hf] at hon
    exact hon
  | ok p =>
    rw [hf] at hon
    obtain ⟨o, ho⟩ := h p.1 p.2 hf
    exact ⟨o, hon.trans ho⟩

theorem settles_clean {a : Stateful Store α} {f : Store → α × Store} {k : α → Operation β}
    (ha : a.ComesTo fun s => .ok (f s)) (h : Settles (k (f db.store).1) ⟨db.catalog, (f db.store).2⟩ (.ok db')) :
    Settles (onStore a >>= k) db (.ok db') := by
  have hstore : Settles (onStore a >>= k) db (Except.ok (f db.store) >>= fun _ => pure db') := by
    refine settles_onStore ha fun x s hs => ?_
    obtain ⟨rfl, rfl⟩ := Prod.mk.inj (Except.ok.inj hs)
    exact h
  exact hstore

theorem settles_forM_clean {a : α → Stateful Store Unit} {f : α → Store → Store} {l : List α} {k : PUnit → Operation β}
    (ha : ∀ x, (a x).ComesTo fun s => .ok ((), f x s))
    (h : Settles (k ()) ⟨db.catalog, l.foldl (fun s x => f x s) db.store⟩ (.ok db')) :
    Settles ((l.forM fun x => onStore (a x)) >>= k) db (.ok db') := by
  rw [List.forM_eq_forM]
  induction l generalizing db with
  | nil => exact h
  | cons x l ih =>
    rw [List.forM_cons, bind_assoc]
    exact settles_clean (ha x) (ih h)

theorem settles_fetch_ok {type id : String} {k : Record → Operation β} {r : Record}
    (hr : db.store.get? type id = some r) (h : Settles (k r) db x) : Settles (fetch type id >>= k) db x := by
  have hon : (fetch type id >>= k).on db = _ := on_fetch_bind
  rw [hr] at hon
  unfold Settles at h ⊢
  rw [hon]
  exact h

theorem settles_fetch {type id : String} {k : Record → Operation β} {g : Record → Except Fault Database}
    (h : ∀ r, db.store.get? type id = some r → Settles (k r) db (g r)) :
    Settles (fetch type id >>= k) db (db.store.require type id >>= g) := by
  unfold Store.require
  cases hg : db.store.get? type id with
  | none =>
    have hon : (fetch type id >>= k).on db = _ := on_fetch_bind
    rw [hg] at hon
    exact hon
  | some r => exact settles_fetch_ok hg (h r hg)

end Operation

def Request.call : Request → Call
  | .schema => .schema
  | .type _ => .type
  | .node .. => .node
  | .nodes .. => .nodes
  | .createType _ => .createType
  | .deleteType _ => .deleteType
  | .createField .. => .createField
  | .deleteField .. => .deleteField
  | .createConnection .. => .createConnection
  | .deleteConnection .. => .deleteConnection
  | .createIndex .. => .createIndex
  | .deleteIndex .. => .deleteIndex
  | .create .. => .create
  | .update .. => .update
  | .delete .. => .delete

theorem Call.call_of_process {call : Call} {c : Catalog} {raw : Entries String} {request : Request}
    (h : call.process c raw = .ok request) : request.call = call := by
  unfold process at h
  split at h
  · cases h
  cases call <;> simp only [decode, bind_eq_ok, pure_eq_ok] at h <;> grind [Request.call, bind_eq_ok, pure_eq_ok]

namespace Call

open Operation Catalog

variable {db : Database} {c : Catalog} {s : Store} {T U : String}

theorem settles_changedType {t : RecordType} {g : RecordType → RecordType} (ht : c.requireNode T = .ok t) :
    Settles (changedType T) ⟨c.modifyType T g, s⟩ (.ok ⟨c.modifyType T g, s⟩) := by
  have hget : (c.modifyType T g).getType T = .ok (g t) := by
    rw [getType_ok, type?_modifyType, (requireNode_ok.mp ht).1]
    simp
  exact settles_ask_ok hget settles_pure

theorem settles_changedTypes (hT : c.IsNode T) (hU : c.IsNode U) :
    Settles (changedTypes T U) ⟨c, s⟩ (.ok ⟨c, s⟩) := by
  obtain ⟨t, ht⟩ := hT
  obtain ⟨u, hu⟩ := hU
  have htype : c.getType T = .ok t := getType_ok.mpr (requireNode_ok.mp ht).1
  have htarget : c.getType U = .ok u := getType_ok.mpr (requireNode_ok.mp hu).1
  exact settles_ask_ok htype (settles_ask_ok htarget settles_pure)

theorem settles_accepted {β : Type} {data : Entries Json} {purpose : Purpose} {k : Entries Value → Operation β}
    {g : Entries Value → Except Fault Database} (h : ∀ fields, Settles (k fields) db (g fields)) :
    Settles (accepted T data purpose >>= k) db
      (db.catalog.requireNode T >>= fun t => t.accept data purpose >>= g) := by
  rw [← bind_assoc]
  exact settles_ask fun fields _ => h fields

end Call

variable [Ids]

/-- The state after a request, or why it is refused. -/
def Request.outcome (limits : PageLimits) (db : Database) : Request → Except Fault Database
  | .schema => return db
  | .type name => do
    let _ ← db.catalog.getType name
    return db
  | .node typeName id => do
    let _ ← db.catalog.requireNode typeName
    let _ ← db.store.require typeName id
    return db
  | .nodes typeName first after => do
    let _ ← db.catalog.requireNode typeName
    let _ ← page (db.store.list typeName []) first after limits
    return db
  | .createType name => do
    let p ← db.catalog.createType name
    return ⟨p.2, db.store⟩
  | .deleteType name => do
    let p ← db.catalog.deleteType name
    return ⟨p.2, (db.store.dropType name).unlink (p.1.storedLinks name)⟩
  | .createField typeName field => do
    let p ← db.catalog.createField typeName field
    return ⟨p.2, db.store⟩
  | .deleteField typeName field => do
    let p ← db.catalog.deleteField typeName field
    return ⟨p.2, db.store.removeField typeName field⟩
  | .createConnection typeName field targetType targetField required => do
    let c ← db.catalog.createConnection typeName field targetType targetField required
    return ⟨c, db.store⟩
  | .deleteConnection typeName field => do
    let p ← db.catalog.deleteConnection typeName field
    return ⟨p.2, db.store.removePair typeName ((p.1.1.link.map Link.targetType).getD typeName) p.1.1 p.1.2⟩
  | .createIndex typeName name fields => do
    let p ← db.catalog.createIndex typeName name fields
    return ⟨p.2, db.store⟩
  | .deleteIndex typeName name => do
    let p ← db.catalog.deleteIndex typeName name
    return ⟨p.2, db.store⟩
  | .create typeName data => do
    let t ← db.catalog.requireNode typeName
    let fields ← t.accept data .create
    return ⟨db.catalog, (db.store.insert typeName fields).2⟩
  | .update typeName id data => do
    let t ← db.catalog.requireNode typeName
    let fields ← t.accept data .update
    let s ← db.store.update typeName id fields
    return ⟨db.catalog, s⟩
  | .delete typeName id => do
    let _ ← db.catalog.requireNode typeName
    let s ← db.store.delete typeName id
    return ⟨db.catalog, s⟩

namespace Call

open Operation Catalog

variable {limits : PageLimits} {db : Database} {T U : String}

theorem settles_performCreateConnection {n m : String} {required : Bool} :
    Settles (Call.perform limits .createConnection (.createConnection T n U m required)) db
      ((Request.createConnection T n U m required).outcome limits db) := by
  have hout : (Request.createConnection T n U m required).outcome limits db =
      ((db.catalog.createConnection T n U m required).map ((), ·) >>= fun p => pure ⟨p.2, db.store⟩) := by
    rw [Request.outcome, map_unit_bind]
  rw [hout]
  refine settles_onCatalog Mutation.comesTo_createConnection fun _ c he => ?_
  have hd := map_unit_eq_ok.mp he
  obtain ⟨⟨t, ht, -⟩, ⟨u, hu, -⟩, -⟩ := createConnection_ok.mp hd
  have hstays := (extends_createConnection hd).isNode
  exact settles_changedTypes (hstays T ⟨t, ht⟩) (hstays U ⟨u, hu⟩)

theorem settles_performDelete {id : String} :
    Settles (Call.perform limits .delete (.delete T id)) db ((Request.delete T id).outcome limits db) := by
  refine settles_ask fun t _ => ?_
  have hfound : db.store.delete T id >>= (fun s => pure (⟨db.catalog, s⟩ : Database)) =
      db.store.require T id >>= fun _ => (db.store.delete T id).map ((), ·) >>= fun p => pure ⟨db.catalog, p.2⟩ := by
    unfold Store.delete Store.require
    cases db.store.get? T id <;> rfl
  rw [hfound]
  exact settles_fetch fun r _ => settles_onStore RecordStore.comesTo_delete fun _ _ _ => settles_pure

theorem settles_performUpdate {id : String} {data : Entries Json} :
    Settles (Call.perform limits .update (.update T id data)) db ((Request.update T id data).outcome limits db) := by
  refine settles_accepted fun fields => ?_
  have hupdate : db.store.update T id fields >>= (fun s => pure (⟨db.catalog, s⟩ : Database)) =
      (db.store.update T id fields).map ((), ·) >>= fun p => pure ⟨db.catalog, p.2⟩ := by
    rw [map_unit_bind]
  rw [hupdate]
  refine settles_onStore RecordStore.comesTo_update fun _ s hs => ?_
  obtain ⟨r, hr⟩ := Store.exists_get?_update (map_unit_eq_ok.mp hs)
  exact settles_fetch_ok hr settles_pure

theorem settles_performDeleteType :
    Settles (performDeleteType T) db ((Request.deleteType T).outcome limits db) := by
  rw [performDeleteType, Request.outcome]
  refine settles_onCatalog Mutation.comesTo_deleteType fun t c _ => ?_
  refine settles_clean RecordStore.comesTo_dropType ?_
  exact settles_forM_clean (fun _ => RecordStore.comesTo_removeField) settles_pure

theorem settles_performDeleteConnection {n : String} (h : db.catalog.WellFormed) :
    Settles (performDeleteConnection T n) db ((Request.deleteConnection T n).outcome limits db) := by
  rw [performDeleteConnection, Request.outcome]
  refine settles_onCatalog Mutation.comesTo_deleteConnection ?_
  rintro ⟨f, paired⟩ c he
  obtain ⟨hf, l, hl, -, rfl⟩ := deleteConnection_ok.mp he
  obtain ⟨⟨t, ht, hf⟩, -⟩ := existingConnection_ok.mp hf
  rw [← field?_of_requireNode ht] at hf
  -- both types are still there when their fields are gone
  have hT : (db.catalog.unpair T n l).IsNode T := isNode_unpair.mpr ⟨t, ht⟩
  have htarget : (db.catalog.unpair T n l).IsNode ((f.link.map Link.targetType).getD T) := by
    rw [hl]
    exact isNode_unpair.mpr (h.paired T n f l hf hl).1
  have hanswer (s : Store) := settles_changedTypes (s := s) hT htarget
  dsimp only
  unfold Store.removePair
  split
  · exact settles_clean RecordStore.comesTo_removeField (hanswer _)
  cases paired with
  | none => exact hanswer _
  | some g =>
    dsimp only
    split
    · exact settles_clean RecordStore.comesTo_removeField (hanswer _)
    · exact hanswer _

/-- Every request is settled by its outcome. -/
theorem settles_perform (limits : PageLimits) (h : db.catalog.WellFormed) (request : Request) :
    Settles (request.call.perform limits request) db (request.outcome limits db) := by
  cases request with
  | schema => exact settles_get settles_pure
  | type name => exact settles_ask fun _ _ => settles_pure
  | node type id => exact settles_ask fun _ _ => settles_fetch fun _ _ => settles_pure
  | nodes type first after =>
    exact settles_ask fun _ _ => settles_read RecordStore.comesTo_list (settles_ask fun _ _ => settles_pure)
  | createType name => exact settles_onCatalog Mutation.comesTo_createType fun _ _ _ => settles_pure
  | deleteType name => exact settles_performDeleteType
  | createField type field =>
    refine settles_onCatalog Mutation.comesTo_createField fun f c he => ?_
    obtain ⟨⟨t, ht, -⟩, -, -, rfl⟩ := createField_ok.mp he
    exact settles_changedType ht
  | deleteField type field =>
    refine settles_onCatalog Mutation.comesTo_deleteField fun f c he => ?_
    obtain ⟨hf, rfl⟩ := deleteField_ok.mp he
    obtain ⟨⟨t, ht, -⟩, -⟩ := deletableField_ok.mp hf
    exact settles_clean RecordStore.comesTo_removeField (settles_changedType ht)
  | createConnection type field targetType targetField required => exact settles_performCreateConnection
  | deleteConnection type field => exact settles_performDeleteConnection h
  | createIndex type name fields =>
    refine settles_onCatalog Mutation.comesTo_createIndex fun i c he => ?_
    obtain ⟨⟨t, ht, -⟩, -, -, rfl⟩ := createIndex_ok.mp he
    exact settles_changedType ht
  | deleteIndex type name =>
    refine settles_onCatalog Mutation.comesTo_deleteIndex fun i c he => ?_
    obtain ⟨hi, rfl⟩ := deleteIndex_ok.mp he
    obtain ⟨⟨t, ht, -⟩, -⟩ := deletableIndex_ok.mp hi
    exact settles_changedType ht
  | create type data =>
    refine settles_accepted fun fields => ?_
    exact settles_clean RecordStore.comesTo_insert (settles_fetch_ok Store.get?_insert_self settles_pure)
  | update type id data => exact settles_performUpdate
  | delete type id => exact settles_performDelete

end Call

end RecordGraph
