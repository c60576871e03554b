import RecordGraph.Proofs.Engine.Without

namespace RecordGraph

open Entries Catalog Outcome

def Request.Names (T : String) : Request → Prop
  | .schema => False
  | .type name => name = T
  | .createType name => name = T
  | .deleteType name => name = T
  | .createConnection typeName _ targetType _ _ => typeName = T ∨ targetType = T
  | .node typeName _ => typeName = T
  | .nodes typeName _ _ => typeName = T
  | .createField typeName _ => typeName = T
  | .deleteField typeName _ => typeName = T
  | .deleteConnection typeName _ => typeName = T
  | .createIndex typeName _ _ => typeName = T
  | .deleteIndex typeName _ => typeName = T
  | .create typeName _ => typeName = T
  | .update typeName _ _ => typeName = T
  | .delete typeName _ => typeName = T

instance {T : String} : DecidablePred (Request.Names T)
  | .schema => instDecidableFalse
  | .createConnection .. => @instDecidableOr _ _ (instDecidableEqString ..) (instDecidableEqString ..)
  | .type _ | .createType _ | .deleteType _ | .node .. | .nodes .. | .createField .. | .deleteField ..
  | .deleteConnection .. | .createIndex .. | .deleteIndex .. | .create .. | .update .. | .delete .. =>
    instDecidableEqString ..

section

variable {limits : PageLimits} {db db' : Database} {call : Call} {request : Request} {T : String} {w : Engine} {e : Event}
variable [Ids]

/-- A call that names a type makes no difference to what the state is without the type. -/
theorem Effect.without_alike (limits : PageLimits) (h : db.Sound) (e : Effect db call request db') (hn : request.Names T) :
    (db'.without T).Alike (db.without T) := by
  cases e with
  | none => exact .rfl
  | createType e =>
    obtain ⟨-, -, rfl⟩ := createType_ok.mp e
    obtain rfl : _ = T := hn
    exact Database.without_addType
  | @deleteType U t c e =>
    obtain rfl : U = T := hn
    have hnode : db.catalog.IsNode U := ⟨t, (deleteType_ok.mp e).1⟩
    have hout := Database.outcome_deleteType limits h.catalog h.filed hnode
    rw [Request.outcome, e, ok_bind, pure_eq_ok] at hout
    have htyped : (Request.deleteType U).Typed := trivial
    have hafter := h.effect htyped (.deleteType e)
    rw [hout] at hafter
    rw [hout, Database.without_of_absent hafter Database.type?_without]
    exact .rfl
  | createField e =>
    obtain ⟨-, -, -, rfl⟩ := createField_ok.mp e
    obtain rfl : _ = T := hn
    exact Database.without_modifyType rfl
  | deleteField e =>
    obtain ⟨-, rfl⟩ := deleteField_ok.mp e
    obtain rfl : _ = T := hn
    exact Database.without_modifyType Store.dropType_modifyTable
  | createConnection e => exact Database.without_createConnection h e hn
  | @deleteConnection U m f p c e =>
    obtain rfl : U = T := hn
    obtain ⟨hc, l, hl, -, -⟩ := deleteConnection_ok.mp e
    obtain ⟨⟨t, ht, hf⟩, -⟩ := existingConnection_ok.mp hc
    rw [← field?_of_requireNode ht] at hf
    have hab : db.catalog.Joined (U, m) (l.targetType, l.targetField) := ⟨f, l, hf, hl, rfl⟩
    have hout : (Request.deleteConnection (U, m).1 (U, m).2).outcome limits db =
        .ok (db.strip (EitherEnd (U, m) (l.targetType, l.targetField))) := Request.outcome_deleteConnection h.catalog h.filed hab
    rw [Request.outcome, e, ok_bind, pure_eq_ok] at hout
    rw [hout, Database.without_strip h.catalog h.filed hab (.inl rfl)]
    exact .rfl
  | createIndex e =>
    obtain ⟨-, -, -, rfl⟩ := createIndex_ok.mp e
    obtain rfl : _ = T := hn
    exact Database.without_modifyType rfl
  | deleteIndex e =>
    obtain ⟨-, rfl⟩ := deleteIndex_ok.mp e
    obtain rfl : _ = T := hn
    exact Database.without_modifyType rfl
  | create _ _ =>
    obtain rfl : _ = T := hn
    exact Database.without_store Store.dropType_insert
  | update _ _ hs =>
    obtain rfl : _ = T := hn
    exact Database.without_store (Store.dropType_update hs)
  | delete hs =>
    obtain rfl : _ = T := hn
    exact Database.without_store (Store.dropType_delete hs)

namespace Engine

def Confined (limits : PageLimits) (T : String) (w : Engine) : List Event → Prop
  | [] => True
  | e :: es => (∀ p ∈ w.performed e, p.2.Names T) ∧ (w.step limits e).Confined limits T es

instance decidableConfined : ∀ (w : Engine) (es : List Event), Decidable (w.Confined limits T es)
  | _, [] => inferInstanceAs (Decidable True)
  | w, e :: es =>
    have := decidableConfined (w.step limits e) es
    inferInstanceAs (Decidable (_ ∧ _))

theorem without_step (h : w.Sound) (hn : ∀ p ∈ w.performed e, p.2.Names T) :
    ((w.step limits e).db.without T).Alike (w.db.without T) :=
  Change.preserves (P := fun db => (db.without T).Alike (w.db.without T)) (w.change_step limits e) .rfl fun p hp he =>
    Effect.without_alike limits h.db he (hn p hp)

theorem without_run {es : List Event} (h : w.Sound) (hs : w.Confined limits T es) :
    ((w.run limits es).db.without T).Alike (w.db.without T) := by
  induction es generalizing w with
  | nil => exact .rfl
  | cons e es ih =>
    have hfirst : ((w.step limits e).db.without T).Alike (w.db.without T) := without_step h hs.1
    exact (ih (h.step limits e) hs.2).trans hfirst

omit [Ids] in
theorem asked_deleteType (form : Query.Form) (aliasName : Option String) (children : List Query.Selection) :
    db.asked (.mk form "deleteType" aliasName [("name", T)] children) =
      match db.catalog.requireNode T with
      | .ok _ => some (.deleteType, .deleteType T)
      | .error _ => none := by
  have hname : Call.ofName "deleteType" = .ok .deleteType := Call.ofName_name .deleteType
  have hprocess : Call.deleteType.process db.catalog [("name", T)] =
      (db.catalog.checkDeleteType T >>= fun _ => pure (.deleteType T)) := rfl
  rw [checkDeleteType, bind_assoc] at hprocess
  simp only [Database.asked, Query.Selection.name, Query.Selection.parameters, hname, hprocess]
  cases db.catalog.requireNode T with
  | ok t => rfl
  | error x => rfl

theorem deleteType_step (limits : PageLimits) (h : w.Sound) (hT : T ≠ edgesName) (form : Query.Form)
    (aliasName : Option String) (children : List Query.Selection) :
    (w.step limits (.select (.mk form "deleteType" aliasName [("name", T)] children))).db = w.db.without T := by
  have hasked : w.db.asked (.mk form "deleteType" aliasName [("name", T)] children) = _ :=
    asked_deleteType form aliasName children
  cases hr : w.db.catalog.requireNode T with
  | error x =>
    rw [hr] at hasked
    have hstays := w.change_step limits (.select (.mk form "deleteType" aliasName [("name", T)] children))
    rw [performed, hasked] at hstays
    have habsent : w.db.catalog.type? T = none := by
      cases ht : w.db.catalog.type? T with
      | none => rfl
      | some t =>
        have hnode : t.isNode = true := (h.db.catalog.node (T, t) (mem_of_get? ht) hT).isNode
        rw [requireNode_ok.mpr ⟨ht, hnode⟩] at hr
        cases hr
    rw [Database.without_of_absent h.db habsent]
    exact hstays
  | ok t =>
    rw [hr] at hasked
    have hsettles := Call.settles_perform limits h.db.catalog (.deleteType T)
    rw [Database.outcome_deleteType limits h.db.catalog h.db.filed ⟨t, hr⟩] at hsettles
    obtain ⟨o, ho⟩ := hsettles
    exact (state_of_asked hasked).trans (congrArg Prod.snd ho)

/-- What is done to a type that was not there is undone by its deletion. -/
theorem erased_run_initial (limits : PageLimits) (es fs : List Event) (T : String)
    (hT : (initial.run limits es).db.catalog.type? T = none) (hs : (initial.run limits es).Confined limits T fs)
    (form : Query.Form) (aliasName : Option String) (children : List Query.Selection) :
    let db := (initial.run limits es).db
    let db' := (((initial.run limits es).run limits fs).step limits
      (.select (.mk form "deleteType" aliasName [("name", T)] children))).db
    db'.catalog = db.catalog ∧ (∀ U id, db'.store.get? U id = db.store.get? U id) ∧
      (∀ U filters, db'.store.list U filters = db.store.list U filters) ∧
      ∀ U, db'.store.count U = db.store.count U := by
  intro db db'
  have h : (initial.run limits es).Sound := Sound.initial.run
  have hne : T ≠ edgesName := by
    intro he
    rw [he, h.db.catalog.edges] at hT
    cases hT
  have hdelete : db' = ((initial.run limits es).run limits fs).db.without T :=
    deleteType_step limits h.run hne form aliasName children
  have halike : db'.Alike db := by
    have hrun := without_run h hs
    rw [Database.without_of_absent h.db hT] at hrun
    exact hdelete ▸ hrun
  exact ⟨halike.1, halike.get?, halike.list, halike.count⟩

end Engine

end

namespace Engine

/-- Type `B` comes, goes and comes back next to type `A`, each time with a connection to it. -/
def visit : List Event × List Event :=
  ([.process .createType [("name", "A")], .perform .createType 0,
    .process .create [("type", "A"), ("data", "\x7b\x7d")], .perform .create 1],
  [.process .createType [("name", "B")], .perform .createType 2,
    .process .createConnection
      [("type", "A"), ("fieldName", "f"), ("targetType", "B"), ("targetFieldName", "g")], .perform .createConnection 3,
    .process .create [("type", "B"), ("data", "\x7b\x7d")], .perform .create 4,
    .process .deleteType [("name", "B")], .perform .deleteType 5,
    .perform .createType 2, .perform .createConnection 3, .perform .create 4])

open scoped Ids in
theorem erased_visit :
    let db := (initial.run ⟨1, 1⟩ visit.1).db
    let db' := (((initial.run ⟨1, 1⟩ visit.1).run ⟨1, 1⟩ visit.2).step ⟨1, 1⟩
      (.select (.mk .root "deleteType" none [("name", "B")] [.leaf "success"]))).db
    db'.catalog = db.catalog ∧ (∀ U id, db'.store.get? U id = db.store.get? U id) ∧
      (∀ U filters, db'.store.list U filters = db.store.list U filters) ∧
      ∀ U, db'.store.count U = db.store.count U :=
  erased_run_initial ⟨1, 1⟩ visit.1 visit.2 "B" (by decide +kernel) (by decide +kernel) .root none [.leaf "success"]

end Engine

end RecordGraph
