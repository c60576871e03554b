import RecordGraph.Proofs.Engine.Settle
import RecordGraph.Proofs.Engine.Resolution

namespace RecordGraph

open Outcome

def Fault.IsInternal : Fault → Prop
  | .internal _ => True
  | _ => False

theorem Fault.kind_ne_internal {e : Fault} (h : ¬e.IsInternal) : e.kind ≠ "InternalError" := by
  cases e with
  | internal text => exact absurd trivial h
  | _ => simp [kind]

/-- Whether a computation is never refused as an internal error. -/
abbrev Ordinary {α : Type} (x : Except Fault α) : Prop := Refuses (fun e => ¬e.IsInternal) x

namespace Catalog

variable {c : Catalog} {t : RecordType} {f : Field} {T U n m : String}

theorem ordinary_getType : Ordinary (c.getType T) := by
  unfold getType
  split
  · exact refuses_ok
  · exact refuses_throw not_false

theorem ordinary_requireNode : Ordinary (c.requireNode T) := by
  refine ordinary_getType.bind fun t _ => ?_
  split
  · exact refuses_pure
  · exact refuses_throw not_false

theorem ordinary_existingField : Ordinary (existingField t n) := by
  unfold existingField
  split
  · exact refuses_ok
  · exact refuses_throw not_false

theorem ordinary_checkFieldName : Ordinary (checkFieldName t n) := by
  simp only [checkFieldName, throw_bind]
  refine Refuses.guard ?_ not_false
  exact Refuses.guard refuses_pure not_false

theorem ordinary_checkCreateType : Ordinary (c.checkCreateType T) := by
  unfold checkCreateType
  split
  · apply refuses_throw
    split
    · exact not_false
    · exact not_false
  · exact Refuses.guard refuses_pure not_false

theorem ordinary_createType : Ordinary (c.createType T) := ordinary_checkCreateType.bind fun _ _ => refuses_pure

theorem ordinary_deleteType : Ordinary (c.deleteType T) := ordinary_requireNode.bind fun _ _ => refuses_pure

theorem ordinary_checkCreateField : Ordinary (c.checkCreateField T f) := by
  refine ordinary_requireNode.bind fun t _ => ordinary_checkFieldName.bind fun _ _ => ?_
  exact Refuses.guard refuses_pure not_false

theorem ordinary_createField : Ordinary (c.createField T f) := ordinary_checkCreateField.bind fun _ _ => refuses_pure

theorem ordinary_deletableField : Ordinary (c.deletableField T n) := by
  refine ordinary_requireNode.bind fun t _ => ordinary_existingField.bind fun f _ => ?_
  simp only [throw_bind]
  refine Refuses.guard ?_ not_false
  exact Refuses.guard refuses_pure not_false

theorem ordinary_deleteField : Ordinary (c.deleteField T n) := ordinary_deletableField.bind fun _ _ => refuses_pure

theorem ordinary_checkCreateConnection : Ordinary (c.checkCreateConnection T n U m) := by
  refine ordinary_requireNode.bind fun t _ => ordinary_requireNode.bind fun u _ => ?_
  refine ordinary_checkFieldName.bind fun _ _ => ordinary_checkFieldName.bind fun _ _ => ?_
  exact Refuses.guard refuses_pure not_false

theorem ordinary_createConnection {required : Bool} : Ordinary (c.createConnection T n U m required) :=
  ordinary_checkCreateConnection.bind fun _ _ => refuses_pure

theorem ordinary_existingConnection : Ordinary (c.existingConnection T n) := by
  refine ordinary_requireNode.bind fun t _ => ordinary_existingField.bind fun f _ => ?_
  exact Refuses.guard refuses_pure not_false

theorem ordinary_deleteConnection : Ordinary (c.deleteConnection T n) := by
  refine ordinary_existingConnection.bind fun f _ => ?_
  split
  · exact refuses_pure
  · exact refuses_pure

theorem ordinary_checkIndexed : Ordinary (checkIndexed t T n) := by
  refine ordinary_existingField.bind fun f _ => ?_
  exact Refuses.guard refuses_pure not_false

theorem ordinary_checkCreateIndex {fields : List String} : Ordinary (c.checkCreateIndex T n fields) := by
  refine ordinary_requireNode.bind fun t _ => ?_
  simp only [throw_bind]
  refine Refuses.guard ?_ not_false
  refine Refuses.guard ?_ not_false
  refine Refuses.guard ?_ not_false
  exact refuses_forM fun _ _ => ordinary_checkIndexed

theorem ordinary_createIndex {fields : List String} : Ordinary (c.createIndex T n fields) :=
  ordinary_checkCreateIndex.bind fun _ _ => refuses_pure

theorem ordinary_deletableIndex : Ordinary (c.deletableIndex T n) := by
  refine ordinary_requireNode.bind fun t _ => ?_
  split
  · exact refuses_throw not_false
  · exact Refuses.guard refuses_pure not_false

theorem ordinary_deleteIndex : Ordinary (c.deleteIndex T n) := ordinary_deletableIndex.bind fun _ _ => refuses_pure

end Catalog

theorem Value.ordinary_coerce {k : Kind} {j : Json} : Ordinary (Value.coerce k j) := by
  unfold coerce
  split
  · exact refuses_ok
  · exact refuses_throw not_false

theorem RecordType.ordinary_supply {t : RecordType} {entry : String × Json} : Ordinary (t.supply entry) := by
  unfold supply
  split
  · exact refuses_throw not_false
  · simp only [throw_bind]
    refine Refuses.guard ?_ not_false
    refine Refuses.guard ?_ not_false
    exact Value.ordinary_coerce.bind fun _ _ => refuses_pure

theorem RecordType.ordinary_settle {t : RecordType} {purpose : Purpose} {supplied : Entries Value} {f : Field} :
    Ordinary (t.settle purpose supplied f) := by
  unfold settle
  split
  · exact refuses_ok
  split
  · exact refuses_ok
  split
  · exact refuses_ok
  split
  · exact refuses_throw not_false
  · exact refuses_ok

theorem RecordType.ordinary_accept {t : RecordType} {data : Entries Json} {purpose : Purpose} :
    Ordinary (t.accept data purpose) := by
  refine (refuses_mapM fun _ _ => ordinary_supply).bind fun supplied _ => ?_
  exact (refuses_mapM fun _ _ => ordinary_settle).bind fun _ _ => refuses_pure

theorem Store.ordinary_require {s : Store} {T id : String} : Ordinary (s.require T id) := by
  unfold require
  split
  · exact refuses_ok
  · exact refuses_throw not_false

theorem Store.ordinary_update {s : Store} {T id : String} {fields : Entries Value} :
    Ordinary (s.update T id fields) := by
  unfold update
  split
  · exact refuses_ok
  · exact refuses_throw not_false

theorem Store.ordinary_delete {s : Store} {T id : String} : Ordinary (s.delete T id) := by
  unfold delete
  split
  · exact refuses_ok
  · exact refuses_throw not_false

section Perform

variable [Ids] {limits : PageLimits} {db db' : Database} {call : Call} {request : Request} {e : Fault}

open Catalog

theorem Request.ordinary_outcome (request : Request) : Ordinary (request.outcome limits db) := by
  cases request with
  | schema => exact refuses_pure
  | type name => exact ordinary_getType.bind fun _ _ => refuses_pure
  | node type id =>
    exact ordinary_requireNode.bind fun _ _ => Store.ordinary_require.bind fun _ _ => refuses_pure
  | nodes type first after =>
    exact ordinary_requireNode.bind fun _ _ => (refuses_page fun _ _ _ => not_false).bind fun _ _ => refuses_pure
  | createType name => exact ordinary_createType.bind fun _ _ => refuses_pure
  | deleteType name => exact ordinary_deleteType.bind fun _ _ => refuses_pure
  | createField type field => exact ordinary_createField.bind fun _ _ => refuses_pure
  | deleteField type field => exact ordinary_deleteField.bind fun _ _ => refuses_pure
  | createConnection type field targetType targetField required =>
    exact ordinary_createConnection.bind fun _ _ => refuses_pure
  | deleteConnection type field => exact ordinary_deleteConnection.bind fun _ _ => refuses_pure
  | createIndex type name fields => exact ordinary_createIndex.bind fun _ _ => refuses_pure
  | deleteIndex type name => exact ordinary_deleteIndex.bind fun _ _ => refuses_pure
  | create type data =>
    exact ordinary_requireNode.bind fun _ _ => RecordType.ordinary_accept.bind fun _ _ => refuses_pure
  | update type id data =>
    refine ordinary_requireNode.bind fun _ _ => RecordType.ordinary_accept.bind fun _ _ => ?_
    exact Store.ordinary_update.bind fun _ _ => refuses_pure
  | delete type id =>
    exact ordinary_requireNode.bind fun _ _ => Store.ordinary_delete.bind fun _ _ => refuses_pure

namespace Call

theorem perform_of_ne (limits : PageLimits) (h : request.call ≠ call) :
    ∃ text, call.perform limits request = throw (.internal text) := by
  fun_cases perform limits call request with
  | case16 => exact ⟨_, rfl⟩
  | _ => exact absurd rfl h

/-- A call that is refused leaves the state as it was, and it is refused as an internal error only if its parameters are
those of another call. -/
theorem atomic_perform (h : db.Reachable) (he : (call.perform limits request).on db = (.error e, db')) :
    db' = db ∧ (request.call = call → e.kind ≠ "InternalError") := by
  by_cases hc : request.call = call
  · subst hc
    obtain ⟨ho, hd⟩ := (settles_perform limits h.wellFormed request).of_error he
    exact ⟨hd, fun _ => Fault.kind_ne_internal (request.ordinary_outcome e ho)⟩
  · obtain ⟨text, ht⟩ := perform_of_ne limits hc
    rw [ht] at he
    exact ⟨(Prod.mk.inj he).2.symm, fun hown => absurd hown hc⟩

end Call

end Perform

open scoped Ids in
theorem Call.atomic_perform_stale :
    let db := ((Call.createType.perform .standard (.createType "A")).on .initial).2
    let answer := (Call.deleteConnection.perform .standard (.deleteConnection "A" "f")).on db
    answer.1 = .error (.fieldNotFound "A" "f") ∧ answer.2 = db ∧
      (Fault.fieldNotFound "A" "f").kind ≠ "InternalError" := by
  have hdb : ((Call.createType.perform .standard (.createType "A")).on .initial).2.Reachable :=
    Database.Reachable.initial.perform .standard .createType (.createType "A")
  have he : ((Call.deleteConnection.perform .standard (.deleteConnection "A" "f")).on
      ((Call.createType.perform .standard (.createType "A")).on .initial).2).1 = .error (.fieldNotFound "A" "f") := by
    decide +kernel
  obtain ⟨hstate, hkind⟩ := Call.atomic_perform hdb (Prod.ext he rfl)
  exact ⟨he, hstate, hkind rfl⟩

end RecordGraph
