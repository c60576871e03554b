import RecordGraph.Proofs.Engine.Settle

namespace RecordGraph

open Outcome

def Call.changesCatalog : Call → Bool
  | .createType | .deleteType | .createField | .deleteField | .createConnection | .deleteConnection | .createIndex
  | .deleteIndex => true
  | _ => false

/-- What a catalog decides about a request to change it. -/
def Request.check (c : Catalog) : Request → Except Fault Unit
  | .createType name => c.checkCreateType name
  | .deleteType name => c.checkDeleteType name
  | .createField typeName field => c.checkCreateField typeName field
  | .deleteField typeName field => c.checkDeleteField typeName field
  | .createConnection typeName field targetType targetField _ =>
    c.checkCreateConnection typeName field targetType targetField
  | .deleteConnection typeName field => c.checkDeleteConnection typeName field
  | .createIndex typeName name fields => c.checkCreateIndex typeName name fields
  | .deleteIndex typeName name => c.checkDeleteIndex typeName name
  | _ => return ()

variable {limits : PageLimits} {db : Database} {c c₀ : Catalog} {call : Call} {request : Request} {raw : Entries String}

namespace Call

open Parameter

/-- Once the parameters are decoded, only the check of the catalog is left of processing a call. -/
theorem decode_of_decode (hc : call.changesCatalog = true) (h : call.decode c₀ raw = .ok request) :
    call.decode c raw = (request.check c).map fun _ => request := by
  rw [← bind_pure_eq_map]
  cases call with
  | createType =>
    simp only [decode, bind_eq_ok, pure_eq_ok] at h
    obtain ⟨name, hn, -, -, rfl⟩ := h
    simp only [decode, hn, ok_bind]
    rfl
  | deleteType =>
    simp only [decode, bind_eq_ok, pure_eq_ok] at h
    obtain ⟨name, hn, -, -, rfl⟩ := h
    simp only [decode, hn, ok_bind]
    rfl
  | createField =>
    simp only [decode, bind_eq_ok, pure_eq_ok] at h
    obtain ⟨type, ht, name, hn, kind, hk, -, -, k, hkind, f, hf, -, -, rfl⟩ := h
    simp only [decode, ht, hn, hk, hkind, hf, ok_bind]
    -- the check begins with the look-up of the type, which processing made before
    simp only [Request.check, Catalog.checkCreateField, bind_assoc]
    exact bind_twice
  | deleteField =>
    simp only [decode, bind_eq_ok, pure_eq_ok] at h
    obtain ⟨type, ht, name, hn, -, -, rfl⟩ := h
    simp only [decode, ht, hn, ok_bind]
    rfl
  | createConnection =>
    cases hr : optional raw "required" with
    | none =>
      simp only [decode, hr, bind_eq_ok, pure_eq_ok] at h
      obtain ⟨type, ht, name, hn, target, hu, other, hm, required, rfl, -, -, rfl⟩ := h
      simp only [decode, ht, hn, hu, hm, hr, ok_bind]
      rfl
    | some text =>
      simp only [decode, hr, bind_eq_ok, pure_eq_ok] at h
      obtain ⟨type, ht, name, hn, target, hu, other, hm, required, hq, -, -, rfl⟩ := h
      simp only [decode, ht, hn, hu, hm, hr, hq, ok_bind]
      rfl
  | deleteConnection =>
    simp only [decode, bind_eq_ok, pure_eq_ok] at h
    obtain ⟨type, ht, name, hn, -, -, rfl⟩ := h
    simp only [decode, ht, hn, ok_bind]
    rfl
  | createIndex =>
    simp only [decode, bind_eq_ok, pure_eq_ok] at h
    obtain ⟨type, ht, name, hn, text, hx, -, -, fields, hf, -, -, rfl⟩ := h
    simp only [decode, ht, hn, hx, hf, ok_bind]
    simp only [Request.check, Catalog.checkCreateIndex, bind_assoc]
    exact bind_twice
  | deleteIndex =>
    simp only [decode, bind_eq_ok, pure_eq_ok] at h
    obtain ⟨type, ht, name, hn, -, -, rfl⟩ := h
    simp only [decode, ht, hn, ok_bind]
    rfl
  | _ => cases hc

end Call

section

variable [Ids]

theorem Request.map_outcome (hc : request.call.changesCatalog = true) :
    ((request.outcome limits db).map fun _ => ()) = request.check db.catalog := by
  cases request with
  | createType name =>
    simp only [outcome, check, Catalog.createType]
    cases db.catalog.checkCreateType name <;> rfl
  | deleteType name =>
    simp only [outcome, check, Catalog.deleteType, Catalog.checkDeleteType]
    cases db.catalog.requireNode name <;> rfl
  | createField type field =>
    simp only [outcome, check, Catalog.createField]
    cases db.catalog.checkCreateField type field <;> rfl
  | deleteField type field =>
    simp only [outcome, check, Catalog.deleteField, Catalog.checkDeleteField_eq]
    cases db.catalog.deletableField type field <;> rfl
  | createConnection type field targetType targetField required =>
    simp only [outcome, check, Catalog.createConnection]
    cases db.catalog.checkCreateConnection type field targetType targetField <;> rfl
  | deleteConnection type field =>
    simp only [outcome, check, Catalog.deleteConnection, Catalog.checkDeleteConnection_eq]
    cases db.catalog.existingConnection type field with
    | error e => rfl
    | ok f =>
      simp only [ok_bind]
      cases f.link <;> rfl
  | createIndex type name fields =>
    simp only [outcome, check, Catalog.createIndex]
    cases db.catalog.checkCreateIndex type name fields <;> rfl
  | deleteIndex type name =>
    simp only [outcome, check, Catalog.deleteIndex, Catalog.checkDeleteIndex_eq]
    cases db.catalog.deletableIndex type name <;> rfl
  | _ => cases hc

namespace Call

/-- A request that passed processing once passes it against another catalog just when it can be performed there; otherwise
both refuse it for the same reason. Where nothing changed in between, it can be performed. -/
theorem process_eq_perform (h : db.Reachable) (hc : call.changesCatalog = true)
    (hp : call.process c₀ raw = .ok request) :
    (call.process db.catalog raw = ((call.perform limits request).on db).1.map fun _ => request) ∧
      (db.catalog = c₀ → ∃ output, ((call.perform limits request).on db).1 = .ok output) := by
  have hdecode := hp
  unfold process at hdecode
  split at hdecode
  · cases hdecode
  next hknown =>
  have hcall : request.call = call := call_of_process hp
  have hverdict := (settles_perform limits h.wellFormed request).map_on
  rw [Request.map_outcome (hcall ▸ hc), hcall] at hverdict
  have hprocess : call.process db.catalog raw = ((call.perform limits request).on db).1.map fun _ => request := by
    unfold process
    rw [hknown, decode_of_decode hc hdecode, ← hverdict]
    cases ((call.perform limits request).on db).1 <;> rfl
  refine ⟨hprocess, fun hsame => ?_⟩
  rw [hsame, hp] at hprocess
  obtain ⟨output, ho, -⟩ := map_eq_ok.mp hprocess.symm
  exact ⟨output, ho⟩

end Call

end

open scoped Ids in
/-- The name was free when the parameters were processed, and is taken when the call is performed. -/
theorem Call.process_eq_perform_taken :
    let db := ((Call.createType.perform .standard (.createType "A")).on .initial).2
    Call.createType.process db.catalog [("name", "A")] =
        (((Call.createType.perform .standard (.createType "A")).on db).1.map fun _ => .createType "A") ∧
      ((Call.createType.perform .standard (.createType "A")).on db).1 = .error (.typeAlreadyExists "A") := by
  have hdb : ((Call.createType.perform .standard (.createType "A")).on .initial).2.Reachable :=
    Database.Reachable.initial.perform .standard .createType (.createType "A")
  have hp : Call.createType.process .initial [("name", "A")] = .ok (.createType "A") := rfl
  have he : ((Call.createType.perform .standard (.createType "A")).on
      ((Call.createType.perform .standard (.createType "A")).on .initial).2).1 = .error (.typeAlreadyExists "A") := by
    decide +kernel
  exact ⟨(Call.process_eq_perform hdb rfl hp).1, he⟩

end RecordGraph
