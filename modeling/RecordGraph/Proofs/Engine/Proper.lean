import RecordGraph.Proofs.Engine.Conforms
import RecordGraph.Proofs.Value

namespace RecordGraph

open Entries Catalog Outcome

variable {limits : PageLimits} {c : Catalog} {s s' : Store} {db db' : Database} {t : RecordType} {call : Call}
variable {request : Request} {raw : Entries String} {data : Entries Json} {fields : Entries Value} {T n id : String}
variable {v : Value} {purpose : Purpose} {w : Engine} {e : Event} {es : List Event}

theorem RecordType.proper_of_accept (hdata : ∀ e ∈ data, e.2.Proper)
    (hdefault : ∀ f ∈ t.fields.values, ∀ v, f.default = some v → v.Proper) (h : t.accept data purpose = .ok fields)
    (hv : (n, v) ∈ fields) : v.Proper := by
  rcases supplied_or_default h hv with ⟨j, hj, hs⟩ | ⟨-, f, hf, -, -, -, hd⟩
  · obtain ⟨-, f, -, -, -, hc⟩ := supply_eq_ok.mp hs
    exact Value.proper_of_coerce (hdata _ hj) hc
  · exact hdefault f hf v hd

/-- Whether all values of the records of a store are such as conversion gives. -/
def Store.Proper (s : Store) : Prop := ∀ r ∈ s.records, ∀ n v, (n, v) ∈ r.fields → v.Proper

namespace Store.Proper

theorem within (h : s.Proper) (hw : s'.Within s) : s'.Proper := by
  intro r hr n v hv
  obtain ⟨q, hq, -, hsub⟩ := hw r hr
  exact h q hq n v (hsub _ hv)

variable [Ids]

theorem insert (h : s.Proper) (hs : s.Filed) (hf : ∀ n v, (n, v) ∈ fields → v.Proper) : (s.insert T fields).2.Proper := by
  intro r hr n v hv
  rcases hs.of_mem_insert hr with hr | rfl
  · exact h r hr n v hv
  · exact hf n v (mem_erase.mp hv).1

theorem update (h : s.Proper) (hs : s.Filed) (hf : ∀ n v, (n, v) ∈ fields → v.Proper) (e : s.update T id fields = .ok s') :
    s'.Proper := by
  intro r hr n v hv
  obtain ⟨q, hq, rfl⟩ := hs.of_mem_update e hr
  split at hv
  · rcases Entries.mem_foldl_put hv with hv | hv
    · exact hf n v (mem_erase.mp hv).1
    · exact h q hq n v hv
  · exact h q hq n v hv

theorem delete (h : s.Proper) (hs : s.Filed) (e : s.delete T id = .ok s') : s'.Proper :=
  fun r hr => h r (hs.of_mem_delete e hr)

end Store.Proper

structure Database.Proper (db : Database) : Prop where
  defaults : db.catalog.Defaults fun _ v => v.Proper
  values : db.store.Proper

/-- Whether what a request gives to fields is such as texts write or conversion gives. -/
def Request.Proper : Request → Prop
  | .createField _ f => ∀ v, f.default = some v → v.Proper
  | .create _ data => ∀ e ∈ data, e.2.Proper
  | .update _ _ data => ∀ e ∈ data, e.2.Proper
  | _ => True

namespace Database.Proper

theorem initial : Database.initial.Proper where
  defaults := Defaults.initial
  values := by
    intro r hr
    cases hr

theorem accept (h : db.Proper) (hc : db.catalog.WellFormed) (ht : db.catalog.requireNode T = .ok t)
    (hdata : ∀ e ∈ data, e.2.Proper) (ha : t.accept data purpose = .ok fields) : ∀ n v, (n, v) ∈ fields → v.Proper := by
  intro n v
  refine RecordType.proper_of_accept hdata (fun f hf v hv => ?_) ha
  obtain ⟨⟨n, f⟩, he, rfl⟩ := List.mem_map.mp hf
  refine h.defaults T n f v ?_ hv
  rw [field?_of_requireNode ht]
  exact (get?_eq_some_iff (hc.sound ht).fields_keyed).mpr he

variable [Ids]

theorem effect (h : db.Proper) (hs : db.Sound) (hr : request.Proper) (e : Effect db call request db') :
    db'.Proper where
  defaults := by
    refine h.defaults.effect ?_ e
    rintro type f v rfl hv
    exact hr v hv
  values := by
    cases e with
    | none => exact h.values
    | createType _ => exact h.values
    | deleteType _ => exact h.values.within hs.filed.within_deleteType
    | createField _ => exact h.values
    | deleteField _ => exact h.values.within hs.filed.within_removeField
    | createConnection _ => exact h.values
    | deleteConnection _ => exact h.values.within hs.filed.within_removePair
    | createIndex _ => exact h.values
    | deleteIndex _ => exact h.values
    | create ht ha => exact h.values.insert hs.filed (h.accept hs.catalog ht hr ha)
    | update ht ha e => exact h.values.update hs.filed (h.accept hs.catalog ht hr ha) e
    | delete e => exact h.values.delete hs.filed e

end Database.Proper

/-- The values and numbers of a request that was processed are proper. -/
theorem Call.proper_of_process (h : call.process c raw = .ok request) : request.Proper := by
  unfold process at h
  split at h
  · cases h
  cases call with
  | createField =>
    simp only [decode, bind_eq_ok, pure_eq_ok] at h
    obtain ⟨type, -, field, -, kind, -, t, -, k, -, f, hf, -, -, rfl⟩ := h
    intro v hv
    obtain ⟨text, ht⟩ := coerce_of_newField hf hv
    exact Value.proper_of_coerce (.string text) ht
  | create =>
    simp only [decode, bind_eq_ok, pure_eq_ok] at h
    obtain ⟨type, -, t, -, text, -, data, hd, rfl⟩ := h
    exact Parameter.proper_object hd
  | update =>
    simp only [decode, bind_eq_ok, pure_eq_ok] at h
    obtain ⟨type, -, t, -, id, -, text, -, data, hd, rfl⟩ := h
    exact Parameter.proper_object hd
  | _ =>
    simp only [decode, bind_eq_ok, pure_eq_ok] at h
    grind [Request.Proper, bind_eq_ok, pure_eq_ok]

structure Engine.Proper (w : Engine) : Prop where
  db : w.db.Proper
  processed : ∀ request ∈ w.processed, request.Proper

namespace Engine.Proper

theorem initial : Engine.initial.Proper where
  db := Database.Proper.initial
  processed := by
    intro request hr
    cases hr

variable [Ids]

theorem step (h : w.Proper) (hs : w.Sound) (limits : PageLimits) (e : Event) : (w.step limits e).Proper where
  db := (w.change_step limits e).preserves h.db fun _ hp he =>
    h.db.effect hs.db (of_performed (fun _ _ _ _ => Call.proper_of_process) h.processed hp) he
  processed := of_processed_step (fun _ _ _ _ => Call.proper_of_process) h.processed

theorem run (h : w.Proper) (hs : w.Sound) : (w.run limits es).Proper := by
  induction es generalizing w with
  | nil => exact h
  | cons e es ih => exact ih (h.step hs limits e) (hs.step limits e)

end Engine.Proper

end RecordGraph
