import RecordGraph.Proofs.Engine.Sound

namespace RecordGraph

open Entries Outcome

variable {limits : PageLimits} {db db' : Database} {call : Call} {request : Request} {raw : Entries String}
variable {T n : String} {w : Engine} {e : Event}

theorem Call.coerce_of_newField {name : String} {k : Kind} {f : Field} {v : Value} (h : newField raw name k = .ok f)
    (hv : f.default = some v) : ∃ text, Value.coerce f.kind (.string text) = .ok v := by
  cases hr : Parameter.optional raw "required" <;> cases hd : Parameter.optional raw "default" <;>
    simp only [newField, hr, hd, bind_eq_ok, pure_eq_ok] at h <;> obtain ⟨required, -, default, hdef, rfl⟩ := h
  case none.none | some.none =>
    obtain rfl : none = default := hdef
    cases hv
  case none.some j | some.some j =>
    obtain rfl : default = some v := hv
    obtain ⟨u, hu, huv⟩ := map_eq_ok.mp hdef
    exact ⟨j, Option.some.inj huv ▸ hu⟩

theorem Call.typed_of_process {c : Catalog} (h : call.process c raw = .ok request) : request.Typed := by
  unfold process at h
  split at h
  · cases h
  by_cases hc : call = .createField
  · subst hc
    simp only [decode, bind_eq_ok, pure_eq_ok] at h
    obtain ⟨type, -, field, -, kind, -, t, -, k, -, f, hf, -, -, rfl⟩ := h
    intro v hv
    obtain ⟨text, ht⟩ := coerce_of_newField hf hv
    exact Value.kind_of_coerce ht
  · cases call <;> simp only [decode, bind_eq_ok, pure_eq_ok] at h <;> grind [Request.Typed, bind_eq_ok, pure_eq_ok]

/-- Stored data conforms to the catalog: a table with records is that of a node type, each record is filed under its type
and its id, and each of its values stands under the name of a stored field of the type and is of that field's kind. -/
structure Database.Conforms (db : Database) : Prop where
  table : ∀ T, db.store.list T [] ≠ [] → db.catalog.IsNode T
  filed : ∀ T, ∀ r ∈ db.store.list T [], r.type = T ∧ db.store.get? T r.id = some r
  value : ∀ T, ∀ r ∈ db.store.list T [], ∀ n v, (n, v) ∈ r.fields →
    ∃ f, db.catalog.field? T n = some f ∧ f.builtIn = false ∧ f.isStored = true ∧ v.kind = f.kind

def Store.Clear (s : Store) (T n : String) : Prop := ∀ r ∈ s.list T [], ∀ v, (n, v) ∉ r.fields

/-- Nothing is stored after a step for a type or field that is not there any more, nor for one that was not there
before. -/
structure Database.Renews (db db' : Database) : Prop where
  type_gone : ∀ T, ¬db'.catalog.IsNode T → db'.store.list T [] = []
  field_gone : ∀ T n, db'.catalog.field? T n = none → db'.store.Clear T n
  type_new : ∀ T, ¬db.catalog.IsNode T → db'.store.list T [] = []
  field_new : ∀ T n, db.catalog.field? T n = none → db'.store.Clear T n

/-- Whether the records of one store have no values that those of the other do not have. -/
def Store.Within (s' s : Store) : Prop :=
  ∀ r' ∈ s'.records, ∃ r ∈ s.records, r.type = r'.type ∧ ∀ e ∈ r'.fields, e ∈ r.fields

theorem Store.Within.refl (s : Store) : s.Within s := fun r hr => ⟨r, hr, rfl, fun _ he => he⟩

theorem Store.within_strip {s : Store} {R : String → String → Prop} [∀ T n, Decidable (R T n)] :
    (s.strip R).Within s := by
  intro r hr
  obtain ⟨q, hq, rfl⟩ := mem_strip.mp hr
  exact ⟨q, hq, rfl, fun e he => (List.mem_filter.mp he).1⟩

section Runs

variable [Ids]

namespace Engine

structure Sound (w : Engine) : Prop where
  db : w.db.Sound
  processed : ∀ request ∈ w.processed, request.Typed

namespace Sound

theorem initial : Engine.initial.Sound where
  db := Database.Sound.initial
  processed := by
    intro request hr
    cases hr

theorem step (h : w.Sound) (limits : PageLimits) (e : Event) : (w.step limits e).Sound where
  db := (w.change_step limits e).preserves h.db fun _ hp he =>
    h.db.effect (of_performed (fun _ _ _ _ => Call.typed_of_process) h.processed hp) he
  processed := of_processed_step (fun _ _ _ _ => Call.typed_of_process) h.processed

theorem run {es : List Event} (h : w.Sound) : (w.run limits es).Sound := by
  induction es generalizing w with
  | nil => exact h
  | cons e es ih => exact ih (h.step limits e)

end Sound

end Engine

theorem Database.Sound.conforms (h : db.Sound) : db.Conforms where
  table := by
    intro T hT
    obtain ⟨r, hr⟩ := List.exists_mem_of_ne_nil _ hT
    obtain ⟨hm, rfl⟩ := h.filed.mem_list.mp hr
    exact (h.fits r hm).isNode
  filed := by
    intro T r hr
    obtain ⟨hm, rfl⟩ := h.filed.mem_list.mp hr
    exact ⟨rfl, h.filed.get? hm⟩
  value := by
    intro T r hr
    obtain ⟨hm, rfl⟩ := h.filed.mem_list.mp hr
    exact (h.fits r hm).holds

theorem Store.Filed.within_removeField {s : Store} (h : s.Filed) : (s.removeField T n).Within s := by
  rw [h.removeField_eq_strip]
  exact Store.within_strip

theorem Store.Filed.within_removePair {s : Store} {U : String} {f : Field} {p : Option Field} (h : s.Filed) :
    (s.removePair T U f p).Within s := by
  unfold Store.removePair
  split
  · exact h.within_removeField
  split
  · split
    · exact h.within_removeField
    · exact .refl _
  · exact .refl _

theorem Store.Filed.within_deleteType {s : Store} {links : List (String × Link)} (h : s.Filed) :
    ((s.dropType T).unlink links).Within s := by
  intro r hr
  rw [h.dropType.unlink_eq_strip] at hr
  obtain ⟨q, hq, rfl⟩ := Store.mem_strip.mp hr
  exact ⟨q, (h.mem_dropType.mp hq).1, rfl, fun e he => (List.mem_filter.mp he).1⟩

/-- A call that changes the catalog stores nothing. -/
theorem Effect.catalog_eq_or_within (h : db.store.Filed) (e : Effect db call request db') :
    db'.catalog = db.catalog ∨ db'.store.Within db.store := by
  cases e with
  | none => exact .inl rfl
  | createType _ => exact .inr (.refl _)
  | deleteType _ => exact .inr h.within_deleteType
  | createField _ => exact .inr (.refl _)
  | deleteField _ => exact .inr h.within_removeField
  | createConnection _ => exact .inr (.refl _)
  | deleteConnection _ => exact .inr h.within_removePair
  | createIndex _ => exact .inr (.refl _)
  | deleteIndex _ => exact .inr (.refl _)
  | create _ _ => exact .inl rfl
  | update _ _ _ => exact .inl rfl
  | delete _ => exact .inl rfl

theorem Database.Sound.renews (h : db.Sound) (h' : db'.Sound)
    (hc : db'.catalog = db.catalog ∨ db'.store.Within db.store) : db.Renews db' := by
  -- a record after the call has a type, and values of fields, that were there before
  have htype : ∀ r ∈ db'.store.records, db.catalog.IsNode r.type := by
    intro r hr
    rcases hc with hc | hc
    · exact hc ▸ (h'.fits r hr).isNode
    · obtain ⟨q, hq, hqr, -⟩ := hc r hr
      exact hqr ▸ (h.fits q hq).isNode
  have hfield : ∀ r ∈ db'.store.records, ∀ n v, (n, v) ∈ r.fields → db.catalog.field? r.type n ≠ none := by
    intro r hr n v hv hnone
    rcases hc with hc | hc
    · obtain ⟨f, hf, -⟩ := (h'.fits r hr).holds n v hv
      rw [hc, hnone] at hf
      cases hf
    · obtain ⟨q, hq, hqr, hsub⟩ := hc r hr
      obtain ⟨f, hf, -⟩ := (h.fits q hq).holds n v (hsub _ hv)
      rw [hqr, hnone] at hf
      cases hf
  refine ⟨fun T hT => ?_, fun T n hn r hr v hv => ?_, fun T hT => ?_, fun T n hn r hr v hv => ?_⟩
  · exact Classical.not_not.mp (mt (h'.conforms.table T) hT)
  · obtain ⟨f, hf, -⟩ := h'.conforms.value T r hr n v hv
    rw [hn] at hf
    cases hf
  · refine List.eq_nil_iff_forall_not_mem.mpr fun r hr => ?_
    obtain ⟨hm, rfl⟩ := h'.filed.mem_list.mp hr
    exact hT (htype r hm)
  · obtain ⟨hm, rfl⟩ := h'.filed.mem_list.mp hr
    exact hfield r hm n v hv hn

theorem Engine.Sound.renews (h : w.Sound) : w.db.Renews (w.step limits e).db := by
  have hchange : (w.step limits e).db.catalog = w.db.catalog ∨ (w.step limits e).db.store.Within w.db.store :=
    Change.preserves (P := fun db => db.catalog = w.db.catalog ∨ db.store.Within w.db.store) (w.change_step limits e)
      (.inl rfl) fun _ _ he => he.catalog_eq_or_within h.db.filed
  exact h.db.renews (h.step limits e).db hchange

/-- In every state that a run reaches, stored data conforms to the catalog, and whatever step comes next leaves nothing
stored for what it deletes or makes. -/
theorem Engine.conforms_run (limits : PageLimits) (es : List Event) :
    (initial.run limits es).db.Conforms ∧
      ∀ e, (initial.run limits es).db.Renews ((initial.run limits es).step limits e).db :=
  ⟨Sound.initial.run.db.conforms, fun _ => Sound.initial.run.renews⟩

end Runs

def shelf : List Event :=
  [.process .createType [("name", "A")], .perform .createType 0,
    .process .createField [("type", "A"), ("fieldName", "x"), ("fieldType", "int")], .perform .createField 1,
    .process .create [("type", "A"), ("data", "\x7b\"x\": 1\x7d")], .perform .create 2,
    .process .deleteType [("name", "A")]]

open scoped Ids in
theorem Engine.conforms_run_shelf :
    let w := initial.run .standard shelf
    let gone := w.step .standard (.perform .deleteType 3)
    w.db.store.list "A" [] = [⟨Ids.id 1, "A", [("x", .int 1)]⟩] ∧ w.db.catalog.IsNode "A" ∧
      ¬gone.db.catalog.IsNode "A" ∧ gone.db.store.list "A" [] = [] := by
  intro w gone
  obtain ⟨hconforms, hrenews⟩ := conforms_run .standard shelf
  have hlist : w.db.store.list "A" [] = [⟨Ids.id 1, "A", [("x", .int 1)]⟩] := by decide +kernel
  have hgone : ¬gone.db.catalog.IsNode "A" := by
    have hrefused : (gone.db.catalog.requireNode "A").isOk = false := by decide +kernel
    rintro ⟨t, ht⟩
    rw [ht] at hrefused
    cases hrefused
  refine ⟨hlist, hconforms.table "A" ?_, hgone, (hrenews _).type_gone "A" hgone⟩
  rw [hlist]
  exact List.cons_ne_nil _ _

end RecordGraph
