import RecordGraph.Proofs.Engine.Run
import RecordGraph.Proofs.Engine.Fits

namespace RecordGraph

open Entries Catalog

/-- Whether the default of the field that a request asks for, if it does, is of the field's kind. -/
def Request.Typed : Request → Prop
  | .createField _ f => ∀ v, f.default = some v → v.kind = f.kind
  | _ => True

variable {c d : Catalog} {s : Store} {db db' : Database} {t : RecordType} {f g : Field} {l : Link} {T U n m : String}
variable {call : Call} {request : Request}

/-- The end of a connection that records store. -/
def Link.storedEnd (T n : String) (l : Link) : String × String :=
  match l.side with
  | .one => (T, n)
  | .many => (l.targetType, l.targetField)

theorem Store.removePair_eq {p : Option Field} (h : c.WellFormed) (e : c.deleteConnection T n = .ok ((f, p), d))
    (hl : f.link = some l) : s.removePair T ((f.link.map Link.targetType).getD T) f p =
      s.removeField (l.storedEnd T n).1 (l.storedEnd T n).2 := by
  obtain ⟨hf, l', hl', hp, -⟩ := deleteConnection_ok.mp e
  obtain rfl : l = l' := Option.some.inj (hl.symm.trans hl')
  obtain ⟨⟨t, ht, hf⟩, -⟩ := existingConnection_ok.mp hf
  rw [← field?_of_requireNode ht] at hf
  have hname : f.name = n := h.name_of_field? hf
  obtain ⟨-, hne, g, hg, hgl⟩ := h.paired T n f l hf hl
  -- the other end is still there when the first one is gone
  have hpaired : p = some g := by
    rw [hp, pairedWith_eq, if_neg, hg]
    rintro ⟨hT, hn⟩
    exact hne hT.symm hn.symm
  have hgname : g.name = l.targetField := h.name_of_field? hg
  cases hs : l.side with
  | one => simp [removePair, Link.storedEnd, Field.isStored, hl, hs, hname]
  | many => simp [removePair, Link.storedEnd, Field.isStored, hl, hs, hpaired, hgl, hgname, Side.opposite]

theorem Store.names_unlink {links : List (String × Link)} : names (s.unlink links).tables = names s.tables := by
  induction links generalizing s with
  | nil => rfl
  | cons k links ih => exact ih.trans names_modifyTable

theorem Store.names_removePair {p : Option Field} : names (s.removePair T U f p).tables = names s.tables := by
  unfold removePair
  split
  · exact names_modifyTable
  split
  · split
    · exact names_modifyTable
    · rfl
  · rfl

namespace Catalog.Defaults

variable {P : Field → Value → Prop}

theorem initial : Catalog.initial.Defaults P := by
  intro T n f v hf
  obtain ⟨t, ht, hs, -⟩ := WellFormed.initial.sound_of_field? hf
  have hm := List.mem_singleton.mp (mem_of_get? ht)
  have hn := hs.isNode
  rw [(Prod.mk.inj hm).2] at hn
  cases hn

theorem of_view (h : c.Defaults P) (hd : ∀ U m f, d.field? U m = some f →
    c.field? U m = some f ∨ ∀ v, f.default = some v → P f v) : d.Defaults P := by
  intro U m f v hf hv
  rcases hd U m f hf with hf | ht
  · exact h U m f v hf hv
  · exact ht v hv

theorem remove {R : String → String → Prop} [∀ U m, Decidable (R U m)] (h : c.Defaults P)
    (hd : ∀ U m, d.field? U m = if R U m then none else c.field? U m) : d.Defaults P := by
  refine h.of_view fun U m f hf => .inl ?_
  rw [hd] at hf
  split at hf
  · cases hf
  · exact hf

theorem createType (h : c.Defaults P) (e : c.createType T = .ok (t, d)) : d.Defaults P := by
  refine h.of_view fun U m f hf => ?_
  rw [field?_of_createType e] at hf
  split at hf
  · right
    intro v hv
    rw [← Option.some.inj hf] at hv
    cases hv
  · exact .inl hf

theorem createField (h : c.Defaults P) (e : c.createField T f = .ok (g, d))
    (hf : ∀ v, f.default = some v → P { f with builtIn := false } v) : d.Defaults P := by
  refine h.of_view fun U m k hk => ?_
  rw [field?_of_createField e] at hk
  split at hk
  · right
    rw [← Option.some.inj hk]
    exact hf
  · exact .inl hk

theorem createConnection {b : Bool} (h : c.Defaults P) (e : c.createConnection T n U m b = .ok d) : d.Defaults P := by
  refine h.of_view fun V k f hf => ?_
  rw [field?_of_createConnection e] at hf
  split at hf
  · right
    intro v hv
    rw [← Option.some.inj hf] at hv
    cases hv
  split at hf
  · right
    intro v hv
    rw [← Option.some.inj hf] at hv
    cases hv
  · exact .inl hf

end Catalog.Defaults

variable [Ids]

/-- The invariant of states. -/
structure Database.Sound (db : Database) : Prop where
  catalog : db.catalog.WellFormed
  defaults : db.catalog.DefaultsTyped
  filed : db.store.Filed
  tables : ∀ T ∈ names db.store.tables, db.catalog.IsNode T
  fits : ∀ r ∈ db.store.records, db.catalog.Fits r

/-- A call gives no field a default, apart from the one that is asked for. -/
theorem Catalog.Defaults.effect {P : Field → Value → Prop} (h : db.catalog.Defaults P)
    (hr : ∀ type f v, request = .createField type f → f.default = some v → P { f with builtIn := false } v)
    (e : Effect db call request db') : db'.catalog.Defaults P := by
  cases e with
  | none => exact h
  | createType e => exact h.createType e
  | deleteType e => exact h.remove fun _ _ => field?_of_deleteType e
  | @createField type f _ _ e => exact h.createField e fun v => hr type f v rfl
  | deleteField e => exact h.remove fun _ _ => field?_of_deleteField e
  | createConnection e => exact h.createConnection e
  | deleteConnection e =>
    obtain ⟨-, l, hl, -, -⟩ := deleteConnection_ok.mp e
    exact h.remove fun _ _ => field?_of_deleteConnection e hl
  | createIndex e => exact h.of_view fun U m f hf => .inl ((field?_of_createIndex e).symm.trans hf)
  | deleteIndex e => exact h.of_view fun U m f hf => .inl ((field?_of_deleteIndex e).symm.trans hf)
  | create => exact h
  | update => exact h
  | delete => exact h

theorem Store.Filed.unlink_eq_strip {links : List (String × Link)} (h : s.Filed) : s.unlink links = s.strip (Targeted links) := by
  induction links generalizing s with
  | nil =>
    have hnone : ∀ r ∈ s.records, ∀ n v, (n, v) ∈ r.fields → ¬Targeted [] r.type n := by simp [Targeted]
    exact (strip_eq_self hnone).symm
  | cons k links ih =>
    have hstep : s.unlink (k :: links) = (s.removeField k.2.targetType k.2.targetField).unlink links := rfl
    rw [hstep, ih h.removeField, h.removeField_eq_strip, strip_strip]
    refine strip_congr fun T n => ?_
    simp [Targeted, @eq_comm _ T, @eq_comm _ n]

theorem Effect.wellFormed (h : db.catalog.WellFormed) (e : Effect db call request db') : db'.catalog.WellFormed := by
  cases e with
  | none => exact h
  | createType e => exact h.createType e
  | deleteType e => exact h.deleteType e
  | createField e => exact h.createField e
  | deleteField e => exact h.deleteField e
  | createConnection e => exact h.createConnection e
  | deleteConnection e => exact h.deleteConnection e
  | createIndex e => exact h.createIndex e
  | deleteIndex e => exact h.deleteIndex e
  | create => exact h
  | update => exact h
  | delete => exact h

theorem Store.Filed.removePair {s : Store} {T U : String} {f : Field} {p : Option Field} (h : s.Filed) :
    (s.removePair T U f p).Filed := by
  unfold Store.removePair
  split
  · exact h.removeField
  split
  · split
    · exact h.removeField
    · exact h
  · exact h

theorem Effect.filed (h : db.store.Filed) (e : Effect db call request db') : db'.store.Filed := by
  cases e with
  | none => exact h
  | createType _ => exact h
  | deleteType _ =>
    rw [h.dropType.unlink_eq_strip]
    exact h.dropType.strip
  | createField _ => exact h
  | deleteField _ => exact h.removeField
  | createConnection _ => exact h
  | deleteConnection _ => exact h.removePair
  | createIndex _ => exact h
  | deleteIndex _ => exact h
  | create _ _ => exact h.insert
  | update _ _ hs => exact h.update hs
  | delete hs => exact h.delete hs

theorem Effect.tables (h : ∀ T ∈ names db.store.tables, db.catalog.IsNode T) (e : Effect db call request db') :
    ∀ T ∈ names db'.store.tables, db'.catalog.IsNode T := by
  intro T hT
  cases e with
  | none => exact h T hT
  | createType e => exact (extends_createType e).isNode T (h T hT)
  | deleteType e =>
    obtain ⟨-, rfl⟩ := deleteType_ok.mp e
    rw [Store.names_unlink, Store.mem_names_dropType] at hT
    exact isNode_unlink.mpr (isNode_removeType.mpr ⟨h T hT.1, hT.2⟩)
  | createField e => exact (extends_createField e).isNode T (h T hT)
  | deleteField e =>
    obtain ⟨-, rfl⟩ := deleteField_ok.mp e
    rw [Store.removeField, Store.names_modifyTable] at hT
    exact (h T hT).of_modifyType rfl fun _ => rfl
  | createConnection e => exact (extends_createConnection e).isNode T (h T hT)
  | deleteConnection e =>
    obtain ⟨-, l, -, -, rfl⟩ := deleteConnection_ok.mp e
    rw [Store.names_removePair] at hT
    exact isNode_unpair.mpr (h T hT)
  | createIndex e => exact (extends_createIndex e).isNode T (h T hT)
  | deleteIndex e => exact (extends_deleteIndex e).isNode T (h T hT)
  | create ht _ =>
    rcases Store.mem_names_insert.mp hT with rfl | hT
    · exact ⟨_, ht⟩
    · exact h T hT
  | update _ _ hs =>
    rw [Store.names_update hs] at hT
    exact h T hT
  | delete hs =>
    rw [Store.names_delete hs] at hT
    exact h T hT

namespace Database.Sound

theorem initial : Database.initial.Sound where
  catalog := WellFormed.initial
  defaults := Defaults.initial
  filed := Store.filed_empty
  tables := by simp [Database.initial, Store.empty, names]
  fits := by
    intro r hr
    cases hr

theorem fits_extend (h : db.Sound) (he : Extends db.catalog d) : ∀ r ∈ db.store.records, d.Fits r :=
  fun r hr => he.fits (h.fits r hr)

theorem fits_strip {R : String → String → Prop} [∀ U m, Decidable (R U m)] (h : db.Sound)
    (hn : ∀ U, db.catalog.IsNode U → d.IsNode U)
    (hf : ∀ U m f, db.catalog.field? U m = some f → f.isStored = true → ¬R U m → d.field? U m = some f) :
    ∀ r ∈ (db.store.strip R).records, d.Fits r := by
  intro r hr
  obtain ⟨q, hq, rfl⟩ := Store.mem_strip.mp hr
  exact (h.fits q hq).strip (hn _ (h.fits q hq).isNode) (hf q.type)

theorem fits_deleteType (h : db.Sound) (e : db.catalog.deleteType T = .ok (t, d)) :
    ∀ r ∈ ((db.store.dropType T).unlink (t.storedLinks T)).records, d.Fits r := by
  intro r hr
  obtain ⟨ht, hd⟩ := deleteType_ok.mp e
  rw [h.filed.dropType.unlink_eq_strip] at hr
  obtain ⟨q, hq, rfl⟩ := Store.mem_strip.mp hr
  obtain ⟨hq, hqT⟩ := h.filed.mem_dropType.mp hq
  have hfits := h.fits q hq
  refine hfits.strip ?_ fun m f hf hs hR => ?_
  · rw [hd]
    exact isNode_unlink.mpr (isNode_removeType.mpr ⟨hfits.isNode, hqT⟩)
  rw [field?_of_deleteType e, if_neg, hf]
  rintro (hT | ⟨⟨k, l⟩, hl, hlT, hlm⟩)
  · exact hqT hT
  -- a stored field at the other end of a link makes that link one of those whose values go
  obtain ⟨g, hg, hgl⟩ := (h.catalog.mem_links ht).mp hl
  obtain ⟨f', hf', hfl⟩ := h.catalog.linksBack.other_end hg hgl
  rw [hlT, hlm, hf, Option.some.injEq] at hf'
  rw [← hf'] at hfl
  have hside : l.side = .many := by
    cases hk : l.side with
    | many => rfl
    | one => simp [Field.isStored, hfl, hk, Side.opposite] at hs
  refine hR ⟨(k, l), List.mem_filter.mpr ⟨hl, ?_⟩, hlT, hlm⟩
  simp [hside, show l.targetType = q.type from hlT, hqT]

theorem fits_deleteField (h : db.Sound) (e : db.catalog.deleteField T n = .ok (f, d)) :
    ∀ r ∈ (db.store.removeField T n).records, d.Fits r := by
  obtain ⟨-, hd⟩ := deleteField_ok.mp e
  rw [h.filed.removeField_eq_strip]
  refine h.fits_strip (fun U hU => hU.of_modifyType hd fun _ => rfl) ?_
  intro U m k hk _ hR
  rw [field?_of_deleteField e, if_neg hR, hk]

theorem fits_deleteConnection {p : Option Field} (h : db.Sound)
    (e : db.catalog.deleteConnection T n = .ok ((f, p), d)) :
    ∀ r ∈ (db.store.removePair T ((f.link.map Link.targetType).getD T) f p).records, d.Fits r := by
  obtain ⟨hc, l, hl, -, hd⟩ := deleteConnection_ok.mp e
  obtain ⟨⟨t, ht, hf⟩, -⟩ := existingConnection_ok.mp hc
  rw [← field?_of_requireNode ht] at hf
  obtain ⟨g, hg, hgl⟩ := h.catalog.linksBack.other_end hf hl
  rw [Store.removePair_eq h.catalog e hl, h.filed.removeField_eq_strip]
  refine h.fits_strip ?_ ?_
  · intro U hU
    rw [hd]
    exact isNode_unpair.mpr hU
  · intro U m k hk hs hR
    rw [field?_of_deleteConnection e hl, if_neg, hk]
    -- of the two ends, one is not stored and the values of the other go
    rintro (⟨rfl, rfl⟩ | ⟨rfl, rfl⟩)
    · rw [hf, Option.some.injEq] at hk
      cases hside : l.side with
      | one => exact hR (by simp [Link.storedEnd, hside])
      | many => simp [← hk, Field.isStored, hl, hside] at hs
    · rw [hg, Option.some.injEq] at hk
      cases hside : l.side with
      | one => simp [← hk, Field.isStored, hgl, hside, Side.opposite] at hs
      | many => exact hR (by simp [Link.storedEnd, hside])

theorem fits_create {data : Entries Json} {fields : Entries Value} (h : db.Sound)
    (ht : db.catalog.requireNode T = .ok t) (ha : t.accept data .create = .ok fields) :
    ∀ r ∈ (db.store.insert T fields).2.records, db.catalog.Fits r := by
  intro r hr
  rcases h.filed.of_mem_insert hr with hr | rfl
  · exact h.fits r hr
  · exact fits_make ⟨t, ht⟩ (keyed_of_accept h.catalog ht ha) fun n v hv =>
      holds_of_accept h.catalog h.defaults ht ha hv

theorem fits_update {id : String} {data : Entries Json} {fields : Entries Value} (h : db.Sound)
    (ht : db.catalog.requireNode T = .ok t) (ha : t.accept data .update = .ok fields)
    (hs : db.store.update T id fields = .ok s) : ∀ r ∈ s.records, db.catalog.Fits r := by
  intro r hr
  obtain ⟨q, hq, rfl⟩ := h.filed.of_mem_update hs hr
  split
  · next hT =>
    obtain ⟨rfl, -⟩ := hT
    exact (h.fits q hq).merge fun n v hv => holds_of_accept h.catalog h.defaults ht ha hv
  · exact h.fits q hq

/-- After each call, what records hold is what the new catalog lets them hold. -/
theorem fits_effect (h : db.Sound) (e : Effect db call request db') :
    ∀ r ∈ db'.store.records, db'.catalog.Fits r := by
  cases e with
  | none => exact h.fits
  | createType e => exact h.fits_extend (extends_createType e)
  | deleteType e => exact h.fits_deleteType e
  | createField e => exact h.fits_extend (extends_createField e)
  | deleteField e => exact h.fits_deleteField e
  | createConnection e => exact h.fits_extend (extends_createConnection e)
  | deleteConnection e => exact h.fits_deleteConnection e
  | createIndex e => exact h.fits_extend (extends_createIndex e)
  | deleteIndex e => exact h.fits_extend (extends_deleteIndex e)
  | create ht ha => exact h.fits_create ht ha
  | update ht ha hs => exact h.fits_update ht ha hs
  | delete hs => exact fun r hr => h.fits r (h.filed.of_mem_delete hs hr)

theorem effect (h : db.Sound) (hr : request.Typed) (e : Effect db call request db') : db'.Sound where
  catalog := e.wellFormed h.catalog
  defaults := by
    refine Defaults.effect (P := fun f v => v.kind = f.kind) h.defaults ?_ e
    rintro type f v rfl hv
    exact hr v hv
  filed := e.filed h.filed
  tables := e.tables h.tables
  fits := h.fits_effect e

end Database.Sound

end RecordGraph
