import RecordGraph.Proofs.Engine.Conforms
import RecordGraph.Proofs.Engine.Disconnect

namespace RecordGraph

open Entries Catalog Outcome

def Catalog.Leads (c : Catalog) (T U m : String) : Prop := ∃ f ∈ c.field? U m, ∃ l ∈ f.link, l.targetType = T

instance {c : Catalog} {T U m : String} : Decidable (c.Leads T U m) :=
  inferInstanceAs (Decidable (∃ f ∈ c.field? U m, ∃ l ∈ f.link, _))

namespace Database

/-- The state without the connections that lead to a type. -/
def detach (db : Database) (T : String) : Database := db.strip (db.catalog.Leads T)

/-- The state without a type, its records, and the connections of other types that lead to it. -/
def without (db : Database) (T : String) : Database := (db.dropType T).detach T

/-- Whether two states have the same catalog and the same tables. How many records were ever inserted does not count. -/
def Alike (db db' : Database) : Prop := db.catalog = db'.catalog ∧ db.store.tables = db'.store.tables

end Database

theorem RecordType.Sound.not_mem_index {t : RecordType} {n : String} {e : String × Index} (h : t.Sound)
    (hn : n ∉ names t.fields) (hi : e ∈ t.indexes) : n ∉ e.2.fields := by
  intro hm
  obtain ⟨f, hf, -⟩ := h.index_stored e hi n hm
  have hnone : t.field? n = none := get?_eq_none_iff.mpr hn
  rw [hnone] at hf
  cases hf

namespace Store

variable {s s' : Store} {T id : String} {fields : Entries Value}

theorem dropType_modifyTable {f : Table → Table} : ((s.modifyTable T f).dropType T).tables = (s.dropType T).tables :=
  erase_modify_self

theorem dropType_insert [Ids] : ((s.insert T fields).2.dropType T).tables = (s.dropType T).tables := erase_put_self

theorem dropType_update (h : s.update T id fields = .ok s') : (s'.dropType T).tables = (s.dropType T).tables := by
  obtain ⟨-, rfl⟩ := update_eq_ok.mp h
  exact dropType_modifyTable

theorem dropType_delete (h : s.delete T id = .ok s') : (s'.dropType T).tables = (s.dropType T).tables := by
  obtain ⟨-, rfl⟩ := delete_eq_ok.mp h
  exact dropType_modifyTable

end Store

namespace Database

variable {db db' d : Database} {c : Catalog} {s : Store} {T U V m n : String} {t : RecordType} {k : Field} {l : Link}
variable {a b : String × String}

theorem Alike.rfl : db.Alike db := ⟨Eq.refl _, Eq.refl _⟩

theorem Alike.trans {db'' : Database} (h : db.Alike db') (h' : db'.Alike db'') : db.Alike db'' :=
  ⟨h.1.trans h'.1, h.2.trans h'.2⟩

theorem Alike.detach (h : db.Alike db') : (db.detach T).Alike (db'.detach T) := by
  obtain ⟨c, s⟩ := db
  obtain ⟨c', s'⟩ := db'
  obtain ⟨hcatalog, htables⟩ : c = c' ∧ s.tables = s'.tables := h
  subst hcatalog
  refine ⟨Eq.refl _, ?_⟩
  simp only [Database.detach, strip, Store.strip, htables]

theorem Alike.get? (h : db.Alike db') (U id : String) : db.store.get? U id = db'.store.get? U id := by
  rw [Store.get?, Store.get?, h.2]

theorem Alike.list (h : db.Alike db') (U : String) (filters : Filters) :
    db.store.list U filters = db'.store.list U filters := by
  rw [Store.list, Store.list, Store.table, Store.table, h.2]

theorem Alike.count (h : db.Alike db') (U : String) : db.store.count U = db'.store.count U := by
  rw [Store.count, Store.count, Store.table, Store.table, h.2]

theorem leads_strip {R : String → String → Prop} [∀ U m, Decidable (R U m)] :
    (c.strip R).Leads T U m ↔ c.Leads T U m ∧ ¬R U m := by
  unfold Catalog.Leads
  rw [Catalog.field?_strip]
  by_cases hR : R U m
  · simp [hR]
  · simp [hR]

theorem leads_iff : c.Leads T U m ↔ ∃ n, c.Joined (U, m) (T, n) := by
  constructor
  · intro h
    obtain ⟨f, hf, l, hl, hT⟩ := h
    exact ⟨l.targetField, f, l, hf, hl, Prod.ext hT (Eq.refl _)⟩
  · intro h
    obtain ⟨n, f, l, hf, hl, hb⟩ := h
    exact ⟨f, hf, l, hl, congrArg Prod.fst hb⟩

theorem leads_dropType (h : U ≠ T) : (db.dropType T).catalog.Leads V U m ↔ db.catalog.Leads V U m := by
  unfold Catalog.Leads
  rw [dropType, field?_removeType, if_neg h]

theorem leads_addField (ht : c.type? V = some t) (hf : c.field? V k.name = none) (hl : k.link = some l)
    (hT : l.targetType = T) :
    (c.modifyType V (·.addField k)).Leads T U m ↔ (U, m) = (V, k.name) ∨ c.Leads T U m := by
  unfold Catalog.Leads
  rw [field?_addField ht hf, Prod.mk.injEq]
  by_cases h : U = V ∧ m = k.name
  · simp [h, hl, hT]
  · simp [h]

theorem without_modifyType {g : RecordType → RecordType} (hs : (s.dropType T).tables = (db.store.dropType T).tables) :
    (Database.without ⟨db.catalog.modifyType T g, s⟩ T).Alike (db.without T) := by
  apply Alike.detach
  exact ⟨congrArg Catalog.mk erase_modify_self, hs⟩

theorem without_addType : (Database.without ⟨db.catalog.addType (.node T), db.store⟩ T).Alike (db.without T) := by
  apply Alike.detach
  exact ⟨congrArg Catalog.mk erase_append_self, Eq.refl _⟩

theorem without_store (hs : (s.dropType T).tables = (db.store.dropType T).tables) :
    (Database.without ⟨db.catalog, s⟩ T).Alike (db.without T) := by
  apply Alike.detach
  exact ⟨Eq.refl _, hs⟩

theorem strip_addField (hs : ∀ e ∈ d.catalog.types, e.1 = V →
      k.name ∉ names e.2.fields ∧ ∀ i ∈ e.2.indexes, k.name ∉ i.2.fields)
    (hr : ∀ r ∈ d.store.records, r.type = V → ∀ v, (k.name, v) ∉ r.fields) :
    Database.strip ⟨d.catalog.modifyType V (·.addField k), d.store⟩ (fun U m => (U, m) = (V, k.name)) = d := by
  have hcatalog : (d.catalog.modifyType V (·.addField k)).strip (fun U m => (U, m) = (V, k.name)) = d.catalog := by
    rw [strip_modifyType_addField (f := k) (R := fun U m => (U, m) = (V, k.name)) (Eq.refl _)]
    refine Catalog.strip_eq_self fun e he => ?_
    by_cases hV : e.1 = V
    · obtain ⟨hn, hi⟩ := hs e he hV
      refine RecordType.strip_eq_self (fun f hf he => hn ?_) fun i hm n hin he => hi i hm ?_
      · exact (Prod.mk.inj he).2 ▸ List.mem_map_of_mem hf
      · exact (Prod.mk.inj he).2 ▸ hin
    · exact RecordType.strip_none fun n he => hV (Prod.mk.inj he).1
  have hstore : d.store.strip (fun U m => (U, m) = (V, k.name) ∧
      (d.catalog.modifyType V (·.addField k)).Stores U m) = d.store := by
    apply Store.strip_eq_self
    intro r hm n v hv he
    obtain ⟨hV, hn⟩ := Prod.mk.inj he.1
    exact hr r hm hV v (hn ▸ hv)
  exact congrArg₂ Database.mk hcatalog hstore

theorem detach_addField (ht : d.catalog.type? V = some t) (hs : ∀ e ∈ d.catalog.types, e.1 = V →
      k.name ∉ names e.2.fields ∧ ∀ i ∈ e.2.indexes, k.name ∉ i.2.fields)
    (hr : ∀ r ∈ d.store.records, r.type = V → ∀ v, (k.name, v) ∉ r.fields) (hl : k.link = some l)
    (hT : l.targetType = T) :
    Database.detach ⟨d.catalog.modifyType V (·.addField k), d.store⟩ T = d.detach T := by
  have hfresh : d.catalog.field? V k.name = none := by
    rw [field?_of_type? ht]
    exact get?_eq_none_iff.mpr (hs (V, t) (mem_of_get? ht) (Eq.refl _)).1
  calc Database.detach ⟨d.catalog.modifyType V (·.addField k), d.store⟩ T
    _ = Database.strip ⟨d.catalog.modifyType V (·.addField k), d.store⟩
        fun U m => (U, m) = (V, k.name) ∨ d.catalog.Leads T U m :=
      strip_congr fun _ _ => leads_addField ht hfresh hl hT
    _ = (Database.strip ⟨d.catalog.modifyType V (·.addField k), d.store⟩
        fun U m => (U, m) = (V, k.name)).strip (d.catalog.Leads T) := strip_strip.symm
    _ = d.detach T := by rw [strip_addField hs hr, detach]

theorem type?_without : (db.without T).catalog.type? T = none := by
  rw [without, detach, strip, type?_strip, dropType, type?_removeType, if_pos (Eq.refl _), Option.map_none]

end Database

variable [Ids]

namespace Database

variable {db db' d : Database} {c : Catalog} {s : Store} {T U V m n : String} {t : RecordType} {k : Field} {l : Link}
variable {a b : String × String}

/-- A connection of a type is not seen without the type, and neither is that it goes. -/
theorem without_strip (h : db.catalog.WellFormed) (hs : db.store.Filed) (hab : db.catalog.Joined a b) (hT : a.1 = T ∨ b.1 = T) :
    (db.strip (EitherEnd a b)).without T = db.without T := by
  have hleads : ∀ U m, U ≠ T → (U, m) = a ∨ (U, m) = b → db.catalog.Leads T U m := by
    intro U m hU he
    have hba : db.catalog.Joined b a := hab.symm h
    rcases he with he | he
    · subst he
      exact leads_iff.mpr ⟨b.2, (hT.resolve_left hU) ▸ hab⟩
    · subst he
      exact leads_iff.mpr ⟨a.2, (hT.resolve_right hU) ▸ hba⟩
  unfold without detach
  rw [dropType_strip hs, strip_strip]
  apply strip_dropType_congr hs
  intro U m hU
  have hsub : ((db.dropType T).strip (EitherEnd a b)).catalog.Leads T U m ↔
      db.catalog.Leads T U m ∧ ¬EitherEnd a b U m := leads_strip.trans (and_congr_left' (leads_dropType hU))
  rw [hsub, leads_dropType hU]
  constructor
  · intro he
    exact he.elim (hleads U m hU) And.left
  · intro hl
    by_cases he : EitherEnd a b U m
    · exact .inl he
    · exact .inr ⟨hl, he⟩

theorem without_addField (h : db.Sound) (ht : db.catalog.requireNode V = .ok t) (hn : k.name ∉ names t.fields)
    (hV : V ≠ T) (hl : k.link = some l) (hT : l.targetType = T)
    (hc : c.removeType T = (db.catalog.removeType T).modifyType V (·.addField k)) :
    (Database.without ⟨c, db.store⟩ T) = db.without T := by
  have htype : db.catalog.type? V = some t := (requireNode_ok.mp ht).1
  have hfirst : (db.dropType T).catalog.type? V = some t := by
    rw [dropType, type?_removeType, if_neg hV, htype]
  have hdrop : Database.dropType ⟨c, db.store⟩ T =
      ⟨(db.dropType T).catalog.modifyType V (·.addField k), (db.dropType T).store⟩ :=
    congrArg₂ Database.mk hc (Eq.refl _)
  rw [without, hdrop]
  refine detach_addField hfirst ?_ ?_ hl hT
  · rintro ⟨W, u⟩ hu rfl
    have hfound : db.catalog.type? W = some u := (get?_eq_some_iff h.catalog.keyed).mpr (mem_erase.mp hu).1
    obtain rfl : t = u := Option.some.inj (htype.symm.trans hfound)
    exact ⟨hn, fun i hi => (h.catalog.sound ht).not_mem_index hn hi⟩
  · intro r hr hV v hv
    obtain ⟨f, hf, -⟩ := (h.fits r (h.filed.mem_dropType.mp hr).1).holds k.name v hv
    rw [hV, field?_of_fresh ht hn] at hf
    cases hf

theorem without_addFields {f g : Field} {v u : RecordType} (h : db.Sound) (hv : db.catalog.requireNode V = .ok v)
    (hf : f.name ∉ names v.fields) (hu : db.catalog.requireNode U = .ok u) (hg : g.name ∉ names u.fields)
    (hfl : ∃ l, f.link = some l ∧ l.targetType = U) (hgl : ∃ l, g.link = some l ∧ l.targetType = V)
    (hT : V = T ∨ U = T) :
    (Database.without ⟨(db.catalog.modifyType V (·.addField f)).modifyType U (·.addField g), db.store⟩ T).Alike
      (db.without T) := by
  have hself (W : String) (e : Field) (c : Catalog) : (c.modifyType W (·.addField e)).removeType W = c.removeType W :=
    congrArg Catalog.mk erase_modify_self
  have hother (W : String) (hW : W ≠ T) (e : Field) (c : Catalog) :
      (c.modifyType W (·.addField e)).removeType T = (c.removeType T).modifyType W (·.addField e) :=
    congrArg Catalog.mk (erase_modify_of_ne hW)
  by_cases hV : V = T
  · by_cases hU : U = T
    · apply Alike.detach
      subst hU
      subst hV
      exact ⟨(hself V g _).trans (hself V f _), Eq.refl _⟩
    · -- the end on the type goes with it, and the other end leads to it
      obtain ⟨l, hl, hlV⟩ := hgl
      have htypes := hother U hU g (db.catalog.modifyType V (·.addField f))
      rw [hV, hself T f, ← hV] at htypes
      rw [without_addField h hu hg hU hl (hlV.trans hV) (hV ▸ htypes)]
      exact .rfl
  · have hU : U = T := hT.resolve_left hV
    obtain ⟨l, hl, hlU⟩ := hfl
    have htypes := (hself T g (db.catalog.modifyType V (·.addField f))).trans (hother V hV f db.catalog)
    rw [without_addField h hv hf hV hl (hlU.trans hU) (hU ▸ htypes)]
    exact .rfl

theorem without_createConnection {required : Bool} (h : db.Sound)
    (e : db.catalog.createConnection V n U m required = .ok c) (hT : V = T ∨ U = T) :
    (Database.without ⟨c, db.store⟩ T).Alike (db.without T) := by
  obtain ⟨⟨v, hv, -, hnv⟩, ⟨u, hu, -, hmu⟩, -, hc⟩ := createConnection_ok.mp e
  have hadded := without_addFields (f := { Field.connection n U m .one with required := required })
    (g := .connection m V n .many) h hv hnv hu hmu ⟨_, Eq.refl _, Eq.refl _⟩ ⟨_, Eq.refl _, Eq.refl _⟩ hT
  exact hc ▸ hadded

/-- The deletion of a type leads to what the state is without it. -/
theorem outcome_deleteType (limits : PageLimits) (h : db.catalog.WellFormed) (hs : db.store.Filed) (hT : db.catalog.IsNode T) :
    (Request.deleteType T).outcome limits db = .ok (db.without T) := by
  obtain ⟨t, ht⟩ := hT
  rw [Request.outcome_deleteType h hs ht]
  refine congrArg Except.ok (strip_dropType_congr hs ?_)
  intro U m hU
  rw [leads_dropType hU, leads_iff, h.targeted_iff ht]
  constructor
  · intro hj
    obtain ⟨n, hj⟩ := hj
    exact ⟨n, hj.symm h⟩
  · intro hj
    obtain ⟨n, hj⟩ := hj
    exact ⟨n, hj.symm h⟩

theorem without_of_absent (h : db.Sound) (hT : db.catalog.type? T = none) : db.without T = db := by
  have hnode : ¬db.catalog.IsNode T := by
    intro hn
    obtain ⟨t, ht, -⟩ := isNode_iff.mp hn
    rw [hT] at ht
    cases ht
  have hdrop : db.dropType T = db := by
    have hcatalog : db.catalog.removeType T = db.catalog :=
      congrArg Catalog.mk (erase_of_absent (get?_eq_none_iff.mp hT))
    have htables : erase T db.store.tables = db.store.tables := erase_of_absent fun ht => hnode (h.tables T ht)
    exact congrArg₂ Database.mk hcatalog (congrArg (Store.mk · db.store.inserted) htables)
  have hleads : ∀ U m, ¬db.catalog.Leads T U m := by
    intro U m hl
    obtain ⟨f, hf, l, hl, rfl⟩ := hl
    exact hnode (h.catalog.paired U m f l hf hl).1
  rw [without, hdrop, detach]
  have hcatalog : db.catalog.strip (db.catalog.Leads T) = db.catalog :=
    Catalog.strip_eq_self fun e _ => RecordType.strip_none (hleads e.1)
  exact congrArg₂ Database.mk hcatalog (Store.strip_eq_self fun r _ n _ _ hl => hleads r.type n hl.1)

end Database

end RecordGraph
