import RecordGraph.Proofs.Engine.Settle
import RecordGraph.Proofs.Engine.Sound

namespace RecordGraph

open Entries Outcome

variable {R S : String → String → Prop} [∀ T n, Decidable (R T n)] [∀ T n, Decidable (S T n)]

namespace Database

variable {db : Database} {T U m : String}

/-- The state without some fields and the values that records store for them. -/
def strip (db : Database) (R : String → String → Prop) [∀ T n, Decidable (R T n)] : Database :=
  ⟨db.catalog.strip R, db.store.strip fun T n => R T n ∧ db.catalog.Stores T n⟩

/-- The state without a type and its records. Fields of other types that are connected to it are left. -/
def dropType (db : Database) (T : String) : Database := ⟨db.catalog.removeType T, db.store.dropType T⟩

theorem strip_congr (h : ∀ T n, R T n ↔ S T n) : db.strip R = db.strip S := by
  have hcatalog : db.catalog.strip R = db.catalog.strip S := Catalog.strip_congr fun T _ n => h T n
  exact congrArg₂ Database.mk hcatalog (Store.strip_congr fun T n => and_congr_left' (h T n))

theorem strip_strip : (db.strip R).strip S = db.strip fun T n => R T n ∨ S T n := by
  have hstores : ∀ T n, (R T n ∧ db.catalog.Stores T n) ∨ (S T n ∧ (db.catalog.strip R).Stores T n) ↔
      (R T n ∨ S T n) ∧ db.catalog.Stores T n := by
    intro T n
    rw [Catalog.stores_strip]
    by_cases hR : R T n
    · simp [hR]
    · simp [hR]
  have hstore := (Store.strip_strip (s := db.store)).trans (Store.strip_congr hstores)
  exact congrArg₂ Database.mk Catalog.strip_strip hstore

theorem stores_dropType : (db.dropType T).catalog.Stores U m ↔ U ≠ T ∧ db.catalog.Stores U m := by
  unfold Catalog.Stores
  rw [dropType, Catalog.field?_removeType]
  by_cases hU : U = T
  · simp [hU]
  · simp [hU]

end Database

variable {limits : PageLimits} {db : Database} {c : Catalog} {t : RecordType} {T U m n : String} {a b : String × String}

open Catalog

theorem eq_storedEnd_iff {f : Field} {l : Link} (h : c.WellFormed) (hf : c.field? T n = some f)
    (hl : f.link = some l) : (U, m) = l.storedEnd T n ↔
      EitherEnd (T, n) (l.targetType, l.targetField) U m ∧ c.Stores U m := by
  have htarget : c.Stores l.targetType l.targetField ↔ l.side = .many := stores_of_link h hf hl
  have hown : c.Stores T n ↔ l.side ≠ .many := by
    unfold Stores
    rw [hf]
    simp [Field.isStored, hl]
  unfold Link.storedEnd
  constructor
  · intro he
    split at he
    · next hs =>
      obtain ⟨rfl, rfl⟩ := Prod.mk.inj he
      exact ⟨.inl rfl, hown.mpr (by simp [hs])⟩
    · next hs =>
      obtain ⟨rfl, rfl⟩ := Prod.mk.inj he
      exact ⟨.inr rfl, htarget.mpr hs⟩
  · rintro ⟨he | he, hs⟩
    · obtain ⟨rfl, rfl⟩ := Prod.mk.inj he
      split
      · rfl
      · next hside => exact absurd hside (hown.mp hs)
    · obtain ⟨rfl, rfl⟩ := Prod.mk.inj he
      rw [htarget.mp hs]

/-- A connection can be deleted from its end, and what is left is the catalog without both of its ends. -/
theorem Catalog.deleteConnection_of_joined (h : c.WellFormed) (hab : c.Joined a b) :
    ∃ f p l, c.field? a.1 a.2 = some f ∧ f.link = some l ∧ (l.targetType, l.targetField) = b ∧
      c.deleteConnection a.1 a.2 = .ok ((f, p), c.strip (EitherEnd a b)) := by
  obtain ⟨f, l, hf, hl, rfl⟩ := hab
  obtain ⟨t, ht, -, htf⟩ := h.sound_of_field? hf
  obtain ⟨u, hu⟩ := h.isNode_of_field? hf
  have htu : t = u := Option.some.inj (ht.symm.trans (requireNode_ok.mp hu).1)
  have hexisting : c.existingConnection a.1 a.2 = .ok f := existingConnection_ok.mpr ⟨⟨u, hu, htu ▸ htf⟩, l, hl⟩
  have hdelete : c.deleteConnection a.1 a.2 = .ok _ := deleteConnection_ok.mpr ⟨hexisting, l, hl, rfl, rfl⟩
  rw [deleteConnection_eq_strip h hdelete hl] at hdelete
  exact ⟨f, _, l, hf, hl, rfl, hdelete⟩

theorem Catalog.WellFormed.disconnect (h : c.WellFormed) (hab : c.Joined a b) :
    (c.strip (EitherEnd a b)).WellFormed := by
  obtain ⟨f, p, l, -, -, -, hdelete⟩ := deleteConnection_of_joined h hab
  exact h.deleteConnection hdelete

/-- Connections of a type, some of them or all, each of them given by one of its ends. -/
structure Catalog.Picks (c : Catalog) (T : String) (ends : List (String × String)) : Prop where
  nodup : ends.Nodup
  joined : ∀ a ∈ ends, ∃ b, c.Joined a b ∧ (a.1 = T ∨ b.1 = T) ∧ b ∉ ends

theorem Catalog.Picks.tail {ends : List (String × String)} (h : c.Picks T (a :: ends)) (hab : c.Joined a b) :
    (c.strip (EitherEnd a b)).Picks T ends where
  nodup := (List.nodup_cons.mp h.nodup).2
  joined := by
    intro x hx
    have hxa : x ≠ a := fun he => (List.nodup_cons.mp h.nodup).1 (he ▸ hx)
    have hxb : x ≠ b := by
      intro he
      obtain ⟨b', hab', -, hb'⟩ := h.joined a List.mem_cons_self
      have hbb : b' = b := hab'.unique hab
      exact hb' (hbb ▸ he ▸ List.mem_cons_of_mem a hx)
    obtain ⟨y, hxy, hend, hy⟩ := h.joined x (List.mem_cons_of_mem a hx)
    refine ⟨y, joined_strip.mpr ⟨hxy, ?_⟩, hend, fun hm => hy (List.mem_cons_of_mem a hm)⟩
    rintro (he | he)
    · exact hxa he
    · exact hxb he

section Deletions

variable [Ids]

theorem Database.strip_dropType_congr (hf : db.store.Filed) (h : ∀ U m, U ≠ T → (R U m ↔ S U m)) :
    (db.dropType T).strip R = (db.dropType T).strip S := by
  have hcatalog : (db.dropType T).catalog.strip R = (db.dropType T).catalog.strip S := by
    apply Catalog.strip_congr
    intro U hU n
    have hne : U ≠ T := by
      intro hUT
      simp [Database.dropType, removeType, names_erase, hUT] at hU
    exact h U n hne
  have hstore : (db.dropType T).store.strip (fun U m => R U m ∧ (db.dropType T).catalog.Stores U m) =
      (db.dropType T).store.strip fun U m => S U m ∧ (db.dropType T).catalog.Stores U m := by
    apply Store.strip_congr_of_mem
    intro r hr n
    exact and_congr_left' (h r.type n (hf.mem_dropType.mp hr).2)
  exact congrArg₂ Database.mk hcatalog hstore

theorem Database.dropType_strip (hf : db.store.Filed) : (db.strip R).dropType T = (db.dropType T).strip R := by
  have hstore : (db.store.dropType T).strip (fun U m => R U m ∧ db.catalog.Stores U m) =
      (db.store.dropType T).strip fun U m => R U m ∧ (db.dropType T).catalog.Stores U m := by
    apply Store.strip_congr_of_mem
    intro r hr n
    have hne : r.type ≠ T := (hf.mem_dropType.mp hr).2
    rw [Database.stores_dropType]
    simp [hne]
  exact congrArg₂ Database.mk Catalog.removeType_strip (Store.dropType_strip.trans hstore)

theorem Request.outcome_deleteType (h : db.catalog.WellFormed) (hs : db.store.Filed) (ht : db.catalog.requireNode T = .ok t) :
    (Request.deleteType T).outcome limits db = .ok ((db.dropType T).strip (Targeted t.links)) := by
  have hdelete : db.catalog.deleteType T = .ok (t, (db.catalog.removeType T).unlink t.links) :=
    deleteType_ok.mpr ⟨ht, rfl⟩
  have hstored : ∀ U m, Targeted (t.storedLinks T) U m ↔
      Targeted t.links U m ∧ (db.dropType T).catalog.Stores U m := by
    intro U m
    rw [Database.stores_dropType]
    constructor
    · rintro ⟨⟨n, l⟩, hl, rfl, rfl⟩
      obtain ⟨hl, hside⟩ := List.mem_filter.mp hl
      obtain ⟨hside, hne⟩ : l.side = .many ∧ l.targetType ≠ T := by simpa using hside
      obtain ⟨f, hf, hfl⟩ := (h.mem_links ht).mp hl
      exact ⟨⟨(n, l), hl, rfl, rfl⟩, hne, (stores_of_link h hf hfl).mpr hside⟩
    · rintro ⟨⟨⟨n, l⟩, hl, rfl, rfl⟩, hne, hs⟩
      obtain ⟨f, hf, hfl⟩ := (h.mem_links ht).mp hl
      have hside : l.side = .many := (stores_of_link h hf hfl).mp hs
      refine ⟨(n, l), List.mem_filter.mpr ⟨hl, ?_⟩, rfl, rfl⟩
      simp [hside, hne]
  have hkeyed : Keyed (db.catalog.removeType T).types := h.keyed.erase
  rw [outcome, hdelete, ok_bind, unlink_eq_strip hkeyed, hs.dropType.unlink_eq_strip, Store.strip_congr hstored]
  rfl

theorem Request.outcome_deleteConnection (h : db.catalog.WellFormed) (hs : db.store.Filed) (hab : db.catalog.Joined a b) :
    (Request.deleteConnection a.1 a.2).outcome limits db = .ok (db.strip (EitherEnd a b)) := by
  obtain ⟨f, p, l, hf, hl, rfl, hdelete⟩ := deleteConnection_of_joined h hab
  have hstored : ∀ U m, (U = (l.storedEnd a.1 a.2).1 ∧ m = (l.storedEnd a.1 a.2).2) ↔
      EitherEnd a (l.targetType, l.targetField) U m ∧ db.catalog.Stores U m := by
    intro U m
    rw [← eq_storedEnd_iff h hf hl, Prod.ext_iff]
  have hstore := Store.removePair_eq (s := db.store) h hdelete hl
  rw [hs.removeField_eq_strip, Store.strip_congr hstored] at hstore
  rw [outcome, hdelete, ok_bind]
  exact congrArg _ (congrArg _ hstore)

/-- With a connection of a type gone, the deletion of the type comes to the same. -/
theorem Request.outcome_deleteType_strip (h : db.catalog.WellFormed) (hs : db.store.Filed) (hT : db.catalog.IsNode a.1)
    (hab : db.catalog.Joined a b) :
    (Request.deleteType a.1).outcome limits (db.strip (EitherEnd a b)) =
      (Request.deleteType a.1).outcome limits db := by
  obtain ⟨t, ht⟩ := hT
  obtain ⟨u, hu⟩ : (db.strip (EitherEnd a b)).catalog.IsNode a.1 := isNode_strip.mpr ⟨t, ht⟩
  have hd : (db.strip (EitherEnd a b)).catalog.WellFormed := h.disconnect hab
  rw [outcome_deleteType hd hs.strip hu, outcome_deleteType h hs ht, Database.dropType_strip hs, Database.strip_strip]
  congr 1
  apply Database.strip_dropType_congr hs
  intro U m hU
  rw [hd.targeted_iff hu, h.targeted_iff ht]
  simp only [Database.strip, joined_strip]
  constructor
  · rintro ((he | he) | ⟨n, hj, -⟩)
    · exact absurd (congrArg Prod.fst he) hU
    · exact ⟨a.2, he ▸ hab⟩
    · exact ⟨n, hj⟩
  · rintro ⟨n, hj⟩
    by_cases hp : (a.1, n) = a ∨ (a.1, n) = b
    · left
      rcases hp with hp | hp
      · rw [hp] at hj
        exact .inr (hj.unique hab)
      · rw [hp] at hj
        exact .inl (hj.unique (hab.symm h))
    · exact .inr ⟨n, hj, hp⟩

theorem Request.outcome_deleteType_disconnected (h : db.catalog.WellFormed) (hs : db.store.Filed) (hT : db.catalog.IsNode T)
    (hab : db.catalog.Joined a b) (hend : a.1 = T ∨ b.1 = T) :
    (Request.deleteType T).outcome limits (db.strip (EitherEnd a b)) =
      (Request.deleteType T).outcome limits db := by
  rcases hend with rfl | rfl
  · exact outcome_deleteType_strip h hs hT hab
  · rw [Database.strip_congr (S := EitherEnd b a) fun U m => or_comm]
    exact outcome_deleteType_strip h hs hT (hab.symm h)

namespace Call

def disconnect (limits : PageLimits) (ends : List (String × String)) : Operation Unit :=
  ends.forM fun a => do let _ ← Call.deleteConnection.perform limits (.deleteConnection a.1 a.2)

open Operation

theorem settles_disconnect (limits : PageLimits) {ends : List (String × String)} (h : db.catalog.WellFormed)
    (hs : db.store.Filed) (hT : db.catalog.IsNode T) (hp : db.catalog.Picks T ends) :
    Settles (disconnect limits ends >>= fun _ => Call.deleteType.perform limits (.deleteType T)) db
      ((Request.deleteType T).outcome limits db) := by
  induction ends generalizing db with
  | nil => exact settles_perform limits h (.deleteType T)
  | cons a ends ih =>
    obtain ⟨b, hab, hend, -⟩ := hp.joined a List.mem_cons_self
    have hfirst := settles_perform limits h (.deleteConnection a.1 a.2)
    rw [Request.outcome_deleteConnection h hs hab] at hfirst
    have hd : (db.strip (EitherEnd a b)).catalog.WellFormed := h.disconnect hab
    have hrest := ih hd hs.strip (isNode_strip.mpr hT) (hp.tail hab)
    rw [Request.outcome_deleteType_disconnected h hs hT hab hend] at hrest
    obtain ⟨t, ht⟩ := hT
    rw [Request.outcome_deleteType h hs ht] at hrest ⊢
    rw [disconnect, List.forM_eq_forM, List.forM_cons, bind_assoc, bind_assoc]
    exact settles_bind hfirst fun _ => hrest

/-- A connection can be deleted from either end, and some or all connections of a type can be deleted before the type, in
any order and each from either end: the state that is reached is the same. -/
theorem disconnect_agree (limits : PageLimits) (h : db.Reachable) :
    (∀ a b, db.catalog.Joined a b → ∃ x y db',
      (Call.deleteConnection.perform limits (.deleteConnection a.1 a.2)).on db = (.ok x, db') ∧
      (Call.deleteConnection.perform limits (.deleteConnection b.1 b.2)).on db = (.ok y, db')) ∧
    (∀ T ends, db.catalog.IsNode T → db.catalog.Picks T ends → ∃ x y db',
      (Call.deleteType.perform limits (.deleteType T)).on db = (.ok x, db') ∧
      (disconnect limits ends >>= fun _ => Call.deleteType.perform limits (.deleteType T)).on db = (.ok y, db')) := by
  have hc := h.wellFormed
  have hs := h.filed
  constructor
  · intro a b hab
    have hleft := settles_perform limits hc (.deleteConnection a.1 a.2)
    have hright := settles_perform limits hc (.deleteConnection b.1 b.2)
    rw [Request.outcome_deleteConnection hc hs hab] at hleft
    rw [Request.outcome_deleteConnection hc hs (hab.symm hc),
      Database.strip_congr (S := EitherEnd a b) fun U m => or_comm] at hright
    obtain ⟨x, hx⟩ := hleft
    obtain ⟨y, hy⟩ := hright
    exact ⟨x, y, _, hx, hy⟩
  · intro T ends hT hp
    have htype := settles_perform limits hc (.deleteType T)
    have hall := settles_disconnect limits hc hs hT hp
    obtain ⟨t, ht⟩ := hT
    rw [Request.outcome_deleteType hc hs ht] at htype hall
    obtain ⟨x, hx⟩ := htype
    obtain ⟨y, hy⟩ := hall
    exact ⟨x, y, _, hx, hy⟩

end Call

end Deletions

open scoped Ids in
theorem Call.disconnect_agree_two_types :
    let types := ((Call.createType.perform .standard (.createType "B")).on
      ((Call.createType.perform .standard (.createType "A")).on .initial).2).2
    let db := ((Call.createConnection.perform .standard (.createConnection "A" "f" "B" "g" false)).on types).2
    (∃ x y db',
      (Call.deleteConnection.perform .standard (.deleteConnection "A" "f")).on db = (.ok x, db') ∧
      (Call.deleteConnection.perform .standard (.deleteConnection "B" "g")).on db = (.ok y, db')) ∧
    (∃ x y db',
      (Call.deleteType.perform .standard (.deleteType "A")).on db = (.ok x, db') ∧
      (Call.disconnect .standard [("B", "g")] >>= fun _ => Call.deleteType.perform .standard (.deleteType "A")).on db =
        (.ok y, db')) := by
  intro types db
  have htypes : types.Reachable :=
    (Database.Reachable.initial.perform .standard .createType (.createType "A")).perform .standard .createType
      (.createType "B")
  have hdb : db.Reachable :=
    htypes.perform .standard .createConnection (.createConnection "A" "f" "B" "g" false)
  have hf : db.catalog.field? "A" "f" = some ⟨"f", .connection, false, false, none, some ⟨"B", "g", .one⟩⟩ := by
    decide +kernel
  have hab : db.catalog.Joined ("A", "f") ("B", "g") := ⟨_, _, hf, rfl, rfl⟩
  have hba : db.catalog.Joined ("B", "g") ("A", "f") := hab.symm hdb.wellFormed
  have hpicks : db.catalog.Picks "A" [("B", "g")] := by
    refine ⟨List.nodup_singleton _, fun a ha => ?_⟩
    rw [List.mem_singleton.mp ha]
    exact ⟨("A", "f"), hba, .inr rfl, by decide⟩
  have hnode : db.catalog.IsNode "A" := hdb.wellFormed.isNode_of_field? hf
  obtain ⟨hends, htype⟩ := Call.disconnect_agree .standard hdb
  constructor
  · exact hends ("A", "f") ("B", "g") hab
  · exact htype "A" [("B", "g")] hnode hpicks

end RecordGraph
