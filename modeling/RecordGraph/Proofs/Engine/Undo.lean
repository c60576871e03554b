import RecordGraph.Proofs.Engine.Conforms
import RecordGraph.Proofs.Engine.Disconnect
import RecordGraph.Proofs.Engine.Stale

namespace RecordGraph

open Entries Outcome Operation

variable {t : RecordType} {f g : Field} {i : Index} {c d : Catalog} {db db' : Database} {limits : PageLimits}
variable {T U n m : String} {request undo : Request}

section Strip

variable {P : String → Prop} [DecidablePred P] {R : String → String → Prop} [∀ T n, Decidable (R T n)]

/-- Indexes list fields of the type only, so a type without some fields has no indexes over them. -/
theorem RecordType.Sound.strip_eq_self (h : t.Sound) (hP : ∀ n, P n → t.field? n = none) : t.strip P = t := by
  refine RecordType.strip_eq_self (fun e he hp => ?_) fun e he n hn hp => ?_
  · exact get?_eq_none_iff.mp (hP e.1 hp) (mem_names_of_mem he)
  · obtain ⟨f, hf, -⟩ := h.index_stored e he n hn
    exact absurd ((hP n hp).symm.trans hf) (by simp)

theorem RecordType.removeIndex_addIndex (h : i.name ∉ names t.indexes) : (t.addIndex i).removeIndex i.name = t := by
  rw [removeIndex, addIndex, erase_append_self, erase_of_absent h]

theorem Catalog.WellFormed.strip_eq_self (h : c.WellFormed) (hR : ∀ T n, R T n → c.field? T n = none) : c.strip R = c := by
  refine Catalog.strip_eq_self fun ⟨T, t⟩ ht => ?_
  have htype : c.type? T = some t := (get?_eq_some_iff h.keyed).mpr ht
  by_cases hedges : T = edgesName
  · subst hedges
    rw [h.edges] at htype
    rw [← Option.some.inj htype]
    rfl
  · exact (h.node _ ht hedges).strip_eq_self fun n hn => (field?_of_type? htype).symm.trans (hR T n hn)

theorem Database.Sound.strip_store [Ids] (h : db.Sound) (hR : ∀ T n, R T n → db.catalog.field? T n = none) :
    db.store.strip R = db.store := by
  refine Store.strip_eq_self fun r hr n v hv hRn => ?_
  obtain ⟨f, hf, -⟩ := (h.fits r hr).holds n v hv
  exact absurd ((hR r.type n hRn).symm.trans hf) (by simp)

end Strip

/-- The deletions that take back what a request makes. A connection can be deleted from either of its sides. -/
def Request.undoings : Request → List Request
  | .createField T f => [.deleteField T f.name]
  | .createConnection T n U m _ => [.deleteConnection T n, .deleteConnection U m]
  | .createIndex T n _ => [.deleteIndex T n]
  | _ => []

def Request.written : Request → Entries String
  | .deleteField T n => [("type", T), ("fieldName", n)]
  | .deleteConnection T n => [("type", T), ("fieldName", n)]
  | .deleteIndex T n => [("type", T), ("name", n)]
  | _ => []

theorem Catalog.fresh_of_createConnection {required : Bool} (e : c.createConnection T n U m required = .ok d) :
    ∀ V k, EitherEnd (T, n) (U, m) V k → c.field? V k = none := by
  obtain ⟨⟨t, ht, -, hn⟩, ⟨u, hu, -, hm⟩, -, -⟩ := createConnection_ok.mp e
  rintro V k (hV | hV)
  · obtain ⟨rfl, rfl⟩ := Prod.mk.inj hV
    exact field?_of_fresh ht hn
  · obtain ⟨rfl, rfl⟩ := Prod.mk.inj hV
    exact field?_of_fresh hu hm

theorem Catalog.joined_of_createConnection {required : Bool} (e : c.createConnection T n U m required = .ok d) :
    d.Joined (T, n) (U, m) := by
  obtain ⟨-, -, hne, -⟩ := createConnection_ok.mp e
  have hview := field?_of_createConnection e (V := T) (k := n)
  rw [if_neg hne, if_pos ⟨rfl, rfl⟩] at hview
  exact ⟨_, _, hview, rfl, rfl⟩

theorem Call.process_undo (hu : undo ∈ request.undoings) (c : Catalog) :
    undo.call.changesCatalog = true ∧ undo.call.process c undo.written = (undo.check c).map fun _ => undo := by
  have hprocess (T n : String) : Call.deleteConnection.process c [("type", T), ("fieldName", n)] =
      ((Request.deleteConnection T n).check c).map fun _ => .deleteConnection T n := bind_pure_eq_map
  cases request with
  | createField T f =>
    obtain rfl := List.mem_singleton.mp hu
    exact ⟨rfl, bind_pure_eq_map⟩
  | createConnection T n U m required =>
    rcases List.mem_pair.mp hu with rfl | rfl
    · exact ⟨rfl, hprocess T n⟩
    · exact ⟨rfl, hprocess U m⟩
  | createIndex T n fields =>
    obtain rfl := List.mem_singleton.mp hu
    exact ⟨rfl, bind_pure_eq_map⟩
  | _ => cases hu

section Deletions

variable [Ids]

theorem Request.outcome_deleteField_created (h : db.Sound) (e : db.catalog.createField T f = .ok (g, c)) :
    (Request.deleteField T f.name).outcome limits ⟨c, db.store⟩ = .ok db := by
  obtain ⟨⟨t, ht, -, hn⟩, ⟨-, hl⟩, rfl, hc⟩ := Catalog.createField_ok.mp e
  have hfresh : ∀ U m, (U, m) = (T, f.name) → db.catalog.field? U m = none := by
    rintro _ _ ⟨⟩
    exact Catalog.field?_of_fresh ht hn
  have hview := Catalog.field?_of_createField e (U := T) (n := f.name)
  rw [if_pos ⟨rfl, rfl⟩] at hview
  obtain ⟨u, hu⟩ := (Catalog.extends_createField e).isNode T ⟨t, ht⟩
  rw [Catalog.field?_of_requireNode hu] at hview
  have hdelete : c.deleteField T f.name = .ok (_, c.modifyType T (·.removeField f.name)) :=
    Catalog.deleteField_ok.mpr ⟨Catalog.deletableField_ok.mpr ⟨⟨u, hu, hview⟩, rfl, hl⟩, rfl⟩
  have hcatalog : c.modifyType T (·.removeField f.name) = db.catalog := by
    have hkeyed : Keyed c.types := (h.catalog.createField e).keyed
    rw [Catalog.removeField_eq_strip hkeyed, hc,
      Catalog.strip_modifyType_addField (f := { f with builtIn := false }) (R := fun U m => (U, m) = (T, f.name)) rfl]
    exact h.catalog.strip_eq_self hfresh
  have hstore : db.store.removeField T f.name = db.store := by
    rw [h.filed.removeField_eq_strip]
    exact h.strip_store fun U m hU => hfresh U m (Prod.ext hU.1 hU.2)
  rw [outcome, hdelete, ok_bind, hcatalog, hstore]
  rfl

theorem Request.outcome_deleteIndex_created {fields : List String}
    (e : db.catalog.createIndex T n fields = .ok (i, c)) :
    (Request.deleteIndex T n).outcome limits ⟨c, db.store⟩ = .ok db := by
  obtain ⟨⟨t, ht, hn, -⟩, -, -, hc⟩ := Catalog.createIndex_ok.mp e
  obtain ⟨htype, hnode⟩ := Catalog.requireNode_ok.mp ht
  have hadded : c.requireNode T = .ok (t.addIndex ⟨n, fields, false⟩) := by
    rw [Catalog.requireNode_ok, hc, Catalog.type?_modifyType, htype]
    exact ⟨congrArg some (if_pos rfl), hnode⟩
  have hindex : (t.addIndex ⟨n, fields, false⟩).index? n = some ⟨n, fields, false⟩ := by
    have hnone : t.indexes.get? n = none := get?_eq_none_iff.mpr hn
    rw [RecordType.index?, RecordType.addIndex, get?_append, hnone]
    exact if_pos rfl
  have hdelete : c.deleteIndex T n = .ok (_, c.modifyType T (·.removeIndex n)) :=
    Catalog.deleteIndex_ok.mpr ⟨Catalog.deletableIndex_ok.mpr ⟨⟨_, hadded, hindex⟩, rfl⟩, rfl⟩
  have hcatalog : c.modifyType T (·.removeIndex n) = db.catalog := by
    rw [hc, Catalog.modifyType_modifyType]
    refine congrArg Catalog.mk (modify_eq_self fun u hu => ?_)
    obtain rfl : t = u := Option.some.inj (htype.symm.trans hu)
    exact RecordType.removeIndex_addIndex (i := ⟨n, fields, false⟩) hn
  rw [outcome, hdelete, ok_bind, hcatalog]
  rfl

theorem Database.strip_createConnection {required : Bool} (h : db.Sound)
    (e : db.catalog.createConnection T n U m required = .ok c) :
    (Database.mk c db.store).strip (Catalog.EitherEnd (T, n) (U, m)) = db := by
  have hfresh := Catalog.fresh_of_createConnection e
  obtain ⟨-, -, -, hc⟩ := Catalog.createConnection_ok.mp e
  have hcatalog : c.strip (Catalog.EitherEnd (T, n) (U, m)) = db.catalog := by
    rw [hc, Catalog.strip_modifyType_addField (f := .connection m T n .many) (.inr rfl),
      Catalog.strip_modifyType_addField (f := { Field.connection n U m .one with required := required }) (.inl rfl)]
    exact h.catalog.strip_eq_self hfresh
  exact congrArg₂ Database.mk hcatalog (h.strip_store fun V k hV => hfresh V k hV.1)

/-- What a request makes is taken back by each of its undoings. -/
theorem Request.outcome_undo (h : db.Sound) (hu : undo ∈ request.undoings)
    (hr : request.outcome limits db = .ok db') : undo.outcome limits db' = .ok db := by
  cases request with
  | createField T f =>
    obtain rfl := List.mem_singleton.mp hu
    obtain ⟨⟨g, c⟩, hc, hd⟩ := bind_eq_ok.mp hr
    obtain rfl := pure_eq_ok.mp hd
    exact outcome_deleteField_created h hc
  | createConnection T n U m required =>
    obtain ⟨c, hc, hd⟩ := bind_eq_ok.mp hr
    obtain rfl := pure_eq_ok.mp hd
    have hwell : c.WellFormed := h.catalog.createConnection hc
    have hjoined : c.Joined (T, n) (U, m) := Catalog.joined_of_createConnection hc
    have hstrip := Database.strip_createConnection h hc
    have hdelete (a b : String × String) (hab : c.Joined a b) : (Request.deleteConnection a.1 a.2).outcome limits
        ⟨c, db.store⟩ = .ok (Database.strip ⟨c, db.store⟩ (Catalog.EitherEnd a b)) := outcome_deleteConnection hwell h.filed hab
    -- from the second side the same two ends are removed, in the other order
    rcases List.mem_pair.mp hu with rfl | rfl
    · exact (hdelete (T, n) (U, m) hjoined).trans (congrArg _ hstrip)
    · have hback := hdelete (U, m) (T, n) (hjoined.symm hwell)
      rw [Database.strip_congr (S := Catalog.EitherEnd (T, n) (U, m)) fun V k => or_comm, hstrip] at hback
      exact hback
  | createIndex T n fields =>
    obtain rfl := List.mem_singleton.mp hu
    obtain ⟨⟨i, c⟩, hc, hd⟩ := bind_eq_ok.mp hr
    obtain rfl := pure_eq_ok.mp hd
    exact outcome_deleteIndex_created hc
  | _ => cases hu

/-- In every state that a run reaches, whatever field, connection or index a call makes, the deletion of it passes processing
and succeeds right after, a connection from either of its sides, and the state is then the one before: the catalog with all its
orders, and the stored records. -/
theorem undone_initial (limits : PageLimits) (es : List Event) {request undo : Request} {output : Output} {db' : Database}
    (hu : undo ∈ request.undoings)
    (hr : (request.call.perform limits request).on (Engine.initial.run limits es).db = (.ok output, db')) :
    undo.call.process db'.catalog undo.written = .ok undo ∧
      ∃ output', (undo.call.perform limits undo).on db' = (.ok output', (Engine.initial.run limits es).db) := by
  have hsound : (Engine.initial.run limits es).db.Sound := Engine.Sound.initial.run.db
  have hmade : request.outcome limits (Engine.initial.run limits es).db = .ok db' :=
    (Call.settles_perform limits hsound.catalog request).of_ok hr
  have hback : undo.outcome limits db' = .ok (Engine.initial.run limits es).db := Request.outcome_undo hsound hu hmade
  have hwell : db'.catalog.WellFormed := (Call.effect_of_perform hr).wellFormed hsound.catalog
  obtain ⟨hchanges, hprocess⟩ := Call.process_undo hu db'.catalog
  -- the check that comes before is that of the deletion, which is known to succeed
  constructor
  · have hcheck : ((undo.outcome limits db').map fun _ => ()) = undo.check db'.catalog := Request.map_outcome hchanges
    rw [hprocess, ← hcheck, hback]
    rfl
  · have hsettles := Call.settles_perform limits hwell undo
    rw [hback] at hsettles
    exact hsettles

end Deletions

def library : List Event :=
  [.process .createType [("name", "A")], .perform .createType 0,
    .process .createField [("type", "A"), ("fieldName", "x"), ("fieldType", "string")], .perform .createField 1,
    .process .createIndex [("type", "A"), ("name", "i"), ("fields", "[\"x\"]")], .perform .createIndex 2,
    .process .createConnection [("type", "A"), ("fieldName", "f"), ("targetType", "A"), ("targetFieldName", "g")],
    .perform .createConnection 3, .process .create [("type", "A"), ("data", "\x7b\"x\": \"y\"\x7d")], .perform .create 4]

def additions : List Request :=
  [.createField "A" ⟨"y", .int, false, false, some (.int 3), none⟩, .createConnection "A" "p" "A" "q" true,
    .createIndex "A" "j" ["x", "f"]]

open scoped Ids in
theorem undone_additions :
    let db := (Engine.initial.run .standard library).db
    ∀ request ∈ additions, ∃ output db', (request.call.perform .standard request).on db = (.ok output, db') ∧ db' ≠ db ∧
      ∀ undo ∈ request.undoings, undo.call.process db'.catalog undo.written = .ok undo ∧
        ∃ output', (undo.call.perform .standard undo).on db' = (.ok output', db) := by
  intro db request hrequest
  have hmade : ∀ request ∈ additions, request.outcome .standard db ≠ .ok db ∧
      (request.outcome .standard db).isOk = true := by decide +kernel
  obtain ⟨hne, hok⟩ := hmade request hrequest
  have hsound : db.Sound := Engine.Sound.initial.run.db
  have hsettles := Call.settles_perform .standard hsound.catalog request
  cases hd : request.outcome .standard db with
  | error e =>
    rw [hd] at hok
    cases hok
  | ok db' =>
    rw [hd] at hne hsettles
    obtain ⟨output, houtput⟩ := hsettles
    exact ⟨output, db', houtput, fun he => hne (congrArg _ he), fun undo hu => undone_initial .standard library hu houtput⟩

end RecordGraph
