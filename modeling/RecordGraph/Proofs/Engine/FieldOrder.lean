import RecordGraph.Proofs.Engine.Conforms
import RecordGraph.Proofs.Catalog.Strip

namespace RecordGraph

open Entries

variable {limits : PageLimits} {c d : Catalog} {s : Store} {db db' : Database} {call : Call} {request : Request}
variable {t : RecordType} {q r : Record} {T U n id : String} {fields : Entries Value} {data : Entries Json} {w : Engine}

/-- Two sublists can be joined if whatever is in the first stands before whatever is in the second. -/
theorem append_sublist {α : Type} {k l m : List α} (hm : m.Nodup) (hk : k.Sublist m) (hl : l.Sublist m)
    (h : ∀ x ∈ k, ∀ y ∈ l, [x, y].Sublist m) : (k ++ l).Sublist m := by
  induction m generalizing k with
  | nil =>
    have hknil : k = [] := List.sublist_nil.mp hk
    rw [hknil]
    exact hl
  | cons z m ih =>
    obtain ⟨hz, hnodup⟩ := List.nodup_cons.mp hm
    cases k with
    | nil => exact hl
    | cons x k =>
      have hxy : ∀ x ∈ m, ∀ y, [x, y].Sublist (z :: m) → [x, y].Sublist m := by
        intro x hx y hs
        rcases List.sublist_cons_iff.mp hs with hs | ⟨r, hr, -⟩
        · exact hs
        · have hxz : x = z := (List.cons.inj hr).1
          exact absurd (hxz ▸ hx) hz
      -- the second list cannot start with `z`, which stands first
      have hl' : l.Sublist m := by
        rcases List.sublist_cons_iff.mp hl with hl | ⟨l', rfl, -⟩
        · exact hl
        · have hs := h x List.mem_cons_self z List.mem_cons_self
          rcases List.sublist_cons_iff.mp hs with hs | ⟨r, hr, hs⟩
          · exact absurd (hs.subset (by simp)) hz
          · have hrz : [z] = r := (List.cons.inj hr).2
            rw [← hrz] at hs
            exact absurd (hs.subset List.mem_cons_self) hz
      rcases List.sublist_cons_iff.mp hk with hk | ⟨k', hr, hk⟩
      · have hpairs : ∀ a ∈ x :: k, ∀ y ∈ l, [a, y].Sublist m := fun a ha y hy =>
          hxy a (hk.subset ha) y (h a ha y hy)
        exact (ih hnodup hk hl' hpairs).cons z
      · obtain ⟨rfl, rfl⟩ := List.cons.inj hr
        have hpairs : ∀ a ∈ k, ∀ y ∈ l, [a, y].Sublist m := fun a ha y hy =>
          hxy a (hk.subset ha) y (h a (List.mem_cons_of_mem _ ha) y hy)
        exact (ih hnodup hk hl' hpairs).cons_cons x

/-- Entries that are put keep the places of the names that are there, and the new names go to the end in their order. -/
theorem Entries.names_foldl_put {l m : Entries Value} (hm : Keyed m) :
    names (m.foldl (fun l e => l.put e.1 e.2) l) = names l ++ (names m).filter (· ∉ names l) := by
  induction m generalizing l with
  | nil => simp [names]
  | cons e m ih =>
    obtain ⟨he, hm⟩ := List.nodup_cons.mp hm
    have hnames : names (e :: m) = e.1 :: names m := rfl
    rw [List.foldl_cons, ih hm, hnames]
    cases hhas : has e.1 l with
    | true =>
      have hl : e.1 ∈ names l := has_iff.mp hhas
      rw [names_put_of_has hhas, List.filter_cons_of_neg (by simpa using hl)]
    | false =>
      have hl : e.1 ∉ names l := by
        rw [← has_iff, hhas]
        decide
      have hfilter : (names m).filter (· ∉ names l ++ [e.1]) = (names m).filter (· ∉ names l) := by
        apply List.filter_congr
        intro n hn
        have hne : n ≠ e.1 := by
          rintro rfl
          exact he hn
        simp [hne]
      rw [put_eq_append hhas, names_append, hfilter, List.filter_cons_of_pos (by simpa using hl),
        List.append_assoc]
      rfl

namespace Catalog

def fieldNames (c : Catalog) (T : String) : List String :=
  match c.type? T with
  | some t => names t.fields
  | none => []

theorem fieldNames_of_type? (h : c.type? T = some t) : c.fieldNames T = names t.fields := by
  simp [fieldNames, h]

theorem fieldNames_of_none (h : c.type? T = none) : c.fieldNames T = [] := by
  simp [fieldNames, h]

theorem mem_fieldNames {f : Field} (h : c.field? T n = some f) : n ∈ c.fieldNames T := by
  obtain ⟨t, ht, hf⟩ := Option.bind_eq_some_iff.mp h
  rw [fieldNames_of_type? ht]
  exact mem_names_of_mem (mem_of_get? hf)

theorem fieldNames_sublist
    (h : ∀ t, c.type? U = some t → ∃ u, d.type? U = some u ∧ (names t.fields).Sublist (names u.fields)) :
    (c.fieldNames U).Sublist (d.fieldNames U) := by
  cases hU : c.type? U with
  | none =>
    rw [fieldNames_of_none hU]
    exact List.nil_sublist _
  | some t =>
    obtain ⟨u, hu, hs⟩ := h t hU
    rw [fieldNames_of_type? hU, fieldNames_of_type? hu]
    exact hs

theorem fieldNames_addType : (c.fieldNames U).Sublist ((c.addType t).fieldNames U) := by
  apply fieldNames_sublist
  intro u hU
  have hu : (c.addType t).type? U = some u := by simp [type?_addType, hU]
  exact ⟨u, hu, .refl _⟩

theorem fieldNames_modifyType {g : RecordType → RecordType} (hg : ∀ t, (names t.fields).Sublist (names (g t).fields)) :
    (c.fieldNames U).Sublist ((c.modifyType T g).fieldNames U) := by
  apply fieldNames_sublist
  intro u hU
  have hu : (c.modifyType T g).type? U = some (if U = T then g u else u) := by simp [type?_modifyType, hU]
  refine ⟨_, hu, ?_⟩
  split
  · exact hg u
  · exact .refl _

theorem fieldNames_addField {f : Field} :
    (c.fieldNames U).Sublist ((c.modifyType T (·.addField f)).fieldNames U) := by
  apply fieldNames_modifyType
  intro t
  rw [RecordType.addField, names_append]
  exact List.sublist_append_left _ _

theorem fieldNames_strip {R : String → String → Prop} [∀ T n, Decidable (R T n)] :
    (c.strip R).fieldNames U = (c.fieldNames U).filter fun n => ¬R U n := by
  cases hU : c.type? U with
  | none =>
    have hu : (c.strip R).type? U = none := by simp [type?_strip, hU]
    rw [fieldNames_of_none hU, fieldNames_of_none hu]
    rfl
  | some u =>
    have hu : (c.strip R).type? U = some (u.strip (R U)) := by simp [type?_strip, hU]
    rw [fieldNames_of_type? hU, fieldNames_of_type? hu, names, names, RecordType.strip, List.filter_map]
    rfl

theorem fieldNames_removeType (h : U ≠ T) : (c.removeType T).fieldNames U = c.fieldNames U := by
  simp [fieldNames, type?_removeType, h]

def Orders (c : Catalog) (r : Record) : Prop := (names r.fields).Sublist (c.fieldNames r.type)

instance : Decidable (c.Orders r) := inferInstanceAs (Decidable (List.Sublist _ _))

theorem Orders.grow (h : c.Orders r) (hd : ∀ U, (c.fieldNames U).Sublist (d.fieldNames U)) : d.Orders r :=
  h.trans (hd r.type)

theorem Orders.shrink {R : String → String → Prop} [∀ T n, Decidable (R T n)] (h : c.Orders q) (ht : r.type = q.type)
    (hs : (names r.fields).Sublist (names q.fields))
    (hd : d.fieldNames q.type = (c.fieldNames q.type).filter fun n => ¬R q.type n) (hf : d.Fits r) : d.Orders r := by
  have hkept : (names r.fields).filter (fun n => ¬R q.type n) = names r.fields := by
    rw [List.filter_eq_self]
    intro n hn
    obtain ⟨⟨n, v⟩, hv, rfl⟩ := List.mem_map.mp hn
    obtain ⟨f, hf, -⟩ := hf.holds n v hv
    have hmem : n ∈ d.fieldNames q.type := ht ▸ mem_fieldNames hf
    rw [hd] at hmem
    exact (List.mem_filter.mp hmem).2
  have hsub := (hs.trans h).filter fun n => decide ¬R q.type n
  rw [hkept, ← hd, ← ht] at hsub
  exact hsub

end Catalog

open Catalog

/-- Whether all records hold their values in the order of the fields of their types. -/
def Database.Ordered (db : Database) : Prop := ∀ r ∈ db.store.records, db.catalog.Orders r

instance : Decidable db.Ordered := inferInstanceAs (Decidable (∀ r ∈ db.store.records, db.catalog.Orders r))

/-- Whether what is performed, if it is an update that goes through, gives the record values of new fields only behind those
that it has. -/
def Database.InTurn (db : Database) : Option (Call × Request) → Prop
  | some (.update, .update T id data) =>
    ∀ t, db.catalog.requireNode T = .ok t → ∀ fields, t.accept data .update = .ok fields →
      ∀ r ∈ db.store.get? T id, ∀ n ∈ names r.fields, ∀ m ∈ names fields, m ∉ names r.fields →
        [n, m].Sublist (names t.fields)
  | _ => True

instance {p : Option (Call × Request)} : Decidable (db.InTurn p) := by
  unfold Database.InTurn
  split <;> infer_instance

namespace Record

theorem sublist_strip {R : String → String → Prop} [∀ T n, Decidable (R T n)] :
    (names (r.strip R).fields).Sublist (names r.fields) := List.filter_sublist.map _

theorem names_merge (hf : Keyed fields) (hid : idName ∉ names fields) :
    names (r.merge fields).fields = names r.fields ++ (names fields).filter (· ∉ names r.fields) := by
  have hsame : erase idName fields = fields := by
    apply List.filter_eq_self.mpr
    intro e he
    have hne : e.1 ≠ idName := fun h => hid (h ▸ List.mem_map_of_mem (f := Prod.fst) he)
    simpa using hne
  rw [merge, hsame, Entries.names_foldl_put hf]

end Record

section Runs

variable [Ids]

/-- An updated record is in order just if the new fields come after those that it has. -/
theorem Database.Sound.orders_merge_iff (h : db.Sound) (ho : db.catalog.Orders r)
    (ht : db.catalog.requireNode r.type = .ok t) (ha : t.accept data .update = .ok fields) :
    db.catalog.Orders (r.merge fields) ↔
      ∀ n ∈ names r.fields, ∀ m ∈ names fields, m ∉ names r.fields → [n, m].Sublist (names t.fields) := by
  have hsound : t.Sound := h.catalog.sound ht
  have hid : idName ∉ names fields := by
    intro hn
    obtain ⟨⟨_, v⟩, hv, rfl⟩ := List.mem_map.mp hn
    obtain ⟨f, hf, hb, -⟩ := holds_of_accept h.catalog h.defaults ht ha hv
    have hfield : some Field.id = some f := by
      rw [← hf, field?_of_requireNode ht]
      exact hsound.field_id.symm
    rw [← Option.some.inj hfield] at hb
    cases hb
  have hnames : db.catalog.fieldNames r.type = names t.fields := fieldNames_of_type? (requireNode_ok.mp ht).1
  have hmerged := Record.names_merge (r := r) (keyed_of_accept h.catalog ht ha) hid
  unfold Orders at ho ⊢
  rw [show (r.merge fields).type = r.type from rfl, hnames, hmerged]
  rw [hnames] at ho
  constructor
  · intro hs n hn m hm hnew
    have hm : m ∈ (names fields).filter (· ∉ names r.fields) := List.mem_filter.mpr ⟨hm, by simpa using hnew⟩
    exact ((List.singleton_sublist.mpr hn).append (List.singleton_sublist.mpr hm)).trans hs
  · intro hs
    refine append_sublist hsound.fields_keyed ho (List.filter_sublist.trans (RecordType.names_accept hsound.fields_named ha)) ?_
    intro n hn m hm
    obtain ⟨hm, hnew⟩ := List.mem_filter.mp hm
    exact hs n hn m hm (by simpa using hnew)

omit [Ids] in
theorem Database.Ordered.shrink {R S : String → String → Prop} [∀ T n, Decidable (R T n)] [∀ T n, Decidable (S T n)]
    (h : db.Ordered) (hs : ∀ r ∈ s.records, r ∈ db.store.records)
    (hd : ∀ r ∈ s.records, d.fieldNames r.type = (db.catalog.fieldNames r.type).filter fun n => ¬R r.type n)
    (hf : ∀ r ∈ (s.strip S).records, d.Fits r) : Ordered ⟨d, s.strip S⟩ := by
  intro r hr
  obtain ⟨q, hq, rfl⟩ := Store.mem_strip.mp hr
  exact (h q (hs q hq)).shrink rfl Record.sublist_strip (hd q hq) (hf _ hr)

theorem Effect.ordered (hdb : db.Sound) (h : db.Ordered) (ht : db.InTurn (some (call, request)))
    (e : Effect db call request db') : db'.Ordered := by
  have hfits := hdb.fits_effect e
  cases e with
  | none => exact h
  | createType e =>
    obtain ⟨-, -, rfl⟩ := createType_ok.mp e
    exact fun r hr => (h r hr).grow fun _ => fieldNames_addType
  | createField e =>
    obtain ⟨-, -, -, rfl⟩ := createField_ok.mp e
    exact fun r hr => (h r hr).grow fun _ => fieldNames_addField
  | createConnection e =>
    obtain ⟨-, -, -, rfl⟩ := createConnection_ok.mp e
    exact fun r hr => (h r hr).grow fun _ => fieldNames_addField.trans fieldNames_addField
  | createIndex e =>
    obtain ⟨-, -, -, rfl⟩ := createIndex_ok.mp e
    exact fun r hr => (h r hr).grow fun _ => fieldNames_modifyType fun _ => .refl _
  | deleteIndex e =>
    obtain ⟨-, rfl⟩ := deleteIndex_ok.mp e
    exact fun r hr => (h r hr).grow fun _ => fieldNames_modifyType fun _ => .refl _
  | @deleteType T t _ e =>
    obtain ⟨-, rfl⟩ := deleteType_ok.mp e
    rw [hdb.filed.dropType.unlink_eq_strip] at hfits ⊢
    refine h.shrink (R := Targeted t.links) (fun r hr => (hdb.filed.mem_dropType.mp hr).1) ?_ hfits
    intro r hr
    have hkeyed : Keyed (db.catalog.removeType T).types := hdb.catalog.keyed.erase
    rw [unlink_eq_strip hkeyed, fieldNames_strip, fieldNames_removeType (hdb.filed.mem_dropType.mp hr).2]
  | @deleteField T n _ _ e =>
    obtain ⟨-, rfl⟩ := deleteField_ok.mp e
    rw [hdb.filed.removeField_eq_strip] at hfits ⊢
    refine h.shrink (R := fun U m => (U, m) = (T, n)) (fun r hr => hr) ?_ hfits
    intro r _
    rw [removeField_eq_strip hdb.catalog.keyed, fieldNames_strip]
  | @deleteConnection T n _ _ _ e =>
    obtain ⟨-, l, hl, -, -⟩ := deleteConnection_ok.mp e
    rw [deleteConnection_eq_strip hdb.catalog e hl] at hfits ⊢
    rw [Store.removePair_eq hdb.catalog e hl, hdb.filed.removeField_eq_strip] at hfits ⊢
    refine h.shrink (R := EitherEnd (T, n) (l.targetType, l.targetField)) (fun r hr => hr) ?_ hfits
    intro r _
    rw [fieldNames_strip]
  | @create T _ t fields hr ha =>
    intro r hm
    rcases hdb.filed.of_mem_insert hm with hm | rfl
    · exact h r hm
    · have hnames : db.catalog.fieldNames T = names t.fields := fieldNames_of_type? (requireNode_ok.mp hr).1
      have hmade : (names (erase idName fields)).Sublist (names fields) := List.filter_sublist.map _
      show (names (erase idName fields)).Sublist (db.catalog.fieldNames T)
      rw [hnames]
      exact hmade.trans (RecordType.names_accept (hdb.catalog.sound hr).fields_named ha)
  | @update T id _ t fields _ hr ha hs =>
    intro r hm
    obtain ⟨q, hq, rfl⟩ := hdb.filed.of_mem_update hs hm
    split
    · next hrecord =>
      obtain ⟨rfl, rfl⟩ := hrecord
      exact (hdb.orders_merge_iff (h q hq) hr ha).mpr (ht t hr fields ha q (hdb.filed.get? hq))
    · exact h q hq
  | delete hs => exact fun r hr => h r (hdb.filed.of_mem_delete hs hr)

namespace Engine

theorem ordered_step_iff (hw : w.Sound) (h : w.db.Ordered) (e : Event) :
    (w.step limits e).db.Ordered ↔ w.db.InTurn (w.performed e) := by
  constructor
  · intro hs
    unfold Database.InTurn
    split
    · next T id data hp =>
      intro t ht fields ha r hr
      obtain ⟨hm, rfl, rfl⟩ := hw.db.filed.of_get? hr
      obtain ⟨s, hupdate⟩ : ∃ s, w.db.store.update r.type r.id fields = .ok s :=
        ⟨_, Store.update_eq_ok.mpr ⟨⟨r, hr⟩, rfl⟩⟩
      have hget : s.get? r.type r.id = some (r.merge fields) := by
        rw [Store.get?_update hupdate, hr]
        simp
      have hdb : (w.step limits e).db = ⟨w.db.catalog, s⟩ := by
        rw [db_step_of_performed hp, Call.on_update ht ha hupdate hget]
      rw [hdb] at hs
      exact (hw.db.orders_merge_iff (h r hm) ht ha).mp (hs _ ((hw.db.filed.update hupdate).of_get? hget).1)
    · trivial
  · intro ht
    refine Change.preserves (P := Database.Ordered) (w.change_step limits e) h ?_
    intro p hp he
    rw [hp] at ht
    exact Effect.ordered hw.db h ht he

def InTurn (limits : PageLimits) (w : Engine) : List Event → Prop
  | [] => True
  | e :: es => w.db.InTurn (w.performed e) ∧ (w.step limits e).InTurn limits es

instance decidableInTurn : ∀ (w : Engine) (es : List Event), Decidable (w.InTurn limits es)
  | _, [] => inferInstanceAs (Decidable True)
  | w, e :: es =>
    have := decidableInTurn (w.step limits e) es
    inferInstanceAs (Decidable (_ ∧ _))

theorem ordered_run {es : List Event} (hw : w.Sound) (h : w.db.Ordered) (ht : w.InTurn limits es) :
    (w.run limits es).db.Ordered := by
  induction es generalizing w with
  | nil => exact h
  | cons e es ih => exact ih (hw.step limits e) ((ordered_step_iff hw h e).mpr ht.1) ht.2

/-- As long as no update gives a record a value of a new field in front of one that it has, all records hold their values in
the order of the fields of their types; and the first such update puts a record out of order. -/
theorem ordered_run_initial (limits : PageLimits) (es : List Event) :
    (initial.InTurn limits es → (initial.run limits es).db.Ordered) ∧
      ((initial.run limits es).db.Ordered → ∀ e,
        (((initial.run limits es).step limits e).db.Ordered ↔
          (initial.run limits es).db.InTurn ((initial.run limits es).performed e))) := by
  refine ⟨ordered_run .initial ?_, fun h e => ordered_step_iff Sound.initial.run h e⟩
  intro r hr
  cases hr

end Engine

end Runs

namespace Engine

def secondOnly : List Query.Selection :=
  [.mk .root "createType" none [("name", "A")] [.leaf "success"],
    .mk .root "createField" none [("type", "A"), ("fieldName", "a"), ("fieldType", "string")] [.leaf "success"],
    .mk .root "createField" none [("type", "A"), ("fieldName", "b"), ("fieldType", "string")] [.leaf "success"],
    .mk .root "create" none [("type", "A"), ("data", "\x7b\"b\": \"x\"\x7d")] [.leaf "id"]]

def updateField (field : String) : Query.Selection :=
  .mk .root "update" none [("type", "A"), ("id", "00000000-0000-7000-8000-000000000001"),
    ("data", "\x7b\"" ++ field ++ "\": \"y\"\x7d")] [.leaf "id"]

open scoped Ids in
theorem ordered_run_secondOnly :
    let w := initial.run .standard ((secondOnly ++ [updateField "b"]).map .select)
    w.db.Ordered ∧ ¬(w.step .standard (.select (updateField "a"))).db.Ordered := by
  intro w
  obtain ⟨hrun, hstep⟩ := ordered_run_initial .standard ((secondOnly ++ [updateField "b"]).map .select)
  have hordered : w.db.Ordered := hrun (by decide +kernel)
  refine ⟨hordered, fun hs => ?_⟩
  have hturn := (hstep hordered (.select (updateField "a"))).mp hs
  exact absurd hturn (by decide +kernel)

open scoped Ids in
/-- A record can hold a value behind that of a later field: the later one was given first, and the earlier one by an
update. -/
theorem not_ordered_queries : ¬∀ (limits : PageLimits) (queries : List Query.Selection),
    (initial.run limits (queries.map .select)).db.Ordered := by
  intro hordered
  have hrun := hordered .standard (secondOnly ++ [updateField "a"])
  exact absurd hrun (by decide +kernel)

end Engine

end RecordGraph
