import RecordGraph.Proofs.Engine.Resolution
import RecordGraph.Proofs.Engine.Typed

namespace RecordGraph

open Entries Query Catalog Outcome Operation

def Place.scope : Place → Scope
  | .record T _ => .record T
  | .page T _ _ => .listing T

def Scope.typeName : Scope → String
  | .record T => T
  | .listing T => T

def Scope.Lacks (c : Catalog) : Scope → String → Prop
  | .record T, n => c.field? T n = none
  | .listing _, n => n ≠ "count" ∧ n ≠ "nodes"

/-- What the body of an item of a name selects from, by the catalog. -/
inductive Scope.Next (c : Catalog) : Scope → String → Scope → Prop
  | one {T n : String} {k : Field} {l : Link} (hk : c.field? T n = some k) (hl : k.link = some l) (hs : l.side = .one) :
    Next c (.record T) n (.record l.targetType)
  | many {T n : String} {k : Field} {l : Link} (hk : c.field? T n = some k) (hl : k.link = some l)
    (hs : l.side = .many) : Next c (.record T) n (.listing l.targetType)
  | nodes {T : String} : Next c (.listing T) "nodes" (.record T)

/-- Whether an item, or an item somewhere below it, names what is not there, by the catalog. -/
inductive Misnamed (c : Catalog) : Scope → Selection → Prop
  | here {scope : Scope} {s : Selection} (h : scope.Lacks c s.name) : Misnamed c scope s
  | deeper {scope scope' : Scope} {s t : Selection} (hn : scope.Next c s.name scope') (ht : t ∈ s.children)
    (h : Misnamed c scope' t) : Misnamed c scope s

/-- What the body of an item selects from, by the data too: the record that a reference leads to, the page that the
parameters ask for, or each record of a page. -/
inductive Place.Next (db : Database) (limits : PageLimits) : Place → Selection → Place → Prop
  | one {T n : String} {r u : Record} {k : Field} {l : Link} {form : Form} {aliasName : Option String}
    {parameters : Entries String} {children : List Selection} (hk : db.catalog.field? T n = some k)
    (hl : k.link = some l) (hs : l.side = .one) (hform : form ≠ .leaf)
    (hu : (r.reference? n).bind (db.store.get? l.targetType) = some u) :
    Next db limits (.record T r) (.mk form n aliasName parameters children) (.record l.targetType u)
  | many {T n : String} {r : Record} {k : Field} {l : Link} {form : Form} {aliasName : Option String}
    {parameters : Entries String} {children : List Selection} {count : Nat} {shown : List Record}
    (hk : db.catalog.field? T n = some k) (hl : k.link = some l) (hs : l.side = .many)
    (hp : referring db limits l r n parameters = .ok (count, shown)) :
    Next db limits (.record T r) (.mk form n aliasName parameters children) (.page l.targetType count shown)
  | nodes {T : String} {t : Record} {form : Form} {aliasName : Option String} {parameters : Entries String}
    {children : List Selection} {count : Nat} {shown : List Record} (ht : t ∈ shown) :
    Next db limits (.page T count shown) (.mk form "nodes" aliasName parameters children) (.record T t)

/-- Whether the walk from an item comes to a name that is not there, and at which type. -/
inductive Met (db : Database) (limits : PageLimits) : Place → Selection → String → String → Prop
  | here {place : Place} {s : Selection} (h : place.scope.Lacks db.catalog s.name) :
    Met db limits place s place.scope.typeName s.name
  | deeper {place place' : Place} {s t : Selection} {U n : String} (hn : place.Next db limits s place')
    (ht : t ∈ s.children) (h : Met db limits place' t U n) : Met db limits place s U n

variable {db : Database} {limits : PageLimits} {c : Catalog} {T U n : String} {r : Record} {s t : Selection}
variable {selection children : List Selection} {count : Nat} {shown : List Record} {place place' : Place}
variable {aliasName : Option String} {form : Form} {parameters : Entries String} {w : String × Json} {v : Json}

theorem item_of_resolveRecord (h : resolveRecord db limits T r children = .ok v) :
    ∀ s ∈ children, ∃ w, (Place.record T r).item db limits s = .ok w := by
  intro s hs
  rw [resolveRecord_eq] at h
  cases children with
  | nil => cases hs
  | cons _ _ =>
    obtain ⟨e, he, h⟩ := bind_eq_ok.mp h
    obtain ⟨values, hvalues, -⟩ := map_eq_ok.mp h
    rw [recordItems_eq_mapM] at hvalues
    obtain ⟨w, -, hw⟩ := exists_of_mapM_ok hvalues hs
    exact ⟨w, bind_eq_ok.mpr ⟨e, he, hw⟩⟩

theorem item_of_resolveListing (h : resolveListing db limits T count shown children = .ok v) :
    ∀ s ∈ children, ∃ w, (Place.page T count shown).item db limits s = .ok w := by
  intro s hs
  rw [resolveListing_eq] at h
  cases children with
  | nil => cases hs
  | cons _ _ =>
    obtain ⟨values, hvalues, -⟩ := map_eq_ok.mp h
    rw [listingItems_eq_mapM] at hvalues
    obtain ⟨w, -, hw⟩ := exists_of_mapM_ok hvalues hs
    exact ⟨w, hw⟩

theorem Place.Next.item_ok (hn : place.Next db limits s place') (h : place.item db limits s = .ok w) :
    ∀ t ∈ s.children, ∃ w, place'.item db limits t = .ok w := by
  cases hn with
  | @one T n r u k l form aliasName parameters children hk hl hs hform hu =>
    obtain ⟨e, he, h⟩ := bind_eq_ok.mp h
    rw [field?_of_requireNode he] at hk
    cases parameters with
    | cons _ _ => simp [recordItem, hk, hl, hs, rejectParameters, bind, Except.bind] at h
    | nil =>
      rw [recordItem_body hk hl hs hform, hu] at h
      obtain ⟨v, hv, -⟩ := map_eq_ok.mp h
      exact item_of_resolveRecord hv
  | many hk hl hs hp =>
    obtain ⟨e, he, h⟩ := bind_eq_ok.mp h
    rw [field?_of_requireNode he] at hk
    rw [recordItem_many hk hl hs, hp] at h
    obtain ⟨v, hv, -⟩ := map_eq_ok.mp h
    exact item_of_resolveListing hv
  | @nodes T t form aliasName parameters children count shown ht =>
    cases parameters with
    | cons _ _ => simp [Place.item, listingItem, rejectParameters, bind, Except.bind] at h
    | nil =>
      rw [Place.item, listingItem_nodes] at h
      obtain ⟨values, hvalues, -⟩ := bind_eq_ok.mp h
      obtain ⟨v, -, hv⟩ := exists_of_mapM_ok hvalues ht
      exact item_of_resolveRecord hv

theorem item_ne_ok_of_lacks (place : Place) (h : place.scope.Lacks db.catalog s.name) : place.item db limits s ≠ .ok w := by
  intro hw
  obtain ⟨form, n, aliasName, parameters, children⟩ := s
  cases place with
  | record T r =>
    obtain ⟨e, he, hw⟩ := bind_eq_ok.mp hw
    have hnone : e.field? n = none := (field?_of_requireNode he).symm.trans h
    simp [recordItem, hnone] at hw
  | page T count shown =>
    obtain ⟨⟨⟩, -, hw⟩ := bind_eq_ok.mp hw
    obtain ⟨hcount, hnodes⟩ : n ≠ "count" ∧ n ≠ "nodes" := h
    simp [hcount, hnodes] at hw

theorem item_ne_ok_of_met (h : Met db limits place s U n) : ∀ w, place.item db limits s ≠ .ok w := by
  induction h with
  | here h => exact fun w => item_ne_ok_of_lacks _ h
  | deeper hn ht _ ih =>
    intro w hw
    obtain ⟨w', hw'⟩ := hn.item_ok hw _ ht
    exact ih w' hw'

/-- Whether a fault, if it is an unknown field, is one that the walk from an item comes to. -/
def Blames (db : Database) (limits : PageLimits) (place : Place) (s : Selection) (e : Fault) : Prop :=
  ∀ U n, e = .unknownField U n → Met db limits place s U n

theorem Blames.deeper {e : Fault} (hn : place.Next db limits s place') (ht : t ∈ s.children)
    (h : Blames db limits place' t e) : Blames db limits place s e := fun U n he => .deeper hn ht (h U n he)

theorem blames_invalidParameter (parameter : String) (objection : Objection) :
    Blames db limits place s (.invalidParameter parameter objection) := by
  intro U n he
  cases he

theorem blames_requireNode (T : String) : Refuses (Blames db limits place s) (db.catalog.requireNode T) := by
  have hget : Refuses (Blames db limits place s) (db.catalog.getType T) := by
    unfold getType
    split
    · exact refuses_ok
    · apply refuses_throw
      intro U n he
      cases he
  refine hget.bind fun t _ => ?_
  split
  · exact refuses_pure
  · apply refuses_throw
    intro U n he
    cases he

theorem refuses_resolveRecord_of_items {P : Fault → Prop} (he : Refuses P (db.catalog.requireNode T))
    (h : ∀ s ∈ children, Refuses P ((Place.record T r).item db limits s)) :
    Refuses P (resolveRecord db limits T r children) := by
  rw [resolveRecord_eq]
  split
  · exact refuses_ok
  refine he.bind fun e hok => ?_
  rw [recordItems_eq_mapM]
  apply Refuses.map
  apply refuses_mapM
  intro s hs
  have hitem := h s hs
  rwa [Place.item, hok, ok_bind] at hitem

theorem refuses_resolveListing_of_items {P : Fault → Prop}
    (h : ∀ s ∈ children, Refuses P ((Place.page T count shown).item db limits s)) :
    Refuses P (resolveListing db limits T count shown children) := by
  rw [resolveListing_eq]
  split
  · exact refuses_ok
  · rw [listingItems_eq_mapM]
    exact (refuses_mapM h).map

theorem blames_item_record (h : db.catalog.Regular)
    (ih : ∀ t ∈ children, ∀ place, Refuses (Blames db limits place t) (place.item db limits t)) :
    Refuses (Blames db limits (.record T r) (.mk form n aliasName parameters children))
      ((Place.record T r).item db limits (.mk form n aliasName parameters children)) := by
  refine (blames_requireNode T).bind fun e he => ?_
  have hname : e.name = T := h.name_of_type? (requireNode_ok.mp he).1
  cases hk : e.field? n with
  | none =>
    have hlacks : (Place.record T r).scope.Lacks db.catalog n := (field?_of_requireNode he).trans hk
    rw [recordItem, hk]
    apply refuses_throw
    intro U m hm
    obtain ⟨rfl, rfl⟩ : e.name = U ∧ n = m := by simpa using hm
    rw [hname]
    exact .here hlacks
  | some k =>
    have hfield : db.catalog.field? T n = some k := (field?_of_requireNode he).trans hk
    cases hl : k.link with
    | none =>
      rw [recordItem]
      simp only [hk, hl]
      refine (refuses_rejectParameters blames_invalidParameter).bind fun _ _ => Refuses.guard refuses_pure ?_
      intro U m hm
      cases hm
    | some l =>
      cases hs : l.side with
      | many =>
        rw [recordItem_many hk hl hs]
        refine (refuses_referring blames_invalidParameter).bind fun found hfound => Refuses.map ?_
        refine refuses_resolveListing_of_items fun t ht => (ih t ht _).mono fun x hx => ?_
        exact hx.deeper (.many hfield hl hs hfound) ht
      | one =>
        cases parameters with
        | cons p parameters =>
          rw [recordItem]
          simp only [hk, hl, hs, reduceCtorEq, if_false]
          exact refuses_throw (blames_invalidParameter _ _)
        | nil =>
          by_cases hform : form = .leaf
          · subst hform
            rw [recordItem_leaf hk hl hs]
            exact refuses_ok
          rw [recordItem_body hk hl hs hform]
          cases hu : (r.reference? n).bind (db.store.get? l.targetType) with
          | none => exact refuses_ok
          | some u =>
            apply Refuses.map
            refine refuses_resolveRecord_of_items (blames_requireNode _) fun t ht => (ih t ht _).mono fun x hx => ?_
            exact hx.deeper (.one hfield hl hs hform hu) ht

theorem blames_item_page (ih : ∀ t ∈ children, ∀ place, Refuses (Blames db limits place t) (place.item db limits t)) :
    Refuses (Blames db limits (.page T count shown) (.mk form n aliasName parameters children))
      ((Place.page T count shown).item db limits (.mk form n aliasName parameters children)) := by
  cases parameters with
  | cons p parameters => exact refuses_throw (blames_invalidParameter _ _)
  | nil =>
    by_cases hcount : n = "count"
    · subst hcount
      exact refuses_ok
    by_cases hnodes : n = "nodes"
    · subst hnodes
      rw [Place.item, listingItem_nodes]
      apply Refuses.bind
      · refine refuses_mapM fun u hu => refuses_resolveRecord_of_items (blames_requireNode _) fun t ht => ?_
        exact (ih t ht _).mono fun x hx => hx.deeper (.nodes hu) ht
      · exact fun _ _ => refuses_pure
    · have hlacks : (Place.page T count shown).scope.Lacks db.catalog n := ⟨hcount, hnodes⟩
      rw [Place.item, listingItem]
      simp only [rejectParameters, ok_bind, hcount, hnodes, if_false]
      apply refuses_throw
      intro U m hm
      obtain ⟨rfl, rfl⟩ : T = U ∧ n = m := by simpa using hm
      exact .here hlacks

theorem blames_item (h : db.catalog.Regular) : ∀ (s : Selection) (place : Place),
    Refuses (Blames db limits place s) (place.item db limits s)
  | .mk form n aliasName parameters children, place => by
    have ih : ∀ t ∈ children, ∀ place, Refuses (Blames db limits place t) (place.item db limits t) :=
      fun t _ => blames_item h t
    cases place with
    | record T r => exact blames_item_record h ih
    | page T count shown => exact blames_item_page ih

section Runs

variable [Ids]

def nodeQuery (form : Form) (aliasName : Option String) (T id : String) (selection : List Selection) : Selection :=
  .mk form "node" aliasName [("type", T), ("id", id)] selection

theorem on_nodeQuery {e : RecordType} (he : db.catalog.requireNode T = .ok e) (hr : db.store.get? T r.id = some r) :
    (executeSelection limits (nodeQuery form aliasName T r.id selection)).on db =
      ((resolveRecord db limits T r selection).map fun v => .object [(aliasName.getD "node", v)], db) := by
  have hname : Call.ofName (nodeQuery form aliasName T r.id selection).name = .ok .node := Call.ofName_name .node
  have hprocess : Call.node.process db.catalog (nodeQuery form aliasName T r.id selection).parameters =
      .ok (.node T r.id) := by
    have hdecode : Call.node.process db.catalog [("type", T), ("id", r.id)] =
        db.catalog.requireNode T >>= fun _ => pure (.node T r.id) := rfl
    rw [nodeQuery, Selection.parameters, hdecode, he]
    rfl
  have hperform : (Call.node.perform limits (.node T r.id)).on db = (.ok (.record T r), db) := by
    rw [Call.perform, on_ask_bind, he]
    dsimp only
    rw [on_fetch_bind, hr]
    rfl
  rw [on_executeSelection, hname, ok_bind, hprocess]
  dsimp only [Except.map, Database.answer]
  rw [hperform]
  rfl

/-- Whether an item names what is not there, in itself or as an item of a connection's many side. -/
def MisnamedAtTop (c : Catalog) (T : String) (s : Selection) : Prop :=
  (Scope.record T).Lacks c s.name ∨
    ∃ U, (Scope.record T).Next c s.name (.listing U) ∧ ∃ t ∈ s.children, (Scope.listing U).Lacks c t.name

omit [Ids] in
theorem item_ne_ok_of_atTop (h : MisnamedAtTop db.catalog T s) : ∀ w, (Place.record T r).item db limits s ≠ .ok w := by
  intro w hw
  rcases h with h | ⟨U, hn, t, ht, h⟩
  · exact item_ne_ok_of_lacks (.record T r) h hw
  obtain ⟨form, n, aliasName, parameters, children⟩ := s
  cases hn with
  | many hk hl hs =>
    obtain ⟨e, he, hitem⟩ := bind_eq_ok.mp hw
    have hfield : e.field? n = some _ := (field?_of_requireNode he).symm.trans hk
    rw [recordItem_many hfield hl hs] at hitem
    obtain ⟨found, hfound, -⟩ := bind_eq_ok.mp hitem
    obtain ⟨w', hw'⟩ := Place.Next.item_ok (.many hk hl hs hfound) hw t ht
    exact item_ne_ok_of_lacks (.page _ found.1 found.2) h hw'

theorem on_nodeQuery_error {e : RecordType} (he : db.catalog.requireNode T = .ok e)
    (hr : db.store.get? T r.id = some r) (hs : s ∈ selection) (h : ∀ w, (Place.record T r).item db limits s ≠ .ok w) :
    ∃ x, (executeSelection limits (nodeQuery form aliasName T r.id selection)).on db = (.error x, db) := by
  rw [on_nodeQuery he hr]
  cases hv : resolveRecord db limits T r selection with
  | error x => exact ⟨x, rfl⟩
  | ok v =>
    obtain ⟨w, hw⟩ := item_of_resolveRecord hv s hs
    exact absurd hw (h w)

theorem Database.Reachable.get? (h : db.Reachable) (hr : r ∈ db.store.list T []) : db.store.get? T r.id = some r := by
  obtain ⟨hm, rfl⟩ := h.filed.mem_list.mp hr
  exact h.filed.get? hm

/-- In every state that a database can be brought to, a selection from a record is refused, and nothing is changed, if the
walk along its items comes to a name that is not there; and an unknown field is reported only for such a name, with the type
at that place. Whether names are there at the top of the selection is a question to the catalog: one that is missing there is
refused in all states with this catalog, for all records of the type. -/
theorem misnamed_refused (limits : PageLimits) (h : db.Reachable) {e : RecordType}
    (he : db.catalog.requireNode T = .ok e) (form : Form) (aliasName : Option String) (selection : List Selection) :
    (∀ r ∈ db.store.list T [],
      let answer := (executeSelection limits (nodeQuery form aliasName T r.id selection)).on db
      ((∃ s ∈ selection, ∃ U n, Met db limits (.record T r) s U n) → ∃ x, answer = (.error x, db)) ∧
      ∀ U n, answer.1 = .error (.unknownField U n) → ∃ s ∈ selection, Met db limits (.record T r) s U n) ∧
    ((∃ s ∈ selection, MisnamedAtTop db.catalog T s) → ∀ db', db'.Reachable → db'.catalog = db.catalog →
      ∀ r ∈ db'.store.list T [], ∃ x,
        (executeSelection limits (nodeQuery form aliasName T r.id selection)).on db' = (.error x, db')) := by
  refine ⟨fun r hr => ⟨?_, ?_⟩, ?_⟩
  · rintro ⟨s, hs, U, n, hmet⟩
    exact on_nodeQuery_error he (h.get? hr) hs (item_ne_ok_of_met hmet)
  · intro U n hx
    rw [on_nodeQuery he (h.get? hr)] at hx
    have hblames : Refuses (fun x => ∀ U n, x = .unknownField U n → ∃ s ∈ selection, Met db limits (.record T r) s U n)
        (resolveRecord db limits T r selection) := by
      apply refuses_resolveRecord_of_items
      · rw [he]
        exact refuses_ok
      · exact fun s hs => (blames_item h.wellFormed.toRegular s _).mono fun x hx U n hxn => ⟨s, hs, hx U n hxn⟩
    exact hblames.map _ hx U n rfl
  · rintro ⟨s, hs, htop⟩ db' h' hc r hr
    rw [← hc] at he htop
    exact on_nodeQuery_error he (h'.get? hr) hs (item_ne_ok_of_atTop htop)

end Runs

section Examples

open scoped Ids

def selfReference (refers : Bool) : Database :=
  let made : List Event := [.process .createType [("name", "A")], .perform .createType 0,
    .process .createConnection [("type", "A"), ("fieldName", "f"), ("targetType", "A"), ("targetFieldName", "g")],
    .perform .createConnection 1, .process .create [("type", "A"), ("data", "\x7b\x7d")], .perform .create 2]
  let set : List Event := [.process .update [("type", "A"), ("id", "00000000-0000-7000-8000-000000000001"),
    ("data", "\x7b\"f\": \"00000000-0000-7000-8000-000000000001\"\x7d")], .perform .update 3]
  (Engine.initial.run .standard (if refers then made ++ set else made)).db

theorem reachable_selfReference (refers : Bool) : (selfReference refers).Reachable := Database.Reachable.initial.run

theorem requireNode_selfReference (refers : Bool) : (selfReference refers).catalog.requireNode "A" =
    .ok ⟨"A", true, [(idName, .id), ("f", .connection "f" "A" "g" .one),
      ("g", .connection "g" "A" "f" .many)], [(idName, .id)]⟩ := by
  cases refers <;> decide +kernel

theorem misnamed_refused_selfReference :
    let db := selfReference true
    let r : Record := ⟨"00000000-0000-7000-8000-000000000001", "A", [("f", .connection "00000000-0000-7000-8000-000000000001")]⟩
    (∃ x, (executeSelection .standard (nodeQuery .root none "A" r.id [.mk .node "f" none [] [.leaf "h"]])).on db =
      (.error x, db)) ∧
    (∃ s ∈ [Selection.leaf "id", .leaf "h"], Met db .standard (.record "A" r) s "A" "h") ∧
    ∃ x, (executeSelection .standard (nodeQuery .root none "A" "00000000-0000-7000-8000-000000000001"
      [.mk .node "g" none [] [.leaf "h"]])).on (selfReference false) = (.error x, selfReference false) := by
  intro db r
  have hr : r ∈ db.store.list "A" [] := by decide +kernel
  have hf : db.catalog.field? "A" "f" = some (.connection "f" "A" "g" .one) := by decide +kernel
  have hg : db.catalog.field? "A" "g" = some (.connection "g" "A" "f" .many) := by decide +kernel
  have hh : db.catalog.field? "A" "h" = none := by decide +kernel
  have hu : (r.reference? "f").bind (db.store.get? "A") = some r := by decide +kernel
  have hall := fun selection =>
    misnamed_refused .standard (reachable_selfReference true) (requireNode_selfReference true) .root none selection
  refine ⟨?_, ?_, ?_⟩
  · exact ((hall _).1 r hr).1 ⟨_, List.mem_singleton_self _, "A", "h",
      .deeper (.one hf rfl rfl (by decide) hu) (List.mem_singleton_self _) (.here hh)⟩
  · exact ((hall _).1 r hr).2 "A" "h" (by decide +kernel)
  · have htop : MisnamedAtTop db.catalog "A" (.mk .node "g" none [] [.leaf "h"]) :=
      .inr ⟨"A", .many hg rfl rfl, .leaf "h", List.mem_singleton_self _, by decide, by decide⟩
    exact (hall _).2 ⟨_, List.mem_singleton_self _, htop⟩ _ (reachable_selfReference false) (by decide +kernel)
      ⟨"00000000-0000-7000-8000-000000000001", "A", []⟩ (by decide +kernel)

/-- The body of a reference that is not set is not looked at. So a selection with a name that is not there can be answered,
and of two states with one catalog, one can refuse it and the other answer it. -/
theorem not_misnamed_refused :
    (¬∀ (db : Database) (T : String) (e : RecordType) (r : Record) (selection : List Selection), db.Reachable →
      db.catalog.requireNode T = .ok e → r ∈ db.store.list T [] →
      (∃ s ∈ selection, Misnamed db.catalog (.record T) s) →
      ∃ x, ((executeSelection .standard (nodeQuery .root none T r.id selection)).on db).1 = .error x) ∧
    ¬∀ (db db' : Database) (T : String) (e : RecordType) (r r' : Record) (selection : List Selection), db.Reachable →
      db'.Reachable → db'.catalog = db.catalog → db.catalog.requireNode T = .ok e → r ∈ db.store.list T [] →
      r' ∈ db'.store.list T [] → (∃ s ∈ selection, Misnamed db.catalog (.record T) s) →
      (((executeSelection .standard (nodeQuery .root none T r.id selection)).on db).1.isOk ↔
        ((executeSelection .standard (nodeQuery .root none T r'.id selection)).on db').1.isOk) := by
  let selection : List Selection := [.mk .node "f" none [] [.leaf "h"]]
  have hmisnamed : ∃ s ∈ selection, Misnamed (selfReference false).catalog (.record "A") s := by
    have hf : (selfReference false).catalog.field? "A" "f" = some (.connection "f" "A" "g" .one) := by decide +kernel
    have hh : (selfReference false).catalog.field? "A" "h" = none := by decide +kernel
    exact ⟨_, List.mem_singleton_self _, .deeper (.one hf rfl rfl) (List.mem_singleton_self _) (.here hh)⟩
  have hr : ⟨"00000000-0000-7000-8000-000000000001", "A", []⟩ ∈ (selfReference false).store.list "A" [] := by
    decide +kernel
  have hanswered : ((executeSelection .standard (nodeQuery .root none "A" "00000000-0000-7000-8000-000000000001"
      selection)).on (selfReference false)).1.isOk := by decide +kernel
  constructor
  · intro hrefused
    obtain ⟨x, hx⟩ := hrefused _ "A" _ _ selection (reachable_selfReference false) (requireNode_selfReference false) hr
      hmisnamed
    rw [hx] at hanswered
    cases hanswered
  · intro hsame
    have hr' : ⟨"00000000-0000-7000-8000-000000000001", "A",
        [("f", .connection "00000000-0000-7000-8000-000000000001")]⟩ ∈ (selfReference true).store.list "A" [] := by
      decide +kernel
    have hboth := hsame _ (selfReference true) "A" _ _ _ selection (reachable_selfReference false)
      (reachable_selfReference true) (by decide +kernel) (requireNode_selfReference false) hr hr' hmisnamed
    have hrefused : ¬((executeSelection .standard (nodeQuery .root none "A" "00000000-0000-7000-8000-000000000001"
        selection)).on (selfReference true)).1.isOk := by decide +kernel
    exact hrefused (hboth.mp hanswered)

end Examples

end RecordGraph
