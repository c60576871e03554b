import RecordGraph.Proofs.Engine.Conforms
import RecordGraph.Proofs.Engine.Items
import RecordGraph.Proofs.Page

namespace RecordGraph

open Entries Query Catalog Outcome

/-- The records of a type that refer to a record through a field. -/
def Store.referrers (s : Store) (T f : String) (u : Record) : List Record :=
  (s.list T []).filter fun t => t.fields.get? f = some (.connection u.id)

def pageParameters (first after : Option String) : Entries String :=
  (first.map ("first", ·)).toList ++ (after.map ("after", ·)).toList

/-- Whether a page of a connection's many side shows some records of a type, and how many there are in all. -/
def Shows (db : Database) (limits : PageLimits) (U g : String) (u : Record) (T : String) (count : Nat)
    (first after : Option String) (shown : List Record) : Prop :=
  ∀ form aliasName children, resolveRecord db limits U u [.mk form g aliasName (pageParameters first after) children] =
    (resolveListing db limits T count shown children).map fun v => .object [(aliasName.getD g, v)]

/-- Whether a connection's one side, selected with a body, leads to a record. -/
def LeadsTo (db : Database) (limits : PageLimits) (T f : String) (t : Record) (U : String) (u : Record) : Prop :=
  ∀ form aliasName children, form ≠ .leaf → resolveRecord db limits T t [.mk form f aliasName [] children] =
    (resolveRecord db limits U u children).map fun v => .object [(aliasName.getD f, v)]

variable {db : Database} {limits : PageLimits} {T U f g : String} {k : Field} {l : Link} {t u : Record} {form : Form}

theorem list_refersTo (hf : f ≠ idName) (u : Record) : db.store.list T (refersTo f u) = db.store.referrers T f u := by
  have hsame : ∀ v : Value, (Value.connection u.id).same v = decide (v = .connection u.id) := by
    intro v
    have hcomm : (Value.connection u.id).same v = decide (Value.connection u.id = v) := by cases v <;> rfl
    rw [hcomm]
    exact decide_eq_decide.mpr eq_comm
  have hmeets : ∀ t : Record, t.meets (f, .connection u.id) = decide (t.fields.get? f = some (.connection u.id)) := by
    intro t
    rw [Record.meets, if_neg hf]
    cases t.fields.get? f with
    | none => rfl
    | some v => simp [hsame]
  rw [Store.referrers, Store.list, Store.list, List.filter_filter]
  apply List.filter_congr
  intro t _
  simp [refersTo, Filters.matches, hmeets, Bool.and_comm]

theorem get?_first_pageParameters (first after : Option String) : (pageParameters first after).get? "first" = first := by
  cases first <;> cases after <;> rfl

theorem get?_after_pageParameters (first after : Option String) : (pageParameters first after).get? "after" = after := by
  cases first <;> cases after <;> rfl

theorem referring_ok {first after : Option String} {size : Option Nat} {shown : List Record}
    (hfirst : first.map (Parameter.count "first") = size.map .ok) (hf : l.targetField ≠ idName)
    (hp : page (db.store.referrers l.targetType l.targetField u) size after limits = .ok shown) :
    referring db limits l u g (pageParameters first after) =
      .ok ((db.store.referrers l.targetType l.targetField u).length, shown) := by
  have honly : ∀ p ∈ pageParameters first after, p.1 = "first" ∨ p.1 = "after" := by
    cases first <;> cases after <;> simp [pageParameters]
  rw [← get?_first_pageParameters first after] at hfirst
  rw [referring_eq hfirst honly, get?_after_pageParameters, list_refersTo hf, hp]
  rfl

section Runs

variable [Ids]

/-- What a record stores for a connection is an id. -/
theorem get?_eq_reference? (h : db.Sound) (hf : db.catalog.field? T f = some k) (hl : k.link = some l)
    (ht : t ∈ db.store.list T []) : t.fields.get? f = (t.reference? f).map .connection := by
  obtain ⟨hm, rfl⟩ := h.filed.mem_list.mp ht
  obtain ⟨e, -, he, hk⟩ := h.catalog.sound_of_field? hf
  have hkind : k.kind = .connection := (he.field_kind (f, k) (mem_of_get? hk)).mpr (by simp [Field.isConnection, hl])
  unfold Record.reference?
  cases hv : t.fields.get? f with
  | none => rfl
  | some v =>
    obtain ⟨k', hk', -, -, hvk⟩ := (h.fits t hm).holds f v (Entries.mem_of_get? hv)
    obtain rfl : k = k' := Option.some.inj (hf.symm.trans hk')
    rw [hkind] at hvk
    cases v with
    | connection id => rfl
    | _ => cases hvk

theorem mem_referrers (h : db.Sound) (hf : db.catalog.field? T f = some k) (hl : k.link = some l)
    (ht : t ∈ db.store.list T []) : t ∈ db.store.referrers T f u ↔ t.reference? f = some u.id := by
  rw [Store.referrers, List.mem_filter, decide_eq_true_eq, get?_eq_reference? h hf hl ht]
  cases t.reference? f with
  | none => simp
  | some id => simp [ht]

theorem shows_page {first after : Option String} {size : Option Nat} {shown : List Record} (h : db.Sound)
    (hf : db.catalog.field? T f = some k) (hl : k.link = some ⟨U, g, .one⟩)
    (hfirst : first.map (Parameter.count "first") = size.map .ok)
    (hp : page (db.store.referrers T f u) size after limits = .ok shown) :
    Shows db limits U g u T (db.store.referrers T f u).length first after shown := by
  intro form aliasName children
  obtain ⟨j, hj, hjl⟩ : ∃ j, db.catalog.field? U g = some j ∧ j.link = some ⟨T, f, .many⟩ :=
    h.catalog.linksBack.other_end hf hl
  obtain ⟨e, he⟩ := h.catalog.isNode_of_field? hj
  have hfound : referring db limits ⟨T, f, .many⟩ u g (pageParameters first after) =
      .ok ((db.store.referrers T f u).length, shown) :=
    referring_ok hfirst (h.catalog.ne_id hf hl) hp
  rw [field?_of_requireNode he] at hj
  rw [resolveRecord_singleton he, recordItem_many hj hjl rfl, hfound, ok_bind]
  cases resolveListing db limits T (db.store.referrers T f u).length shown children <;> rfl

theorem resolveRecord_leaf (h : db.Sound) (hf : db.catalog.field? T f = some k) (hl : k.link = some ⟨U, g, .one⟩)
    (t : Record) (aliasName : Option String) : resolveRecord db limits T t [.mk .leaf f aliasName [] []] =
      .ok (.object [(aliasName.getD f, (t.reference? f).elim .null .string)]) := by
  obtain ⟨e, he⟩ := h.catalog.isNode_of_field? hf
  rw [field?_of_requireNode he] at hf
  rw [resolveRecord_singleton he, recordItem_leaf hf hl rfl]
  rfl

theorem resolveRecord_body (h : db.Sound) (hf : db.catalog.field? T f = some k) (hl : k.link = some ⟨U, g, .one⟩)
    (t : Record) (aliasName : Option String) (children : List Selection) (hform : form ≠ .leaf) :
    resolveRecord db limits T t [.mk form f aliasName [] children] =
      match (t.reference? f).bind (db.store.get? U) with
      | none => .ok (.object [(aliasName.getD f, .null)])
      | some u => (resolveRecord db limits U u children).map fun v => .object [(aliasName.getD f, v)] := by
  obtain ⟨e, he⟩ := h.catalog.isNode_of_field? hf
  rw [field?_of_requireNode he] at hf
  rw [resolveRecord_singleton he, recordItem_body hf hl rfl hform]
  cases (t.reference? f).bind (db.store.get? U) with
  | none => rfl
  | some u =>
    dsimp only
    cases resolveRecord db limits U u children <;> rfl

/-- A record is listed on the many side of a record if and only if its one side leads to that record. -/
theorem mem_referrers_iff_leadsTo (h : db.Sound) (hf : db.catalog.field? T f = some k)
    (hl : k.link = some ⟨U, g, .one⟩) (ht : t ∈ db.store.list T []) (hu : u ∈ db.store.list U []) :
    t ∈ db.store.referrers T f u ↔ LeadsTo db limits T f t U u := by
  rw [mem_referrers h hf hl ht]
  constructor
  · intro href form aliasName children hform
    obtain ⟨hm, rfl⟩ := h.filed.mem_list.mp hu
    have hfound : (t.reference? f).bind (db.store.get? u.type) = some u := by
      rw [href]
      exact h.filed.get? hm
    rw [resolveRecord_body h hf hl t aliasName children hform, hfound]
  · intro hleads
    -- with nothing selected, the whole record is shown, and with it its id
    have hwhole := hleads .node none [] (by decide)
    rw [resolveRecord_body h hf hl t none [] (by decide)] at hwhole
    cases hfound : (t.reference? f).bind (db.store.get? U) with
    | none =>
      rw [hfound] at hwhole
      cases hwhole
    | some u' =>
      rw [hfound] at hwhole
      obtain ⟨id, href, hget⟩ := Option.bind_eq_some_iff.mp hfound
      obtain ⟨-, -, hid⟩ := h.filed.of_get? hget
      have hsame : u'.id = u.id := by
        have hjson : u'.toJson = u.toJson := by
          simpa [resolveRecord_eq, Except.map] using hwhole
        simp only [Record.toJson, Json.object.injEq, List.cons.injEq, Prod.mk.injEq, Json.string.injEq, true_and] at hjson
        exact hjson.1
      rw [href, ← hid, hsame]

/-- In every state that a run reaches, both sides of every connection tell the same. The many side of a record counts the
records that refer to it, and its pages, whatever their size, are these records in the order of their insertion. The one side
of a record is the id that it stores, or the record of that id, and that is the record on whose many side it is listed. -/
theorem sides_agree_initial (limits : PageLimits) (es : List Event) (T f U g : String) (k : Field)
    (hf : (Engine.initial.run limits es).db.catalog.field? T f = some k) (hl : k.link = some ⟨U, g, .one⟩) :
    let db := (Engine.initial.run limits es).db
    (∀ u ∈ db.store.list U [],
      Ascending (db.store.referrers T f u) ∧
      resolveRecord db limits U u [.mk .node g none [] [.leaf "count"]] =
        .ok (.object [(g, .object [("count", .int (db.store.referrers T f u).length)])]) ∧
      ∀ first size, first.map (Parameter.count "first") = size.map .ok → 0 < limits.pageSize size →
        ∃ pages, Turned (Shows db limits U g u T (db.store.referrers T f u).length first) none pages ∧
          pages.flatten = db.store.referrers T f u) ∧
    ∀ t ∈ db.store.list T [],
      t.fields.get? f = (t.reference? f).map .connection ∧
      (∀ aliasName, resolveRecord db limits T t [.mk .leaf f aliasName [] []] =
        .ok (.object [(aliasName.getD f, (t.reference? f).elim .null .string)])) ∧
      (∀ form aliasName children, form ≠ .leaf → resolveRecord db limits T t [.mk form f aliasName [] children] =
        match (t.reference? f).bind (db.store.get? U) with
        | none => .ok (.object [(aliasName.getD f, .null)])
        | some u => (resolveRecord db limits U u children).map fun v => .object [(aliasName.getD f, v)]) ∧
      ∀ u ∈ db.store.list U [], t ∈ db.store.referrers T f u ↔ LeadsTo db limits T f t U u := by
  intro db
  have hengine : (Engine.initial.run limits es).Sound := Engine.Sound.initial.run
  have h : db.Sound := hengine.db
  refine ⟨fun u hu => ?_, fun t ht => ?_⟩
  · have hascending : Ascending (db.store.referrers T f u) :=
      (h.filed.ascending T []).sublist List.filter_sublist
    refine ⟨hascending, ?_, ?_⟩
    · have hfirst : (none : Option String).map (Parameter.count "first") = (none : Option Nat).map .ok := rfl
      have hshows : Shows db limits U g u T (db.store.referrers T f u).length none none _ :=
        shows_page h hf hl hfirst rfl
      exact hshows .node none [.leaf "count"]
    · intro first size hfirst hpos
      obtain ⟨pages, hturned, hflat, -⟩ := exists_turned hascending.nodup (List.nil_append _).symm hpos
      exact ⟨pages, hturned.mono fun after shown hp => shows_page h hf hl hfirst hp, hflat⟩
  · exact ⟨get?_eq_reference? h hf hl ht, resolveRecord_leaf h hf hl t,
      fun form aliasName children => resolveRecord_body h hf hl t aliasName children,
      fun u => mem_referrers_iff_leadsTo h hf hl ht⟩

end Runs

def reference : List Event :=
  [.process .createType [("name", "A")], .perform .createType 0, .process .createType [("name", "B")],
    .perform .createType 1,
    .process .createConnection [("type", "A"), ("fieldName", "f"), ("targetType", "B"), ("targetFieldName", "g")],
    .perform .createConnection 2,
    .process .create [("type", "B"), ("data", "\x7b\x7d")], .perform .create 3,
    .process .create [("type", "A"), ("data", "\x7b\"f\": \"00000000-0000-7000-8000-000000000001\"\x7d")],
    .perform .create 4, .process .create [("type", "A"), ("data", "\x7b\x7d")], .perform .create 5]

open scoped Ids in
theorem sides_agree_reference :
    let db := (Engine.initial.run .standard reference).db
    (∀ u ∈ db.store.list "B" [], ∃ pages,
      Turned (Shows db .standard "B" "g" u "A" (db.store.referrers "A" "f" u).length (some "1")) none pages ∧
        pages.flatten = db.store.referrers "A" "f" u) ∧
    ∀ t ∈ db.store.list "A" [], ∀ u ∈ db.store.list "B" [],
      t ∈ db.store.referrers "A" "f" u ↔ LeadsTo db .standard "A" "f" t "B" u := by
  have hf : (Engine.initial.run .standard reference).db.catalog.field? "A" "f" =
      some ⟨"f", .connection, false, false, none, some ⟨"B", "g", .one⟩⟩ := by decide +kernel
  have hsize : (some "1").map (Parameter.count "first") = (some 1).map .ok := by decide +kernel
  obtain ⟨hmany, hone⟩ := sides_agree_initial .standard reference "A" "f" "B" "g" _ hf rfl
  constructor
  · intro u hu
    exact (hmany u hu).2.2 (some "1") (some 1) hsize (by decide)
  · intro t ht
    exact (hone t ht).2.2.2

open scoped Ids in
example : (Engine.initial.run .standard reference).db.store.records.map (fun r => (r.type, r.reference? "f")) =
    [("B", none), ("A", some "00000000-0000-7000-8000-000000000001"), ("A", none)] := by decide +kernel

end RecordGraph
