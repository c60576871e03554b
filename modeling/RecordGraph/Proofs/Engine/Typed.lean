import RecordGraph.Proofs.Engine.Answers
import RecordGraph.Proofs.Engine.Reachable
import RecordGraph.Proofs.Engine.Sides
import RecordGraph.Proofs.Page

namespace RecordGraph

open Entries Query Catalog Outcome

inductive Scope
  | record (type : String)
  | listing (type : String)

/-- Whether some parameters ask for a page and nothing else. -/
structure IsPaging (parameters : Entries String) : Prop where
  known : ∀ p ∈ parameters, p.1 = "first" ∨ p.1 = "after"
  count : ∀ v, parameters.get? "first" = some v → ∃ n, Parameter.count "first" v = .ok n

/-- Whether an item of a selection is well typed for what it selects from. -/
inductive Typed (c : Catalog) : Scope → Selection → Prop
  | plain {T n : String} {k : Field} {aliasName : Option String} {children : List Selection}
    (hk : c.field? T n = some k) (hl : k.link = none) : Typed c (.record T) (.mk .leaf n aliasName [] children)
  | leaf {T n : String} {k : Field} {l : Link} {aliasName : Option String} {children : List Selection}
    (hk : c.field? T n = some k) (hl : k.link = some l) (hs : l.side = .one) :
    Typed c (.record T) (.mk .leaf n aliasName [] children)
  | one {T n : String} {k : Field} {l : Link} {form : Form} {aliasName : Option String} {children : List Selection}
    (hk : c.field? T n = some k) (hl : k.link = some l) (hs : l.side = .one)
    (hc : ∀ s ∈ children, Typed c (.record l.targetType) s) :
    Typed c (.record T) (.mk form n aliasName [] children)
  | many {T n : String} {k : Field} {l : Link} {form : Form} {aliasName : Option String} {parameters : Entries String}
    {children : List Selection} (hk : c.field? T n = some k) (hl : k.link = some l) (hs : l.side = .many)
    (hp : IsPaging parameters) (hc : ∀ s ∈ children, Typed c (.listing l.targetType) s) :
    Typed c (.record T) (.mk form n aliasName parameters children)
  | count {T : String} {form : Form} {aliasName : Option String} {children : List Selection} :
    Typed c (.listing T) (.mk form "count" aliasName [] children)
  | nodes {T : String} {form : Form} {aliasName : Option String} {children : List Selection}
    (hc : ∀ s ∈ children, Typed c (.record T) s) : Typed c (.listing T) (.mk form "nodes" aliasName [] children)

/-- Whether a cursor in an item that selects from a record, or in an item below it, is none of the records that are listed
where it stands. -/
inductive Lost (db : Database) : String → Record → Selection → String → Prop
  | here {T n cursor : String} {r : Record} {k : Field} {l : Link} {form : Form} {aliasName : Option String}
    {parameters : Entries String} {children : List Selection} (hk : db.catalog.field? T n = some k)
    (hl : k.link = some l) (hs : l.side = .many) (hc : parameters.get? "after" = some cursor)
    (hno : ∀ t ∈ db.store.list l.targetType (refersTo l.targetField r), t.id ≠ cursor) :
    Lost db T r (.mk form n aliasName parameters children) cursor
  | one {T n cursor : String} {r u : Record} {k : Field} {l : Link} {form : Form} {aliasName : Option String}
    {parameters : Entries String} {children : List Selection} {s : Selection} (hk : db.catalog.field? T n = some k)
    (hl : k.link = some l) (hs : l.side = .one) (hu : (r.reference? n).bind (db.store.get? l.targetType) = some u)
    (hc : s ∈ children) (h : Lost db l.targetType u s cursor) :
    Lost db T r (.mk form n aliasName parameters children) cursor
  | many {T n cursor : String} {r t : Record} {k : Field} {l : Link} {form : Form} {aliasName : Option String}
    {parameters : Entries String} {children : List Selection} {item s : Selection}
    (hk : db.catalog.field? T n = some k) (hl : k.link = some l) (hs : l.side = .many)
    (ht : t ∈ db.store.list l.targetType (refersTo l.targetField r)) (hi : item ∈ children) (hn : item.name = "nodes")
    (hc : s ∈ item.children) (h : Lost db l.targetType t s cursor) :
    Lost db T r (.mk form n aliasName parameters children) cursor

def LostIn (db : Database) (T : String) (shown : List Record) (item : Selection) (cursor : String) : Prop :=
  item.name = "nodes" ∧ ∃ t ∈ shown, ∃ s ∈ item.children, Lost db T t s cursor

def NoRecord (lost : String → Prop) (e : Fault) : Prop :=
  ∃ cursor, e = .invalidParameter "after" (.noSuchRecord cursor) ∧ lost cursor

/-- Whether an item, whatever it selects from, is refused for lost cursors only. -/
def Serves (db : Database) (limits : PageLimits) : Scope → Selection → Prop
  | .record T, s => ∀ e r, db.catalog.requireNode T = .ok e →
    Refuses (NoRecord (Lost db T r s)) (recordItem db limits e r s)
  | .listing T, s => ∀ count shown, Refuses (NoRecord (LostIn db T shown s)) (listingItem db limits T count shown s)

variable {db : Database} {limits : PageLimits} {c : Catalog} {T n : String} {r t : Record} {s : Selection}
variable {selection children : List Selection} {lost lost' : String → Prop} {count : Nat} {shown : List Record}

theorem NoRecord.mono {e : Fault} (h : NoRecord lost e) (hl : ∀ cursor, lost cursor → lost' cursor) :
    NoRecord lost' e := by
  obtain ⟨cursor, he, hc⟩ := h
  exact ⟨cursor, he, hl cursor hc⟩

theorem isNode_of_typed (h : c.Regular) (ht : Typed c (.record T) s) : c.IsNode T := by
  cases ht with
  | plain hk _ => exact h.isNode_of_field? hk
  | leaf hk _ _ => exact h.isNode_of_field? hk
  | one hk _ _ _ => exact h.isNode_of_field? hk
  | many hk _ _ _ _ => exact h.isNode_of_field? hk

theorem refuses_recordItems {e : RecordType} (he : db.catalog.requireNode T = .ok e)
    (h : ∀ s ∈ selection, Serves db limits (.record T) s) :
    Refuses (NoRecord fun cursor => ∃ s ∈ selection, Lost db T r s cursor) (recordItems db limits e r selection) := by
  rw [recordItems_eq_mapM]
  exact refuses_mapM fun s hs => (h s hs e r he).mono fun x hx => hx.mono fun cursor hc => ⟨s, hs, hc⟩

theorem refuses_listingItems (h : ∀ s ∈ selection, Serves db limits (.listing T) s) :
    Refuses (NoRecord fun cursor => ∃ s ∈ selection, LostIn db T shown s cursor)
      (listingItems db limits T count shown selection) := by
  rw [listingItems_eq_mapM]
  exact refuses_mapM fun s hs => (h s hs count shown).mono fun x hx => hx.mono fun cursor hc => ⟨s, hs, hc⟩

theorem refuses_resolveRecord (hc : db.catalog.Regular) (ht : ∀ s ∈ selection, Typed db.catalog (.record T) s)
    (h : ∀ s ∈ selection, Serves db limits (.record T) s) (r : Record) :
    Refuses (NoRecord fun cursor => ∃ s ∈ selection, Lost db T r s cursor)
      (resolveRecord db limits T r selection) := by
  rw [resolveRecord_eq]
  cases selection with
  | nil => exact refuses_ok
  | cons s selection =>
    obtain ⟨e, he⟩ := isNode_of_typed hc (ht s List.mem_cons_self)
    rw [he]
    exact (refuses_recordItems he h).map

theorem refuses_resolveListing (h : ∀ s ∈ selection, Serves db limits (.listing T) s) (count : Nat)
    (shown : List Record) : Refuses (NoRecord fun cursor => ∃ s ∈ selection, LostIn db T shown s cursor)
      (resolveListing db limits T count shown selection) := by
  rw [resolveListing_eq]
  split
  · exact refuses_ok
  · exact (refuses_listingItems h).map

theorem serves_one {k : Field} {l : Link} {form : Form} {aliasName : Option String} (h : db.catalog.WellFormed)
    (hk : db.catalog.field? T n = some k) (hl : k.link = some l) (hs : l.side = .one)
    (hc : ∀ s ∈ children, Typed db.catalog (.record l.targetType) s)
    (ih : ∀ s ∈ children, Serves db limits (.record l.targetType) s) :
    Serves db limits (.record T) (.mk form n aliasName [] children) := by
  intro e r he
  have hf : e.field? n = some k := (field?_of_requireNode he).symm.trans hk
  by_cases hform : form = .leaf
  · subst hform
    rw [recordItem_leaf hf hl hs]
    exact refuses_ok
  rw [recordItem_body hf hl hs hform]
  cases hu : (r.reference? n).bind (db.store.get? l.targetType) with
  | none => exact refuses_ok
  | some u =>
    apply Refuses.map
    refine (refuses_resolveRecord h.toRegular hc ih u).mono fun x hx => hx.mono fun cursor hlost => ?_
    obtain ⟨s, hs', hlost⟩ := hlost
    exact .one hk hl hs hu hs' hlost

theorem serves_many {k : Field} {l : Link} {form : Form} {aliasName : Option String} {parameters : Entries String}
    (hk : db.catalog.field? T n = some k) (hl : k.link = some l) (hs : l.side = .many) (hp : IsPaging parameters)
    (ih : ∀ s ∈ children, Serves db limits (.listing l.targetType) s) :
    Serves db limits (.record T) (.mk form n aliasName parameters children) := by
  intro e r he
  have hf : e.field? n = some k := (field?_of_requireNode he).symm.trans hk
  obtain ⟨size, hsize⟩ : ∃ size : Option Nat,
      (parameters.get? "first").map (Parameter.count "first") = size.map .ok := by
    cases hfirst : parameters.get? "first" with
    | none => exact ⟨none, rfl⟩
    | some v =>
      obtain ⟨m, hm⟩ := hp.count v hfirst
      exact ⟨some m, congrArg some hm⟩
  rw [recordItem_many hf hl hs, referring_eq hsize hp.known]
  apply Refuses.bind
  · apply Refuses.map
    apply refuses_page
    intro cursor hafter hno
    exact ⟨cursor, rfl, .here hk hl hs hafter hno⟩
  · intro found hfound
    obtain ⟨shown, hpage, rfl⟩ := map_eq_ok.mp hfound
    apply Refuses.map
    refine (refuses_resolveListing ih _ shown).mono fun x hx => hx.mono fun cursor hlost => ?_
    obtain ⟨item, hi, hn, t, ht, s, hs', hlost⟩ := hlost
    exact .many hk hl hs (mem_of_page hpage t ht) hi hn hs' hlost

theorem serves_nodes {form : Form} {aliasName : Option String} (h : db.catalog.WellFormed)
    (hc : ∀ s ∈ children, Typed db.catalog (.record T) s) (ih : ∀ s ∈ children, Serves db limits (.record T) s) :
    Serves db limits (.listing T) (.mk form "nodes" aliasName [] children) := by
  intro count shown
  rw [listingItem_nodes]
  apply Refuses.bind
  · apply refuses_mapM
    intro t ht
    refine (refuses_resolveRecord h.toRegular hc ih t).mono fun x hx => hx.mono fun cursor hlost => ?_
    obtain ⟨s, hs, hlost⟩ := hlost
    exact ⟨rfl, t, ht, s, hs, hlost⟩
  · intro _ _
    exact refuses_pure

/-- A well-typed item is refused for a lost cursor and for nothing else. -/
theorem serves_of_typed {scope : Scope} (h : db.catalog.WellFormed) (ht : Typed db.catalog scope s) :
    Serves db limits scope s := by
  induction ht with
  | plain hk hl =>
    intro e r he
    rw [recordItem_plain ((field?_of_requireNode he).symm.trans hk) hl]
    exact refuses_ok
  | leaf hk hl hs =>
    intro e r he
    rw [recordItem_leaf ((field?_of_requireNode he).symm.trans hk) hl hs]
    exact refuses_ok
  | one hk hl hs hc ih => exact serves_one h hk hl hs hc ih
  | many hk hl hs hp _ ih => exact serves_many hk hl hs hp ih
  | count => exact fun _ _ => refuses_ok
  | nodes hc ih => exact serves_nodes h hc ih

mutual

def hasCursor : Selection → Bool
  | .mk _ _ _ parameters children => has "after" parameters || haveCursor children

def haveCursor : List Selection → Bool
  | [] => false
  | s :: selection => hasCursor s || haveCursor selection

end

theorem haveCursor_of_mem (hs : s ∈ selection) (h : hasCursor s = true) : haveCursor selection = true := by
  induction selection with
  | nil => cases hs
  | cons s' selection ih =>
    rw [haveCursor, Bool.or_eq_true]
    rcases List.mem_cons.mp hs with rfl | hs
    · exact .inl h
    · exact .inr (ih hs)

theorem hasCursor_of_children (h : haveCursor s.children = true) : hasCursor s = true := by
  cases s with
  | mk form name aliasName parameters children =>
    rw [hasCursor, Bool.or_eq_true]
    exact .inr h

theorem Lost.hasCursor {cursor : String} (h : Lost db T r s cursor) : hasCursor s = true := by
  induction h with
  | @here T n cursor r k l form aliasName parameters children _ _ _ hc _ =>
    have hafter : has "after" parameters = true := by
      rw [← Entries.get?_isSome, hc]
      rfl
    rw [RecordGraph.hasCursor, hafter]
    rfl
  | one _ _ _ _ hc _ ih => exact hasCursor_of_children (haveCursor_of_mem hc ih)
  | many _ _ _ _ hi _ hc _ ih =>
    exact hasCursor_of_children (haveCursor_of_mem hi (hasCursor_of_children (haveCursor_of_mem hc ih)))

theorem LostIn.hasCursor {cursor : String} (h : LostIn db T shown s cursor) : hasCursor s = true := by
  obtain ⟨-, t, -, s', hs', hlost⟩ := h
  exact hasCursor_of_children (haveCursor_of_mem hs' hlost.hasCursor)

def Answers (selection : List Selection) (x : Except Fault Json) : Prop :=
  ∃ v, x = .ok v ∧ (selection ≠ [] → HasOutputs selection v)

theorem answers_or_lost {x : Except Fault Json} (hok : ∀ v, x = .ok v → selection ≠ [] → HasOutputs selection v)
    (hx : Refuses (NoRecord lost) x) (hlost : ∀ cursor, lost cursor → haveCursor selection = true) :
    (Answers selection x ∨
      ∃ cursor, x = .error (.invalidParameter "after" (.noSuchRecord cursor)) ∧ lost cursor) ∧
    (haveCursor selection = false → Answers selection x) := by
  cases h : x with
  | ok v =>
    have hanswers : Answers selection (.ok v) := ⟨v, rfl, hok v h⟩
    exact ⟨.inl hanswers, fun _ => hanswers⟩
  | error e =>
    obtain ⟨cursor, rfl, hc⟩ := hx e h
    refine ⟨.inr ⟨cursor, rfl, hc⟩, fun hnone => ?_⟩
    rw [hlost cursor hc] at hnone
    cases hnone

/-- In every state that a database can be brought to, a well-typed selection from a record, or from a page of records, is
answered by an object with the names of its items, unless a cursor somewhere in it is none of the records in its list. -/
theorem typed_answered [Ids] (limits : PageLimits) (h : db.Reachable) (T : String) (selection : List Selection) :
    ((∀ s ∈ selection, Typed db.catalog (.record T) s) → ∀ r,
      (Answers selection (resolveRecord db limits T r selection) ∨
        ∃ cursor, resolveRecord db limits T r selection = .error (.invalidParameter "after" (.noSuchRecord cursor)) ∧
          ∃ s ∈ selection, Lost db T r s cursor) ∧
      (haveCursor selection = false → Answers selection (resolveRecord db limits T r selection))) ∧
    ((∀ s ∈ selection, Typed db.catalog (.listing T) s) → ∀ count shown,
      (Answers selection (resolveListing db limits T count shown selection) ∨
        ∃ cursor, resolveListing db limits T count shown selection =
            .error (.invalidParameter "after" (.noSuchRecord cursor)) ∧
          ∃ s ∈ selection, LostIn db T shown s cursor) ∧
      (haveCursor selection = false → Answers selection (resolveListing db limits T count shown selection))) := by
  have hc := h.wellFormed
  constructor
  · intro ht r
    have hserves : ∀ s ∈ selection, Serves db limits (.record T) s := fun s hs => serves_of_typed hc (ht s hs)
    apply answers_or_lost (fun v hv => hasOutputs_resolveRecord hv) (refuses_resolveRecord hc.toRegular ht hserves r)
    intro cursor hlost
    obtain ⟨s, hs, hlost⟩ := hlost
    exact haveCursor_of_mem hs hlost.hasCursor
  · intro ht count shown
    have hserves : ∀ s ∈ selection, Serves db limits (.listing T) s := fun s hs => serves_of_typed hc (ht s hs)
    apply answers_or_lost (fun v hv => hasOutputs_resolveListing hv) (refuses_resolveListing hserves count shown)
    intro cursor hlost
    obtain ⟨s, hs, hlost⟩ := hlost
    exact haveCursor_of_mem hs hlost.hasCursor

def roundTrip (paging : Entries String) : List Selection :=
  [.leaf "id", .mk .node "f" (some "target") [] [.mk .node "g" none paging [.leaf "count",
    .mk .node "nodes" none [] [.leaf "id", .leaf "f"]]]]

open scoped Ids in
theorem typed_answered_roundTrip :
    let db := (Engine.initial.run .standard reference).db
    (∀ r, Answers (roundTrip [("first", "1")]) (resolveRecord db .standard "A" r (roundTrip [("first", "1")]))) ∧
    ∀ r, Answers (roundTrip [("after", "x")]) (resolveRecord db .standard "A" r (roundTrip [("after", "x")])) ∨
      ∃ cursor, resolveRecord db .standard "A" r (roundTrip [("after", "x")]) =
          .error (.invalidParameter "after" (.noSuchRecord cursor)) ∧
        ∃ s ∈ roundTrip [("after", "x")], Lost db "A" r s cursor := by
  intro db
  have hdb : db.Reachable := Database.Reachable.run .initial
  have hid : db.catalog.field? "A" "id" = some .id := by decide +kernel
  have hf : db.catalog.field? "A" "f" =
      some ⟨"f", .connection, false, false, none, some ⟨"B", "g", .one⟩⟩ := by decide +kernel
  have hg : db.catalog.field? "B" "g" =
      some ⟨"g", .connection, false, false, none, some ⟨"A", "f", .many⟩⟩ := by decide +kernel
  have htyped : ∀ paging, IsPaging paging → ∀ s ∈ roundTrip paging, Typed db.catalog (.record "A") s := by
    intro paging hp
    have hnodes : ∀ s ∈ [Selection.leaf "id", .leaf "f"], Typed db.catalog (.record "A") s := by
      simp only [List.forall_mem_cons, List.not_mem_nil, false_imp_iff, implies_true, and_true]
      exact ⟨.plain hid rfl, .leaf hf rfl rfl⟩
    have hback : ∀ s ∈ [Selection.leaf "count", .mk .node "nodes" none [] [.leaf "id", .leaf "f"]],
        Typed db.catalog (.listing "A") s := by
      simp only [List.forall_mem_cons, List.not_mem_nil, false_imp_iff, implies_true, and_true]
      exact ⟨.count, .nodes hnodes⟩
    simp only [roundTrip, List.forall_mem_cons, List.not_mem_nil, false_imp_iff, implies_true, and_true]
    refine ⟨.plain hid rfl, .one hf rfl rfl fun s hs => ?_⟩
    rw [List.mem_singleton.mp hs]
    exact .many hg rfl rfl hp hback
  have hfirst : IsPaging [("first", "1")] := by
    refine ⟨by simp, fun v hv => ?_⟩
    obtain rfl : "1" = v := Option.some.inj hv
    exact ⟨1, by decide +kernel⟩
  have hafter : IsPaging [("after", "x")] := ⟨by simp, fun v hv => by cases hv⟩
  constructor
  · intro r
    exact ((typed_answered .standard hdb "A" _).1 (htyped _ hfirst) r).2 rfl
  · intro r
    exact ((typed_answered .standard hdb "A" _).1 (htyped _ hafter) r).1

open scoped Ids in
example : ((Engine.initial.run .standard reference).db.store.list "A" []).map (fun r =>
    (resolveRecord (Engine.initial.run .standard reference).db .standard "A" r (roundTrip [("after", "x")])).isOk) =
      [false, true] := by decide +kernel

end RecordGraph
