import RecordGraph.Proofs.Engine.Bounded
import RecordGraph.Proofs.Engine.Sides

namespace RecordGraph

open Entries Query Catalog Outcome Operation

section Runs

variable [Ids]

/-- Whether a query for a page of the records of a type shows some of them, and how many there are in all, and leaves the
state as it is. -/
def Lists (db : Database) (limits : PageLimits) (T : String) (count : Nat) (first after : Option String)
    (shown : List Record) : Prop :=
  ∀ form aliasName children,
    (executeSelection limits (.mk form "nodes" aliasName (("type", T) :: pageParameters first after) children)).on db =
      ((resolveListing db limits T count shown children).map fun v => .object [(aliasName.getD "nodes", v)], db)

variable {db : Database} {limits : PageLimits} {T U f g : String} {k : Field} {u : Record} {query : Selection}
variable {first after : Option String} {size : Option Nat} {shown : List Record} {call : Call}

omit [Ids] in
theorem process_nodes (hT : db.catalog.IsNode T) (hfirst : first.map (Parameter.count "first") = size.map .ok) :
    Call.nodes.process db.catalog (("type", T) :: pageParameters first after) = .ok (.nodes T size after) := by
  obtain ⟨t, ht⟩ := hT
  have hknown : (("type", T) :: pageParameters first after).find? (fun p => !Call.nodes.parameters.contains p.1) = none := by
    cases first <;> cases after <;> rfl
  have htype : Call.nodes.need (("type", T) :: pageParameters first after) "type" = .ok T := rfl
  have hget : Parameter.optional (("type", T) :: pageParameters first after) "first" = first :=
    get?_first_pageParameters first after
  have hafter : Parameter.optional (("type", T) :: pageParameters first after) "after" = after :=
    get?_after_pageParameters first after
  rw [Call.process, hknown]
  dsimp only
  rw [Call.decode, htype, ok_bind, ht, ok_bind, hget, hafter]
  cases first with
  | none =>
    cases size with
    | none => rfl
    | some n => cases hfirst
  | some v =>
    cases size with
    | none => cases hfirst
    | some n =>
      have hcount : Parameter.count "first" v = .ok n := Option.some.inj hfirst
      dsimp only
      rw [hcount]
      rfl

theorem on_nodes (hT : db.catalog.IsNode T) (hp : page (db.store.list T []) size after limits = .ok shown) :
    (Call.nodes.perform limits (.nodes T size after)).on db =
      (.ok (.connection T (db.store.list T []).length shown), db) := by
  obtain ⟨t, ht⟩ := hT
  rw [Call.perform, Call.readNodes, on_ask_bind, ht]
  dsimp only
  rw [on_onStore_bind RecordStore.comesTo_list]
  dsimp only
  rw [on_ask_bind, hp]
  rfl

theorem lists_page (hT : db.catalog.IsNode T) (hfirst : first.map (Parameter.count "first") = size.map .ok)
    (hp : page (db.store.list T []) size after limits = .ok shown) :
    Lists db limits T (db.store.list T []).length first after shown := by
  intro form aliasName children
  have hcall : Call.ofName (Selection.mk form "nodes" aliasName (("type", T) :: pageParameters first after) children).name =
      .ok .nodes := Call.ofName_name .nodes
  rw [on_executeSelection, hcall, ok_bind, Selection.parameters, process_nodes hT hfirst]
  dsimp only [Except.map, Database.answer]
  rw [on_nodes hT hp]
  rfl

theorem ensures_bounded (hcall : Call.ofName query.name = .ok call) (hc : call.givesRecords = true) :
    Ensures (Json.Bounded limits.maxSize) ((executeSelection limits query).on db).1 := by
  rw [on_executeSelection, hcall, ok_bind]
  cases hprocess : call.process db.catalog query.parameters with
  | error e => exact ensures_throw
  | ok request =>
    have hown : request.call = call := Call.call_of_process hprocess
    subst hown
    dsimp only [Except.map, Database.answer]
    have hholds : Gives (request.call.perform limits request) (Output.Holds limits.maxSize) := Request.holds_perform hc
    rcases hon : (request.call.perform limits request).on db with ⟨e | output, d⟩
    · exact ensures_throw
    · refine (bounded_resolve (hholds db output d hon)).map fun v hv => .object fun e he => ?_
      rw [List.mem_singleton.mp he]
      exact hv

theorem answer_of_store (s : Store) (hcall : Call.ofName query.name = .ok call) (hc : call.givesRecords = false) :
    ((executeSelection limits query).on ⟨db.catalog, s⟩).1 = ((executeSelection limits query).on db).1 := by
  obtain ⟨c, s'⟩ := db
  rw [on_executeSelection, on_executeSelection, hcall, ok_bind]
  cases hprocess : call.process c query.parameters with
  | error e => rfl
  | ok request =>
    have hown : request.call = call := Call.call_of_process hprocess
    subst hown
    have hrecord : request.recordType? = none := by cases request <;> first | rfl | cases hc
    have hgives : Gives (request.call.perform limits request) fun o => ∀ T, o.typeName? = some T →
        request.recordType? = some T := request.gives_perform
    have hblind : Blind (request.call.perform limits request) := Request.blind_perform hc
    replace hblind := (hblind c s s').1
    dsimp only [Except.map, Database.answer]
    generalize (request.call.perform limits request).on ⟨c, s'⟩ = p', hp : (request.call.perform limits request).on ⟨c, s⟩ = p
      at hblind ⊢
    obtain ⟨x, d⟩ := p
    obtain ⟨x', d'⟩ := p'
    obtain rfl : x = x' := hblind
    cases x with
    | error e => rfl
    | ok output =>
      -- only records would be looked up again for the answer
      have houtput : ∀ T, output.typeName? ≠ some T := by
        intro T hT
        have hsome := hgives _ output d hp T hT
        rw [hrecord] at hsome
        cases hsome
      cases output with
      | json v => rfl
      | record T r => exact absurd rfl (houtput T)
      | connection T count shown => exact absurd rfl (houtput T)

/-- Turning pages shows all records of a list, each once and in order, whatever the limits are. In every state that a run
reaches, the lists that are shown like this are the records of each type and, for each record, those on the many side of each
connection, always with the number of all of them. No listing in an answer is longer than the greatest page, however deep it
is: calls that give back records have no longer array in their answers, and the answers of all others have nothing to do with
what is stored. -/
theorem paged_initial (limits : PageLimits) (es : List Event) :
    let db := (Engine.initial.run limits es).db
    (∀ (records : List Record) (size : Option Nat), (records.map Record.id).Nodup → 0 < limits.pageSize size →
      Turns (fun after shown => page records size after limits = .ok shown) records (limits.pageSize size)) ∧
    (∀ T first size, db.catalog.IsNode T → first.map (Parameter.count "first") = size.map .ok →
      0 < limits.pageSize size →
        Turns (Lists db limits T (db.store.list T []).length first) (db.store.list T []) (limits.pageSize size)) ∧
    (∀ U g k T f u first size, db.catalog.field? U g = some k → k.link = some ⟨T, f, .many⟩ →
      first.map (Parameter.count "first") = size.map .ok → 0 < limits.pageSize size →
        Turns (Shows db limits U g u T (db.store.referrers T f u).length first) (db.store.referrers T f u)
          (limits.pageSize size)) ∧
    ∀ (query : Selection) call, Call.ofName query.name = .ok call →
      if call.givesRecords then ∀ v, ((executeSelection limits query).on db).1 = .ok v → v.Bounded limits.maxSize
      else ∀ s, ((executeSelection limits query).on ⟨db.catalog, s⟩).1 = ((executeSelection limits query).on db).1 := by
  intro db
  have hengine : (Engine.initial.run limits es).Sound := Engine.Sound.initial.run
  have h : db.Sound := hengine.db
  refine ⟨?_, ?_, ?_, ?_⟩
  · intro records size hd hpos
    exact turns_of_page hd hpos fun after shown hp => hp
  · intro T first size hT hfirst hpos
    exact turns_of_page (h.filed.ascending T []).nodup hpos fun after shown hp => lists_page hT hfirst hp
  · intro U g k T f u first size hg hk hfirst hpos
    have hreferrers : Ascending (db.store.referrers T f u) := (h.filed.ascending T []).sublist List.filter_sublist
    obtain ⟨j, hj, hjl⟩ := h.catalog.linksBack.other_end hg hk
    exact turns_of_page hreferrers.nodup hpos fun after shown hp => shows_page h hj hjl hfirst hp
  · intro query call hcall
    split
    · next hc => exact ensures_bounded hcall hc
    · next hc => exact fun s => answer_of_store s hcall (Bool.eq_false_iff.mpr hc)

end Runs

def references : List Event :=
  reference ++ [.process .create [("type", "A"), ("data", "\x7b\"f\": \"00000000-0000-7000-8000-000000000001\"\x7d")],
    .perform .create 6]

open scoped Ids in
theorem paged_references :
    let db := (Engine.initial.run .standard references).db
    Turns (fun after shown => page db.store.records (some 2) after .standard = .ok shown) db.store.records 2 ∧
    Turns (Lists db .standard "A" (db.store.list "A" []).length (some "2")) (db.store.list "A" []) 2 ∧
    (∀ u, Turns (Shows db .standard "B" "g" u "A" (db.store.referrers "A" "f" u).length (some "1"))
      (db.store.referrers "A" "f" u) 1) ∧
    (∀ v, ((executeSelection .standard (.mk .root "nodes" none [("type", "A")] [])).on db).1 = .ok v →
      v.Bounded 100) ∧
    ∀ s, ((executeSelection .standard (.mk .root "schema" none [] [])).on ⟨db.catalog, s⟩).1 =
      ((executeSelection .standard (.mk .root "schema" none [] [])).on db).1 := by
  obtain ⟨hlists, hnodes, hmany, hanswers⟩ := paged_initial .standard references
  have hids : ((Engine.initial.run .standard references).db.store.records.map Record.id).Nodup := by decide +kernel
  have hA : (Engine.initial.run .standard references).db.catalog.IsNode "A" := by
    have hany : ((Engine.initial.run .standard references).db.catalog.type? "A").any RecordType.isNode = true := by
      decide +kernel
    exact isNode_iff.mpr ((Option.any_eq_true ..).mp hany)
  have hg : (Engine.initial.run .standard references).db.catalog.field? "B" "g" =
      some ⟨"g", .connection, false, false, none, some ⟨"A", "f", .many⟩⟩ := by decide +kernel
  have htwo : (some "2").map (Parameter.count "first") = (some 2).map .ok := by decide +kernel
  have hone : (some "1").map (Parameter.count "first") = (some 1).map .ok := by decide +kernel
  refine ⟨?_, ?_, ?_, ?_, ?_⟩
  · exact hlists _ (some 2) hids (by decide)
  · exact hnodes "A" (some "2") (some 2) hA htwo (by decide)
  · exact fun u => hmany "B" "g" _ "A" "f" u (some "1") (some 1) hg rfl hone (by decide)
  · exact hanswers _ .nodes rfl
  · exact hanswers _ .schema rfl

open scoped Ids in
example : (Engine.initial.run .standard references).db.store.records.map (fun r => (r.type, r.reference? "f")) =
    [("B", none), ("A", some "00000000-0000-7000-8000-000000000001"), ("A", none),
      ("A", some "00000000-0000-7000-8000-000000000001")] := by decide +kernel

end RecordGraph
