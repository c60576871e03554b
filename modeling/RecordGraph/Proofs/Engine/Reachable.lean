import RecordGraph.Proofs.Engine.Sound

namespace RecordGraph

variable [Ids] {limits : PageLimits} {db db' : Database} {call : Call} {request : Request}

/-- The states that queries and calls lead to, under any limits. -/
inductive Database.Reachable : Database → Prop
  | initial : Reachable .initial
  | query {db : Database} (limits : PageLimits) (text : String) (h : db.Reachable) :
    Reachable ((execute limits text).on db).2
  | select {db : Database} (limits : PageLimits) (query : Query.Selection) (h : db.Reachable) :
    Reachable ((executeSelection limits query).on db).2
  | perform {db : Database} (limits : PageLimits) (call : Call) (request : Request) (h : db.Reachable) :
    Reachable ((call.perform limits request).on db).2

theorem Change.wellFormed {p : Option (Call × Request)} (h : db.catalog.WellFormed) (hc : Change db db' p) :
    db'.catalog.WellFormed :=
  Change.preserves (P := fun db => db.catalog.WellFormed) hc h fun _ _ he => Effect.wellFormed h he

namespace Database.Reachable

theorem wellFormed (h : db.Reachable) : db.catalog.WellFormed := by
  induction h with
  | initial => exact Catalog.WellFormed.initial
  | @query db limits text _ ih => exact Change.wellFormed ih (Engine.change_step limits ⟨db, []⟩ (.query text))
  | select limits query _ ih => exact Change.wellFormed ih change_executeSelection
  | perform limits call request _ ih => exact Effect.wellFormed ih Call.effect_perform

theorem filed (h : db.Reachable) : db.store.Filed := by
  induction h with
  | initial => exact Store.filed_empty
  | @query db limits text _ ih =>
    exact Change.preserves (P := fun db => db.store.Filed) (Engine.change_step limits ⟨db, []⟩ (.query text)) ih
      fun _ _ he => Effect.filed ih he
  | select limits query _ ih =>
    exact Change.preserves (P := fun db => db.store.Filed) change_executeSelection ih fun _ _ he => Effect.filed ih he
  | perform limits call request _ ih => exact Effect.filed ih Call.effect_perform

theorem step {w : Engine} (h : w.db.Reachable) (e : Event) : (w.step limits e).db.Reachable := by
  cases e with
  | query text => exact h.query limits text
  | select query => exact h.select limits query
  | process call raw =>
    simp only [Engine.step]
    split
    · exact h
    · exact h
  | perform call slot =>
    simp only [Engine.step]
    split
    · next request _ => exact h.perform limits call request
    · exact h

theorem run {w : Engine} {es : List Event} (h : w.db.Reachable) : (w.run limits es).db.Reachable := by
  induction es generalizing w with
  | nil => exact h
  | cons e es ih => exact ih (h.step e)

end Database.Reachable

end RecordGraph
