import RecordGraph.Proofs.Engine.Effect

namespace RecordGraph

/-- A state, and the requests that were processed so far. Any of them can be performed at any later time. -/
structure Engine where
  db : Database
  processed : List Request

/-- What can be asked of an engine: to run a query, as a text or already parsed, to process the parameters of a call, or
to perform a call with parameters that were processed before. -/
inductive Event
  | query (text : String)
  | select (query : Query.Selection)
  | process (call : Call) (raw : Entries String)
  | perform (call : Call) (slot : Nat)

/-- The call that a query makes, if its parameters are accepted. -/
def Database.asked (db : Database) (query : Query.Selection) : Option (Call × Request) :=
  match Call.ofName query.name with
  | .error _ => none
  | .ok call =>
    match call.process db.catalog query.parameters with
    | .error _ => none
    | .ok request => some (call, request)

variable [Ids]

namespace Engine

def initial : Engine := ⟨.initial, []⟩

def step (limits : PageLimits) (w : Engine) : Event → Engine
  | .query text => { w with db := ((execute limits text).on w.db).2 }
  | .select query => { w with db := ((executeSelection limits query).on w.db).2 }
  | .process call raw =>
    match call.process w.db.catalog raw with
    | .ok request => { w with processed := w.processed ++ [request] }
    | .error _ => w
  | .perform call slot =>
    match w.processed[slot]? with
    | some request => { w with db := ((call.perform limits request).on w.db).2 }
    | none => w

def run (limits : PageLimits) (w : Engine) (es : List Event) : Engine := es.foldl (step limits) w

/-- The call that an event performs, with its parameters. Nothing is performed for a query that is refused before. -/
def performed (w : Engine) : Event → Option (Call × Request)
  | .query text =>
    match Query.parse text with
    | .ok query => w.db.asked query
    | .error _ => none
  | .select query => w.db.asked query
  | .process _ _ => none
  | .perform call slot => w.processed[slot]?.map (call, ·)

end Engine

open Stateful (on_bind)
open Operation

variable {limits : PageLimits} {db db' : Database}

/-- What one step can do to a state: nothing, or what the call does that is performed. -/
def Change (db db' : Database) : Option (Call × Request) → Prop
  | none => db' = db
  | some (call, request) => Effect db call request db'

theorem Change.preserves {P : Database → Prop} {p : Option (Call × Request)} (hc : Change db db' p) (h : P db)
    (he : ∀ q, p = some q → Effect db q.1 q.2 db' → P db') : P db' := by
  cases p with
  | none =>
    have hdb : db' = db := hc
    rw [hdb]
    exact h
  | some q => exact he q rfl hc

/-- What comes of a query once its call is found and its parameters are processed: the call is performed, and the selection
is resolved in the state that it reached. -/
def Database.answer (db : Database) (limits : PageLimits) (outputName : String) (selection : List Query.Selection) :
    Except Fault (Call × Request) → Except Fault Json × Database
  | .error e => (.error e, db)
  | .ok (call, request) =>
    match (call.perform limits request).on db with
    | (.error e, d) => (.error e, d)
    | (.ok output, d) => ((resolve d limits output selection).map fun v => .object [(outputName, v)], d)

theorem on_executeSelection {query : Query.Selection} : (executeSelection limits query).on db =
    db.answer limits query.outputName query.children
      (Call.ofName query.name >>= fun call => (call.process db.catalog query.parameters).map (call, ·)) := by
  rw [executeSelection, on_ask_bind]
  cases Call.ofName query.name with
  | error x => rfl
  | ok call =>
    dsimp only
    rw [on_ask_bind, Outcome.ok_bind]
    cases call.process db.catalog query.parameters with
    | error x => rfl
    | ok request =>
      dsimp only [Except.map, Database.answer]
      rw [on_bind]
      rcases (call.perform limits request).on db with ⟨x | output, d⟩
      · rfl
      dsimp only
      have hrest : ∀ x : Except Fault Json, ((ask fun _ => x) >>= fun value =>
          (pure (.object [(query.outputName, value)]) : Operation Json)).on d =
            (x.map fun v => .object [(query.outputName, v)], d) := by
        intro x
        rw [on_ask_bind]
        cases x <;> rfl
      exact hrest _

theorem Database.snd_answer {call : Call} {request : Request} {outputName : String} {selection : List Query.Selection} :
    (db.answer limits outputName selection (.ok (call, request))).2 = ((call.perform limits request).on db).2 := by
  dsimp only [answer]
  rcases (call.perform limits request).on db with ⟨x | output, d⟩
  · rfl
  · rfl

theorem change_executeSelection {query : Query.Selection} :
    Change db ((executeSelection limits query).on db).2 (db.asked query) := by
  rw [on_executeSelection, Database.asked]
  cases Call.ofName query.name with
  | error x => rfl
  | ok call =>
    dsimp only
    rw [Outcome.ok_bind]
    cases call.process db.catalog query.parameters with
    | error x => rfl
    | ok request =>
      dsimp only [Except.map]
      rw [Database.snd_answer]
      exact Call.effect_perform

/-- A step changes the state by the call that it performs. -/
theorem Engine.change_step (limits : PageLimits) (w : Engine) (e : Event) :
    Change w.db (w.step limits e).db (w.performed e) := by
  cases e with
  | query text =>
    simp only [step, performed, execute, on_ask_bind]
    cases Query.parse text with
    | error x => rfl
    | ok query => exact change_executeSelection
  | select query => exact change_executeSelection
  | process call raw =>
    simp only [step, performed]
    cases call.process w.db.catalog raw <;> rfl
  | perform call slot =>
    simp only [step, performed]
    cases w.processed[slot]? with
    | none => rfl
    | some request => exact Call.effect_perform

section Processed

variable {w : Engine} {e : Event} {call : Call} {request : Request} {P : Request → Prop}

omit [Ids] in
theorem Database.process_of_asked {query : Query.Selection} (h : db.asked query = some (call, request)) :
    call.process db.catalog query.parameters = .ok request := by
  unfold Database.asked at h
  split at h
  · cases h
  split at h
  · cases h
  next hp =>
  rw [Option.some.injEq, Prod.mk.injEq] at h
  exact h.1 ▸ h.2 ▸ hp

theorem state_of_asked {query : Query.Selection} (h : db.asked query = some (call, request)) :
    ((executeSelection limits query).on db).2 = ((call.perform limits request).on db).2 := by
  unfold Database.asked at h
  rw [executeSelection, on_ask_bind]
  split at h
  · cases h
  next hcall =>
  rw [hcall]
  dsimp only
  rw [on_ask_bind]
  split at h
  · cases h
  next hprocess =>
  rw [hprocess]
  obtain ⟨rfl, rfl⟩ := Prod.mk.inj (Option.some.inj h)
  exact state_bind_of_reads fun _ =>
    reads_get.bind fun _ => reads_ask.bind fun _ => reads_pure

theorem Engine.db_step_of_performed (h : w.performed e = some (call, request)) :
    (w.step limits e).db = ((call.perform limits request).on w.db).2 := by
  cases e with
  | query text =>
    simp only [performed] at h
    simp only [step, execute, on_ask_bind]
    cases hparse : Query.parse text with
    | error x =>
      rw [hparse] at h
      cases h
    | ok query =>
      rw [hparse] at h
      exact state_of_asked h
  | select query => exact state_of_asked h
  | process call raw => cases h
  | perform call slot =>
    obtain ⟨request, hr, h⟩ := Option.map_eq_some_iff.mp h
    obtain ⟨rfl, rfl⟩ := Prod.mk.inj h
    simp only [step, hr]

omit [Ids] in
/-- Whatever is performed was processed, in this step or in an earlier one. -/
theorem Engine.of_performed (hp : ∀ call c raw request, Call.process call c raw = .ok request → P request)
    (h : ∀ request ∈ w.processed, P request) (he : w.performed e = some (call, request)) : P request := by
  cases e with
  | query text =>
    simp only [performed] at he
    split at he
    · exact hp _ _ _ _ (Database.process_of_asked he)
    · cases he
  | select query => exact hp _ _ _ _ (Database.process_of_asked he)
  | process call raw => cases he
  | perform call slot =>
    obtain ⟨request', hr, he⟩ := Option.map_eq_some_iff.mp he
    obtain ⟨-, rfl⟩ := Prod.mk.inj he
    exact h request' (List.mem_of_getElem? hr)

theorem Engine.of_processed_step (hp : ∀ call c raw request, Call.process call c raw = .ok request → P request)
    (h : ∀ request ∈ w.processed, P request) : ∀ request ∈ (w.step limits e).processed, P request := by
  intro request hr
  cases e with
  | query text => exact h request hr
  | select query => exact h request hr
  | process call raw =>
    simp only [step] at hr
    split at hr
    · next hq =>
      rcases List.mem_append.mp hr with hr | hr
      · exact h request hr
      · exact List.mem_singleton.mp hr ▸ hp _ _ _ _ hq
    · exact h request hr
  | perform call slot =>
    simp only [step] at hr
    split at hr
    · exact h request hr
    · exact h request hr

end Processed

end RecordGraph
