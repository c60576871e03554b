import RecordGraph.Proofs.Engine.Atomic

namespace RecordGraph

open Outcome
open Stateful (on_bind on_get_bind)

namespace Operation

variable {α β : Type} {db db' : Database} {e : Fault} {a : Operation α} {k : α → Operation β}

/-- Where two actions are refused, one after the other: at the first, or at the second in the state that the first
reached. -/
theorem on_bind_error (he : (a >>= k).on db = (.error e, db')) :
    a.on db = (.error e, db') ∨ ∃ x d, a.on db = (.ok x, d) ∧ (k x).on d = (.error e, db') := by
  rw [on_bind] at he
  rcases ha : a.on db with ⟨x | x, d⟩
  · rw [ha] at he
    cases he
    exact .inl rfl
  · rw [ha] at he
    exact .inr ⟨x, d, rfl, he⟩

theorem on_ask_bind_error {f : Catalog → Except Fault α} (he : (ask f >>= k).on db = (.error e, db')) :
    (f db.catalog = .error e ∧ db' = db) ∨ ∃ x, f db.catalog = .ok x ∧ (k x).on db = (.error e, db') := by
  rcases on_bind_error he with he | ⟨x, d, hx, he⟩
  · obtain ⟨hf, hd⟩ := Prod.mk.inj he
    exact .inl ⟨hf, hd.symm⟩
  · obtain ⟨hf, rfl⟩ := Prod.mk.inj hx
    exact .inr ⟨x, hf, he⟩

/-- Whether all that an action can give back has a property. -/
def Gives (a : Operation α) (Q : α → Prop) : Prop := ∀ db o db', a.on db = (.ok o, db') → Q o

variable {Q : β → Prop}

theorem gives_pure {o : β} (h : Q o) : Gives (pure o) Q := by
  intro db o' db' ho
  cases ho
  exact h

theorem gives_bind (h : ∀ x, Gives (k x) Q) : Gives (a >>= k) Q := by
  intro db o db' ho
  rw [on_bind] at ho
  split at ho
  · next x d _ => exact h x d o db' ho
  · cases ho

theorem gives_ask_bind {f : Catalog → Except Fault α} (h : ∀ c x, f c = .ok x → Gives (k x) Q) : Gives (ask f >>= k) Q := by
  intro db o db' ho
  rw [on_ask_bind] at ho
  split at ho
  · next x hx => exact h db.catalog x hx db o db' ho
  · cases ho

end Operation

def Request.recordType? : Request → Option String
  | .node typeName _ => some typeName
  | .nodes typeName _ _ => some typeName
  | .create typeName _ => some typeName
  | .update typeName _ _ => some typeName
  | .delete typeName _ => some typeName
  | _ => none

section

variable {limits : PageLimits} {db db' : Database} {request : Request} {output : Output} {e : Fault} {T : String}

open Operation

theorem Call.gives_performDeleteConnection {n : String} {Q : Output → Prop} (hQ : ∀ v, Q (.json v)) :
    Gives (performDeleteConnection T n) Q := by
  have hanswer : ∀ U, Gives (changedTypes T U) Q := fun U => gives_bind fun _ => gives_bind fun _ => gives_pure (hQ _)
  refine gives_bind fun p => ?_
  dsimp only
  split
  · exact gives_bind fun _ => hanswer _
  split
  · split
    · exact gives_bind fun _ => hanswer _
    · exact hanswer _
  · exact hanswer _

variable [Ids]

theorem Request.gives_perform (request : Request) :
    Gives (request.call.perform limits request) fun o => ∀ T, o.typeName? = some T → request.recordType? = some T := by
  have hjson : ∀ v T, (Output.json v).typeName? = some T → request.recordType? = some T := by
    intro v T h
    cases h
  cases request with
  | schema => exact gives_bind fun _ => gives_pure (hjson _)
  | type name => exact gives_bind fun _ => gives_pure (hjson _)
  | node type id => exact gives_bind fun _ => gives_bind fun _ => gives_pure fun _ h => h
  | nodes type first after => exact gives_bind fun _ => gives_bind fun _ => gives_bind fun _ => gives_pure fun _ h => h
  | createType name => exact gives_bind fun _ => gives_pure (hjson _)
  | deleteType name => exact gives_bind fun _ => gives_bind fun _ => gives_bind fun _ => gives_pure (hjson _)
  | createField type field => exact gives_bind fun _ => gives_bind fun _ => gives_pure (hjson _)
  | deleteField type field => exact gives_bind fun _ => gives_bind fun _ => gives_bind fun _ => gives_pure (hjson _)
  | createConnection type field targetType targetField required =>
    exact gives_bind fun _ => gives_bind fun _ => gives_bind fun _ => gives_pure (hjson _)
  | deleteConnection type field => exact Call.gives_performDeleteConnection hjson
  | createIndex type name fields => exact gives_bind fun _ => gives_bind fun _ => gives_pure (hjson _)
  | deleteIndex type name => exact gives_bind fun _ => gives_bind fun _ => gives_pure (hjson _)
  | create type data =>
    exact gives_bind fun _ => gives_bind fun _ => gives_bind fun _ => gives_pure fun _ h => h
  | update type id data =>
    exact gives_bind fun _ => gives_bind fun _ => gives_bind fun _ => gives_pure fun _ h => h
  | delete type id =>
    exact gives_bind fun _ => gives_bind fun _ => gives_bind fun _ => gives_pure fun _ h => h

theorem Request.isNode_of_outcome (ho : request.outcome limits db = .ok db') (hT : request.recordType? = some T) :
    db'.catalog.IsNode T := by
  cases request with
  | node type id =>
    simp only [outcome, bind_eq_ok, pure_eq_ok] at ho
    obtain ⟨t, ht, r, -, rfl⟩ := ho
    exact ⟨t, Option.some.inj hT ▸ ht⟩
  | nodes type first after =>
    simp only [outcome, bind_eq_ok, pure_eq_ok] at ho
    obtain ⟨t, ht, shown, -, rfl⟩ := ho
    exact ⟨t, Option.some.inj hT ▸ ht⟩
  | create type data =>
    simp only [outcome, bind_eq_ok, pure_eq_ok] at ho
    obtain ⟨t, ht, fields, -, rfl⟩ := ho
    exact ⟨t, Option.some.inj hT ▸ ht⟩
  | update type id data =>
    simp only [outcome, bind_eq_ok, pure_eq_ok] at ho
    obtain ⟨t, ht, fields, -, s, -, rfl⟩ := ho
    exact ⟨t, Option.some.inj hT ▸ ht⟩
  | delete type id =>
    simp only [outcome, bind_eq_ok, pure_eq_ok] at ho
    obtain ⟨t, ht, s, -, rfl⟩ := ho
    exact ⟨t, Option.some.inj hT ▸ ht⟩
  | _ => cases hT

/-- What a call gives back is of a type that is there after it. -/
theorem Request.isNode_of_perform (h : db.catalog.WellFormed)
    (ho : (request.call.perform limits request).on db = (.ok output, db')) (hT : output.typeName? = some T) :
    db'.catalog.IsNode T := by
  have houtcome : request.outcome limits db = .ok db' := (Call.settles_perform limits h request).of_ok ho
  exact isNode_of_outcome houtcome (request.gives_perform db output db' ho T hT)

def Call.changesState : Call → Bool
  | .schema | .type | .node | .nodes => false
  | _ => true

theorem Effect.eq_of_reads {call : Call} (e : Effect db call request db') (h : call.changesState = false) :
    db' = db := by
  cases e with
  | none => rfl
  | _ => cases h

/-- Whether a query is refused although its call goes through, to a state `d`: what the selection asks of the answer does
not fit. -/
def RefusedLate (limits : PageLimits) (query : Query.Selection) (call : Call) (db d : Database) (e : Fault) : Prop :=
  Call.ofName query.name = .ok call ∧ ∃ request output, call.process db.catalog query.parameters = .ok request ∧
    (call.perform limits request).on db = (.ok output, d) ∧ resolve d limits output query.children = .error e

variable {query : Query.Selection} {call : Call} {d : Database} {text : String}

theorem unchanged_or_refusedLate (h : db.Reachable) (he : (executeSelection limits query).on db = (.error e, db')) :
    db' = db ∨ ∃ call, call.changesState = true ∧ RefusedLate limits query call db db' e := by
  obtain ⟨-, rfl⟩ | ⟨call, hcall, he⟩ := on_ask_bind_error he
  · exact .inl rfl
  obtain ⟨-, rfl⟩ | ⟨request, hprocess, he⟩ := on_ask_bind_error he
  · exact .inl rfl
  obtain hp | ⟨output, d, hp, he⟩ := on_bind_error he
  · exact .inl (Call.atomic_perform h hp).1
  -- what is left only reads
  obtain hg | ⟨d', d'', hg, he⟩ := on_bind_error he
  · cases hg
  cases hg
  obtain ⟨hresolve, rfl⟩ | ⟨value, -, he⟩ := on_ask_bind_error he
  · have heffect : Effect db call request db' := Call.effect_of_perform hp
    cases hchanges : call.changesState with
    | false => exact .inl (heffect.eq_of_reads hchanges)
    | true => exact .inr ⟨call, hchanges, hcall, request, output, hprocess, hp, hresolve⟩
  · cases he

namespace RefusedLate

theorem executeSelection_on (hl : RefusedLate limits query call db d e) :
    (executeSelection limits query).on db = (.error e, d) := by
  obtain ⟨hcall, request, output, hprocess, hperform, hresolve⟩ := hl
  rw [executeSelection, on_ask_bind, hcall]
  dsimp only
  rw [on_ask_bind, hprocess]
  dsimp only
  rw [on_bind, hperform]
  dsimp only
  rw [on_get_bind, on_ask_bind, hresolve]

/-- Only the selection is at fault: what the call gives back is of a type that is there. -/
theorem ofSelection (h : db.Reachable) (hl : RefusedLate limits query call db d e) : e.OfSelection := by
  obtain ⟨-, request, output, hprocess, hperform, hresolve⟩ := hl
  have heffect : Effect db call request d := Call.effect_of_perform hperform
  obtain rfl : request.call = call := Call.call_of_process hprocess
  have htyped : ∀ T, output.typeName? = some T → d.catalog.IsNode T := fun T hT =>
    Request.isNode_of_perform h.wellFormed hperform hT
  exact selective_resolve (heffect.wellFormed h.wellFormed) htyped e hresolve

end RefusedLate

theorem on_execute_of_parse (hparse : Query.parse text = .ok query) :
    (execute limits text).on db = (executeSelection limits query).on db := by
  rw [execute, on_ask_bind, hparse]
  rfl

/-- A query that is refused leaves the state as it was, unless its call went through, one of those that can change the
state, and only the selection was refused. Such a query keeps exactly what its call did, and it is refused for a fault of
the selection. -/
theorem refused_query (h : db.Reachable) :
    (∀ query e db', (executeSelection limits query).on db = (.error e, db') →
      db' = db ∨ ∃ call, call.changesState = true ∧ RefusedLate limits query call db db' e) ∧
    (∀ query call d e, RefusedLate limits query call db d e →
      (executeSelection limits query).on db = (.error e, d) ∧ e.OfSelection) ∧
    (∀ text e db', (execute limits text).on db = (.error e, db') →
      db' = db ∨ ∃ query call, Query.parse text = .ok query ∧ call.changesState = true ∧
        RefusedLate limits query call db db' e) ∧
    (∀ text query call d e, Query.parse text = .ok query → RefusedLate limits query call db d e →
      (execute limits text).on db = (.error e, d) ∧ e.OfSelection) := by
  refine ⟨fun query e db' he => unchanged_or_refusedLate h he,
    fun query call d e hl => ⟨hl.executeSelection_on, hl.ofSelection h⟩, fun text e db' he => ?_,
    fun text query call d e hparse hl => ⟨(on_execute_of_parse hparse).trans hl.executeSelection_on, hl.ofSelection h⟩⟩
  obtain ⟨-, rfl⟩ | ⟨query, hparse, he⟩ := on_ask_bind_error he
  · exact .inl rfl
  obtain heq | ⟨call, hchanges, hlate⟩ := unchanged_or_refusedLate h he
  · exact .inl heq
  · exact .inr ⟨query, call, mapError_eq_ok.mp hparse, hchanges, hlate⟩

end

open scoped Ids in
/-- A type is there although the query that made it was refused: no field of its answer takes parameters. -/
theorem refused_query_keeps_type : ¬∀ (limits : PageLimits) (db : Database), db.Reachable → ∀ text e db',
    (execute limits text).on db = (.error e, db') → db' = db := by
  intro hunchanged
  let answer := (execute .standard "createType(name: A) \x7b success(x: 1) \x7b y \x7d \x7d").on .initial
  have he : answer.1 = .error (.invalidParameter "x" (.ofFieldWithout "success")) := by decide +kernel
  have hsame : answer.2 = .initial := hunchanged .standard .initial .initial _ _ _ (Prod.ext he rfl)
  have hchanged : answer.2 ≠ .initial := by decide +kernel
  exact hchanged hsame

open scoped Ids in
theorem refused_query_late :
    let text := "createType(name: A) \x7b success(x: 1) \x7b y \x7d \x7d"
    let fault := Fault.invalidParameter "x" (.ofFieldWithout "success")
    let made := ((Call.createType.perform .standard (.createType "A")).on .initial).2
    (execute .standard text).on .initial = (.error fault, made) ∧ fault.OfSelection ∧ made ≠ .initial ∧
      ∃ query call, Query.parse text = .ok query ∧ call.changesState = true ∧
        RefusedLate .standard query call .initial made fault := by
  intro text fault made
  have he : ((execute .standard text).on .initial).1 = .error fault := by decide +kernel
  have hstate : ((execute .standard text).on .initial).2 = made := by decide +kernel
  have hchanged : made ≠ .initial := by decide +kernel
  obtain hsame | ⟨query, call, hparse, hchanges, hl⟩ :=
    (refused_query Database.Reachable.initial).2.2.1 text fault made (Prod.ext he hstate)
  · exact absurd hsame hchanged
  obtain ⟨hon, hfault⟩ := (refused_query Database.Reachable.initial).2.2.2 text query call made fault hparse hl
  exact ⟨hon, hfault, hchanged, query, call, hparse, hchanges, hl⟩

end RecordGraph
