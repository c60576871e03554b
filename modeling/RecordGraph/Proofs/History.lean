import Mathlib.Algebra.Ring.Nat
import Mathlib.Data.List.Induction
import RecordGraph.Proofs.Store
import RecordGraph.Proofs.Stateful

namespace RecordGraph

open Entries Stateful

def Record.Satisfies (r : Record) (condition : String × Value) : Prop :=
  if condition.1 = idName then condition.2.text? = some r.id
  else ∃ v ∈ r.fields.get? condition.1, condition.2.same v = true

instance {r : Record} {condition : String × Value} : Decidable (r.Satisfies condition) := by
  unfold Record.Satisfies
  infer_instance

namespace Store

inductive Action
  | insert (type : String) (fields : Entries Value)
  | update (type id : String) (fields : Entries Value)
  | delete (type id : String)
  | dropType (type : String)
  | removeField (type name : String)

namespace Action

def type : Action → String
  | insert T _ => T
  | update T _ _ => T
  | delete T _ => T
  | dropType T => T
  | removeField T _ => T

def record? : Action → Option (String × String)
  | update T id _ => some (T, id)
  | delete T id => some (T, id)
  | _ => none

def inserts : Action → Nat
  | insert _ _ => 1
  | _ => 0

/-- Whether an action does away with a record. -/
def Ends (T id : String) : Action → Prop
  | delete U i => U = T ∧ i = id
  | dropType U => U = T
  | _ => False

instance {T id : String} {a : Action} : Decidable (a.Ends T id) := by
  unfold Ends
  split <;> infer_instance

/-- Fields with others written over them. The id is not one of them. -/
def overwrite (l fields : Entries Value) : Entries Value :=
  fields.foldl (fun l e => if e.1 = idName then l else l.put e.1 e.2) l

/-- What an action leaves of the fields of a record. -/
def rewrite (T id : String) (l : Entries Value) : Action → Entries Value
  | update U i fields => if U = T ∧ i = id then overwrite l fields else l
  | removeField U n => if U = T then l.erase n else l
  | _ => l

end Action

/-- What later actions leave of a record. -/
def survivor (T id : String) (fields : Entries Value) (later : List Action) : Option Record :=
  if ∀ a ∈ later, ¬a.Ends T id then some ⟨id, T, later.foldl (Action.rewrite T id) fields⟩ else none

variable {s s' : Store} {a : Action} {h : List Action} {r : Record} {T U n id i : String} {fields l : Entries Value} {k : Nat}
variable {e : Fault}

namespace Action

def after (T : String) (a : Action) (r : Record) : Option Record :=
  if a.Ends T r.id then none else some { r with fields := a.rewrite T r.id r.fields }

theorem overwrite_eq : overwrite l fields = (fields.erase idName).foldl (fun l e => l.put e.1 e.2) l := by
  unfold overwrite erase
  rw [List.foldl_filter]
  congr 1
  funext l e
  by_cases he : e.1 = idName <;> simp [he]

theorem not_mem_overwrite (hl : idName ∉ names l) : idName ∉ names (overwrite l fields) := by
  rw [overwrite_eq, mem_names_foldl_put, names_erase]
  simp [hl]

theorem not_mem_rewrite (hl : idName ∉ names l) : idName ∉ names (a.rewrite T id l) := by
  cases a with
  | update U i fields =>
    simp only [rewrite]
    split
    · exact not_mem_overwrite hl
    · exact hl
  | removeField U n =>
    simp only [rewrite]
    split
    · rw [names_erase]
      simp [hl]
    · exact hl
  | insert U fields => exact hl
  | delete U i => exact hl
  | dropType U => exact hl

end Action

theorem survivor_append : survivor T id fields (h ++ [a]) = (survivor T id fields h).bind (a.after T) := by
  have hall : (∀ b ∈ h ++ [a], ¬b.Ends T id) ↔ (∀ b ∈ h, ¬b.Ends T id) ∧ ¬a.Ends T id := by
    simp only [List.forall_mem_append, List.forall_mem_singleton]
  unfold survivor
  by_cases hh : ∀ b ∈ h, ¬b.Ends T id
  · by_cases ha : a.Ends T id
    · rw [if_neg fun hs => (hall.mp hs).2 ha, if_pos hh]
      simp [Action.after, ha]
    · rw [if_pos (hall.mpr ⟨hh, ha⟩), if_pos hh]
      simp [Action.after, ha]
  · rw [if_neg fun hs => hh (hall.mp hs).1, if_neg hh]
    rfl

theorem Action.after_of_ne (hT : a.type ≠ T) : a.after T r = some r := by
  cases a <;> simp_all [Action.type, Action.after, Action.Ends, Action.rewrite]

theorem filterMap_after_map {l : List Record} {g : Record → Record} (hg : ∀ r, a.after T r = some (g r)) :
    l.filterMap (a.after T) = l.map g := by
  have hafter : a.after T = some ∘ g := funext hg
  rw [hafter, List.filterMap_eq_map]

theorem filterMap_after_filter {l : List Record} {p : Record → Bool}
    (hp : ∀ r, a.after T r = if p r then some r else none) : l.filterMap (a.after T) = l.filter p := by
  have hafter : a.after T = Option.guard p := funext hp
  rw [hafter, List.filterMap_eq_filter]

theorem meets_iff {condition : String × Value} : r.meets condition = true ↔ r.Satisfies condition := by
  unfold Record.meets Record.Satisfies
  split
  · exact decide_eq_true_iff
  · simp [Option.any_eq_true]

theorem list_filters {filters : Filters} :
    s.list T filters = (s.list T []).filter fun r => ∀ c ∈ filters, r.Satisfies c := by
  rw [list_eq, list]
  apply List.filter_congr
  intro r _
  rw [Bool.eq_iff_iff]
  simp [Filters.matches, meets_iff]

theorem count_eq : s.count T = (s.list T []).length := by
  rw [list_eq, values, List.length_map, count]

section Histories

variable [Ids]

/-- The records of a type that a history leaves, in the order of their insertion, if `n` records were inserted before it. -/
def left (T : String) : Nat → List Action → List Record
  | _, [] => []
  | n, .insert U fields :: later =>
    (if U = T then (survivor T (Ids.id (n + 1)) (fields.erase idName) later).toList else []) ++ left T (n + 1) later
  | n, _ :: later => left T n later

def Action.run : Action → Stateful Store Unit
  | insert T fields => do let _ ← RecordStore.insert T fields
  | update T id fields => RecordStore.update T id fields
  | delete T id => RecordStore.delete T id
  | dropType T => RecordStore.dropType T
  | removeField T n => RecordStore.removeField T n

/-- The store that an action reaches, also if it fails. -/
def act (s : Store) (a : Action) : Store := (a.run.on s).2

def replay (s : Store) (h : List Action) : Store := h.foldl act s

def Action.fresh (T : String) (n : Nat) : Action → List Record
  | insert U fields => if U = T then [⟨Ids.id (n + 1), T, fields.erase idName⟩] else []
  | _ => []

/-- What one more action makes of the records that a history leaves. -/
theorem left_append : left T k (h ++ [a]) =
    (left T k h).filterMap (a.after T) ++ a.fresh T (k + (h.map Action.inserts).sum) := by
  induction h generalizing k with
  | nil => cases a <;> simp [left, survivor, Action.fresh]
  | cons b h ih =>
    cases b with
    | insert U fields =>
      have hcount : k + ((Action.insert U fields :: h).map Action.inserts).sum =
          k + 1 + (h.map Action.inserts).sum := by
        simp [Action.inserts]
        omega
      rw [List.cons_append, left, left, ih, survivor_append, hcount, List.filterMap_append, List.append_assoc]
      congr 1
      split
      · cases survivor T (Ids.id (k + 1)) (fields.erase idName) h with
        | none => rfl
        | some r => cases hr : a.after T r <;> simp [hr]
      · rfl
    | update U i fields => simpa [left, Action.inserts] using ih
    | delete U i => simpa [left, Action.inserts] using ih
    | dropType U => simpa [left, Action.inserts] using ih
    | removeField U n => simpa [left, Action.inserts] using ih

def attempt (s : Store) : Action → Except Fault Store
  | .insert T fields => .ok (s.insert T fields).2
  | .update T id fields => s.update T id fields
  | .delete T id => s.delete T id
  | .dropType T => .ok (s.dropType T)
  | .removeField T n => .ok (s.removeField T n)

theorem comesTo_run : a.run.ComesTo fun s => (s.attempt a).map ((), ·) := by
  cases a with
  | insert T fields => exact fun s => rfl
  | update T id fields => exact RecordStore.comesTo_update
  | delete T id => exact RecordStore.comesTo_delete
  | dropType T => exact RecordStore.comesTo_dropType
  | removeField T n => exact RecordStore.comesTo_removeField

theorem act_of_ok (h : s.attempt a = .ok s') : s.act a = s' := by
  rw [act, comesTo_run.on_eq, h]
  rfl

theorem act_of_error (h : s.attempt a = .error e) : s.act a = s := by
  rw [act, comesTo_run.on_eq, h]
  rfl

theorem run_eq_error : (a.run.on s).1 = .error e ↔ s.attempt a = .error e := by
  rw [comesTo_run.on_eq]
  cases s.attempt a <;> simp [Except.map, settled]

theorem attempt_eq_error :
    s.attempt a = .error e ↔ ∃ p ∈ a.record?, s.get? p.1 p.2 = none ∧ e = .recordNotFound p.1 p.2 := by
  cases a with
  | update U i fields => simpa [attempt, Action.record?] using update_eq_error
  | delete U i => simpa [attempt, Action.record?] using delete_eq_error
  | _ => simp [attempt, Action.record?]

theorem not_mem_of_attempt (h : s.attempt a = .error e) {p : String × String} (hp : p ∈ a.record?) :
    p.2 ∉ names (s.table p.1) := by
  obtain ⟨q, hq, hnone, -⟩ := attempt_eq_error.mp h
  obtain rfl : q = p := Option.mem_unique hq hp
  rwa [get?_eq, get?_eq_none_iff] at hnone

theorem table_act_update : (s.act (.update U i fields)).table T =
    if T = U then (s.table T).modify i (·.merge fields) else s.table T := by
  cases h : s.attempt (.update U i fields) with
  | ok s' =>
    rw [act_of_ok h, (update_eq_ok.mp h).2]
    exact table_modifyTable rfl
  | error e =>
    have hno := not_mem_of_attempt h rfl
    rw [act_of_error h]
    split
    · next hT => rw [hT, modify_of_absent hno]
    · rfl

theorem table_act_delete : (s.act (.delete U i)).table T = if T = U then (s.table T).erase i else s.table T := by
  cases h : s.attempt (.delete U i) with
  | ok s' =>
    rw [act_of_ok h, (delete_eq_ok.mp h).2]
    exact table_modifyTable rfl
  | error e =>
    have hno := not_mem_of_attempt h rfl
    rw [act_of_error h]
    split
    · next hT => rw [hT, erase_of_absent hno]
    · rfl

theorem inserted_act : (s.act a).inserted = s.inserted + a.inserts := by
  cases h : s.attempt a with
  | ok s' =>
    rw [act_of_ok h]
    cases a with
    | insert U fields => exact Except.ok.inj h ▸ rfl
    | update U i fields => exact (update_eq_ok.mp h).2 ▸ rfl
    | delete U i => exact (delete_eq_ok.mp h).2 ▸ rfl
    | dropType U => exact Except.ok.inj h ▸ rfl
    | removeField U n => exact Except.ok.inj h ▸ rfl
  | error e =>
    rw [act_of_error h]
    cases a with
    | insert U fields => cases h
    | _ => rfl

theorem Filed.act (hs : s.Filed) : (s.act a).Filed := by
  cases h : s.attempt a with
  | ok s' =>
    rw [act_of_ok h]
    cases a with
    | insert U fields => exact Except.ok.inj h ▸ hs.insert
    | update U i fields => exact hs.update h
    | delete U i => exact hs.delete h
    | dropType U => exact Except.ok.inj h ▸ hs.dropType
    | removeField U n => exact Except.ok.inj h ▸ hs.removeField
  | error e => rwa [act_of_error h]

section Table

variable {t : Table}

theorem values_modify (ht : t.Filed T k) {f : Record → Record} :
    (t.modify i f).values = t.values.map fun r => if r.id = i then f r else r := by
  rw [modify_eq_map ht.keyed, values, values, List.map_map, List.map_map]
  refine List.map_congr_left fun e he => ?_
  simp [ht.id e he]

theorem values_erase (ht : t.Filed T k) : (t.erase i).values = t.values.filter (·.id ≠ i) := by
  rw [erase, values, values, List.filter_map]
  refine congrArg (List.map _) (List.filter_congr fun e he => ?_)
  simp [ht.id e he]

end Table

theorem Action.fresh_of_ne (hT : a.type ≠ T) : a.fresh T k = [] := by
  cases a <;> simp_all [Action.type, Action.fresh]

theorem table_act_of_ne (hT : a.type ≠ T) : (s.act a).table T = s.table T := by
  cases a with
  | insert U fields => exact table_insert.trans (if_neg (Ne.symm hT))
  | update U i fields => exact table_act_update.trans (if_neg (Ne.symm hT))
  | delete U i => exact table_act_delete.trans (if_neg (Ne.symm hT))
  | dropType U => exact table_dropType.trans (if_neg (Ne.symm hT))
  | removeField U n => exact (table_modifyTable rfl).trans (if_neg (Ne.symm hT))

theorem list_act_self (hs : s.Filed) :
    (s.act a).list a.type [] = (s.list a.type []).filterMap (a.after a.type) ++ a.fresh a.type s.inserted := by
  have ht := hs.filed_table a.type
  rw [list_eq, list_eq]
  cases a with
  | insert U fields =>
    have htable : (s.act (.insert U fields)).table U = _ := table_insert.trans (if_pos rfl)
    have hkept : (Action.insert U fields).after U = some := rfl
    simp only [Action.type] at ht ⊢
    rw [htable, put_of_absent ht.fresh, hkept, List.filterMap_some]
    simp [values, Action.fresh, Record.make]
  | update U i fields =>
    simp only [Action.type] at ht ⊢
    rw [table_act_update, if_pos rfl, values_modify ht]
    refine ((List.append_nil _).trans (filterMap_after_map fun r => ?_)).symm
    by_cases hi : i = r.id
    · subst hi
      simp [Action.after, Action.Ends, Action.rewrite, Action.overwrite_eq, Record.merge]
    · simp [Action.after, Action.Ends, Action.rewrite, hi, Ne.symm hi]
  | delete U i =>
    simp only [Action.type] at ht ⊢
    rw [table_act_delete, if_pos rfl, values_erase ht]
    refine ((List.append_nil _).trans (filterMap_after_filter fun r => ?_)).symm
    by_cases hi : i = r.id
    · simp [Action.after, Action.Ends, hi]
    · simp [Action.after, Action.Ends, Action.rewrite, hi, Ne.symm hi]
  | dropType U =>
    have htable : (s.act (.dropType U)).table U = [] := table_dropType.trans (if_pos rfl)
    have hgone : ∀ r : Record, (Action.dropType U).after U r = none := fun r => by simp [Action.after, Action.Ends]
    simp only [Action.type]
    rw [htable, List.filterMap_eq_nil_iff.mpr fun r _ => hgone r]
    rfl
  | removeField U n =>
    have htable : (s.act (.removeField U n)).table U = _ := (table_modifyTable rfl).trans (if_pos rfl)
    have hvalues : values ((s.act (.removeField U n)).table U) = (s.table U).values.map (·.removeField n) := by
      rw [htable]
      simp [values, Function.comp_def]
    simp only [Action.type]
    rw [hvalues]
    refine ((List.append_nil _).trans (filterMap_after_map fun r => ?_)).symm
    simp [Action.after, Action.Ends, Action.rewrite, Record.removeField]

theorem list_act (hs : s.Filed) :
    (s.act a).list T [] = (s.list T []).filterMap (a.after T) ++ a.fresh T s.inserted := by
  by_cases hT : a.type = T
  · subst hT
    exact list_act_self hs
  · have hafter : a.after T = some := funext fun _ => Action.after_of_ne hT
    rw [list_eq, list_eq, table_act_of_ne hT, Action.fresh_of_ne hT, hafter, List.filterMap_some, List.append_nil]

theorem replay_append : s.replay (h ++ [a]) = (s.replay h).act a := List.foldl_append

theorem filed_replay : (empty.replay h).Filed := by
  induction h using List.reverseRecOn with
  | nil => exact filed_empty
  | append_singleton h a ih =>
    rw [replay_append]
    exact ih.act

theorem inserted_replay : (empty.replay h).inserted = (h.map Action.inserts).sum := by
  induction h using List.reverseRecOn with
  | nil => rfl
  | append_singleton h a ih =>
    rw [replay_append, inserted_act, ih]
    simp

/-- The records of a type are those that the history leaves. -/
theorem list_replay : (empty.replay h).list T [] = left T 0 h := by
  induction h using List.reverseRecOn with
  | nil => rfl
  | append_singleton h a ih => rw [replay_append, list_act filed_replay, ih, left_append, inserted_replay, Nat.zero_add]

theorem not_mem_left (hr : r ∈ left T k h) : idName ∉ names r.fields := by
  induction h using List.reverseRecOn generalizing r with
  | nil => cases hr
  | append_singleton h a ih =>
    rw [left_append, List.mem_append, List.mem_filterMap] at hr
    rcases hr with ⟨q, hq, hr⟩ | hr
    · unfold Action.after at hr
      split at hr
      · cases hr
      · rw [← Option.some.inj hr]
        exact Action.not_mem_rewrite (ih hq)
    · cases a with
      | insert U fields =>
        simp only [Action.fresh] at hr
        split at hr
        · rw [List.mem_singleton.mp hr, names_erase]
          simp
        · cases hr
      | _ => cases hr

/-- What a store answers, if a history is all that was done to it. -/
structure Answers (s : Store) (h : List Action) : Prop where
  list : ∀ T, s.list T [] = left T 0 h
  filtered : ∀ T filters, s.list T filters = (left T 0 h).filter fun r => ∀ c ∈ filters, r.Satisfies c
  get? : ∀ T id r, s.get? T id = some r ↔ r ∈ left T 0 h ∧ r.id = id
  count : ∀ T, s.count T = (left T 0 h).length
  ids : ∀ T, ((left T 0 h).map Record.id).Nodup
  fields : ∀ T, ∀ r ∈ left T 0 h, idName ∉ names r.fields

/-- What an action makes of the answers of a store: it fails if and only if the record that it needs is not there, then the
store stays as it is, and in any case nothing changes about other types. -/
structure Local (s : Store) (a : Action) : Prop where
  fails : ∀ e, (a.run.on s).1 = .error e ↔ ∃ p ∈ a.record?, s.get? p.1 p.2 = none ∧ e = .recordNotFound p.1 p.2
  failed : ∀ e, (a.run.on s).1 = .error e → s.act a = s
  list : ∀ T filters, a.type ≠ T → (s.act a).list T filters = s.list T filters
  get? : ∀ T id, a.type ≠ T → (s.act a).get? T id = s.get? T id
  count : ∀ T, a.type ≠ T → (s.act a).count T = s.count T

theorem answers_replay : (empty.replay h).Answers h where
  list T := list_replay
  filtered T filters := by rw [list_filters, list_replay]
  get? T id r := by
    rw [← list_replay, filed_replay.mem_list]
    constructor
    · intro hr
      obtain ⟨hm, hT, hi⟩ := filed_replay.of_get? hr
      exact ⟨⟨hm, hT⟩, hi⟩
    · rintro ⟨⟨hm, rfl⟩, rfl⟩
      exact filed_replay.get? hm
  count T := by rw [count_eq, list_replay]
  ids T := by
    rw [← list_replay]
    exact (filed_replay.ascending T []).nodup
  fields T r hr := not_mem_left hr

theorem local_act : s.Local a where
  fails e := run_eq_error.trans attempt_eq_error
  failed e he := act_of_error (run_eq_error.mp he)
  list T filters hT := by rw [Store.list, table_act_of_ne hT, ← Store.list]
  get? T id hT := by rw [get?_eq, table_act_of_ne hT, ← get?_eq]
  count T hT := by rw [count, table_act_of_ne hT, ← count]

/-- After any history, a store answers what the history says, and whatever is done next fails only for want of its record
and is felt in its type only. The ids that insertions are given are any that differ. -/
theorem answers_history (h : List Action) :
    (empty.replay h).Answers h ∧ ∀ a, (empty.replay h).Local a :=
  ⟨answers_replay, fun _ => local_act⟩

def ledger : List Action :=
  [.insert "A" [("id", .string "x"), ("a", .int 1)], .insert "B" [("b", .int 2)], .insert "A" [("a", .int 3)],
    .update "A" (Ids.id 1) [("c", .int 4), ("id", .string "y")], .delete "A" (Ids.id 3), .removeField "A" "a",
    .dropType "B", .insert "B" [("b", .int 5)]]

end Histories

open scoped Ids in
theorem answers_history_ledger :
    let s := empty.replay ledger
    s.list "A" [] = [⟨Ids.id 1, "A", [("c", .int 4)]⟩] ∧ s.list "B" [("b", .int 2)] = [] ∧ s.count "B" = 1 ∧
      s.get? "B" (Ids.id 4) = some ⟨Ids.id 4, "B", [("b", .int 5)]⟩ ∧
      ((Action.delete "A" (Ids.id 3)).run.on s).1 = .error (.recordNotFound "A" (Ids.id 3)) := by
  intro s
  obtain ⟨hanswers, hlocal⟩ := answers_history ledger
  have hA : left "A" 0 ledger = [⟨Ids.id 1, "A", [("c", .int 4)]⟩] := by decide +kernel
  have hB : left "B" 0 ledger = [⟨Ids.id 4, "B", [("b", .int 5)]⟩] := by decide +kernel
  have hgone : s.get? "A" (Ids.id 3) = none := by
    refine Option.eq_none_iff_forall_ne_some.mpr fun r hr => ?_
    obtain ⟨hr, hid⟩ := (hanswers.get? "A" (Ids.id 3) r).mp hr
    rw [hA] at hr
    rw [List.mem_singleton.mp hr] at hid
    exact absurd hid (by decide +kernel)
  refine ⟨(hanswers.list "A").trans hA, ?_, ?_, ?_, ?_⟩
  · rw [hanswers.filtered, hB]
    decide +kernel
  · rw [hanswers.count, hB]
    rfl
  · exact (hanswers.get? "B" (Ids.id 4) _).mpr ⟨hB ▸ List.mem_singleton_self _, rfl⟩
  · exact ((hlocal _).fails _).mpr ⟨_, rfl, hgone, rfl⟩

end Store

end RecordGraph
