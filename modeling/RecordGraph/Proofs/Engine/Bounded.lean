import RecordGraph.Proofs.Engine.Items
import RecordGraph.Proofs.Engine.Rejection

namespace RecordGraph

open Query Outcome
open Stateful (on_bind)

/-- Whether no array in a value has more than so many items. -/
inductive Json.Bounded (n : Nat) : Json → Prop
  | null : Bounded n .null
  | bool (b : Bool) : Bounded n (.bool b)
  | number (x : Number) : Bounded n (.number x)
  | string (text : String) : Bounded n (.string text)
  | array {items : List Json} (hlength : items.length ≤ n) (h : ∀ v ∈ items, v.Bounded n) : Bounded n (.array items)
  | object {entries : List (String × Json)} (h : ∀ e ∈ entries, e.2.Bounded n) : Bounded n (.object entries)

variable {db : Database} {limits : PageLimits} {n : Nat}

theorem Value.bounded_toJson (v : Value) : v.toJson.Bounded n := by
  cases v with
  | float x =>
    rw [toJson, Json.ofDouble]
    split
    · exact .number _
    · exact .null
  | int i => exact .number _
  | boolean b => exact .bool b
  | _ => exact .string _

theorem Record.bounded_get? {r : Record} {name : String} : ((r.get? name).getD .null).Bounded n := by
  unfold get?
  split
  · exact .string _
  cases r.fields.get? name with
  | none => exact .null
  | some v => exact v.bounded_toJson

theorem Record.bounded_toJson (r : Record) : r.toJson.Bounded n := by
  refine .object fun e he => ?_
  rcases List.mem_cons.mp he with rfl | he
  · exact .string _
  · obtain ⟨f, -, rfl⟩ := List.mem_map.mp he
    exact f.2.bounded_toJson

theorem Output.bounded_listing {count : Nat} {shown : List Record} (h : shown.length ≤ n) :
    (listing count shown).Bounded n := by
  have hnodes : (Json.array (shown.map Record.toJson)).Bounded n := by
    refine .array (by rwa [List.length_map]) fun v hv => ?_
    obtain ⟨r, -, rfl⟩ := List.mem_map.mp hv
    exact r.bounded_toJson
  refine .object fun e he => ?_
  rcases List.mem_pair.mp he with rfl | rfl
  · exact .number _
  · exact hnodes

theorem bounded_assemble {values : List (String × Json)} (h : ∀ p ∈ values, p.2.Bounded n) :
    (assemble values).Bounded n := by
  refine .object fun e he => ?_
  rcases Entries.mem_foldl_put he with he | he
  · exact h e he
  · cases he

abbrev Bounds (n : Nat) (x : Except Fault (String × Json)) : Prop := Ensures (fun p => p.2.Bounded n) x

abbrev BoundsAll (n : Nat) (x : Except Fault (List (String × Json))) : Prop := Ensures (fun l => ∀ p ∈ l, p.2.Bounded n) x

theorem ensures_referring {link : Link} {r : Record} {field : String} {parameters : Entries String} :
    Ensures (fun found => found.2.length ≤ limits.maxSize) (referring db limits link r field parameters) := by
  have hpage : ∀ records first, Ensures (fun shown => shown.length ≤ limits.maxSize)
      (page records first (parameters.get? "after") limits) := fun _ _ _ h => length_page_le h
  unfold referring
  split
  · split
    · exact ensures_true.bind fun _ _ => ensures_throw
    · exact ensures_throw
  · split
    · exact ensures_true.bind fun _ _ => (hpage _ _).bind fun _ h => ensures_pure h
    · exact (hpage _ _).bind fun _ h => ensures_pure h

mutual

theorem bounds_recordItem : ∀ (s : Selection) (t : RecordType) (r : Record),
    Bounds limits.maxSize (recordItem db limits t r s)
  | .mk form name aliasName parameters children, t, r => by
    unfold recordItem
    split
    · exact ensures_throw
    split
    -- a plain field
    · refine ensures_true.bind fun _ _ => ?_
      split
      · exact ensures_throw
      · exact ensures_pure r.bounded_get?
    next link _ =>
    split
    -- the many side of a connection
    · refine ensures_referring.bind fun found hfound => ?_
      dsimp only
      split
      · exact ensures_pure (Output.bounded_listing hfound)
      · have hitems := bounds_listingItems children link.targetType found.1 found.2 hfound
        exact (hitems.map fun _ => bounded_assemble).bind fun _ hv => ensures_pure hv
    -- the one side of a connection
    · refine ensures_true.bind fun _ _ => ?_
      split
      · exact ensures_pure .null
      next id _ =>
      split
      · exact ensures_pure (.string id)
      split
      · exact ensures_pure .null
      next target _ =>
      split
      · exact ensures_pure target.bounded_toJson
      · have hitems := fun u => (bounds_recordItems children u target).map (f := assemble) fun _ => bounded_assemble
        exact ensures_true.bind fun u _ => (hitems u).bind fun _ hv => ensures_pure hv

theorem bounds_recordItems : ∀ (items : List Selection) (t : RecordType) (r : Record),
    BoundsAll limits.maxSize (recordItems db limits t r items)
  | [], _, _ => ensures_pure (by simp)
  | s :: items, t, r => by
    refine (bounds_recordItem s t r).bind fun p hp => ?_
    exact (bounds_recordItems items t r).bind fun l hl => ensures_pure (List.forall_mem_cons.mpr ⟨hp, hl⟩)

theorem bounds_listingItem : ∀ (s : Selection) (T : String) (count : Nat) (shown : List Record),
    shown.length ≤ limits.maxSize → Bounds limits.maxSize (listingItem db limits T count shown s)
  | .mk form name aliasName parameters children, T, count, shown, h => by
    refine ensures_true.bind fun _ _ => ?_
    dsimp only
    split
    · exact ensures_pure (.number _)
    split
    · refine (ensures_mapM (Q := fun v => v.Bounded limits.maxSize) fun r _ => ?_).bind fun values hvalues => ?_
      · split
        · exact ensures_pure r.bounded_toJson
        · have hitems := fun t => (bounds_recordItems children t r).map (f := assemble) fun _ => bounded_assemble
          exact ensures_true.bind fun t _ => hitems t
      · exact ensures_pure (.array (by rwa [hvalues.1]) hvalues.2)
    · exact ensures_throw

theorem bounds_listingItems : ∀ (items : List Selection) (T : String) (count : Nat) (shown : List Record),
    shown.length ≤ limits.maxSize → BoundsAll limits.maxSize (listingItems db limits T count shown items)
  | [], _, _, _, _ => ensures_pure (by simp)
  | s :: items, T, count, shown, h => by
    refine (bounds_listingItem s T count shown h).bind fun p hp => ?_
    exact (bounds_listingItems items T count shown h).bind fun l hl => ensures_pure (List.forall_mem_cons.mpr ⟨hp, hl⟩)

end

def Call.givesRecords : Call → Bool
  | .node | .nodes | .create | .update | .delete => true
  | _ => false

def Output.Holds (n : Nat) : Output → Prop
  | json _ => False
  | record .. => True
  | connection _ _ shown => shown.length ≤ n

theorem bounded_resolve {output : Output} {selection : List Selection} (h : output.Holds limits.maxSize) :
    Ensures (Json.Bounded limits.maxSize) (resolve db limits output selection) := by
  cases output with
  | json v => exact h.elim
  | record T r =>
    rw [resolve, resolveRecord_eq]
    split
    · exact ensures_pure r.bounded_toJson
    · exact ensures_true.bind fun t _ => (bounds_recordItems selection t r).map fun _ => bounded_assemble
  | connection T count shown =>
    rw [resolve, resolveListing_eq]
    split
    · exact ensures_pure (Output.bounded_listing h)
    · exact (bounds_listingItems selection T count shown h).map fun _ => bounded_assemble

open Operation

/-- A call that gives back records gives back a page of them at most. -/
theorem Request.holds_perform [Ids] {request : Request} (h : request.call.givesRecords = true) :
    Gives (request.call.perform limits request) (Output.Holds limits.maxSize) := by
  cases request with
  | node T id => exact gives_bind fun _ => gives_bind fun _ => gives_pure trivial
  | nodes T first after =>
    refine gives_bind fun _ => gives_bind fun _ => gives_ask_bind fun _ shown hshown => ?_
    exact gives_pure (length_page_le hshown)
  | create T data => exact gives_bind fun _ => gives_bind fun _ => gives_bind fun _ => gives_pure trivial
  | update T id data => exact gives_bind fun _ => gives_bind fun _ => gives_bind fun _ => gives_pure trivial
  | delete T id => exact gives_bind fun _ => gives_bind fun _ => gives_bind fun _ => gives_pure trivial
  | _ => cases h

/-- Whether what comes of an action depends on the catalog only. -/
def Operation.Blind {α : Type} (a : Operation α) : Prop := ∀ c s s',
  (a.on ⟨c, s⟩).1 = (a.on ⟨c, s'⟩).1 ∧ (a.on ⟨c, s⟩).2.catalog = (a.on ⟨c, s'⟩).2.catalog

section Blind

variable {α β : Type} {a : Operation α} {k : α → Operation β}

theorem blind_pure {x : α} : Blind (pure x : Operation α) := fun _ _ _ => ⟨rfl, rfl⟩

theorem blind_ask {f : Catalog → Except Fault α} : Blind (ask f) := fun _ _ _ => ⟨rfl, rfl⟩

theorem blind_onCatalog {a : Mutation α} : Blind (onCatalog a) := fun _ _ _ => ⟨rfl, rfl⟩

theorem blind_clean {a : Stateful Store Unit} {f : Store → Store} (ha : a.ComesTo fun s => .ok ((), f s)) :
    Blind (onStore a) := by
  intro c s s'
  refine ⟨?_, rfl⟩
  show (a.on s).1 = (a.on s').1
  rw [ha.on_eq, ha.on_eq]
  rfl

theorem Operation.Blind.bind (ha : Blind a) (hk : ∀ x, Blind (k x)) : Blind (a >>= k) := by
  intro c s s'
  have h := ha c s s'
  rw [on_bind, on_bind]
  generalize a.on ⟨c, s⟩ = p, a.on ⟨c, s'⟩ = p' at h ⊢
  obtain ⟨x, ⟨d, t⟩⟩ := p
  obtain ⟨x', ⟨d', t'⟩⟩ := p'
  obtain ⟨rfl, rfl⟩ : x = x' ∧ d = d' := h
  cases x with
  | error e => exact ⟨rfl, rfl⟩
  | ok x => exact hk x d t t'

theorem blind_forM {f : β → Operation Unit} {l : List β} (hf : ∀ x, Blind (f x)) : Blind (l.forM f) := by
  rw [List.forM_eq_forM]
  induction l with
  | nil => exact blind_pure
  | cons x l ih =>
    rw [List.forM_cons]
    exact (hf x).bind fun _ => ih

end Blind

theorem Call.blind_performDeleteConnection {T f : String} : Blind (performDeleteConnection T f) := by
  have hanswer : ∀ U, Blind (changedTypes T U) := fun U => blind_ask.bind fun _ => blind_ask.bind fun _ => blind_pure
  have hclean : ∀ U g, Blind (onStore (RecordStore.removeField U g)) := fun U g => blind_clean RecordStore.comesTo_removeField
  refine blind_onCatalog.bind fun p => ?_
  dsimp only
  split
  · exact (hclean _ _).bind fun _ => hanswer _
  split
  · split
    · exact (hclean _ _).bind fun _ => hanswer _
    · exact hanswer _
  · exact hanswer _

theorem Request.blind_perform [Ids] {request : Request} (h : request.call.givesRecords = false) :
    Blind (request.call.perform limits request) := by
  have hclean : ∀ T n, Blind (onStore (RecordStore.removeField T n)) := fun T n => blind_clean RecordStore.comesTo_removeField
  cases request with
  | schema => exact fun _ _ _ => ⟨rfl, rfl⟩
  | type name => exact blind_ask.bind fun _ => blind_pure
  | createType name => exact blind_onCatalog.bind fun _ => blind_pure
  | deleteType name =>
    refine blind_onCatalog.bind fun _ => (blind_clean RecordStore.comesTo_dropType).bind fun _ => ?_
    exact (blind_forM fun _ => hclean _ _).bind fun _ => blind_pure
  | createField T f => exact blind_onCatalog.bind fun _ => blind_ask.bind fun _ => blind_pure
  | deleteField T f =>
    exact blind_onCatalog.bind fun _ => (hclean _ _).bind fun _ => blind_ask.bind fun _ => blind_pure
  | createConnection T f U g required =>
    exact blind_onCatalog.bind fun _ => blind_ask.bind fun _ => blind_ask.bind fun _ => blind_pure
  | deleteConnection T f => exact Call.blind_performDeleteConnection
  | createIndex T n fields => exact blind_onCatalog.bind fun _ => blind_ask.bind fun _ => blind_pure
  | deleteIndex T n => exact blind_onCatalog.bind fun _ => blind_ask.bind fun _ => blind_pure
  | _ => cases h

end RecordGraph
