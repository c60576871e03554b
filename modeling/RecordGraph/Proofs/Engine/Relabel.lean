import RecordGraph.Proofs.Engine.Answers
import RecordGraph.Proofs.Engine.Run
import RecordGraph.Proofs.Engine.Sides
import RecordGraph.Proofs.Query.Alike

namespace RecordGraph

open Entries Query Selection Outcome Operation

mutual

/-- A value with the names of its entries replaced by those that the items of a body give, entry by entry. -/
def relabel (items : List Selection) : Json → Json
  | .object entries => .object (relabelEntries items entries)
  | .array values => .array (relabelAll items values)
  | .null => .null
  | .bool b => .bool b
  | .number n => .number n
  | .string s => .string s

def relabelAll (items : List Selection) : List Json → List Json
  | [] => []
  | v :: vs => relabel items v :: relabelAll items vs

def relabelEntries (items : List Selection) : List (String × Json) → List (String × Json)
  | [] => []
  | (n, v) :: es =>
    match items with
    | [] => (n, v) :: es
    | s :: ss => (s.outputName, relabel s.children v) :: relabelEntries ss es

end

/-- Whether the output names in a body are distinct, at every level. -/
inductive Apart : List Selection → Prop
  | mk {items : List Selection} (hd : (items.map outputName).Nodup) (hc : ∀ s ∈ items, Apart s.children) : Apart items

def GivesAlike (items items' : List Selection) (v w : Json) : Prop :=
  Apart items → Apart items' → w = relabel items' v

def GivesEntryAlike (s t : Selection) (a b : String × Json) : Prop :=
  a.1 = s.outputName ∧ b.1 = t.outputName ∧ GivesAlike s.children t.children a.2 b.2

/-- Whether nothing but a refusal can tell related parameters apart, and this only by the parameter that it names. -/
structure Tolerates (R : Entries String → Entries String → Prop) (E : Fault → Fault → Prop) : Prop where
  refl : ∀ e, E e e
  get? : ∀ {p q}, R p q → ∀ n, p.get? n = q.get? n
  find? : ∀ {p q}, R p q → ∀ f : String → Bool, p.find? (fun e => f e.1) = none ↔ q.find? (fun e => f e.1) = none
  invalid : ∀ {p q}, R p q → ∀ (f : String → Bool) a b objection, p.find? (fun e => f e.1) = some a →
    q.find? (fun e => f e.1) = some b → E (.invalidParameter a.1 objection) (.invalidParameter b.1 objection)

variable {R : Entries String → Entries String → Prop} {E : Fault → Fault → Prop} {p q : Entries String}
variable {items items' : List Selection} {s t : Selection} {v : Json}

theorem tolerates_eq : Tolerates Eq Eq where
  refl _ := rfl
  get? h n := by rw [h]
  find? h f := by rw [h]
  invalid h f a b objection ha hb := by
    rw [h, hb] at ha
    rw [Option.some.inj ha]

theorem tolerates_reordered : Tolerates Reordered fun e e' => e.kind = e'.kind where
  refl _ := rfl
  get? h n := h.get? n
  find? h f := by
    rw [List.find?_eq_none, List.find?_eq_none]
    exact forall_congr' fun e => imp_congr_left h.1.mem_iff
  invalid _ _ _ _ _ _ _ := rfl

mutual

theorem relabel_nil : ∀ v : Json, relabel [] v = v
  | .object [] => rfl
  | .object ((_, _) :: _) => rfl
  | .array values => congrArg Json.array (relabelAll_nil values)
  | .null => rfl
  | .bool _ => rfl
  | .number _ => rfl
  | .string _ => rfl

theorem relabelAll_nil : ∀ values : List Json, relabelAll [] values = values
  | [] => rfl
  | v :: values => by rw [relabelAll, relabel_nil v, relabelAll_nil values]

end

theorem givesAlike_nil (v : Json) : GivesAlike [] [] v v := fun _ _ => (relabel_nil v).symm

/-- Entries with distinct names are all kept where they are. -/
theorem Entries.ofList_eq {β : Type} {l : Entries β} (h : Keyed l) : Entries.ofList l = l := by
  have hput : ∀ (l m : Entries β), Keyed (m ++ l) → l.foldl (fun m e => Entries.put e.1 e.2 m) m = m ++ l := by
    intro l
    induction l with
    | nil => simp
    | cons e l ih =>
      intro m hm
      have hnew : has e.1 m = false := by
        rw [Bool.eq_false_iff, Ne, has_iff]
        intro he
        rw [Keyed, names, List.map_append, List.nodup_append] at hm
        exact hm.2.2 _ he _ List.mem_cons_self rfl
      rw [List.foldl_cons, put_eq_append hnew, ih _ (by simpa using hm)]
      simp
  exact hput l [] h

theorem givesAlike_assemble {es es' : Entries Json} (h : Pairs GivesEntryAlike items items' es es') :
    GivesAlike items items' (assemble es) (assemble es') := by
  have hnames : names es = items.map outputName ∧ names es' = items'.map outputName := by
    induction h with
    | nil => exact ⟨rfl, rfl⟩
    | cons hab _ ih => exact ⟨congrArg₂ List.cons hab.1 ih.1, congrArg₂ List.cons hab.2.1 ih.2⟩
  have hentries : (∀ s ∈ items, Apart s.children) → (∀ t ∈ items', Apart t.children) →
      es' = relabelEntries items' es := by
    clear hnames
    induction h with
    | nil => intros; rfl
    | @cons s t a b items items' es es' hab _ ih =>
      intro hs ht
      rw [List.forall_mem_cons] at hs ht
      obtain ⟨-, hname, hvalue⟩ := hab
      rw [relabelEntries, ← ih hs.2 ht.2, ← hvalue hs.1 ht.1, ← hname]
  rintro ⟨hd, hc⟩ ⟨hd', hc'⟩
  have hkeyed : Keyed es := by rwa [Keyed, hnames.1]
  have hkeyed' : Keyed es' := by rwa [Keyed, hnames.2]
  rw [assemble, assemble, Entries.ofList_eq hkeyed, Entries.ofList_eq hkeyed', hentries hc hc', relabel]

theorem matches_assemble {f g : Selection → Except Fault (String × Json)}
    (h : List.Forall₂ (fun s t => Matches E (GivesEntryAlike s t) (f s) (g t)) items items') :
    Matches E (GivesAlike items items') ((items.mapM f).map assemble) ((items'.mapM g).map assemble) :=
  (matches_mapM h).map fun _ _ => givesAlike_assemble

theorem matches_named {x y : Except Fault Json} {form form' : Form} {n : String} {a b : Option String}
    (h : Matches E (GivesAlike items items') x y) :
    Matches E (GivesEntryAlike (.mk form n a p items) (.mk form' n b q items'))
      (x.map fun v => (a.getD n, v)) (y.map fun w => (b.getD n, w)) := h.map fun _ _ hvw => ⟨rfl, rfl, hvw⟩

theorem givesAlike_of_relabel (h : relabel items' v = v) : GivesAlike items items' v v := fun _ _ => h.symm

section Parameters

variable {α β : Type} {V : α → β → Prop} {x : Except Fault α} {y : Except Fault β}

theorem matches_find? (h : Tolerates R E) (hp : R p q) (f : String → Bool) (objection : Objection)
    (hxy : Matches E V x y) : Matches E V
      (match p.find? fun e => f e.1 with | some e => .error (.invalidParameter e.1 objection) | none => x)
      (match q.find? fun e => f e.1 with | some e => .error (.invalidParameter e.1 objection) | none => y) := by
  have hnone := h.find? hp f
  cases ha : p.find? fun e => f e.1 with
  | none =>
    rw [hnone.mp ha]
    exact hxy
  | some a =>
    cases hb : q.find? fun e => f e.1 with
    | none => exact absurd (hnone.mpr hb) (by simp [ha])
    | some b => exact h.invalid hp f a b objection ha hb

theorem rejectParameters_eq (n : String) (p : Entries String) : rejectParameters n p =
    match p.find? fun _ => true with
    | some e => .error (.invalidParameter e.1 (.ofFieldWithout n))
    | none => .ok () := by
  cases p <;> rfl

theorem matches_rejectParameters (h : Tolerates R E) (hp : R p q) (n : String) (hxy : Matches E V x y) :
    Matches E V (rejectParameters n p >>= fun _ => x) (rejectParameters n q >>= fun _ => y) := by
  rw [rejectParameters_eq, rejectParameters_eq]
  have hrefused := matches_find? (V := fun _ _ => True) (x := .ok ()) (y := .ok ()) h hp (fun _ => true)
    (.ofFieldWithout n) trivial
  exact hrefused.bind fun _ _ _ => hxy

end Parameters

mutual

theorem matches_onObjects {f g : Entries Json → Except Fault Json} (hE : ∀ e, E e e)
    (h : ∀ entries, Matches E (GivesAlike items items') (f entries) (g entries)) :
    ∀ v : Json, Matches E (GivesAlike items items') (v.onObjects f) (v.onObjects g)
  | .object entries => h entries
  | .array values => (matches_onObjectsOf hE h values).map fun vs ws hvw hd hd' => by rw [relabel, hvw hd hd']
  | .null => givesAlike_of_relabel rfl
  | .bool _ => givesAlike_of_relabel rfl
  | .number _ => givesAlike_of_relabel rfl
  | .string _ => givesAlike_of_relabel rfl

theorem matches_onObjectsOf {f g : Entries Json → Except Fault Json} (hE : ∀ e, E e e)
    (h : ∀ entries, Matches E (GivesAlike items items') (f entries) (g entries)) :
    ∀ values : List Json, Matches E (fun vs ws => Apart items → Apart items' → ws = relabelAll items' vs)
      (Json.onObjectsOf f values) (Json.onObjectsOf g values)
  | [] => fun _ _ => rfl
  | v :: values => (matches_onObjects hE h v).bind fun x y hxy =>
      (matches_onObjectsOf hE h values).bind fun xs ys hs hd hd' => by rw [relabelAll, hxy hd hd', hs hd hd']

end

theorem projectItems_eq_mapM {entries : Entries Json} :
    projectItems entries items = items.mapM (projectItem entries) := by
  induction items with
  | nil => rfl
  | cons s items ih => rw [projectItems, List.mapM_cons, ih]

theorem projectItem_eq {entries : Entries Json} (form : Form) (n : String) (a : Option String) (p : Entries String) :
    projectItem entries (.mk form n a p items) = rejectParameters n p >>= fun _ =>
      (project ((entries.get? n).getD .null) items).map fun v => (a.getD n, v) := by
  rw [projectItem, project]
  split <;> rfl

theorem matches_project (h : Tolerates R E) (hi : List.Forall₂ (fun s t => ∀ entries,
      Matches E (GivesEntryAlike s t) (projectItem entries s) (projectItem entries t)) items items') (v : Json) :
    Matches E (GivesAlike items items') (project v items) (project v items') := by
  cases hi with
  | nil => exact givesAlike_nil v
  | cons hs hi =>
    refine matches_onObjects h.refl (fun entries => ?_) v
    rw [projectItems_eq_mapM, projectItems_eq_mapM]
    exact matches_assemble (.cons (hs entries) (hi.imp fun _ _ hst => hst entries))

mutual

theorem matches_projectItem (h : Tolerates R E) : ∀ s t : Selection, s.Alike R t → ∀ entries,
    Matches E (GivesEntryAlike s t) (projectItem entries s) (projectItem entries t)
  | .mk form n a p items, .mk form' n' b q items', hst, entries => by
    obtain ⟨rfl, rfl, hp, hi⟩ := hst
    rw [projectItem_eq, projectItem_eq]
    exact matches_rejectParameters h hp n (matches_named (matches_project h (matches_projectItems h items items' hi) _))

theorem matches_projectItems (h : Tolerates R E) : ∀ items items' : List Selection, AlikeAll R items items' →
    List.Forall₂ (fun s t => ∀ entries,
      Matches E (GivesEntryAlike s t) (projectItem entries s) (projectItem entries t)) items items'
  | [], [], _ => .nil
  | s :: items, t :: items', hi => .cons (matches_projectItem h s t hi.1) (matches_projectItems h items items' hi.2)
  | [], _ :: _, hi => hi.elim
  | _ :: _, [], hi => hi.elim

end

variable {db : Database} {limits : PageLimits} {e : RecordType} {r : Record} {T n : String} {k : Field} {form : Form}
variable {a b : Option String}

theorem matches_referring (h : Tolerates R E) (hp : R p q) (l : Link) (r : Record) (n : String) :
    Matches E Eq (referring db limits l r n p) (referring db limits l r n q) := by
  unfold referring
  rw [h.get? hp "first", h.get? hp "after"]
  have hrest : ∀ {x y : Except Fault (Nat × List Record)}, x = y → Matches E Eq
      (match p.find? fun e => e.1 ≠ "first" && e.1 ≠ "after" with
        | some e => .error (.invalidParameter e.1 (.notOfField n))
        | none => x)
      (match q.find? fun e => e.1 ≠ "first" && e.1 ≠ "after" with
        | some e => .error (.invalidParameter e.1 (.notOfField n))
        | none => y) := by
    rintro x _ rfl
    exact matches_find? h hp (fun m => m ≠ "first" && m ≠ "after") _ (matches_refl h.refl (fun _ => rfl) _)
  cases q.get? "first" with
  | none => exact hrest rfl
  | some v =>
    refine (matches_refl (V := Eq) h.refl (fun _ => rfl) _).bind ?_
    rintro first _ rfl
    exact hrest rfl

/-- Parameters that an item does not take are refused before all else. -/
theorem recordItem_parameters (hf : e.field? n = some k) (hl : ∀ l, k.link = some l → l.side = .one) :
    recordItem db limits e r (.mk form n a p items) =
      rejectParameters n p >>= fun _ => recordItem db limits e r (.mk form n a [] items) := by
  rw [recordItem, recordItem]
  cases hk : k.link with
  | none =>
    simp only [hf, hk]
    rfl
  | some l =>
    simp only [hf, hk, hl l hk, reduceCtorEq, if_false]
    rfl

theorem listingItem_parameters {count : Nat} {shown : List Record} :
    listingItem db limits T count shown (.mk form n a p items) =
      rejectParameters n p >>= fun _ => listingItem db limits T count shown (.mk form n a [] items) := rfl

theorem recordItem_plain_body (hf : e.field? n = some k) (hl : k.link = none) (hform : form ≠ .leaf) :
    recordItem db limits e r (.mk form n a [] items) = .error (.fieldIsNotConnection e.name n) := by
  rw [recordItem]
  simp only [hf, hl, rejectParameters, ok_bind]
  rw [if_pos hform]
  rfl

theorem relabel_getD_get? (items : List Selection) (r : Record) (n : String) :
    relabel items ((r.get? n).getD .null) = (r.get? n).getD .null := by
  rw [Record.get?]
  split
  · rfl
  cases r.fields.get? n with
  | none => rfl
  | some v =>
    cases v with
    | float x =>
      simp only [Option.map_some, Option.getD_some, Value.toJson, Json.ofDouble]
      split <;> rfl
    | _ => rfl

theorem relabelAll_of_pairs {α β : Type} {l : List α} {m : List β} {vs ws : List Json}
    (h : Pairs (fun _ _ => GivesAlike items items') l m vs ws) (hd : Apart items) (hd' : Apart items') :
    ws = relabelAll items' vs := by
  induction h with
  | nil => rfl
  | cons hvw _ ih => rw [relabelAll, hvw hd hd', ih]

def SelectAlike (E : Fault → Fault → Prop) (db : Database) (limits : PageLimits) (items items' : List Selection) : Prop :=
  List.Forall₂ (fun s t => ∀ place : Place, Matches E (GivesEntryAlike s t) (place.item db limits s)
    (place.item db limits t)) items items'

theorem matches_resolveRecord (h : Tolerates R E) (hi : SelectAlike E db limits items items') (T : String) (r : Record) :
    Matches E (GivesAlike items items') (resolveRecord db limits T r items) (resolveRecord db limits T r items') := by
  rw [resolveRecord_eq, resolveRecord_eq]
  cases hi with
  | nil => exact givesAlike_nil _
  | cons hs hi =>
    simp only [List.isEmpty_cons, Bool.false_eq_true, if_false, recordItems_eq_mapM]
    cases he : db.catalog.requireNode T with
    | error x => exact h.refl x
    | ok e =>
      have hitem : recordItem db limits e r = (Place.record T r).item db limits := by
        funext s
        rw [Place.item, he, ok_bind]
      rw [ok_bind, ok_bind, hitem]
      exact matches_assemble (.cons (hs _) (hi.imp fun _ _ hst => hst _))

theorem matches_resolveListing (hi : SelectAlike E db limits items items') (T : String) (count : Nat)
    (shown : List Record) : Matches E (GivesAlike items items') (resolveListing db limits T count shown items)
      (resolveListing db limits T count shown items') := by
  rw [resolveListing_eq, resolveListing_eq]
  cases hi with
  | nil => exact givesAlike_nil _
  | cons hs hi =>
    simp only [List.isEmpty_cons, Bool.false_eq_true, if_false, listingItems_eq_mapM]
    exact matches_assemble (.cons (hs (.page T count shown)) (hi.imp fun _ _ hst => hst (.page T count shown)))

theorem matches_recordItem (h : Tolerates R E) (hp : R p q) (hi : SelectAlike E db limits items items') :
    Matches E (GivesEntryAlike (.mk form n a p items) (.mk form n b q items'))
      (recordItem db limits e r (.mk form n a p items)) (recordItem db limits e r (.mk form n b q items')) := by
  cases hf : e.field? n with
  | none =>
    rw [recordItem, recordItem]
    simp only [hf]
    exact h.refl _
  | some k =>
    cases hl : k.link with
    | none =>
      have hone : ∀ l, k.link = some l → l.side = .one := by simp [hl]
      rw [recordItem_parameters (p := p) hf hone, recordItem_parameters (p := q) hf hone]
      apply matches_rejectParameters h hp
      by_cases hform : form = .leaf
      · subst hform
        rw [recordItem_plain hf hl, recordItem_plain hf hl]
        exact ⟨rfl, rfl, givesAlike_of_relabel (relabel_getD_get? _ _ _)⟩
      · rw [recordItem_plain_body hf hl hform, recordItem_plain_body hf hl hform]
        exact h.refl _
    | some l =>
      cases hs : l.side with
      | many =>
        rw [recordItem_many hf hl hs, recordItem_many hf hl hs]
        refine (matches_referring h hp l r n).bind fun found _ hfound => ?_
        rw [← hfound]
        exact matches_named (matches_resolveListing hi _ _ _)
      | one =>
        have hone : ∀ l, k.link = some l → l.side = .one := by
          intro l' hl'
          rw [hl] at hl'
          exact Option.some.inj hl' ▸ hs
        rw [recordItem_parameters (p := p) hf hone, recordItem_parameters (p := q) hf hone]
        apply matches_rejectParameters h hp
        by_cases hform : form = .leaf
        · subst hform
          rw [recordItem_leaf hf hl hs, recordItem_leaf hf hl hs]
          refine ⟨rfl, rfl, givesAlike_of_relabel ?_⟩
          cases r.reference? n <;> rfl
        · rw [recordItem_body hf hl hs hform, recordItem_body hf hl hs hform]
          cases (r.reference? n).bind (db.store.get? l.targetType) with
          | none => exact ⟨rfl, rfl, givesAlike_of_relabel rfl⟩
          | some u => exact matches_named (matches_resolveRecord h hi _ _)

theorem matches_listingItem (h : Tolerates R E) (hp : R p q) (hi : SelectAlike E db limits items items') (T : String)
    (count : Nat) (shown : List Record) :
    Matches E (GivesEntryAlike (.mk form n a p items) (.mk form n b q items'))
      (listingItem db limits T count shown (.mk form n a p items))
      (listingItem db limits T count shown (.mk form n b q items')) := by
  rw [listingItem_parameters (p := p), listingItem_parameters (p := q)]
  apply matches_rejectParameters h hp
  by_cases hcount : n = "count"
  · subst hcount
    exact ⟨rfl, rfl, givesAlike_of_relabel rfl⟩
  by_cases hnodes : n = "nodes"
  · subst hnodes
    rw [listingItem_nodes, listingItem_nodes]
    have hrecords : Matches E (Pairs (fun _ _ => GivesAlike items items') shown shown)
        (shown.mapM fun t => resolveRecord db limits T t items) (shown.mapM fun t => resolveRecord db limits T t items') :=
      matches_mapM (List.forall₂_same.mpr fun u _ => matches_resolveRecord h hi T u)
    refine hrecords.bind fun vs ws hvw => ⟨rfl, rfl, fun hd hd' => ?_⟩
    have hall : ws = relabelAll items' vs := relabelAll_of_pairs hvw hd hd'
    rw [hall]
    rfl
  · simp only [listingItem, rejectParameters, ok_bind, hcount, hnodes, if_false]
    exact h.refl _

mutual

/-- Selections that differ in aliases and in related parameters select alike. -/
theorem matches_item (h : Tolerates R E) : ∀ s t : Selection, s.Alike R t → ∀ place : Place,
    Matches E (GivesEntryAlike s t) (place.item db limits s) (place.item db limits t)
  | .mk form n a p items, .mk form' n' b q items', hst, place => by
    obtain ⟨rfl, rfl, hp, hi⟩ := hst
    have ih := selectAlike h items items' hi
    cases place with
    | record T r =>
      refine (matches_refl (V := Eq) h.refl (fun _ => rfl) _).bind fun e _ he => ?_
      rw [← he]
      exact matches_recordItem h hp ih
    | page T count shown => exact matches_listingItem h hp ih T count shown

theorem selectAlike (h : Tolerates R E) : ∀ items items' : List Selection, AlikeAll R items items' →
    SelectAlike E db limits items items'
  | [], [], _ => List.Forall₂.nil
  | s :: items, t :: items', hi => List.Forall₂.cons (matches_item h s t hi.1) (selectAlike h items items' hi.2)
  | [], _ :: _, hi => hi.elim
  | _ :: _, [], hi => hi.elim

end

theorem matches_resolve (h : Tolerates R E) (hi : AlikeAll R items items') (output : Output) :
    Matches E (GivesAlike items items') (resolve db limits output items) (resolve db limits output items') := by
  cases output with
  | json v => exact matches_project h (matches_projectItems h items items' hi) v
  | record T r => exact matches_resolveRecord h (selectAlike h items items' hi) T r
  | connection T count shown => exact matches_resolveListing (selectAlike h items items' hi) T count shown

/-- A call looks its parameters up by their names. -/
theorem Call.decode_congr (hp : ∀ n, p.get? n = q.get? n) (call : Call) (c : Catalog) :
    call.decode c p = call.decode c q := by
  have hneed : ∀ (call : Call) n, call.need p n = call.need q n := by
    intro call n
    rw [Call.need, Call.need, Parameter.required, Parameter.required, hp]
  have hoptional : ∀ n, Parameter.optional p n = Parameter.optional q n := hp
  cases call <;> simp only [Call.decode, Call.newField, hneed, hoptional]

theorem matches_process (h : Tolerates R E) (hp : R p q) (call : Call) (c : Catalog) :
    Matches E Eq (call.process c p) (call.process c q) := by
  refine matches_find? h hp (fun n => !call.parameters.contains n) (.notOfCall call.name) ?_
  rw [Call.decode_congr (h.get? hp)]
  exact matches_refl h.refl (fun _ => rfl) _

section Queries

variable [Ids]

theorem matches_answer (h : Tolerates R E) (hi : AlikeAll R items items') (limits : PageLimits) (db : Database)
    (m n : String) {x y : Except Fault (Call × Request)} (hxy : Matches E Eq x y) :
    Matches E (fun v w => ∃ v' w', v = .object [(m, v')] ∧ w = .object [(n, w')] ∧ GivesAlike items items' v' w')
      (db.answer limits m items x).1 (db.answer limits n items' y).1 ∧
    (db.answer limits m items x).2 = (db.answer limits n items' y).2 := by
  cases x with
  | error e =>
    cases y with
    | error e' => exact ⟨hxy, rfl⟩
    | ok _ => exact hxy.elim
  | ok called =>
    cases y with
    | error e' => exact hxy.elim
    | ok called' =>
      obtain rfl : called = called' := hxy
      rw [Database.answer, Database.answer]
      rcases (called.1.perform limits called.2).on db with ⟨e | output, d⟩
      · exact ⟨h.refl e, rfl⟩
      · exact ⟨(matches_resolve h hi output).map fun v w hvw => ⟨v, w, rfl, rfl, hvw⟩, rfl⟩

theorem matches_executeSelection (h : Tolerates R E) (hst : s.Alike R t) (limits : PageLimits) (db : Database) :
    Matches E (GivesAlike [s] [t]) ((executeSelection limits s).on db).1 ((executeSelection limits t).on db).1 ∧
      ((executeSelection limits s).on db).2 = ((executeSelection limits t).on db).2 := by
  obtain ⟨form, n, a, p, items⟩ := s
  obtain ⟨form', n', b, q, items'⟩ := t
  obtain ⟨rfl, rfl, hp, hi⟩ := hst
  have hasked : Matches E Eq
      (Call.ofName n >>= fun call => (call.process db.catalog p).map (call, ·))
      (Call.ofName n >>= fun call => (call.process db.catalog q).map (call, ·)) := by
    refine (matches_refl (V := Eq) h.refl (fun _ => rfl) _).bind ?_
    rintro call _ rfl
    exact (matches_process h hp call db.catalog).map fun _ _ hr => by rw [hr]
  rw [on_executeSelection, on_executeSelection]
  obtain ⟨hanswer, hstate⟩ := matches_answer h hi limits db (a.getD n) (b.getD n) hasked
  refine ⟨hanswer.mono fun v w hvw => ?_, hstate⟩
  obtain ⟨v', w', rfl, rfl, hvw⟩ := hvw
  rintro ⟨-, hd⟩ ⟨-, hd'⟩
  rw [hvw (hd _ (List.mem_singleton_self _)) (hd' _ (List.mem_singleton_self _))]
  rfl

/-- Two queries that give no parameter twice in a node, and are the same without their aliases and up to the order of the
parameters in each node, reach the same state, and either both are refused, for reasons of one kind, or both are answered.
Where they differ in their aliases only, they are refused for the very same reason. Where output names are distinct at every
level of both, the one answer is the other with the names replaced by the output names, entry by entry. -/
theorem alike_executed (limits : PageLimits) (db : Database) (s t : Selection) (hs : s.WellKeyed)
    (h : s.unaliased.agrees t.unaliased = true) :
    let answer := (executeSelection limits s).on db
    let answer' := (executeSelection limits t).on db
    answer.2 = answer'.2 ∧
      ((∃ e e', answer.1 = .error e ∧ answer'.1 = .error e' ∧ e.kind = e'.kind ∧ (s.unaliased = t.unaliased → e = e')) ∨
        ∃ v w, answer.1 = .ok v ∧ answer'.1 = .ok w ∧ (Apart [s] → Apart [t] → w = relabel [t] v)) := by
  intro answer answer'
  obtain ⟨hkind, hstate⟩ := matches_executeSelection tolerates_reordered (alike_of_agrees s t hs h) limits db
  have hsame : s.unaliased = t.unaliased → Matches Eq (GivesAlike [s] [t]) answer.1 answer'.1 := fun hst =>
    (matches_executeSelection tolerates_eq (alike_of_unaliased_eq s t hst) limits db).1
  change Matches _ (GivesAlike [s] [t]) answer.1 answer'.1 at hkind
  refine ⟨hstate, ?_⟩
  cases hx : answer.1 with
  | error e =>
    cases hy : answer'.1 with
    | error e' =>
      rw [hx, hy] at hkind hsame
      exact .inl ⟨e, e', rfl, rfl, hkind, hsame⟩
    | ok w =>
      rw [hx, hy] at hkind
      exact hkind.elim
  | ok v =>
    cases hy : answer'.1 with
    | error e' =>
      rw [hx, hy] at hkind
      exact hkind.elim
    | ok w =>
      rw [hx, hy] at hkind
      exact .inr ⟨v, w, rfl, rfl, hkind⟩

end Queries

def firstOf (page id f : Option String) (parameters : Entries String) : Selection :=
  .mk .root "nodes" page parameters [.mk .node "nodes" none [] [.mk .leaf "id" id [] [], .mk .leaf "f" f [] []]]

open scoped Ids in
theorem alike_executed_firstOf :
    let answer := fun query => ((executeSelection .standard query).on (Engine.initial.run .standard reference).db).1
    let s := firstOf none (some "x") none [("type", "A"), ("first", "1")]
    let t := firstOf (some "y") none (some "z") [("first", "1"), ("type", "A")]
    ∃ v w, answer s = .ok v ∧ answer t = .ok w ∧ w = relabel [t] v := by
  intro answer s t
  have hkeyed : s.WellKeyed := by
    have hleaf : ∀ n a, (Selection.mk .leaf n a [] []).WellKeyed := fun n a => .mk keyed_nil (by simp [children])
    refine .mk (by simp [s, firstOf, Keyed, names, Selection.parameters]) ?_
    simp only [s, firstOf, children, List.forall_mem_cons, List.not_mem_nil, false_imp_iff, implies_true, and_true]
    refine .mk keyed_nil ?_
    simp only [children, List.forall_mem_cons, List.not_mem_nil, false_imp_iff, implies_true, and_true]
    exact ⟨hleaf _ _, hleaf _ _⟩
  have hapart : ∀ page id f parameters, id.getD "id" ≠ f.getD "f" → Apart [firstOf page id f parameters] := by
    intro page id f parameters hne
    have hnone : Apart [] := .mk List.nodup_nil (by simp)
    refine .mk (List.nodup_singleton _) ?_
    simp only [firstOf, children, List.forall_mem_cons, List.not_mem_nil, false_imp_iff, implies_true, and_true]
    refine .mk (List.nodup_singleton _) ?_
    simp only [children, List.forall_mem_cons, List.not_mem_nil, false_imp_iff, implies_true, and_true]
    refine .mk (by simpa [outputName, Selection.aliasName, Selection.name] using hne) ?_
    simp only [children, List.forall_mem_cons, List.not_mem_nil, false_imp_iff, implies_true, and_true]
    exact ⟨hnone, hnone⟩
  obtain ⟨-, hrefused | ⟨v, w, hv, hw, hvw⟩⟩ :=
    alike_executed .standard (Engine.initial.run .standard reference).db s t hkeyed (by decide +kernel)
  · obtain ⟨e, -, he, -⟩ := hrefused
    have hok : (answer s).isOk := by decide +kernel
    rw [show answer s = .error e from he] at hok
    cases hok
  · exact ⟨v, w, hv, hw, hvw (hapart _ _ _ _ (by decide)) (hapart _ _ _ _ (by decide))⟩

example : relabel [firstOf (some "y") none (some "z") []]
    (.object [("nodes", .object [("nodes", .array [.object [("x", .string "1"), ("f", .null)]])])]) =
      .object [("y", .object [("nodes", .array [.object [("id", .string "1"), ("z", .null)]])])] := rfl

end RecordGraph
