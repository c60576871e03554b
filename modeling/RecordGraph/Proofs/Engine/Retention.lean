import RecordGraph.Proofs.Engine.Conforms

namespace RecordGraph

open Entries Catalog

/-- Whether a call is about the value that the record `id` of type `T` stores under the field `n`, whose link this is if it
is a connection. -/
def Touches (T id n : String) (link : Option Link) : Call → Request → Prop
  | .delete, .delete U i => U = T ∧ i = id
  | .update, .update U i data => U = T ∧ i = id ∧ n ∈ names data
  | .deleteType, .deleteType U => U = T ∨ ∃ l ∈ link, U = l.targetType
  | .deleteField, .deleteField U m => U = T ∧ m = n
  | .deleteConnection, .deleteConnection U m =>
    (U = T ∧ m = n) ∨ ∃ l ∈ link, U = l.targetType ∧ m = l.targetField
  | _, _ => False

instance {T id n : String} {link : Option Link} {call : Call} {request : Request} :
    Decidable (Touches T id n link call request) := by
  unfold Touches
  split <;> infer_instance

def Store.Keeps (s : Store) (T id n : String) (v : Value) : Prop := ∃ r ∈ s.get? T id, r.fields.get? n = some v

instance {s : Store} {T id n : String} {v : Value} : Decidable (s.Keeps T id n v) :=
  inferInstanceAs (Decidable (∃ r ∈ s.get? T id, _))

namespace Store.Keeps

variable {s s' : Store} {T U id i n : String} {v : Value} {fields : Entries Value}
variable {R : String → String → Prop} [∀ T n, Decidable (R T n)]

theorem insert [Ids] (h : s.Keeps T id n v) (hs : s.Filed) : (s.insert U fields).2.Keeps T id n v := by
  obtain ⟨r, hr, hv⟩ := h
  exact ⟨r, hs.get?_insert hr, hv⟩

theorem update (h : s.Keeps T id n v) (hs : s.update U i fields = .ok s')
    (hn : U = T → i = id → n ∉ names fields) : s'.Keeps T id n v := by
  obtain ⟨r, hr, hv⟩ := h
  refine ⟨_, (get?_update hs).trans (congrArg _ hr), ?_⟩
  dsimp only
  split
  · next hU =>
    have hfields : n ∉ names (erase idName fields) := by
      rw [names_erase]
      exact fun hm => hn hU.1.symm hU.2.symm (List.mem_filter.mp hm).1
    exact (Entries.get?_foldl_put hfields).trans hv
  · exact hv

theorem delete (h : s.Keeps T id n v) (hs : s.delete U i = .ok s') (hne : ¬(U = T ∧ i = id)) : s'.Keeps T id n v := by
  obtain ⟨r, hr, hv⟩ := h
  have hother : ¬(T = U ∧ id = i) := fun hT => hne ⟨hT.1.symm, hT.2.symm⟩
  exact ⟨r, (get?_delete hs hother).trans hr, hv⟩

theorem dropType (h : s.Keeps T id n v) (hU : U ≠ T) : (s.dropType U).Keeps T id n v := by
  obtain ⟨r, hr, hv⟩ := h
  exact ⟨r, (get?_dropType (Ne.symm hU)).trans hr, hv⟩

theorem strip [Ids] (h : s.Keeps T id n v) (hs : s.Filed) (hR : ¬R T n) : (s.strip R).Keeps T id n v := by
  obtain ⟨r, hr, hv⟩ := h
  obtain ⟨-, rfl, -⟩ := hs.of_get? hr
  refine ⟨r.strip R, get?_strip.trans (congrArg _ hr), ?_⟩
  exact (Entries.get?_filter fun w => by simpa using hR).trans hv

end Store.Keeps

variable {limits : PageLimits} {db db' : Database} {call : Call} {request : Request} {f : Field} {l : Link}
variable {T U id n m : String} {v : Value} {w : Engine} {e : Event}

/-- The two ends of a connection know each other, so a link to a field is the other end of that field's link. -/
theorem Catalog.WellFormed.link_of_target {c : Catalog} {g : Field} (h : c.WellFormed) (hf : c.field? T n = some f)
    (hg : c.field? U m = some g) (hl : g.link = some l) (hT : l.targetType = T) (hn : l.targetField = n) :
    ∃ k ∈ f.link, U = k.targetType ∧ m = k.targetField := by
  obtain ⟨f', hf', hfl⟩ := h.linksBack.other_end hg hl
  rw [hT, hn, hf, Option.some.injEq] at hf'
  exact ⟨_, hf' ▸ hfl, rfl, rfl⟩

section

variable [Ids]

/-- A call that is not about a value leaves it, and its field. -/
theorem Effect.keeps (h : db.Sound) (e : Effect db call request db') (hf : db.catalog.field? T n = some f)
    (hk : db.store.Keeps T id n v) (ht : ¬Touches T id n f.link call request) :
    db'.catalog.field? T n = some f ∧ db'.store.Keeps T id n v := by
  cases e with
  | none => exact ⟨hf, hk⟩
  | createType e => exact ⟨(extends_createType e).field? T n f hf, hk⟩
  | createField e => exact ⟨(extends_createField e).field? T n f hf, hk⟩
  | createConnection e => exact ⟨(extends_createConnection e).field? T n f hf, hk⟩
  | createIndex e => exact ⟨(extends_createIndex e).field? T n f hf, hk⟩
  | deleteIndex e => exact ⟨(extends_deleteIndex e).field? T n f hf, hk⟩
  | create _ _ => exact ⟨hf, hk.insert h.filed⟩
  | delete hs => exact ⟨hf, hk.delete hs ht⟩
  | update hr ha hs =>
    refine ⟨hf, hk.update hs fun hU hi hm => ht ⟨hU, hi, ?_⟩⟩
    obtain ⟨p, hp, rfl⟩ := List.mem_map.mp hm
    rcases RecordType.mem_accept ha hp with ⟨hd, -⟩ | ⟨hc, -⟩
    · exact hd
    · cases hc
  | @deleteField U m _ _ e =>
    have hne : ¬(T = U ∧ n = m) := fun hU => ht ⟨hU.1.symm, hU.2.symm⟩
    rw [h.filed.removeField_eq_strip, field?_of_deleteField e, if_neg hne]
    exact ⟨hf, hk.strip h.filed hne⟩
  | @deleteType U t _ e =>
    have hU : U ≠ T := fun hU => ht (.inl hU)
    have hlinks : ¬Targeted t.links T n := by
      rintro ⟨⟨k, l⟩, hl, hlT, hln⟩
      obtain ⟨g, hg, hgl⟩ := (h.catalog.mem_links (deleteType_ok.mp e).1).mp hl
      obtain ⟨j, hj, hjU, -⟩ := h.catalog.link_of_target hf hg hgl hlT hln
      exact ht (.inr ⟨j, hj, hjU⟩)
    have hstored : ¬Targeted (t.storedLinks U) T n := by
      rintro ⟨p, hp, hpT⟩
      exact hlinks ⟨p, (List.mem_filter.mp hp).1, hpT⟩
    rw [h.filed.dropType.unlink_eq_strip, field?_of_deleteType e, if_neg (not_or.mpr ⟨Ne.symm hU, hlinks⟩)]
    exact ⟨hf, (hk.dropType hU).strip h.filed.dropType hstored⟩
  | @deleteConnection U m g p _ e =>
    obtain ⟨hc, l, hl, -, -⟩ := deleteConnection_ok.mp e
    obtain ⟨⟨t, hr, hg⟩, -⟩ := existingConnection_ok.mp hc
    rw [← field?_of_requireNode hr] at hg
    have hfirst : ¬(T = U ∧ n = m) := fun hU => ht (.inl ⟨hU.1.symm, hU.2.symm⟩)
    have hsecond : ¬(T = l.targetType ∧ n = l.targetField) := by
      rintro ⟨hT, hn⟩
      exact ht (.inr (h.catalog.link_of_target hf hg hl hT.symm hn.symm))
    rw [Store.removePair_eq h.catalog e hl, h.filed.removeField_eq_strip, field?_of_deleteConnection e hl,
      if_neg (not_or.mpr ⟨hfirst, hsecond⟩)]
    refine ⟨hf, hk.strip h.filed ?_⟩
    cases hs : l.side with
    | one => simpa [Link.storedEnd, hs] using hfirst
    | many => simpa [Link.storedEnd, hs] using hsecond

namespace Engine

/-- Whether none of the calls that are performed during some events is about a value. -/
def Spares (limits : PageLimits) (T id n : String) (link : Option Link) (w : Engine) : List Event → Prop
  | [] => True
  | e :: es => (∀ p ∈ w.performed e, ¬Touches T id n link p.1 p.2) ∧ (w.step limits e).Spares limits T id n link es

instance decidableSpares (link : Option Link) : ∀ (w : Engine) (es : List Event), Decidable (w.Spares limits T id n link es)
  | _, [] => inferInstanceAs (Decidable True)
  | w, e :: es =>
    have := decidableSpares link (w.step limits e) es
    inferInstanceAs (Decidable (_ ∧ _))

theorem keeps_step (h : w.Sound) (hf : w.db.catalog.field? T n = some f) (hk : w.db.store.Keeps T id n v)
    (ht : ∀ p ∈ w.performed e, ¬Touches T id n f.link p.1 p.2) :
    (w.step limits e).db.catalog.field? T n = some f ∧ (w.step limits e).db.store.Keeps T id n v :=
  Change.preserves (P := fun db => db.catalog.field? T n = some f ∧ db.store.Keeps T id n v) (w.change_step limits e)
    ⟨hf, hk⟩ fun p hp he => Effect.keeps h.db he hf hk (ht p hp)

theorem keeps_run {es : List Event} (h : w.Sound) (hf : w.db.catalog.field? T n = some f)
    (hk : w.db.store.Keeps T id n v) (hs : w.Spares limits T id n f.link es) :
    (w.run limits es).db.store.Keeps T id n v := by
  induction es generalizing w with
  | nil => exact hk
  | cons e es ih =>
    obtain ⟨hf, hk⟩ := keeps_step h hf hk hs.1
    exact ih (h.step limits e) hf hk hs.2

/-- In every state that a run reaches, a stored value is kept by all further events that perform no call about it. -/
theorem keeps_run_initial (limits : PageLimits) (es fs : List Event) (T id n : String) (v : Value)
    (hk : (initial.run limits es).db.store.Keeps T id n v)
    (hs : (initial.run limits es).Spares limits T id n (((initial.run limits es).db.catalog.field? T n).bind Field.link)
      fs) :
    ((initial.run limits es).run limits fs).db.store.Keeps T id n v := by
  have h : (initial.run limits es).Sound := Sound.initial.run
  obtain ⟨r, hr, hv⟩ := hk
  obtain ⟨hm, rfl, -⟩ := h.db.filed.of_get? hr
  obtain ⟨f, hf, -⟩ := (h.db.fits r hm).holds n v (Entries.mem_of_get? hv)
  rw [hf] at hs
  exact keeps_run h hf ⟨r, hr, hv⟩ hs

end Engine

end

namespace Engine

def deletion : List Event × List Event :=
  ([.process .createType [("name", "A")], .perform .createType 0,
    .process .createType [("name", "B")], .perform .createType 1,
    .process .createField [("type", "A"), ("fieldName", "f"), ("fieldType", "string"), ("default", "x")],
    .perform .createField 2,
    .process .createField [("type", "B"), ("fieldName", "f"), ("fieldType", "string")], .perform .createField 3,
    .process .create [("type", "A"), ("data", "\x7b\x7d")], .perform .create 4],
  [.process .deleteField [("type", "B"), ("fieldName", "f")], .perform .deleteField 5])

open scoped Ids in
theorem keeps_deletion :
    ((initial.run ⟨1, 1⟩ deletion.1).run ⟨1, 1⟩ deletion.2).db.store.Keeps "A" (Ids.id 1) "f" (.string "x") :=
  keeps_run_initial ⟨1, 1⟩ deletion.1 deletion.2 "A" (Ids.id 1) "f" (.string "x") (by decide +kernel)
    (by decide +kernel)

end Engine

end RecordGraph
