import RecordGraph.Proofs.Catalog.Edit
import RecordGraph.Proofs.Payload
import RecordGraph.Proofs.Store

namespace RecordGraph

open Entries

namespace Catalog

variable {c d : Catalog} {t : RecordType} {f g : Field} {l : Link} {T U n m : String} {v : Value} {r : Record}

def Holds (c : Catalog) (T n : String) (v : Value) : Prop :=
  ∃ f, c.field? T n = some f ∧ f.builtIn = false ∧ f.isStored = true ∧ v.kind = f.kind

/-- A record of a node type that holds values of the type's stored fields only, one at most for each. -/
structure Fits (c : Catalog) (r : Record) : Prop where
  isNode : c.IsNode r.type
  keyed : Keyed r.fields
  holds : ∀ n v, (n, v) ∈ r.fields → c.Holds r.type n v

def Defaults (P : Field → Value → Prop) (c : Catalog) : Prop :=
  ∀ T n f v, c.field? T n = some f → f.default = some v → P f v

def DefaultsTyped (c : Catalog) : Prop := ∀ T n f v, c.field? T n = some f → f.default = some v → v.kind = f.kind

structure Extends (c d : Catalog) : Prop where
  isNode : ∀ T, c.IsNode T → d.IsNode T
  field? : ∀ T n f, c.field? T n = some f → d.field? T n = some f

theorem Extends.fits (h : Extends c d) (hr : c.Fits r) : d.Fits r where
  isNode := h.isNode _ hr.isNode
  keyed := hr.keyed
  holds := by
    intro n v hv
    obtain ⟨f, hf, hfv⟩ := hr.holds n v hv
    exact ⟨f, h.field? _ n f hf, hfv⟩

theorem IsNode.of_modifyType {h : RecordType → RecordType} (hU : c.IsNode U) (hd : d = c.modifyType T h)
    (hi : ∀ t, (h t).isNode = t.isNode) : d.IsNode U := by
  rw [hd]
  exact (isNode_modifyType hi).mpr hU

theorem extends_createType (e : c.createType T = .ok (t, d)) : Extends c d := by
  obtain ⟨⟨hT, -⟩, -, rfl⟩ := createType_ok.mp e
  refine ⟨fun U hU => isNode_addType.mpr (.inl hU), ?_⟩
  intro U n f hf
  rw [field?_of_createType e, if_neg, hf]
  rintro ⟨rfl, -⟩
  rw [field?, hT] at hf
  cases hf

theorem extends_createField (e : c.createField T f = .ok (g, d)) : Extends c d := by
  obtain ⟨⟨t, ht, -, hn⟩, -, -, hd⟩ := createField_ok.mp e
  refine ⟨fun U hU => hU.of_modifyType hd fun _ => rfl, ?_⟩
  intro U m k hk
  rw [field?_of_createField e, if_neg, hk]
  rintro ⟨rfl, rfl⟩
  rw [field?_of_fresh ht hn] at hk
  cases hk

theorem extends_createConnection {b : Bool} (e : c.createConnection T n U m b = .ok d) : Extends c d := by
  obtain ⟨⟨t, ht, -, hn⟩, ⟨u, hu, -, hm⟩, -, hd⟩ := createConnection_ok.mp e
  refine ⟨fun V hV => ?_, ?_⟩
  · have hfirst := hV.of_modifyType (h := (·.addField { Field.connection n U m .one with required := b }))
      (T := T) rfl fun _ => rfl
    exact hfirst.of_modifyType hd fun _ => rfl
  intro V k f hf
  rw [field?_of_createConnection e, if_neg, if_neg, hf]
  · rintro ⟨rfl, rfl⟩
    rw [field?_of_fresh ht hn] at hf
    cases hf
  · rintro ⟨rfl, rfl⟩
    rw [field?_of_fresh hu hm] at hf
    cases hf

theorem extends_createIndex {fields : List String} {i : Index} (e : c.createIndex T m fields = .ok (i, d)) :
    Extends c d := by
  obtain ⟨-, -, -, hd⟩ := createIndex_ok.mp e
  exact ⟨fun U hU => hU.of_modifyType hd fun _ => rfl,
    fun U n f hf => (field?_of_createIndex e).trans hf⟩

theorem extends_deleteIndex {i : Index} (e : c.deleteIndex T m = .ok (i, d)) : Extends c d := by
  obtain ⟨-, hd⟩ := deleteIndex_ok.mp e
  exact ⟨fun U hU => hU.of_modifyType hd fun _ => rfl,
    fun U n f hf => (field?_of_deleteIndex e).trans hf⟩

theorem Fits.strip {R : String → String → Prop} [∀ U m, Decidable (R U m)] (h : c.Fits r) (hn : d.IsNode r.type)
    (hd : ∀ m f, c.field? r.type m = some f → f.isStored = true → ¬R r.type m → d.field? r.type m = some f) :
    d.Fits (r.strip R) where
  isNode := hn
  keyed := h.keyed.sublist List.filter_sublist
  holds := by
    intro m v hv
    obtain ⟨hv, hR⟩ := List.mem_filter.mp hv
    obtain ⟨f, hf, hb, hs, hk⟩ := h.holds m v hv
    exact ⟨f, hd m f hf hs (by simpa using hR), hb, hs, hk⟩

theorem Fits.merge {fields : Entries Value} (h : c.Fits r) (hf : ∀ n v, (n, v) ∈ fields → c.Holds r.type n v) :
    c.Fits (r.merge fields) where
  isNode := h.isNode
  keyed := Entries.keyed_foldl_put h.keyed
  holds := by
    intro n v hv
    rcases Entries.mem_foldl_put hv with hv | hv
    · exact hf n v (mem_erase.mp hv).1
    · exact h.holds n v hv

theorem fits_make {fields : Entries Value} {id : String} (hn : c.IsNode T) (hk : Keyed fields)
    (hf : ∀ n v, (n, v) ∈ fields → c.Holds T n v) : c.Fits (.make T id fields) where
  isNode := hn
  keyed := hk.erase
  holds := by
    intro n v hv
    exact hf n v (mem_erase.mp hv).1

/-- Accepted data is what a record can hold. -/
theorem holds_of_accept {purpose : Purpose} {data : Entries Json} {fields : Entries Value} (h : c.WellFormed)
    (hd : c.DefaultsTyped) (ht : c.requireNode T = .ok t) (ha : t.accept data purpose = .ok fields)
    (hv : (n, v) ∈ fields) : c.Holds T n v := by
  rcases RecordType.mem_accept ha hv with ⟨-, f, hf, hfv⟩ | ⟨-, f, hf, rfl, hb, hs, hfv⟩
  · exact ⟨f, (field?_of_requireNode ht).trans hf, hfv⟩
  · have hft : c.field? T f.name = some f := by
      obtain ⟨⟨n, f⟩, he, rfl⟩ := List.mem_map.mp hf
      rw [field?_of_requireNode ht, ← (h.sound ht).fields_named _ he]
      exact (get?_eq_some_iff (h.sound ht).fields_keyed).mpr he
    exact ⟨f, hft, hb, hs, hd T f.name f v hft hfv⟩

theorem keyed_of_accept {purpose : Purpose} {data : Entries Json} {fields : Entries Value} (h : c.WellFormed)
    (ht : c.requireNode T = .ok t) (ha : t.accept data purpose = .ok fields) : Keyed fields :=
  List.Nodup.sublist (RecordType.names_accept (h.sound ht).fields_named ha) (h.sound ht).fields_keyed

end Catalog

end RecordGraph
