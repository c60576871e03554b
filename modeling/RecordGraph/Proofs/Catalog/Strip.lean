import RecordGraph.Proofs.Catalog.Edit

namespace RecordGraph

open Entries

namespace RecordType

variable {t : RecordType} {n : String} {l : Link} {R S : String → Prop} [DecidablePred R] [DecidablePred S]

/-- The type without some fields, and without the indexes over them that are not built in. -/
def strip (t : RecordType) (R : String → Prop) [DecidablePred R] : RecordType :=
  { t with
    fields := t.fields.filter fun e => ¬R e.1
    indexes := t.indexes.filter fun e => e.2.builtIn ∨ ∀ n ∈ e.2.fields, ¬R n }

theorem strip_congr (h : ∀ n, R n ↔ S n) : t.strip R = t.strip S := by
  simp [strip, h]

theorem strip_strip : (t.strip R).strip S = t.strip fun n => R n ∨ S n := by
  have hindex : ∀ i : Index, ((i.builtIn = true ∨ ∀ n ∈ i.fields, ¬S n) ∧ (i.builtIn = true ∨ ∀ n ∈ i.fields, ¬R n)) ↔
      (i.builtIn = true ∨ ∀ n ∈ i.fields, ¬(R n ∨ S n)) := by
    intro i
    rw [← or_and_left, ← forall₂_and]
    simp only [not_or, and_comm]
  simp only [strip, List.filter_filter, RecordType.mk.injEq, true_and]
  constructor
  · simp [Bool.and_comm]
  · apply List.filter_congr
    intro e _
    rw [Bool.eq_iff_iff]
    simpa using hindex e.2

theorem strip_eq_self (hf : ∀ e ∈ t.fields, ¬R e.1) (hi : ∀ e ∈ t.indexes, ∀ n ∈ e.2.fields, ¬R n) :
    t.strip R = t := by
  have hfields : (t.fields.filter fun e => ¬R e.1) = t.fields :=
    List.filter_eq_self.mpr fun e he => decide_eq_true (hf e he)
  have hindexes : (t.indexes.filter fun e => e.2.builtIn ∨ ∀ n ∈ e.2.fields, ¬R n) = t.indexes :=
    List.filter_eq_self.mpr fun e he => decide_eq_true (.inr (hi e he))
  rw [strip, hfields, hindexes]

theorem strip_none (h : ∀ n, ¬R n) : t.strip R = t := strip_eq_self (fun e _ => h e.1) fun _ _ n _ => h n

theorem strip_addField {f : Field} (h : R f.name) : (t.addField f).strip R = t.strip R := by
  simp [strip, addField, h]

theorem removeField_eq_strip : t.removeField n = t.strip (· = n) := by
  have hindex : ∀ i : Index, (i.builtIn || !i.covers n) = decide (i.builtIn = true ∨ ∀ m ∈ i.fields, m ≠ n) := by
    intro i
    have hcovers : n ∉ i.fields ↔ ∀ m ∈ i.fields, m ≠ n :=
      ⟨fun hn m hm he => hn (he ▸ hm), fun h hn => h n hn rfl⟩
    rw [Bool.eq_iff_iff]
    simpa [Index.covers] using or_congr_right hcovers
  simp only [removeField, dropIndexes, eraseField, strip, erase, hindex]

theorem field?_strip : (t.strip R).field? n = if R n then none else t.field? n := by
  by_cases h : R n
  · rw [if_pos h]
    refine get?_eq_none_iff.mpr fun hn => ?_
    obtain ⟨e, he, rfl⟩ := List.mem_map.mp hn
    simp [strip, h] at he
  · rw [if_neg h]
    exact get?_filter fun _ => decide_eq_true h

end RecordType

namespace Catalog

variable {c d : Catalog} {t u : RecordType} {f : Field} {l : Link} {T U n m : String} {a b : String × String}
variable {R S : String → String → Prop} [∀ T n, Decidable (R T n)] [∀ T n, Decidable (S T n)]

def strip (c : Catalog) (R : String → String → Prop) [∀ T n, Decidable (R T n)] : Catalog :=
  ⟨c.types.map fun e => (e.1, e.2.strip (R e.1))⟩

theorem strip_congr (h : ∀ T ∈ names c.types, ∀ n, R T n ↔ S T n) : c.strip R = c.strip S := by
  refine congrArg Catalog.mk (List.map_congr_left fun e he => ?_)
  rw [RecordType.strip_congr (h e.1 (List.mem_map_of_mem he))]

theorem strip_strip : (c.strip R).strip S = c.strip fun T n => R T n ∨ S T n := by
  simp only [strip, List.map_map, Function.comp_def, RecordType.strip_strip]

theorem strip_eq_self (h : ∀ e ∈ c.types, e.2.strip (R e.1) = e.2) : c.strip R = c := by
  refine congrArg Catalog.mk ((List.map_congr_left fun e he => ?_).trans (List.map_id' _))
  rw [h e he]

theorem keyed_modifyType {g : RecordType → RecordType} (hc : Keyed c.types) : Keyed (c.modifyType T g).types := hc.modify

/-- A change that the strip undoes is not seen. -/
theorem strip_modifyType {g : RecordType → RecordType} (hg : ∀ t, (g t).strip (R T) = t.strip (R T)) :
    (c.modifyType T g).strip R = c.strip R := by
  refine congrArg Catalog.mk ?_
  show (Entries.modify T g c.types).map _ = c.types.map _
  induction c.types with
  | nil => rfl
  | cons e l ih =>
    rw [Entries.modify]
    split
    · next he =>
      subst he
      simp only [List.map_cons, hg]
    · rw [List.map_cons, List.map_cons, ih]

theorem strip_modifyType_addField (h : R T f.name) : (c.modifyType T (·.addField f)).strip R = c.strip R :=
  strip_modifyType fun _ => RecordType.strip_addField h

theorem removeField_eq_strip (hc : Keyed c.types) :
    c.modifyType T (·.removeField n) = c.strip fun U m => (U, m) = (T, n) := by
  refine congrArg Catalog.mk ((modify_eq_map hc).trans (List.map_congr_left fun e _ => ?_))
  congr 1
  split
  · next he =>
    rw [RecordType.removeField_eq_strip]
    apply RecordType.strip_congr
    simp [he]
  · next he =>
    rw [RecordType.strip_none]
    simp [he]

theorem unlink_eq_strip {links : List (String × Link)} (hc : Keyed c.types) : c.unlink links = c.strip (Targeted links) := by
  induction links generalizing c with
  | nil =>
    have hnone : c.strip (Targeted []) = c := by
      refine strip_eq_self fun e _ => RecordType.strip_none ?_
      simp [Targeted]
    rw [hnone]
    rfl
  | cons k links ih =>
    have hstep : c.unlink (k :: links) =
        (c.modifyType k.2.targetType (·.removeField k.2.targetField)).unlink links := rfl
    rw [hstep, ih (keyed_modifyType hc), removeField_eq_strip hc, strip_strip]
    apply strip_congr
    intro T _ n
    simp [Targeted, @eq_comm _ T, @eq_comm _ n]

theorem removeType_strip : (c.strip R).removeType T = (c.removeType T).strip R := by
  simp [strip, removeType, erase, List.filter_map, Function.comp_def]

theorem type?_strip : (c.strip R).type? U = (c.type? U).map fun t => t.strip (R U) :=
  get?_map (f := fun T (t : RecordType) => t.strip (R T))

theorem field?_strip : (c.strip R).field? T n = if R T n then none else c.field? T n := by
  rw [field?, type?_strip, field?]
  cases c.type? T with
  | none => simp
  | some t => exact RecordType.field?_strip

theorem isNode_strip : (c.strip R).IsNode T ↔ c.IsNode T := by
  rw [isNode_iff, isNode_iff, type?_strip]
  cases c.type? T with
  | none => simp
  | some t => simp [RecordType.strip]

abbrev EitherEnd (a b : String × String) (U m : String) : Prop := (U, m) = a ∨ (U, m) = b

/-- Whether two fields, each given by its type and its name, are the two ends of one connection. -/
def Joined (c : Catalog) (a b : String × String) : Prop :=
  ∃ f l, c.field? a.1 a.2 = some f ∧ f.link = some l ∧ (l.targetType, l.targetField) = b

def Stores (c : Catalog) (T n : String) : Prop := ∃ f ∈ c.field? T n, f.isStored = true

instance : Decidable (c.Stores T n) := inferInstanceAs (Decidable (∃ f ∈ c.field? T n, _))

theorem joined_strip : (c.strip R).Joined a b ↔ c.Joined a b ∧ ¬R a.1 a.2 := by
  unfold Joined
  rw [field?_strip]
  by_cases hR : R a.1 a.2
  · simp [hR]
  · simp [hR]

theorem stores_strip : (c.strip R).Stores T n ↔ c.Stores T n ∧ ¬R T n := by
  unfold Stores
  rw [field?_strip]
  by_cases hR : R T n
  · simp [hR]
  · simp [hR]

theorem Joined.unique (h : c.Joined a b) {b' : String × String} (h' : c.Joined a b') : b = b' := by
  obtain ⟨f, l, hf, hl, rfl⟩ := h
  obtain ⟨g, k, hg, hk, rfl⟩ := h'
  rw [hf, Option.some.injEq] at hg
  rw [← hg, hl, Option.some.injEq] at hk
  rw [hk]

theorem Joined.symm (hc : c.WellFormed) (h : c.Joined a b) : c.Joined b a := by
  obtain ⟨f, l, hf, hl, rfl⟩ := h
  obtain ⟨g, hg, hk⟩ := hc.linksBack.other_end hf hl
  exact ⟨g, _, hg, hk, rfl⟩

theorem WellFormed.targeted_iff (h : c.WellFormed) (ht : c.requireNode T = .ok t) :
    Targeted t.links U m ↔ ∃ n, c.Joined (T, n) (U, m) := by
  constructor
  · rintro ⟨⟨n, l⟩, hl, rfl, rfl⟩
    obtain ⟨f, hf, hfl⟩ := (h.mem_links ht).mp hl
    exact ⟨n, f, l, hf, hfl, rfl⟩
  · rintro ⟨n, f, l, hf, hfl, hb⟩
    obtain ⟨hT, hm⟩ := Prod.mk.inj hb
    exact ⟨(n, l), (h.mem_links ht).mpr ⟨f, hf, hfl⟩, hT, hm⟩

/-- Of the two ends of a connection, records store the one that is not the many side. -/
theorem stores_of_link (hc : c.WellFormed) (hf : c.field? T n = some f) (hl : f.link = some l) :
    c.Stores l.targetType l.targetField ↔ l.side = .many := by
  obtain ⟨g, hg, hk⟩ := hc.linksBack.other_end hf hl
  unfold Stores
  rw [hg]
  cases hs : l.side with
  | one => simp [Field.isStored, hk, hs, Side.opposite]
  | many => simp [Field.isStored, hk, hs, Side.opposite]

theorem deleteConnection_eq_strip {p : Option Field} (hc : c.WellFormed)
    (h : c.deleteConnection T n = .ok ((f, p), d)) (hl : f.link = some l) :
    d = c.strip (EitherEnd (T, n) (l.targetType, l.targetField)) := by
  obtain ⟨hf, l', hl', -, hd⟩ := deleteConnection_ok.mp h
  obtain rfl : l = l' := Option.some.inj (hl.symm.trans hl')
  obtain ⟨⟨t, ht, hf⟩, -⟩ := existingConnection_ok.mp hf
  rw [← field?_of_requireNode ht] at hf
  rw [hd, hc.unpair_eq hf hl, removeField_eq_strip (keyed_modifyType hc.keyed), removeField_eq_strip hc.keyed, strip_strip]

end Catalog

end RecordGraph
