import RecordGraph.Schema.Payload
import RecordGraph.Proofs.Outcome
import RecordGraph.Proofs.Entries

namespace RecordGraph.RecordType

open Entries Outcome

variable {t : RecordType} {purpose : Purpose} {data : Entries Json} {fields supplied : Entries Value}
variable {f : Field} {n m : String} {v : Value} {j : Json}

def Holds (t : RecordType) (n : String) (v : Value) : Prop :=
  ∃ f, t.field? n = some f ∧ f.builtIn = false ∧ f.isStored = true ∧ v.kind = f.kind

theorem supply_eq_ok : t.supply (n, j) = .ok (m, v) ↔
    m = n ∧ ∃ f, t.field? n = some f ∧ f.builtIn = false ∧ f.isStored = true ∧ Value.coerce f.kind j = .ok v := by
  simp only [supply]
  cases hf : t.field? n with
  | none =>
    constructor
    · intro h
      cases h
    · rintro ⟨-, f, h, -⟩
      cases h
  | some f =>
    simp only [throw_bind, guard_eq_ok, bind_eq_ok, pure_eq_ok, Prod.mk.injEq]
    constructor
    · rintro ⟨hb, hs, w, hw, rfl, rfl⟩
      exact ⟨rfl, f, rfl, by simpa using hb, by simpa using hs, hw⟩
    · rintro ⟨rfl, g, hg, hb, hs, hv⟩
      obtain rfl : f = g := Option.some.inj hg
      exact ⟨by simpa using hb, by simpa using hs, v, hv, rfl, rfl⟩

theorem supply_of_stored (hf : t.field? n = some f) (hb : f.builtIn = false) (hs : f.isStored = true) :
    t.supply (n, j) = (Value.coerce f.kind j).map (n, ·) := by
  unfold supply
  simp only [hf, hb, hs]
  rfl

theorem supply_ok (h : t.supply (n, j) = .ok (m, v)) : m = n ∧ t.Holds n v := by
  obtain ⟨rfl, f, hf, hb, hs, hv⟩ := supply_eq_ok.mp h
  exact ⟨rfl, f, hf, hb, hs, Value.kind_of_coerce hv⟩

theorem mem_supplied (h : data.mapM t.supply = .ok supplied) (hv : (n, v) ∈ supplied) :
    ∃ j, (n, j) ∈ data ∧ t.supply (n, j) = .ok (n, v) := by
  obtain ⟨⟨m, j⟩, he, hs⟩ := exists_of_mem_mapM h hv
  obtain ⟨rfl, -⟩ := supply_ok hs
  exact ⟨j, he, hs⟩

theorem settle_ok {o : Option (String × Value)} (h : t.settle purpose supplied f = .ok o) :
    ∀ e ∈ o, e.1 = f.name ∧ (supplied.get? f.name = some e.2 ∨
      purpose = .create ∧ f.builtIn = false ∧ f.isStored = true ∧ f.default = some e.2) := by
  rintro e rfl
  unfold settle at h
  split at h
  · next hs =>
    rw [Except.ok.injEq, Option.some.injEq] at h
    subst h
    exact ⟨rfl, .inl hs⟩
  split at h
  · cases h
  next hp =>
  simp only [not_or, Bool.not_eq_true, Bool.not_eq_false'] at hp
  obtain ⟨hu, hb, hs⟩ := hp
  have hc : purpose = .create := by cases purpose <;> simp_all
  split at h
  · next hd =>
    rw [Except.ok.injEq, Option.some.injEq] at h
    subst h
    exact ⟨rfl, .inr ⟨hc, hb, by simpa using hs, hd⟩⟩
  · split at h <;> cases h

theorem map_name_values (hn : ∀ e ∈ t.fields, e.1 = e.2.name) : t.fields.values.map Field.name = names t.fields := by
  rw [values, names, List.map_map]
  exact List.map_congr_left fun e he => (hn e he).symm

/-- Accepted values stand in the order of the fields, one at most for each. -/
theorem names_accept (hn : ∀ e ∈ t.fields, e.1 = e.2.name) (h : t.accept data purpose = .ok fields) :
    (names fields).Sublist (names t.fields) := by
  simp only [accept, bind_eq_ok, pure_eq_ok] at h
  obtain ⟨supplied, -, settled, h, rfl⟩ := h
  rw [← map_name_values hn]
  replace h := mapM_eq_ok.mp h
  generalize t.fields.values = l at h ⊢
  induction h with
  | nil => exact List.Sublist.refl _
  | @cons f o l settled hf _ ih =>
    cases o with
    | none => exact ih.cons _
    | some e =>
      have he : e.1 = f.name := (settle_ok hf e rfl).1
      simpa only [List.filterMap_cons, id, names, List.map_cons, he] using ih.cons_cons f.name

/-- A value that is accepted is supplied for its field, or is the field's default. -/
theorem supplied_or_default (h : t.accept data purpose = .ok fields) (hv : (n, v) ∈ fields) :
    (∃ j, (n, j) ∈ data ∧ t.supply (n, j) = .ok (n, v)) ∨ purpose = .create ∧
      ∃ f ∈ t.fields.values, f.name = n ∧ f.builtIn = false ∧ f.isStored = true ∧ f.default = some v := by
  simp only [accept, bind_eq_ok, pure_eq_ok] at h
  obtain ⟨supplied, hs, settled, h, rfl⟩ := h
  rw [List.mem_filterMap] at hv
  obtain ⟨o, ho, rfl⟩ := hv
  obtain ⟨f, hf, hfo⟩ := exists_of_mem_mapM h ho
  obtain ⟨rfl, hv | ⟨hp, hb, hst, hd⟩⟩ := settle_ok hfo (n, v) rfl
  · exact .inl (mem_supplied hs (mem_of_get? hv))
  · exact .inr ⟨hp, f, hf, rfl, hb, hst, hd⟩

theorem mem_accept (h : t.accept data purpose = .ok fields) (hv : (n, v) ∈ fields) :
    (n ∈ names data ∧ t.Holds n v) ∨ purpose = .create ∧
      ∃ f ∈ t.fields.values, f.name = n ∧ f.builtIn = false ∧ f.isStored = true ∧ f.default = some v := by
  refine (supplied_or_default h hv).imp_left ?_
  rintro ⟨j, hj, hs⟩
  exact ⟨List.mem_map_of_mem hj, (supply_ok hs).2⟩

theorem settle_update : t.settle .update supplied f = .ok ((supplied.get? f.name).map (f.name, ·)) := by
  unfold settle
  cases supplied.get? f.name with
  | none => rfl
  | some v => rfl

theorem accept_update : t.accept data .update = (data.mapM t.supply).map fun supplied : Entries Value =>
    t.fields.values.filterMap fun f => (supplied.get? f.name).map (f.name, ·) := by
  unfold accept
  cases data.mapM t.supply with
  | error e => rfl
  | ok supplied =>
    have hsettle : t.settle .update supplied = fun f => pure ((Entries.get? f.name supplied).map (f.name, ·)) :=
      funext fun _ => settle_update
    rw [ok_bind, hsettle, List.mapM_pure, pure_bind, List.filterMap_map]
    rfl

end RecordGraph.RecordType
