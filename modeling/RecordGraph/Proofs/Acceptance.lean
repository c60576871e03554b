import RecordGraph.Proofs.Payload

namespace RecordGraph

open Entries Outcome

variable {t : RecordType} {purpose : Purpose} {data : Entries Json} {fields supplied : Entries Value}
variable {f : Field} {n m : String} {v : Value} {j : Json}

theorem Entries.eq_of_names_eq {l k : Entries Value} (hl : Keyed l) (hn : names l = names k) (hm : ∀ e ∈ l, e ∈ k) :
    l = k := by
  induction l generalizing k with
  | nil =>
    have hk : names k = [] := hn.symm
    exact (List.map_eq_nil_iff.mp hk).symm
  | cons e l ih =>
    obtain ⟨he, hl⟩ := List.nodup_cons.mp hl
    cases k with
    | nil => cases hn
    | cons d k =>
      obtain ⟨hname, hnames⟩ : e.1 = d.1 ∧ names l = names k := List.cons.inj hn
      have hhead : e = d := by
        rcases List.mem_cons.mp (hm e List.mem_cons_self) with h | h
        · exact h
        · have hin : e.1 ∈ names k := List.mem_map_of_mem (f := Prod.fst) h
          rw [← hnames] at hin
          exact absurd hin he
      have htail : ∀ x ∈ l, x ∈ k := by
        intro x hx
        rcases List.mem_cons.mp (hm x (List.mem_cons_of_mem _ hx)) with h | h
        · have hin : x.1 ∈ names l := List.mem_map_of_mem (f := Prod.fst) hx
          rw [h, ← hname] at hin
          exact absurd hin he
        · exact h
      rw [hhead, ih hl hnames htail]

/-- A sublist of a list without repetitions is what a filter picks from it. -/
theorem filter_mem_of_sublist {α : Type} [DecidableEq α] {l k : List α} (hk : k.Nodup) (h : l.Sublist k) :
    k.filter (· ∈ l) = l := by
  induction h with
  | slnil => rfl
  | @cons l k x h ih =>
    obtain ⟨hx, hk⟩ := List.nodup_cons.mp hk
    have hnot : x ∉ l := fun hl => hx (h.subset hl)
    rw [List.filter_cons_of_neg (by simpa using hnot), ih hk]
  | @cons_cons l k x h ih =>
    obtain ⟨hx, hk⟩ := List.nodup_cons.mp hk
    have hrest : k.filter (· ∈ x :: l) = k.filter (· ∈ l) := by
      apply List.filter_congr
      intro y hy
      have hne : y ≠ x := fun h => hx (h ▸ hy)
      simp [hne]
    rw [List.filter_cons_of_pos (by simp), hrest, ih hk]

/-- Where the names follow one list without repetitions, only what is in the entries counts. -/
theorem Entries.eq_of_sublist {l k : Entries Value} {all : List String} (h : all.Nodup) (hl : (names l).Sublist all)
    (hk : (names k).Sublist all) (hm : ∀ n v, (n, v) ∈ l ↔ (n, v) ∈ k) : l = k := by
  have hsame : ∀ n, n ∈ names l ↔ n ∈ names k := by
    intro n
    simp [names, hm]
  have hnames : names l = names k :=
    calc
      names l = all.filter (· ∈ names l) := (filter_mem_of_sublist h hl).symm
      _ = all.filter (· ∈ names k) := by simp only [hsame]
      _ = names k := filter_mem_of_sublist h hk
  exact eq_of_names_eq (h.sublist hl) hnames fun e he => (hm e.1 e.2).mp he

/-- Whether a new record has to be given a value of a field. -/
def Field.IsNeeded (f : Field) : Prop :=
  f.builtIn = false ∧ f.isStored = true ∧ f.required = true ∧ f.default = none

namespace RecordType

/-- Whether each value of some data is for a field that takes one, and can be converted to its kind. -/
def Suits (t : RecordType) (data : Entries Json) : Prop :=
  ∀ n j, (n, j) ∈ data → ∃ f, t.field? n = some f ∧ f.builtIn = false ∧ f.isStored = true ∧
    ∃ v, Value.coerce f.kind j = .ok v

def Completes (t : RecordType) (data : Entries Json) : Prop := ∀ f ∈ t.fields.values, f.IsNeeded → f.name ∈ names data

/-- The values that a record gets from some data. -/
inductive Gets (t : RecordType) (data : Entries Json) (purpose : Purpose) : String → Value → Prop
  | supplied {n : String} {j : Json} {f : Field} {v : Value} (hj : (n, j) ∈ data) (hf : t.field? n = some f)
    (hv : Value.coerce f.kind j = .ok v) : Gets t data purpose n v
  | default {f : Field} {v : Value} (hp : purpose = .create) (hf : f ∈ t.fields.values) (hb : f.builtIn = false)
    (hs : f.isStored = true) (hd : f.default = some v) (hn : f.name ∉ names data) : Gets t data purpose f.name v

theorem names_supplied (h : data.mapM t.supply = .ok supplied) : names supplied = names data := by
  replace h := mapM_eq_ok.mp h
  induction h with
  | nil => rfl
  | cons hx _ ih => exact List.cons_eq_cons.mpr ⟨(supply_ok hx).1, ih⟩

theorem get?_supplied (hd : Keyed data) (h : data.mapM t.supply = .ok supplied) :
    supplied.get? n = some v ↔ ∃ j, (n, j) ∈ data ∧ t.supply (n, j) = .ok (n, v) := by
  constructor
  · intro hv
    exact mem_supplied h (mem_of_get? hv)
  · rintro ⟨j, hj, hs⟩
    obtain ⟨e, he, hes⟩ := exists_of_mapM_ok h hj
    have hev : e = (n, v) := Except.ok.inj (hes.symm.trans hs)
    have hkeyed : Keyed supplied := by
      rw [Keyed, names_supplied h]
      exact hd
    exact (get?_eq_some_iff hkeyed).mpr (hev ▸ he)

theorem settle_of_supplied (h : supplied.get? f.name = some v) :
    t.settle purpose supplied f = .ok (some (f.name, v)) := by
  simp [settle, h]

/-- A field that is left out gets its default in a new record, if it is one that data can give a value to. -/
theorem settle_of_absent (h : supplied.get? f.name = none) : t.settle purpose supplied f =
    if purpose = .create ∧ f.builtIn = false ∧ f.isStored = true then
      match f.default with
      | some v => .ok (some (f.name, v))
      | none => if f.required then .error (.missingRequiredField t.name f.name) else .ok none
    else .ok none := by
  unfold settle
  rw [h]
  cases purpose <;> cases f.builtIn <;> cases f.isStored <;> rfl

theorem refuses_settle : Refuses (· = .missingRequiredField t.name f.name) (t.settle purpose supplied f) := by
  intro e he
  cases h : supplied.get? f.name with
  | some v =>
    rw [settle_of_supplied h] at he
    cases he
  | none =>
    rw [settle_of_absent h] at he
    split at he
    · split at he
      · cases he
      · split at he
        · exact (Except.error.inj he).symm
        · cases he
    · cases he

theorem exists_settle : (∃ o, t.settle purpose supplied f = .ok o) ↔
    (purpose = .create → f.IsNeeded → f.name ∈ names supplied) := by
  unfold Field.IsNeeded
  cases h : supplied.get? f.name with
  | some v =>
    have hin : f.name ∈ names supplied := List.mem_map_of_mem (f := Prod.fst) (mem_of_get? h)
    simp [settle_of_supplied h, hin]
  | none =>
    have hout : f.name ∉ names supplied := by
      rw [← has_iff, ← get?_isSome, h]
      simp
    rw [settle_of_absent h]
    cases purpose <;> cases f.builtIn <;> cases f.isStored <;> cases f.default <;> cases f.required <;> simp [hout]

theorem settle_eq_some : t.settle purpose supplied f = .ok (some (n, v)) ↔ n = f.name ∧
    (supplied.get? f.name = some v ∨ f.name ∉ names supplied ∧ purpose = .create ∧ f.builtIn = false ∧
      f.isStored = true ∧ f.default = some v) := by
  cases h : supplied.get? f.name with
  | some w =>
    have hin : f.name ∈ names supplied := List.mem_map_of_mem (f := Prod.fst) (mem_of_get? h)
    simp [settle_of_supplied h, hin, @eq_comm _ f.name]
  | none =>
    have hout : f.name ∉ names supplied := by
      rw [← has_iff, ← get?_isSome, h]
      simp
    rw [settle_of_absent h]
    cases purpose <;> cases f.builtIn <;> cases f.isStored <;> cases f.default <;> cases f.required <;>
      simp [hout, @eq_comm _ f.name]

theorem suits_iff : (∃ supplied, data.mapM t.supply = .ok supplied) ↔ t.Suits data := by
  rw [exists_mapM_ok]
  constructor
  · intro h n j hj
    obtain ⟨⟨m, v⟩, hs⟩ := h (n, j) hj
    obtain ⟨-, f, hf, hb, hst, hv⟩ := supply_eq_ok.mp hs
    exact ⟨f, hf, hb, hst, v, hv⟩
  · rintro h ⟨n, j⟩ hj
    obtain ⟨f, hf, hb, hst, v, hv⟩ := h n j hj
    exact ⟨(n, v), supply_eq_ok.mpr ⟨rfl, f, hf, hb, hst, hv⟩⟩

theorem exists_accept : (∃ fields, t.accept data purpose = .ok fields) ↔
    t.Suits data ∧ (purpose = .create → t.Completes data) := by
  rw [← suits_iff]
  simp only [accept, bind_eq_ok, pure_eq_ok]
  constructor
  · rintro ⟨_, supplied, hs, settled, hfields, -⟩
    refine ⟨⟨supplied, hs⟩, ?_⟩
    intro hp f hf hneeded
    rw [← names_supplied hs]
    exact exists_settle.mp (exists_mapM_ok.mp ⟨settled, hfields⟩ f hf) hp hneeded
  · rintro ⟨⟨supplied, hs⟩, hc⟩
    have hall : ∀ f ∈ t.fields.values, ∃ o, t.settle purpose supplied f = .ok o := by
      intro f hf
      rw [exists_settle, names_supplied hs]
      exact fun hp => hc hp f hf
    obtain ⟨settled, hfields⟩ := exists_mapM_ok.mpr hall
    exact ⟨_, supplied, hs, settled, hfields, rfl⟩

theorem mem_accept_iff (hn : ∀ e ∈ t.fields, e.1 = e.2.name) (hd : Keyed data) (h : t.accept data purpose = .ok fields) :
    (n, v) ∈ fields ↔ t.Gets data purpose n v := by
  simp only [accept, bind_eq_ok, pure_eq_ok] at h
  obtain ⟨supplied, hs, settled, hfields, rfl⟩ := h
  have hsettled : (n, v) ∈ settled.filterMap id ↔
      ∃ f ∈ t.fields.values, t.settle purpose supplied f = .ok (some (n, v)) := by
    simp only [List.mem_filterMap, id, exists_eq_right]
    constructor
    · exact exists_of_mem_mapM hfields
    · rintro ⟨f, hf, ho⟩
      obtain ⟨o, hmem, ho'⟩ := exists_of_mapM_ok hfields hf
      have hoo : o = some (n, v) := Except.ok.inj (ho'.symm.trans ho)
      exact hoo ▸ hmem
  rw [hsettled]
  constructor
  · rintro ⟨f, hf, ho⟩
    obtain ⟨rfl, hv | ⟨hn, hp, hb, hst, hdef⟩⟩ := settle_eq_some.mp ho
    · obtain ⟨j, hj, hsj⟩ := (get?_supplied hd hs).mp hv
      obtain ⟨-, g, hg, -, -, hgv⟩ := supply_eq_ok.mp hsj
      exact .supplied hj hg hgv
    · rw [names_supplied hs] at hn
      exact .default hp hf hb hst hdef hn
  · intro hgets
    cases hgets with
    | @supplied n j f v hj hf hv =>
      obtain ⟨g, hg, hb, hst, -⟩ := suits_iff.mp ⟨supplied, hs⟩ n j hj
      have hgf : g = f := Option.some.inj (hg.symm.trans hf)
      have hsj : t.supply (n, j) = .ok (n, v) := supply_eq_ok.mpr ⟨rfl, f, hf, hgf ▸ hb, hgf ▸ hst, hv⟩
      have hname : f.name = n := (hn (n, f) (mem_of_get? hf)).symm
      have hget : Entries.get? f.name supplied = some v := by
        rw [hname]
        exact (get?_supplied hd hs).mpr ⟨j, hj, hsj⟩
      exact ⟨f, List.mem_map_of_mem (mem_of_get? hf), settle_eq_some.mpr ⟨hname.symm, .inl hget⟩⟩
    | default hp hf hb hst hdef hn =>
      rw [← names_supplied hs] at hn
      exact ⟨_, hf, settle_eq_some.mpr ⟨rfl, .inr ⟨hn, hp, hb, hst, hdef⟩⟩⟩

/-- Data that suits a type is refused for a new record only where a field lacks the value that it has to be given. -/
theorem refuses_accept (hs : t.Suits data) : Refuses (fun e => ∃ f ∈ t.fields.values, f.IsNeeded ∧ f.name ∉ names data ∧
    e = .missingRequiredField t.name f.name) (t.accept data purpose) := by
  obtain ⟨supplied, hs⟩ := suits_iff.mpr hs
  have hfields : Refuses (fun e => ∃ f ∈ t.fields.values, f.IsNeeded ∧ f.name ∉ names data ∧
      e = .missingRequiredField t.name f.name) (t.fields.values.mapM (t.settle purpose supplied)) := by
    apply refuses_mapM
    intro f hf e he
    have hnone : ¬∃ o, t.settle purpose supplied f = .ok o := by
      rintro ⟨o, ho⟩
      rw [he] at ho
      cases ho
    rw [exists_settle, names_supplied hs] at hnone
    obtain ⟨-, hneeded, hout⟩ : purpose = .create ∧ f.IsNeeded ∧ f.name ∉ names data := by simpa using hnone
    exact ⟨f, hf, hneeded, hout, refuses_settle e he⟩
  unfold accept
  rw [hs, ok_bind]
  exact hfields.bind fun _ _ => refuses_pure

section Compare

variable {data' : Entries Json}

theorem gets_congr (h : ∀ e, e ∈ data ↔ e ∈ data') (hg : t.Gets data purpose n v) : t.Gets data' purpose n v := by
  cases hg with
  | supplied hj hf hv => exact .supplied ((h _).mp hj) hf hv
  | default hp hf hb hs hd hn =>
    refine .default hp hf hb hs hd fun hin => hn ?_
    obtain ⟨e, he, hname⟩ := List.mem_map.mp hin
    exact hname ▸ List.mem_map_of_mem ((h e).mpr he)

theorem accept_of_perm (hf : Keyed t.fields) (hn : ∀ e ∈ t.fields, e.1 = e.2.name) (hd : Keyed data) (hp : data'.Perm data)
    (h : t.accept data purpose = .ok fields) : t.accept data' purpose = .ok fields := by
  have hmem : ∀ e, e ∈ data ↔ e ∈ data' := fun e => hp.symm.mem_iff
  have hnames : ∀ n, n ∈ names data ↔ n ∈ names data' := fun n => (hp.symm.map Prod.fst).mem_iff
  have hd' : Keyed data' := (hp.map Prod.fst).nodup_iff.mpr hd
  obtain ⟨hs, hc⟩ := exists_accept.mp ⟨fields, h⟩
  have hs' : t.Suits data' := fun n j hj => hs n j ((hmem _).mpr hj)
  have hc' : purpose = .create → t.Completes data' := fun hp f hf hneeded => (hnames _).mp (hc hp f hf hneeded)
  obtain ⟨fields', h'⟩ := exists_accept.mpr ⟨hs', hc'⟩
  have hsame : fields' = fields := by
    apply eq_of_sublist hf (names_accept hn h') (names_accept hn h)
    intro n v
    rw [mem_accept_iff hn hd' h', mem_accept_iff hn hd h]
    exact ⟨gets_congr fun e => (hmem e).symm, gets_congr hmem⟩
  rw [h', hsame]

theorem gets_update : t.Gets data .update n v ↔ t.Gets data .create n v ∧ n ∈ names data := by
  constructor
  · intro hg
    cases hg with
    | supplied hj hf hv => exact ⟨.supplied hj hf hv, List.mem_map_of_mem (f := Prod.fst) hj⟩
    | default hp => cases hp
  · rintro ⟨hg, hin⟩
    cases hg with
    | supplied hj hf hv => exact .supplied hj hf hv
    | default _ _ _ _ _ hn => exact absurd hin hn

theorem accept_update_of_create (hf : Keyed t.fields) (hn : ∀ e ∈ t.fields, e.1 = e.2.name) (hd : Keyed data)
    (h : t.accept data .create = .ok fields) :
    t.accept data .update = .ok (fields.filter fun e => e.1 ∈ names data) := by
  obtain ⟨hs, -⟩ := exists_accept.mp ⟨fields, h⟩
  have hno : Purpose.update = .create → t.Completes data := by
    intro hp
    cases hp
  obtain ⟨changed, hc⟩ := exists_accept.mpr ⟨hs, hno⟩
  have hnames : (names (fields.filter fun e => e.1 ∈ names data)).Sublist (names t.fields) :=
    (List.filter_sublist.map Prod.fst).trans (names_accept hn h)
  have hsame : changed = fields.filter fun e => e.1 ∈ names data := by
    apply eq_of_sublist hf (names_accept hn hc) hnames
    intro n v
    rw [mem_accept_iff hn hd hc, gets_update, List.mem_filter, mem_accept_iff hn hd h, decide_eq_true_eq]
  rw [hc, hsame]

end Compare

/-- A type accepts just the data that suits it, complete if it is for a new record, and makes of it just what the record
gets, in the order of the fields. So the order of the data does not count, a changed record gets what a new one gets from
the data itself, and data for the one is refused for the other only where a field lacks the value that it has to be given. -/
theorem accept_exactly (hf : Keyed t.fields) (hn : ∀ e ∈ t.fields, e.1 = e.2.name) (hd : Keyed data) (purpose : Purpose) :
    ((∃ fields, t.accept data purpose = .ok fields) ↔ t.Suits data ∧ (purpose = .create → t.Completes data)) ∧
      (∀ fields, t.accept data purpose = .ok fields →
        (names fields).Sublist (names t.fields) ∧ ∀ n v, (n, v) ∈ fields ↔ t.Gets data purpose n v) ∧
      (∀ data', data'.Perm data → ∀ fields, t.accept data' purpose = .ok fields ↔ t.accept data purpose = .ok fields) ∧
      (∀ fields, t.accept data .create = .ok fields →
        t.accept data .update = .ok (fields.filter fun e => e.1 ∈ names data)) ∧
      ∀ fields e, t.accept data .update = .ok fields → t.accept data .create = .error e →
        ∃ f ∈ t.fields.values, f.IsNeeded ∧ f.name ∉ names data ∧ e = .missingRequiredField t.name f.name := by
  refine ⟨exists_accept, ?_, ?_, ?_, ?_⟩
  · intro fields h
    exact ⟨names_accept hn h, fun n v => mem_accept_iff hn hd h⟩
  · intro data' hp fields
    have hd' : Keyed data' := (hp.map Prod.fst).nodup_iff.mpr hd
    exact ⟨accept_of_perm hf hn hd' hp.symm, accept_of_perm hf hn hd hp⟩
  · intro fields h
    exact accept_update_of_create hf hn hd h
  · intro fields e h he
    exact refuses_accept (exists_accept.mp ⟨fields, h⟩).1 e he

theorem accept_exactly_reversed :
    let t : RecordType := ⟨"A", true, [(idName, .id), ("a", ⟨"a", .string, false, true, none, none⟩),
      ("b", ⟨"b", .int, false, true, some (.int 7), none⟩), ("c", ⟨"c", .boolean, false, false, none, none⟩),
      ("d", .connection "d" "A" "e" .many)], []⟩
    let data : Entries Json := [("c", .bool true), ("a", .string "x")]
    t.accept data.reverse .create = .ok [("a", .string "x"), ("b", .int 7), ("c", .boolean true)] ∧
      t.accept data .update = .ok [("a", .string "x"), ("c", .boolean true)] ∧
      (∃ f ∈ t.fields.values, f.name ∉ names (data.take 1) ∧
        t.accept (data.take 1) .create = .error (.missingRequiredField "A" f.name)) ∧
      t.Gets data .create "b" (.int 7) ∧ ¬∃ fields, t.accept [("d", .string "x")] .update = .ok fields := by
  intro t data
  have hf : Keyed t.fields := by decide
  have hn : ∀ e ∈ t.fields, e.1 = e.2.name := by decide
  have hd : Keyed data := by decide
  have hcreate : t.accept data .create = .ok [("a", .string "x"), ("b", .int 7), ("c", .boolean true)] := rfl
  obtain ⟨-, hgets, hperm, hupdate, -⟩ := accept_exactly hf hn hd .create
  have hpart : Keyed (data.take 1) := by decide
  obtain ⟨-, -, -, -, hmissing⟩ := accept_exactly hf hn hpart .create
  have hmany : Keyed [("d", Json.string "x")] := by decide
  obtain ⟨hsuits, -⟩ := accept_exactly hf hn hmany .update
  refine ⟨(hperm _ data.reverse_perm _).mpr hcreate, hupdate _ hcreate, ?_, ?_, ?_⟩
  · obtain ⟨f, hfield, -, hout, he⟩ := hmissing _ (.missingRequiredField "A" "a") rfl rfl
    exact ⟨f, hfield, hout, congrArg Except.error he⟩
  · exact ((hgets _ hcreate).2 "b" (.int 7)).mp (by decide)
  · rintro h
    obtain ⟨f, hfield, -, hstored, -⟩ := (hsuits.mp h).1 "d" _ List.mem_cons_self
    have hd : some (Field.connection "d" "A" "e" .many) = some f := hfield
    rw [← Option.some.inj hd] at hstored
    cases hstored

end RecordType

end RecordGraph
