import RecordGraph.Store
import RecordGraph.Proofs.Entries
import RecordGraph.Proofs.Stateful

namespace RecordGraph

open Entries

def Record.strip (R : String → String → Prop) [∀ T n, Decidable (R T n)] (r : Record) : Record :=
  { r with fields := r.fields.filter fun e => ¬R r.type e.1 }

theorem Record.strip_eq_self {R : String → String → Prop} [∀ T n, Decidable (R T n)] {r : Record}
    (h : ∀ e ∈ r.fields, ¬R r.type e.1) : r.strip R = r :=
  congrArg (Record.mk r.id r.type) (List.filter_eq_self.mpr fun e he => decide_eq_true (h e he))

namespace Store

variable {s s' : Store} {r : Record} {T U n id i : String} {fields : Entries Value} {f : Table → Table}
variable {R S : String → String → Prop} [∀ T n, Decidable (R T n)] [∀ T n, Decidable (S T n)]

def records (s : Store) : List Record := s.tables.values.flatMap values

theorem mem_records : r ∈ s.records ↔ ∃ e ∈ s.tables, ∃ d ∈ e.2, d.2 = r := by
  simp only [records, values, List.mem_flatMap, List.mem_map]
  constructor
  · rintro ⟨_, ⟨e, he, rfl⟩, d, hd, rfl⟩
    exact ⟨e, he, d, hd, rfl⟩
  · rintro ⟨e, he, d, hd, rfl⟩
    exact ⟨e.2, ⟨e, he, rfl⟩, d, hd, rfl⟩

def strip (s : Store) (R : String → String → Prop) [∀ T n, Decidable (R T n)] : Store :=
  { s with tables := s.tables.map fun e => (e.1, e.2.map fun d => (d.1, d.2.strip R)) }

theorem get?_eq : s.get? T id = (s.table T).get? id := by
  rw [get?, table]
  cases s.tables.get? T <;> rfl

theorem list_eq : s.list T [] = (s.table T).values := List.filter_eq_self.mpr fun _ _ => rfl

theorem table_insert [Ids] : (s.insert T fields).2.table U =
    if U = T then (s.table T).put (Ids.id (s.inserted + 1)) (.make T (Ids.id (s.inserted + 1)) fields) else s.table U := by
  rw [table, insert, get?_put]
  by_cases h : T = U
  · simp [h]
  · simp [h, Ne.symm h, table]

theorem table_modifyTable (hf : f [] = []) :
    (s.modifyTable T f).table U = if U = T then f (s.table U) else s.table U := by
  rw [table, modifyTable, get?_modify, table]
  cases s.tables.get? U with
  | none => simp [hf]
  | some t => by_cases h : U = T <;> simp [h]

theorem table_dropType : (s.dropType T).table U = if U = T then [] else s.table U := by
  rw [table, dropType, get?_erase, table]
  split <;> rfl

theorem table_strip : (s.strip R).table U = (s.table U).map fun d => (d.1, d.2.strip R) := by
  have hget : (s.strip R).tables.get? U = (s.tables.get? U).map fun t => t.map fun d => (d.1, d.2.strip R) :=
    Entries.get?_map (f := fun _ (t : Table) => t.map fun d => (d.1, d.2.strip R))
  rw [table, hget, table]
  cases s.tables.get? U <;> rfl

theorem update_eq_ok : s.update T id fields = .ok s' ↔
    (∃ r, s.get? T id = some r) ∧ s' = s.modifyTable T (·.modify id (·.merge fields)) := by
  unfold update
  cases s.get? T id <;> simp [@eq_comm _ s']

theorem delete_eq_ok : s.delete T id = .ok s' ↔ (∃ r, s.get? T id = some r) ∧ s' = s.modifyTable T (·.erase id) := by
  unfold delete
  cases s.get? T id <;> simp [@eq_comm _ s']

theorem update_eq_error {e : Fault} : s.update T id fields = .error e ↔
    s.get? T id = none ∧ e = .recordNotFound T id := by
  unfold update
  cases s.get? T id <;> simp [@eq_comm _ e]

theorem delete_eq_error {e : Fault} : s.delete T id = .error e ↔ s.get? T id = none ∧ e = .recordNotFound T id := by
  unfold delete
  cases s.get? T id <;> simp [@eq_comm _ e]

theorem get?_insert_self [Ids] : (s.insert T fields).2.get? T (s.insert T fields).1 =
    some (.make T (Ids.id (s.inserted + 1)) fields) := by
  rw [get?_eq, table_insert, if_pos rfl, get?_put]
  exact if_pos rfl

theorem get?_update (h : s.update U i fields = .ok s') :
    s'.get? T id = (s.get? T id).map fun r => if T = U ∧ id = i then r.merge fields else r := by
  obtain ⟨-, rfl⟩ := update_eq_ok.mp h
  rw [get?_eq, get?_eq, table_modifyTable rfl]
  by_cases hT : T = U
  · subst hT
    simp only [if_true, get?_modify, true_and]
  · simp [hT]

theorem exists_get?_update (h : s.update T id fields = .ok s') : ∃ r, s'.get? T id = some r := by
  obtain ⟨⟨r, hr⟩, -⟩ := update_eq_ok.mp h
  exact ⟨_, (get?_update h).trans (congrArg _ hr)⟩

theorem get?_delete (h : s.delete U i = .ok s') (hne : ¬(T = U ∧ id = i)) : s'.get? T id = s.get? T id := by
  obtain ⟨-, rfl⟩ := delete_eq_ok.mp h
  rw [get?_eq, get?_eq, table_modifyTable rfl]
  by_cases hT : T = U
  · rw [if_pos hT, get?_erase_of_ne fun hid => hne ⟨hT, hid⟩]
  · rw [if_neg hT]

theorem get?_dropType (hne : T ≠ U) : (s.dropType U).get? T id = s.get? T id := by
  rw [get?_eq, get?_eq, table_dropType, if_neg hne]

theorem get?_strip : (s.strip R).get? T id = (s.get? T id).map (·.strip R) := by
  rw [get?_eq, get?_eq, table_strip]
  exact Entries.get?_map (f := fun _ (r : Record) => r.strip R)

theorem mem_names_insert [Ids] : U ∈ names (s.insert T fields).2.tables ↔ U = T ∨ U ∈ names s.tables := mem_names_put

theorem names_modifyTable : names (s.modifyTable T f).tables = names s.tables := names_modify

theorem mem_names_dropType : U ∈ names (s.dropType T).tables ↔ U ∈ names s.tables ∧ U ≠ T := by
  simp [dropType, names_erase]

theorem names_update (h : s.update T id fields = .ok s') : names s'.tables = names s.tables := by
  obtain ⟨-, rfl⟩ := update_eq_ok.mp h
  exact names_modifyTable

theorem names_delete (h : s.delete T id = .ok s') : names s'.tables = names s.tables := by
  obtain ⟨-, rfl⟩ := delete_eq_ok.mp h
  exact names_modifyTable

theorem strip_strip : (s.strip R).strip S = s.strip fun T n => R T n ∨ S T n := by
  simp [strip, Record.strip, List.filter_filter, Function.comp_def, Bool.and_comm]

theorem map_tables_congr {g h : Record → Record} (hgh : ∀ r ∈ s.records, g r = h r) :
    (s.tables.map fun e => (e.1, e.2.map fun d => (d.1, g d.2))) =
      s.tables.map fun e => (e.1, e.2.map fun d => (d.1, h d.2)) := by
  refine List.map_congr_left fun e he => congrArg (Prod.mk e.1) (List.map_congr_left fun d hd => ?_)
  rw [hgh d.2 (mem_records.mpr ⟨e, he, d, hd, rfl⟩)]

/-- Where nothing is stored for some fields, the store without their values is the same. -/
theorem strip_eq_self (h : ∀ r ∈ s.records, ∀ n v, (n, v) ∈ r.fields → ¬R r.type n) : s.strip R = s := by
  have hsame : ∀ r ∈ s.records, r.strip R = id r := fun r hr => Record.strip_eq_self fun e he => h r hr e.1 e.2 he
  refine congrArg (Store.mk · s.inserted) ((map_tables_congr hsame).trans ?_)
  simp

theorem strip_congr_of_mem (h : ∀ r ∈ s.records, ∀ n, R r.type n ↔ S r.type n) : s.strip R = s.strip S := by
  refine congrArg (Store.mk · s.inserted) (map_tables_congr fun r hr => ?_)
  simp [Record.strip, h r hr]

theorem strip_congr (h : ∀ T n, R T n ↔ S T n) : s.strip R = s.strip S := strip_congr_of_mem fun r _ => h r.type

theorem dropType_strip : (s.strip R).dropType T = (s.dropType T).strip R := by
  simp [strip, dropType, erase, List.filter_map, Function.comp_def]

theorem mem_strip : r ∈ (s.strip R).records ↔ ∃ q ∈ s.records, q.strip R = r := by
  simp only [mem_records, strip, List.mem_map]
  constructor
  · rintro ⟨_, ⟨e, he, rfl⟩, d', hd', rfl⟩
    obtain ⟨d, hd, rfl⟩ := List.mem_map.mp hd'
    exact ⟨d.2, ⟨e, he, d, hd, rfl⟩, rfl⟩
  · rintro ⟨_, ⟨e, he, d, hd, rfl⟩, rfl⟩
    exact ⟨_, ⟨e, he, rfl⟩, (d.1, d.2.strip R), List.mem_map_of_mem hd, rfl⟩

end Store

namespace RecordStore

open Stateful

variable {T n id : String} {fields : Entries Value} {filters : Filters}

theorem comesTo_insert [Ids] : (insert T fields).ComesTo fun s => .ok (s.insert T fields) := fun _ => rfl

theorem comesTo_update : (update T id fields).ComesTo fun s => (s.update T id fields).map ((), ·) := comesTo_ask_set

theorem comesTo_delete : (delete T id).ComesTo fun s => (s.delete T id).map ((), ·) := comesTo_ask_set

theorem comesTo_get? : (get? T id).ComesTo fun s => .ok (s.get? T id, s) := fun _ => rfl

theorem comesTo_list : (list T filters).ComesTo fun s => .ok (s.list T filters, s) := fun _ => rfl

theorem comesTo_dropType : (dropType T).ComesTo fun s => .ok ((), s.dropType T) := fun _ => rfl

theorem comesTo_removeField : (removeField T n).ComesTo fun s => .ok ((), s.removeField T n) := fun _ => rfl

end RecordStore

variable [Ids]

/-- Whether the records of a table are of one type and stand under their ids, which are those of ascending insertions up to
the `k`-th. -/
structure Table.Filed (T : String) (k : Nat) (t : Table) : Prop where
  type : ∀ e ∈ t, e.2.type = T
  id : ∀ e ∈ t, e.2.id = e.1
  ascending : ∃ ns : List Nat, ns.Pairwise (· < ·) ∧ (∀ n ∈ ns, n ≤ k) ∧ names t = ns.map Ids.id

structure Store.Filed (s : Store) : Prop where
  keyed : Keyed s.tables
  table : ∀ e ∈ s.tables, e.2.Filed e.1 s.inserted

/-- Whether records are in the order of their insertion, each of them once: their ids are those of ascending insertions. -/
def Ascending (records : List Record) : Prop :=
  ∃ ns : List Nat, ns.Pairwise (· < ·) ∧ records.map Record.id = ns.map Ids.id

theorem Ascending.sublist {records records' : List Record} (h : Ascending records) (hs : records'.Sublist records) :
    Ascending records' := by
  obtain ⟨ns, hns, hids⟩ := h
  have hsub := hs.map Record.id
  rw [hids] at hsub
  obtain ⟨ms, hms, hids'⟩ := List.sublist_map_iff.mp hsub
  exact ⟨ms, hns.sublist hms, hids'⟩

theorem Ascending.nodup {records : List Record} (h : Ascending records) : (records.map Record.id).Nodup := by
  obtain ⟨ns, hns, hids⟩ := h
  have hnodup : ns.Nodup := hns.imp Nat.ne_of_lt
  rw [hids]
  exact hnodup.map Ids.injective

namespace Table.Filed

variable {t t' : Table} {T : String} {k m : Nat} {fields : Entries Value}

theorem nil : Table.Filed T k [] := ⟨by simp, by simp, [], .nil, by simp, rfl⟩

theorem keyed (h : t.Filed T k) : Keyed t := by
  obtain ⟨ns, hns, -, hnames⟩ := h.ascending
  have hnodup : ns.Nodup := hns.imp Nat.ne_of_lt
  rw [Keyed, hnames]
  exact hnodup.map Ids.injective

theorem mono (h : t.Filed T k) (hk : k ≤ m) : t.Filed T m where
  type := h.type
  id := h.id
  ascending := by
    obtain ⟨ns, hns, hle, hnames⟩ := h.ascending
    exact ⟨ns, hns, fun n hn => Nat.le_trans (hle n hn) hk, hnames⟩

theorem sublist (h : t.Filed T k) (ht : ∀ e ∈ t', e.2.type = T ∧ e.2.id = e.1) (hn : (names t').Sublist (names t)) :
    t'.Filed T k where
  type e he := (ht e he).1
  id e he := (ht e he).2
  ascending := by
    obtain ⟨ns, hns, hle, hnames⟩ := h.ascending
    rw [hnames] at hn
    obtain ⟨ms, hms, hnames'⟩ := List.sublist_map_iff.mp hn
    exact ⟨ms, hns.sublist hms, fun n hn => hle n (hms.subset hn), hnames'⟩

/-- The next insertion has an id that is not there yet. -/
theorem fresh (h : t.Filed T k) : Ids.id (k + 1) ∉ names t := by
  obtain ⟨ns, -, hle, hnames⟩ := h.ascending
  rw [hnames]
  rintro hn
  obtain ⟨n, hn, he⟩ := List.mem_map.mp hn
  obtain rfl := Ids.injective he
  exact absurd (hle _ hn) (by omega)

theorem put (h : t.Filed T k) : Table.Filed T (k + 1) (t.put (Ids.id (k + 1)) (.make T (Ids.id (k + 1)) fields)) := by
  rw [put_of_absent h.fresh]
  refine ⟨List.forall_mem_append.mpr ⟨h.type, by simp [Record.make]⟩,
    List.forall_mem_append.mpr ⟨h.id, by simp [Record.make]⟩, ?_⟩
  obtain ⟨ns, hns, hle, hnames⟩ := h.ascending
  refine ⟨ns ++ [k + 1], ?_, ?_, ?_⟩
  · rw [List.pairwise_append]
    refine ⟨hns, List.pairwise_singleton _ _, fun n hn m hm => ?_⟩
    have hn := hle n hn
    have hm := List.mem_singleton.mp hm
    omega
  · intro n hn
    rcases List.mem_append.mp hn with hn | hn
    · exact Nat.le_succ_of_le (hle n hn)
    · exact Nat.le_of_eq (List.mem_singleton.mp hn)
  · rw [names_append, hnames, List.map_append]
    rfl

theorem modify (h : t.Filed T k) {i : String} {f : Record → Record} (hf : ∀ r, (f r).type = r.type ∧ (f r).id = r.id) :
    Table.Filed T k (t.modify i f) := by
  refine h.sublist ?_ (by rw [names_modify])
  rintro ⟨j, r⟩ hr
  obtain ⟨q, hq, rfl⟩ := (mem_modify h.keyed).mp hr
  dsimp only
  split
  · exact ⟨(hf q).1.trans (h.type _ hq), (hf q).2.trans (h.id _ hq)⟩
  · exact ⟨h.type _ hq, h.id _ hq⟩

theorem map (h : t.Filed T k) {f : Record → Record} (hf : ∀ r, (f r).type = r.type ∧ (f r).id = r.id) :
    Table.Filed T k (t.map fun e => (e.1, f e.2)) := by
  refine h.sublist ?_ (by rw [names_map (f := fun _ => f)])
  intro e he
  obtain ⟨d, hd, rfl⟩ := List.mem_map.mp he
  exact ⟨(hf d.2).1.trans (h.type d hd), (hf d.2).2.trans (h.id d hd)⟩

theorem erase (h : t.Filed T k) {i : String} : Table.Filed T k (t.erase i) :=
  h.sublist (fun e he => ⟨h.type e (mem_erase.mp he).1, h.id e (mem_erase.mp he).1⟩) (List.filter_sublist.map _)

end Table.Filed

namespace Store

variable {s s' : Store} {r : Record} {T U n id i : String} {fields : Entries Value} {f : Table → Table}
variable {R : String → String → Prop} [∀ T n, Decidable (R T n)]

theorem filed_empty : empty.Filed := ⟨keyed_nil, by simp [empty]⟩

namespace Filed

theorem filed_table (h : s.Filed) (T : String) : (s.table T).Filed T s.inserted := by
  rw [Store.table]
  cases ht : s.tables.get? T with
  | none => exact .nil
  | some t => exact h.table (T, t) (mem_of_get? ht)

theorem modifyTable (h : s.Filed) (hf : ∀ t, Table.Filed T s.inserted t → (f t).Filed T s.inserted) :
    (s.modifyTable T f).Filed where
  keyed := h.keyed.modify
  table := by
    rintro ⟨U, u⟩ hu
    obtain ⟨t, ht, rfl⟩ := (mem_modify h.keyed).mp hu
    dsimp only
    split
    · next hU => exact hU ▸ hf t (hU ▸ h.table _ ht)
    · exact h.table _ ht

theorem insert (h : s.Filed) : (s.insert T fields).2.Filed where
  keyed := h.keyed.put
  table := by
    intro e he
    rcases mem_put he with rfl | he
    · exact (h.filed_table T).put
    · exact (h.table e he).mono (Nat.le_succ _)

theorem update (h : s.Filed) (e : s.update T id fields = .ok s') : s'.Filed := by
  obtain ⟨-, rfl⟩ := update_eq_ok.mp e
  exact h.modifyTable fun t ht => ht.modify fun _ => ⟨rfl, rfl⟩

theorem delete (h : s.Filed) (e : s.delete T id = .ok s') : s'.Filed := by
  obtain ⟨-, rfl⟩ := delete_eq_ok.mp e
  exact h.modifyTable fun t ht => ht.erase

theorem dropType (h : s.Filed) : (s.dropType T).Filed :=
  ⟨h.keyed.erase, fun e he => h.table e (mem_erase.mp he).1⟩

theorem removeField (h : s.Filed) : (s.removeField T n).Filed :=
  h.modifyTable fun _ ht => ht.map (f := (·.removeField n)) fun _ => ⟨rfl, rfl⟩

theorem strip (h : s.Filed) : (s.strip R).Filed where
  keyed := h.keyed.map (f := fun _ (t : Table) => t.map fun d : String × Record => (d.1, d.2.strip R))
  table := by
    intro e he
    obtain ⟨d, hd, rfl⟩ := List.mem_map.mp he
    exact (h.table d hd).map (f := (·.strip R)) fun _ => ⟨rfl, rfl⟩

theorem of_get? (h : s.Filed) (hr : s.get? T id = some r) : r ∈ s.records ∧ r.type = T ∧ r.id = id := by
  obtain ⟨t, ht, hr⟩ := Option.bind_eq_some_iff.mp hr
  have hm := mem_of_get? hr
  exact ⟨mem_records.mpr ⟨(T, t), mem_of_get? ht, (id, r), hm, rfl⟩, (h.table _ (mem_of_get? ht)).type _ hm,
    (h.table _ (mem_of_get? ht)).id _ hm⟩

/-- Every record is found under its own type and id. -/
theorem get? (h : s.Filed) (hr : r ∈ s.records) : s.get? r.type r.id = some r := by
  obtain ⟨⟨T, t⟩, ht, ⟨id, r⟩, hd, rfl⟩ := mem_records.mp hr
  have hfiled := h.table _ ht
  obtain rfl : r.type = T := hfiled.type _ hd
  obtain rfl : r.id = id := hfiled.id _ hd
  exact Option.bind_eq_some_iff.mpr ⟨t, (get?_eq_some_iff h.keyed).mpr ht, (get?_eq_some_iff hfiled.keyed).mpr hd⟩

theorem mem_records_iff (h : s.Filed) : r ∈ s.records ↔ s.get? r.type r.id = some r :=
  ⟨h.get?, fun hr => (h.of_get? hr).1⟩

theorem mem_list (h : s.Filed) : r ∈ s.list T [] ↔ r ∈ s.records ∧ r.type = T := by
  have hfiled := h.filed_table T
  rw [list_eq, values, List.mem_map]
  constructor
  · rintro ⟨⟨id, r⟩, hd, rfl⟩
    obtain rfl : r.id = id := hfiled.id _ hd
    exact (h.of_get? (get?_eq.trans ((get?_eq_some_iff hfiled.keyed).mpr hd))).imp_right And.left
  · rintro ⟨hr, rfl⟩
    exact ⟨(r.id, r), mem_of_get? (get?_eq.symm.trans (h.get? hr)), rfl⟩

theorem ascending (h : s.Filed) (T : String) (filters : Filters) : Ascending (s.list T filters) := by
  obtain ⟨ns, hns, -, hnames⟩ := (h.filed_table T).ascending
  have hids : (s.table T).values.map Record.id = names (s.table T) := by
    rw [values, List.map_map]
    exact List.map_congr_left fun e he => (h.filed_table T).id e he
  have hall : Ascending (s.table T).values := ⟨ns, hns, hids.trans hnames⟩
  exact hall.sublist List.filter_sublist

theorem get?_insert (h : s.Filed) (hr : s.get? T id = some r) : (s.insert U fields).2.get? T id = some r := by
  rw [get?_eq] at hr
  rw [get?_eq, table_insert]
  split
  · next hT =>
    subst hT
    have hne : Ids.id (s.inserted + 1) ≠ id := fun he => (h.filed_table T).fresh (he ▸ mem_names_of_mem (mem_of_get? hr))
    rw [get?_put, if_neg hne, hr]
  · exact hr

theorem of_mem_insert (h : s.Filed) (hr : r ∈ (s.insert T fields).2.records) :
    r ∈ s.records ∨ r = .make T (Ids.id (s.inserted + 1)) fields := by
  have hget := h.insert.get? hr
  rw [get?_eq, table_insert] at hget
  split at hget
  · next hT =>
    rw [get?_put] at hget
    split at hget
    · exact .inr (Option.some.inj hget).symm
    · rw [← hT, ← get?_eq] at hget
      exact .inl (h.of_get? hget).1
  · rw [← get?_eq] at hget
    exact .inl (h.of_get? hget).1

theorem of_mem_update (h : s.Filed) (e : s.update T id fields = .ok s') (hr : r ∈ s'.records) :
    ∃ q ∈ s.records, (if q.type = T ∧ q.id = id then q.merge fields else q) = r := by
  have hget := (h.update e).get? hr
  rw [get?_update e] at hget
  obtain ⟨q, hq, hqr⟩ := Option.map_eq_some_iff.mp hget
  obtain ⟨hm, hT, hi⟩ := h.of_get? hq
  exact ⟨q, hm, by rw [hT, hi]; exact hqr⟩

theorem of_mem_delete (h : s.Filed) (e : s.delete T id = .ok s') (hr : r ∈ s'.records) : r ∈ s.records := by
  have hget := (h.delete e).get? hr
  obtain ⟨-, rfl⟩ := delete_eq_ok.mp e
  rw [get?_eq, table_modifyTable rfl] at hget
  split at hget
  · have hm := (mem_erase.mp (mem_of_get? hget)).1
    exact (h.of_get? (get?_eq.trans ((get?_eq_some_iff (h.filed_table _).keyed).mpr hm))).1
  · rw [← get?_eq] at hget
    exact (h.of_get? hget).1

theorem mem_dropType (h : s.Filed) : r ∈ (s.dropType T).records ↔ r ∈ s.records ∧ r.type ≠ T := by
  rw [h.dropType.mem_records_iff, h.mem_records_iff]
  by_cases hT : r.type = T
  · simp [get?_eq, table_dropType, hT, Entries.get?]
  · simp [get?_dropType hT, hT]

theorem removeField_eq_strip (h : s.Filed) : s.removeField T n = s.strip fun U m => U = T ∧ m = n := by
  refine congrArg (Store.mk · s.inserted) ((modify_eq_map h.keyed).trans (List.map_congr_left fun e he => ?_))
  have htype := (h.table e he).type
  congr 1
  split
  · next hT =>
    refine List.map_congr_left fun d hd => ?_
    simp [Record.removeField, Record.strip, Entries.erase, htype d hd, hT]
  · next hT =>
    refine ((List.map_congr_left fun d hd => ?_).trans (List.map_id _)).symm
    rw [Record.strip_eq_self fun _ _ hU => hT ((htype d hd).symm.trans hU.1)]
    rfl

end Filed

end Store

end RecordGraph
