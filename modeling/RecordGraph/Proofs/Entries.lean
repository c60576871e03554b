import RecordGraph.Entries
import Mathlib.Data.List.Nodup

namespace RecordGraph.Entries

variable {β : Type u} {n m : String} {l k : Entries β} {v w : β} {e : String × β}

/-- No two values stand under one name, so that a name is a key. -/
def Keyed (l : Entries β) : Prop := (names l).Nodup

instance : Decidable (Keyed l) := inferInstanceAs (Decidable (List.Nodup _))

theorem mem_names_of_mem (h : (n, v) ∈ l) : n ∈ names l := List.mem_map_of_mem (f := Prod.fst) h

theorem mem_of_get? (h : get? n l = some v) : (n, v) ∈ l := by
  obtain ⟨e, he, rfl⟩ := Option.map_eq_some_iff.mp h
  obtain rfl : e.1 = n := by simpa using List.find?_some he
  exact List.mem_of_find?_eq_some he

theorem get?_eq_none_iff : get? n l = none ↔ n ∉ names l := by
  rw [← has_iff, ← get?_isSome]
  simp

theorem exists_get?_of_mem (h : n ∈ names l) : ∃ v, get? n l = some v := by
  have hs : (get? n l).isSome = true := by rw [get?_isSome, has_iff.mpr h]
  exact Option.isSome_iff_exists.mp hs

theorem get?_eq_some_iff (hl : Keyed l) : get? n l = some v ↔ (n, v) ∈ l := by
  refine ⟨mem_of_get?, fun h => ?_⟩
  obtain ⟨w, hw⟩ := exists_get?_of_mem (mem_names_of_mem h)
  have he : (n, w) = (n, v) := List.inj_on_of_nodup_map hl (mem_of_get? hw) h rfl
  rw [hw, (Prod.mk.inj he).2]

theorem get?_cons : get? n (e :: l) = if e.1 = n then some e.2 else get? n l := by
  by_cases h : e.1 = n <;> simp [get?, h]

theorem get?_append : get? n (l ++ [(m, v)]) = (get? n l).or (if m = n then some v else none) := by
  induction l with
  | nil => rw [List.nil_append, get?_cons]; rfl
  | cons e l ih =>
    rw [List.cons_append, get?_cons, get?_cons, ih]
    split <;> rfl

theorem get?_filter {p : String × β → Bool} (hp : ∀ v, p (n, v) = true) : get? n (l.filter p) = get? n l := by
  rw [get?, get?, List.find?_filter]
  congr 2
  funext e
  obtain ⟨k, w⟩ := e
  by_cases hk : k = n
  · simp [hk, hp]
  · simp [hk]

theorem get?_erase_of_ne (h : n ≠ m) : get? n (erase m l) = get? n l := get?_filter fun _ => by simpa using h

theorem get?_erase : get? n (erase m l) = if n = m then none else get? n l := by
  split
  · next h => rw [h, get?_erase_self]
  · next h => exact get?_erase_of_ne h

theorem get?_put : get? n (put m v l) = if m = n then some v else get? n l := by
  induction l with
  | nil => simp [put, get?_cons]
  | cons e l ih =>
    rw [put]
    split
    · next he => by_cases h : m = n <;> simp [get?_cons, he, h]
    · next he =>
      rw [get?_cons, get?_cons, ih]
      split
      · next hn =>
        have h : m ≠ n := fun h => he (hn.trans h.symm)
        rw [if_neg h]
      · rfl

theorem get?_map {f : String → β → β} :
    get? n (l.map fun e => (e.1, f e.1 e.2)) = (get? n l).map (f n) := by
  induction l with
  | nil => rfl
  | cons e l ih =>
    rw [List.map_cons, get?_cons, get?_cons, ih]
    split
    · next h => rw [h, Option.map_some]
    · rfl

theorem get?_modify {f : β → β} : get? n (modify m f l) = (get? n l).map fun v => if n = m then f v else v := by
  induction l with
  | nil => rfl
  | cons e l ih =>
    rw [modify]
    split
    · next he => by_cases h : m = n <;> simp [get?_cons, he, h, @eq_comm _ n]
    · next he =>
      rw [get?_cons, get?_cons, ih]
      split
      · next hn =>
        have h : n ≠ m := fun h => he (hn.trans h)
        rw [Option.map_some, if_neg h]
      · rfl

theorem modify_of_absent {f : β → β} (h : m ∉ names l) : modify m f l = l := by
  induction l with
  | nil => rfl
  | cons e l ih =>
    obtain ⟨he, hl⟩ : m ≠ e.1 ∧ m ∉ names l := by simpa [names] using h
    rw [modify, if_neg (Ne.symm he), ih hl]

/-- With distinct names, the change of one value is a change of all values that leaves the others as they are. -/
theorem modify_eq_map {f : β → β} (hl : Keyed l) :
    modify m f l = l.map fun e => (e.1, if e.1 = m then f e.2 else e.2) := by
  induction l with
  | nil => rfl
  | cons e l ih =>
    obtain ⟨he, hl⟩ := List.nodup_cons.mp hl
    rw [modify, List.map_cons]
    split
    · next hm =>
      have hrest : modify m f l = l := modify_of_absent (hm ▸ he)
      rw [← ih hl, hrest, hm]
    · rw [ih hl]

theorem modify_modify {f g : β → β} : modify n g (modify n f l) = modify n (fun v => g (f v)) l := by
  induction l with
  | nil => rfl
  | cons e l ih =>
    by_cases he : e.1 = n
    · simp [modify, he]
    · simp [modify, he, ih]

/-- Changes that commute can be made in any order, under the same name or under two. -/
theorem modify_comm {f g : β → β} (h : ∀ v, g (f v) = f (g v)) : modify m g (modify n f l) = modify n f (modify m g l) := by
  induction l with
  | nil => rfl
  | cons e l ih =>
    by_cases hn : e.1 = n
    · by_cases hm : n = m <;> simp [modify, hn, hm, h]
    · by_cases hm : e.1 = m
      · have hmn : m ≠ n := fun hmn => hn (hm.trans hmn)
        simp [modify, hm, hmn]
      · simp [modify, hn, hm, ih]

theorem modify_congr {f g : β → β} (h : ∀ v ∈ get? n l, f v = g v) : modify n f l = modify n g l := by
  induction l with
  | nil => rfl
  | cons e l ih =>
    rw [modify, modify]
    split
    · next he =>
      have hv : f e.2 = g e.2 := h e.2 (by simp [get?_cons, he])
      rw [hv]
    · next he => rw [ih fun v hv => h v (by rw [get?_cons, if_neg he]; exact hv)]

theorem modify_id : modify n (fun v => v) l = l := by
  induction l with
  | nil => rfl
  | cons e l ih =>
    by_cases he : e.1 = n
    · simp [modify, ← he]
    · simp [modify, he, ih]

theorem modify_eq_self {f : β → β} (h : ∀ v ∈ get? n l, f v = v) : modify n f l = l := (modify_congr h).trans modify_id

theorem putNew_of_absent (h : n ∉ names l) : putNew n v l = (v, l ++ [(n, v)]) := by
  rw [putNew, get?_eq_none_iff.mpr h]

theorem put_of_absent (h : n ∉ names l) : put n v l = l ++ [(n, v)] := by
  apply put_eq_append
  rw [← Bool.not_eq_true, has_iff]
  exact h

theorem erase_of_absent (h : n ∉ names l) : erase n l = l :=
  List.filter_eq_self.mpr fun _ he => decide_eq_true fun hn => h (hn ▸ List.mem_map_of_mem he)

theorem erase_cons : erase n (e :: l) = if e.1 = n then erase n l else e :: erase n l := by
  by_cases h : e.1 = n <;> simp [erase, h]

theorem erase_modify_self {f : β → β} : erase n (modify n f l) = erase n l := by
  induction l with
  | nil => rfl
  | cons e l ih => by_cases he : e.1 = n <;> simp [modify, erase_cons, he, ih]

theorem erase_modify_of_ne {f : β → β} (h : m ≠ n) : erase n (modify m f l) = modify m f (erase n l) := by
  induction l with
  | nil => rfl
  | cons e l ih =>
    by_cases hn : e.1 = n
    · simp [modify, erase_cons, hn, Ne.symm h, ih]
    · by_cases hm : e.1 = m
      · simp [modify, erase_cons, hm, h]
      · simp [modify, erase_cons, hn, hm, ih]

theorem erase_put_self : erase n (put n v l) = erase n l := by
  induction l with
  | nil => simp [put, erase]
  | cons e l ih => by_cases he : e.1 = n <;> simp [put, erase_cons, he, ih]

theorem erase_append_self : erase n (l ++ [(n, v)]) = erase n l := by simp [erase]

theorem names_append : names (l ++ [(n, v)]) = names l ++ [n] := by simp [names]

theorem names_map {f : String → β → β} : names (l.map fun e => (e.1, f e.1 e.2)) = names l := by
  simp [names, Function.comp_def]

theorem names_modify {f : β → β} : names (modify m f l) = names l := by
  induction l with
  | nil => rfl
  | cons e l ih =>
    rw [modify]
    split
    · next he => simp [names, he]
    · exact congrArg (e.1 :: ·) ih

theorem mem_modify {f : β → β} (hl : Keyed l) :
    (n, v) ∈ modify m f l ↔ ∃ w, (n, w) ∈ l ∧ (if n = m then f w else w) = v := by
  rw [modify_eq_map hl, List.mem_map]
  constructor
  · rintro ⟨⟨k, w⟩, he, h⟩
    obtain ⟨rfl, rfl⟩ := Prod.mk.inj h
    exact ⟨w, he, rfl⟩
  · rintro ⟨w, he, rfl⟩
    exact ⟨(n, w), he, rfl⟩

theorem mem_erase : e ∈ erase n l ↔ e ∈ l ∧ e.1 ≠ n := by
  simp [erase]

theorem mem_put (h : e ∈ put n v l) : e = (n, v) ∨ e ∈ l := by
  induction l with
  | nil => simpa [put] using h
  | cons d l ih =>
    rw [put] at h
    split at h
    · exact (List.mem_cons.mp h).imp_right (List.mem_cons_of_mem _)
    · rcases List.mem_cons.mp h with rfl | h
      · exact .inr List.mem_cons_self
      · exact (ih h).imp_right (List.mem_cons_of_mem _)

theorem mem_names_put : n ∈ names (put m v l) ↔ n = m ∨ n ∈ names l := by
  cases h : has m l with
  | true =>
    rw [names_put_of_has h]
    constructor
    · exact .inr
    · rintro (rfl | hn)
      · exact has_iff.mp h
      · exact hn
  | false =>
    rw [put_eq_append h, names_append, List.mem_append, List.mem_singleton]
    exact or_comm

theorem keyed_nil : Keyed ([] : Entries β) := List.nodup_nil

theorem Keyed.sublist (hl : Keyed l) (h : k.Sublist l) : Keyed k := List.Nodup.sublist (h.map Prod.fst) hl

theorem Keyed.erase (hl : Keyed l) : Keyed (erase n l) := hl.sublist List.filter_sublist

theorem Keyed.append (hl : Keyed l) (h : n ∉ names l) : Keyed (l ++ [(n, v)]) := by
  rw [Keyed, names_append, List.nodup_append]
  refine ⟨hl, List.nodup_singleton _, ?_⟩
  rintro m hm k hk rfl
  exact h (List.mem_singleton.mp hk ▸ hm)

theorem Keyed.map {f : String → β → β} (hl : Keyed l) : Keyed (l.map fun e => (e.1, f e.1 e.2)) := by
  rw [Keyed, names_map]
  exact hl

theorem Keyed.modify {f : β → β} (hl : Keyed l) : Keyed (modify m f l) := by
  rw [Keyed, names_modify]
  exact hl

theorem Keyed.put (hl : Keyed l) : Keyed (put n v l) := by
  by_cases h : n ∈ names l
  · rw [Keyed, names_put_of_has (has_iff.mpr h)]
    exact hl
  · rw [put_of_absent h]
    exact hl.append h

theorem put_eq_self (hl : Keyed l) (h : (n, v) ∈ l) : put n v l = l := by
  induction l with
  | nil => cases h
  | cons e l ih =>
    obtain ⟨he, hl⟩ := List.nodup_cons.mp hl
    rw [put]
    rcases List.mem_cons.mp h with rfl | h
    · rw [if_pos rfl]
    · have hne : e.1 ≠ n := fun hn => he (hn ▸ mem_names_of_mem h)
      rw [if_neg hne, ih hl h]

theorem get?_foldl_put (h : n ∉ names k) : get? n (k.foldl (fun l e => put e.1 e.2 l) l) = get? n l := by
  induction k generalizing l with
  | nil => rfl
  | cons e k ih =>
    simp only [names, List.map_cons, List.mem_cons, not_or] at h
    rw [List.foldl_cons, ih h.2, get?_put, if_neg (Ne.symm h.1)]

theorem mem_foldl_put (h : e ∈ k.foldl (fun l e => put e.1 e.2 l) l) : e ∈ k ∨ e ∈ l := by
  induction k generalizing l with
  | nil => exact .inr h
  | cons d k ih =>
    rcases ih h with h | h
    · exact .inl (List.mem_cons_of_mem _ h)
    · rcases mem_put h with rfl | h
      · exact .inl List.mem_cons_self
      · exact .inr h

theorem keyed_foldl_put (h : Keyed l) : Keyed (k.foldl (fun l e => put e.1 e.2 l) l) := by
  induction k generalizing l with
  | nil => exact h
  | cons e k ih => exact ih h.put

theorem foldl_put_eq_self (hl : Keyed l) (h : ∀ e ∈ k, e ∈ l) : k.foldl (fun l e => put e.1 e.2 l) l = l := by
  induction k with
  | nil => rfl
  | cons e k ih =>
    obtain ⟨he, hk⟩ := List.forall_mem_cons.mp h
    rw [List.foldl_cons, put_eq_self hl he, ih hk]

theorem mem_names_foldl_put : n ∈ names (k.foldl (fun l e => put e.1 e.2 l) l) ↔ n ∈ names k ∨ n ∈ names l := by
  induction k generalizing l with
  | nil => simp [names]
  | cons e k ih =>
    have hnames : names (e :: k) = e.1 :: names k := rfl
    rw [List.foldl_cons, ih, mem_names_put, hnames, List.mem_cons, or_left_comm, or_assoc]

end RecordGraph.Entries
