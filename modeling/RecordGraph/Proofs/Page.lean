import RecordGraph.Page
import RecordGraph.Proofs.Outcome
import Mathlib.Data.List.Nodup

namespace RecordGraph

/-- What the pages are from a cursor on, each with the last id of the one before as its cursor, up to the first page that is
empty. -/
inductive Turned (shows : Option String → List Record → Prop) : Option String → List (List Record) → Prop
  | last {after : Option String} (h : shows after []) : Turned shows after []
  | next {after : Option String} {p : List Record} {r : Record} {pages : List (List Record)}
    (h : shows after (p ++ [r])) (hn : Turned shows (some r.id) pages) : Turned shows after ((p ++ [r]) :: pages)

theorem Turned.mono {shows shows' : Option String → List Record → Prop} {after : Option String}
    {pages : List (List Record)} (h : Turned shows after pages) (hs : ∀ after p, shows after p → shows' after p) :
    Turned shows' after pages := by
  induction h with
  | last h => exact .last (hs _ _ h)
  | next h _ ih => exact .next (hs _ _ h) ih

theorem Turned.flatten_ne_nil {shows : Option String → List Record → Prop} {after : Option String}
    {pages : List (List Record)} (h : Turned shows after pages) (hne : pages ≠ []) : pages.flatten ≠ [] := by
  cases h with
  | last h => exact absurd rfl hne
  | next h _ => simp

/-- Whether turning pages shows some records, each of them once and in order, on pages that are full but for the last. -/
def Turns (shows : Option String → List Record → Prop) (records : List Record) (size : Nat) : Prop :=
  ∃ pages, Turned shows none pages ∧ pages.flatten = records ∧ (∀ p ∈ pages, p.length ≤ size) ∧
    ∀ p ∈ pages.dropLast, p.length = size

variable {records shown done rest : List Record} {r : Record} {first : Option Nat} {after : Option String}
variable {limits : PageLimits} {k : Nat}

theorem refuses_page {P : Fault → Prop} (h : ∀ cursor, after = some cursor → (∀ t ∈ records, t.id ≠ cursor) →
    P (.invalidParameter "after" (.noSuchRecord cursor))) : Outcome.Refuses P (page records first after limits) := by
  unfold page
  split
  · exact Outcome.refuses_pure
  next cursor =>
  split
  · exact Outcome.refuses_pure
  next hnone =>
  apply Outcome.refuses_throw
  apply h cursor rfl
  intro t ht
  have hnone : records.findIdx? (fun r => decide (r.id = cursor)) = none := Option.map_eq_none_iff.mp hnone
  simpa using List.findIdx?_eq_none_iff.mp hnone t ht

theorem exists_start_of_page (h : page records first after limits = .ok shown) :
    ∃ start, shown = (records.drop start).take (limits.pageSize first) := by
  unfold page at h
  split at h
  · cases h
    exact ⟨0, rfl⟩
  split at h
  · next n _ =>
    cases h
    exact ⟨n, rfl⟩
  · cases h

theorem mem_of_page (h : page records first after limits = .ok shown) : ∀ t ∈ shown, t ∈ records := by
  obtain ⟨start, rfl⟩ := exists_start_of_page h
  intro t ht
  exact List.mem_of_mem_drop (List.mem_of_mem_take ht)

theorem length_page_le (h : page records first after limits = .ok shown) : shown.length ≤ limits.maxSize := by
  obtain ⟨start, rfl⟩ := exists_start_of_page h
  exact Nat.le_trans (List.length_take_le ..) (limits.pageSize_le first)

/-- With distinct ids, a cursor stands for the place after its record. -/
theorem afterCursor?_append (hd : ((done ++ r :: rest).map Record.id).Nodup) :
    afterCursor? (done ++ r :: rest) r.id = some (done.length + 1) := by
  have hfirst : done.findIdx? (fun q => decide (q.id = r.id)) = none := by
    rw [List.findIdx?_eq_none_iff]
    intro q hq
    rw [List.map_append, List.nodup_append] at hd
    have hne : q.id ≠ r.id := hd.2.2 q.id (List.mem_map_of_mem hq) r.id (by simp)
    simpa using hne
  rw [afterCursor?, List.findIdx?_append, hfirst, List.findIdx?_cons]
  simp

theorem page_after (hd : (records.map Record.id).Nodup) (hr : records = done ++ rest) :
    page records first (done.getLast?.map Record.id) limits = .ok (rest.take (limits.pageSize first)) := by
  subst hr
  cases hdone : done.getLast? with
  | none =>
    have hnil : done = [] := List.getLast?_eq_none_iff.mp hdone
    subst hnil
    rfl
  | some r =>
    obtain ⟨front, hfront⟩ := List.getLast?_eq_some_iff.mp hdone
    subst hfront
    have hassoc : front ++ [r] ++ rest = front ++ r :: rest := List.append_assoc front [r] rest
    rw [hassoc] at hd ⊢
    have hcursor := afterCursor?_append hd
    have hdrop : (front ++ r :: rest).drop (front.length + 1) = rest := by
      rw [List.drop_append]
      simp
    simp only [page, Option.map_some, hcursor]
    exact congrArg (fun l => Except.ok (l.take (limits.pageSize first))) hdrop

theorem length_of_mem_dropLast {pages : List (List Record)} (hflat : pages.flatten = rest.drop k)
    (hne : pages ≠ [] → pages.flatten ≠ []) (hfull : ∀ p ∈ pages.dropLast, p.length = k) :
    ∀ q ∈ (rest.take k :: pages).dropLast, q.length = k := by
  intro q hq
  by_cases hpages : pages = []
  · rw [hpages] at hq
    cases hq
  rw [List.dropLast_cons_of_ne_nil hpages] at hq
  rcases List.mem_cons.mp hq with hq | hq
  · have hmore : rest.drop k ≠ [] := hflat ▸ hne hpages
    rw [Ne, List.drop_eq_nil_iff] at hmore
    rw [hq, List.length_take]
    omega
  · exact hfull q hq

/-- Turning pages shows what was not shown yet, each record once and in order. All pages but the last are full. -/
theorem exists_turned (hd : (records.map Record.id).Nodup) (hr : records = done ++ rest)
    (hpos : 0 < limits.pageSize first) :
    ∃ pages, Turned (fun after p => page records first after limits = .ok p) (done.getLast?.map Record.id) pages ∧
      pages.flatten = rest ∧ (∀ p ∈ pages, p.length ≤ limits.pageSize first) ∧
      ∀ p ∈ pages.dropLast, p.length = limits.pageSize first := by
  generalize hn : rest.length = n
  induction n using Nat.strongRecOn generalizing done rest with
  | ind n ih =>
    have hpage : page records first (done.getLast?.map Record.id) limits = _ := page_after hd hr
    by_cases hrest : rest = []
    · rw [hrest, List.take_nil] at hpage
      exact ⟨[], .last hpage, by simp [hrest], by simp, by simp⟩
    -- the page ends with some record, which is where the next one goes on
    have hne : rest.take (limits.pageSize first) ≠ [] := by
      simp only [ne_eq, List.take_eq_nil_iff, hrest, or_false]
      omega
    obtain ⟨p, r, hp⟩ : ∃ p r, rest.take (limits.pageSize first) = p ++ [r] := by
      obtain ⟨p, r, hp⟩ := (List.eq_nil_or_concat _).resolve_left hne
      exact ⟨p, r, hp.trans (List.concat_eq_append ..)⟩
    have hlast : (done ++ rest.take (limits.pageSize first)).getLast? = some r := by
      rw [hp]
      simp
    have hsplit : records = (done ++ rest.take (limits.pageSize first)) ++ rest.drop (limits.pageSize first) := by
      rw [List.append_assoc, List.take_append_drop]
      exact hr
    have hpositive : 0 < rest.length := List.length_pos_iff.mpr hrest
    obtain ⟨pages, hturned, hflat, hle, hfull⟩ := ih (rest.drop (limits.pageSize first)).length
      (by rw [List.length_drop]; omega) hsplit rfl
    rw [hlast] at hturned
    rw [hp] at hpage
    refine ⟨(p ++ [r]) :: pages, .next hpage hturned, ?_, ?_, ?_⟩
    · rw [List.flatten_cons, ← hp, hflat, List.take_append_drop]
    · intro q hq
      rcases List.mem_cons.mp hq with hq | hq
      · rw [hq, ← hp]
        exact List.length_take_le ..
      · exact hle q hq
    · intro q hq
      rw [← hp] at hq
      exact length_of_mem_dropLast hflat hturned.flatten_ne_nil hfull q hq

theorem turns_of_page {shows : Option String → List Record → Prop} (hd : (records.map Record.id).Nodup)
    (hpos : 0 < limits.pageSize first) (hs : ∀ after shown, page records first after limits = .ok shown → shows after shown) :
    Turns shows records (limits.pageSize first) := by
  obtain ⟨pages, hturned, hpages⟩ := exists_turned hd (List.nil_append records).symm hpos
  exact ⟨pages, hturned.mono hs, hpages⟩

end RecordGraph
