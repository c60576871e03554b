namespace RecordGraph

/-- Values under names, in the order in which the names were first given. With distinct names this is an ordered map. -/
abbrev Entries (β : Type u) := List (String × β)

namespace Entries

variable {β : Type u}

def names (l : Entries β) : List String := l.map Prod.fst

def values (l : Entries β) : List β := l.map Prod.snd

def get? (n : String) (l : Entries β) : Option β := (l.find? fun e => e.1 = n).map Prod.snd

def has (n : String) (l : Entries β) : Bool := l.any fun e => e.1 = n

/-- Gives the name `n` the value `v`: in its place if the name is there, and at the end otherwise. -/
def put (n : String) (v : β) : Entries β → Entries β
  | [] => [(n, v)]
  | e :: l => if e.1 = n then (n, v) :: l else e :: put n v l

/-- Gives the name `n` the value `v` unless it has one; the value that it has then is given back. -/
def putNew (n : String) (v : β) (l : Entries β) : β × Entries β :=
  match get? n l with
  | some w => (w, l)
  | none => (v, l ++ [(n, v)])

def erase (n : String) (l : Entries β) : Entries β := l.filter fun e => e.1 ≠ n

def modify (n : String) (f : β → β) : Entries β → Entries β
  | [] => []
  | e :: l => if e.1 = n then (n, f e.2) :: l else e :: modify n f l

/-- The map in which later values replace earlier ones of the same name. -/
def ofList (l : List (String × β)) : Entries β := l.foldl (fun m e => put e.1 e.2 m) []

theorem has_iff {n : String} {l : Entries β} : has n l = true ↔ n ∈ names l := by
  simp [has, names]

theorem get?_isSome {n : String} {l : Entries β} : (get? n l).isSome = has n l := by
  simp [get?, has, List.isSome_find?, List.any_eq]

theorem names_erase (n : String) (l : Entries β) : names (erase n l) = (names l).filter (· ≠ n) := by
  simp [names, erase, List.filter_map, Function.comp_def]

theorem get?_erase_self (n : String) (l : Entries β) : get? n (erase n l) = none := by
  simp [get?, erase]

theorem put_eq_append {n : String} {v : β} {l : Entries β} (h : has n l = false) : put n v l = l ++ [(n, v)] := by
  induction l with
  | nil => rfl
  | cons e l ih =>
    simp only [has, List.any_cons, Bool.or_eq_false_iff, decide_eq_false_iff_not] at h
    simp [put, h.1, ih h.2]

theorem names_put_of_has {n : String} {v : β} {l : Entries β} (h : has n l = true) : names (put n v l) = names l := by
  induction l with
  | nil => simp [has] at h
  | cons e l ih =>
    by_cases he : e.1 = n
    · simp [put, names, he]
    · have hl : has n l = true := by simpa [has, he] using h
      simpa [put, names, he] using ih hl

end Entries

end RecordGraph
