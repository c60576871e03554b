import RecordGraph.Proofs.Query.Value

namespace RecordGraph.Query

open Text Grammar

/-- Whether a character stands for itself only after a backslash. -/
def isSpecial (c : Char) : Bool := isStructural c || c == '\\'

def spelled (cs : List (Char × Bool)) : List Char := cs.flatMap fun p => if p.2 then ['\\', p.1] else [p.1]

def marked (cs : List Char) : List (Char × Bool) := cs.map fun c => (c, isSpecial c)

/-- A value as it is written with a backslash in front of every special character. -/
def escaped (v : String) : List Char := spelled (marked v.toList)

def guarded (cs : List Char) : List (Char × Bool) :=
  (cs.takeWhile isBlank).map (·, true) ++ marked (trim cs) ++
    (((cs.dropWhile isBlank).reverse.takeWhile isBlank).reverse).map (·, true)

/-- A value as it is written with a backslash in front of every special character and of every blank at its ends. -/
def quoted (v : String) : List Char := spelled (guarded v.toList)

variable {cs ds : List (Char × Bool)} {s s' b : List Char} {v : String}

theorem run_spelled (h : ∀ p ∈ cs, p.2 = false → isSpecial p.1 = false) : Run cs (spelled cs ++ s) s := by
  induction cs with
  | nil => exact .nil s
  | cons p cs ih =>
    obtain ⟨c, e⟩ := p
    obtain ⟨hp, hcs⟩ := List.forall_mem_cons.mp h
    cases e with
    | true => exact .escaped c (ih hcs)
    | false =>
      have hc : isSpecial c = false := hp rfl
      simp only [isSpecial, Bool.or_eq_false_iff, beq_eq_false_iff_ne] at hc
      exact .plain hc.2 hc.1 (ih hcs)

theorem special_of_marked (cs : List Char) : ∀ p ∈ marked cs, p.2 = false → isSpecial p.1 = false := by
  intro p hp hfalse
  obtain ⟨c, -, rfl⟩ := List.mem_map.mp hp
  exact hfalse

theorem special_of_guarded (cs : List Char) : ∀ p ∈ guarded cs, p.2 = false → isSpecial p.1 = false := by
  intro p hp hfalse
  rcases List.mem_append.mp hp with hp | hp
  · rcases List.mem_append.mp hp with hp | hp
    · obtain ⟨c, -, rfl⟩ := List.mem_map.mp hp
      cases hfalse
    · exact special_of_marked (trim cs) p hp hfalse
  · obtain ⟨c, -, rfl⟩ := List.mem_map.mp hp
    cases hfalse

/-- Blanks do not need a backslash to stand for themselves. -/
theorem isLoose_marked (c : Char) : isLoose (c, isSpecial c) = isBlank c := by
  cases hb : isBlank c with
  | false => simp [isLoose, hb]
  | true =>
    obtain ⟨hs, hne⟩ := not_structural_of_blank hb
    simp [isLoose, isSpecial, hb, hs, hne]

theorem decoded_marked (cs : List Char) : decoded (marked cs) = String.ofList (trim cs) := by
  have hloose : isLoose ∘ (fun c => (c, isSpecial c)) = isBlank := funext isLoose_marked
  have hfst : Prod.fst ∘ (fun c => (c, isSpecial c)) = id := rfl
  rw [decoded, marked, List.dropWhile_map, hloose, ← List.map_reverse, List.dropWhile_map, hloose, ← List.map_reverse,
    List.map_map, hfst, List.map_id, trim, trimStart, trimEnd_eq]

/-- Whether neither end of a run is loose. -/
structure Firm (cs : List (Char × Bool)) : Prop where
  head : ∀ p ∈ cs.head?, isLoose p = false
  last : ∀ p ∈ cs.getLast?, isLoose p = false

theorem Firm.append (h : Firm cs) (h' : Firm ds) : Firm (cs ++ ds) where
  head := by
    intro p hp
    rw [List.head?_append] at hp
    rcases Option.or_eq_some_iff.mp hp with hp | ⟨-, hp⟩
    · exact h.head p hp
    · exact h'.head p hp
  last := by
    intro p hp
    rw [List.getLast?_append] at hp
    rcases Option.or_eq_some_iff.mp hp with hp | ⟨-, hp⟩
    · exact h'.last p hp
    · exact h.last p hp

theorem firm_map (cs : List Char) : Firm (cs.map (·, true)) := by
  have hall : ∀ p ∈ cs.map (·, true), isLoose p = false := by
    intro p hp
    obtain ⟨c, -, rfl⟩ := List.mem_map.mp hp
    rfl
  exact ⟨fun p hp => hall p (List.mem_of_mem_head? hp), fun p hp => hall p (List.mem_of_mem_getLast? hp)⟩

theorem firm_marked_trim (cs : List Char) : Firm (marked (trim cs)) where
  head := by
    intro p hp
    rw [marked, List.head?_map] at hp
    obtain ⟨c, hc, rfl⟩ := Option.map_eq_some_iff.mp hp
    exact (isLoose_marked c).trans (head?_trim cs c hc)
  last := by
    intro p hp
    rw [marked, List.getLast?_map] at hp
    obtain ⟨c, hc, rfl⟩ := Option.map_eq_some_iff.mp hp
    exact (isLoose_marked c).trans (getLast?_trim cs c hc)

theorem Firm.decoded_eq (h : Firm cs) : decoded cs = String.ofList (cs.map Prod.fst) := by
  have hfirst : cs.dropWhile isLoose = cs := (span_append (a := []) (by simp) h.head).2
  have hlast : ∀ p ∈ cs.reverse.head?, isLoose p = false := by
    rw [List.head?_reverse]
    exact h.last
  have hsecond : cs.reverse.dropWhile isLoose = cs.reverse := (span_append (a := []) (by simp) hlast).2
  rw [decoded, hfirst, hsecond, List.reverse_reverse]

theorem decoded_guarded (cs : List Char) : decoded (guarded cs) = String.ofList cs := by
  have hfirm : Firm (guarded cs) := ((firm_map _).append (firm_marked_trim cs)).append (firm_map _)
  have hmap : (guarded cs).map Prod.fst = cs := by
    simp only [guarded, marked, List.map_append, List.map_map, Function.comp_def, List.map_id']
    exact trim_between cs
  rw [hfirm.decoded_eq, hmap]

theorem value_escaped (v : String) (s : List Char) : Value (String.ofList (trim v.toList)) (escaped v ++ s) s :=
  ⟨marked v.toList, run_spelled (special_of_marked _), (decoded_marked _).symm⟩

theorem value_quoted (v : String) (s : List Char) : Value v (quoted v ++ s) s := by
  refine ⟨guarded v.toList, run_spelled (special_of_guarded _), ?_⟩
  rw [decoded_guarded, String.ofList_toList]

theorem Grammar.Value.blank_append (h : Value v s s') (hb : Blank b) : Value v (b ++ s) s' := by
  obtain ⟨cs, hcs, rfl⟩ := h
  refine ⟨loose b ++ cs, (run_loose hb).append hcs, ?_⟩
  rw [decoded, decoded, List.dropWhile_append_of_pos (isLoose_loose hb)]

end RecordGraph.Query
