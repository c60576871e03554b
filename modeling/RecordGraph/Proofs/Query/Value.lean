import RecordGraph.Proofs.Query.Token
import RecordGraph.Proofs.Outcome

namespace RecordGraph.Query

open Text Grammar

variable {c d : Cursor} {s s' s₁ b : List Char} {ch : Char} {v : String} {p : Position}

/-- Whether a value has to end before this text. -/
def Grammar.Stops (s : List Char) : Prop := ∀ ch ∈ s.head?, isStructural ch = true

theorem not_structural_of_blank (h : isBlank ch = true) : isStructural ch = false ∧ ch ≠ '\\' := by
  refine ⟨?_, ?_⟩
  · cases hs : isStructural ch with
    | false => rfl
    | true =>
      simp only [isStructural, Bool.or_eq_true, beq_iff_eq] at hs
      rcases hs with (((((rfl | rfl) | rfl) | rfl) | rfl) | rfl) | rfl <;> exact absurd h (by decide)
  · rintro rfl
    exact absurd h (by decide)

def loose (b : List Char) : List (Char × Bool) := b.map (·, false)

namespace Grammar

variable {cs ds : List (Char × Bool)}

theorem Run.append (h : Run cs s s₁) (h' : Run ds s₁ s') : Run (cs ++ ds) s s' := by
  induction h with
  | nil s => exact h'
  | escaped c _ ih => exact .escaped c (ih h')
  | plain hb hc _ ih => exact .plain hb hc (ih h')

theorem run_loose (hb : Blank b) : Run (loose b) (b ++ s) s := by
  induction b with
  | nil => exact .nil s
  | cons ch b ih =>
    obtain ⟨hch, hb⟩ := List.forall_mem_cons.mp hb
    obtain ⟨hs, hne⟩ := not_structural_of_blank hch
    exact .plain hne hs (ih hb)

/-- A run to a place where it has to end takes all blanks in front. -/
theorem Run.of_blank (h : Run cs (b ++ s) s') (hb : Blank b) (hs' : Stops s') : ∃ ds, cs = loose b ++ ds ∧ Run ds s s' := by
  induction b generalizing cs with
  | nil => exact ⟨cs, rfl, h⟩
  | cons ch b ih =>
    obtain ⟨hch, hb⟩ := List.forall_mem_cons.mp hb
    obtain ⟨hs, hne⟩ := not_structural_of_blank hch
    rw [List.cons_append] at h
    generalize hx : b ++ s = x at h
    cases h with
    | nil =>
      rw [hs' ch rfl] at hs
      cases hs
    | escaped => exact absurd rfl hne
    | plain _ _ h =>
      obtain ⟨ds, rfl, hds⟩ := ih (hx ▸ h) hb
      exact ⟨ds, rfl, hds⟩

theorem Run.head (h : Run cs s s') (hs : ∀ ch ∈ s.head?, isBlank ch = false) : ∀ p ∈ cs.head?, isLoose p = false := by
  intro p hp
  cases h with
  | nil => cases hp
  | escaped c _ =>
    obtain rfl := Option.some.inj hp
    rfl
  | plain _ _ _ =>
    obtain rfl := Option.some.inj hp
    exact hs _ rfl

theorem isLoose_loose (hb : Blank b) : ∀ p ∈ loose b, isLoose p = true := by
  intro p hp
  obtain ⟨ch, hch, rfl⟩ := List.mem_map.mp hp
  exact hb ch hch

theorem Run.length_le {cs : List (Char × Bool)} (h : Run cs s s') : s'.length ≤ s.length := by
  induction h with
  | nil s => exact Nat.le_refl _
  | escaped c _ ih =>
    rw [List.length_cons, List.length_cons]
    omega
  | plain _ _ _ ih =>
    rw [List.length_cons]
    omega

theorem decoded_loose_append (hb : Blank b) (hcs : ∀ p ∈ cs.head?, isLoose p = false) :
    decoded (loose b ++ cs) = Cursor.valueText cs := by
  have h : (loose b ++ cs).dropWhile isLoose = cs := (span_append (isLoose_loose hb) hcs).2
  rw [decoded, h]
  rfl

theorem decoded_append_loose (hb : Blank b) : decoded (cs ++ loose b) = decoded cs := by
  rw [decoded, decoded, List.dropWhile_append]
  split
  · next hcs =>
    have hcs : cs.dropWhile isLoose = [] := by simpa using hcs
    have hb : (loose b).dropWhile isLoose = [] := List.dropWhile_eq_nil_iff.mpr (isLoose_loose hb)
    rw [hcs, hb]
  · rw [List.reverse_append, List.dropWhile_append_of_pos]
    intro p hp
    exact isLoose_loose hb p (List.mem_reverse.mp hp)

theorem Value.append_blank (h : Value v s (b ++ s')) (hb : Blank b) : Value v s s' := by
  obtain ⟨cs, hcs, rfl⟩ := h
  exact ⟨cs ++ loose b, hcs.append (run_loose hb), (decoded_append_loose hb).symm⟩

end Grammar

namespace Cursor

variable {cs : List (Char × Bool)}

theorem valueChars_of_ne (h : ch ≠ '\\') : valueChars p (ch :: s) =
    if isStructural ch then (.ok [], ⟨ch :: s, p⟩)
    else ((valueChars (p.next ch) s).1.map ((ch, false) :: ·), (valueChars (p.next ch) s).2) := by
  rw [valueChars]
  · exact fun hch _ => h hch
  · exact fun _ _ hch _ => h hch

theorem valueChars_of_run (h : Run cs s s') (hs : Stops s') (p : Position) :
    ∃ q, valueChars p s = (.ok cs, ⟨s', q⟩) := by
  induction h generalizing p with
  | nil s =>
    cases s with
    | nil => exact ⟨p, rfl⟩
    | cons ch s =>
      have hch : isStructural ch = true := hs ch rfl
      have hne : ch ≠ '\\' := by
        rintro rfl
        exact absurd hch (by decide)
      exact ⟨p, by rw [valueChars_of_ne hne, if_pos hch]⟩
  | escaped c _ ih =>
    obtain ⟨q, hq⟩ := ih hs ((p.next '\\').next c)
    refine ⟨q, ?_⟩
    rw [valueChars, hq]
    rfl
  | @plain c _ _ _ hb hc _ ih =>
    obtain ⟨q, hq⟩ := ih hs (p.next c)
    refine ⟨q, ?_⟩
    rw [valueChars_of_ne hb, if_neg (by simp [hc]), hq]
    rfl

theorem run_of_valueChars (h : valueChars p s = (.ok cs, d)) : Run cs s d.rest ∧ Stops d.rest := by
  fun_induction valueChars p s generalizing cs d with
  | case1 p =>
    obtain ⟨hcs, rfl⟩ := Prod.mk.inj h
    obtain rfl := Except.ok.inj hcs
    exact ⟨.nil [], by simp [Stops]⟩
  | case2 p => exact absurd (Prod.mk.inj h).1 (by simp)
  | case3 p ch s more c hmore ih =>
    obtain ⟨hcs, rfl⟩ := Prod.mk.inj h
    obtain ⟨ds, rfl, rfl⟩ := Outcome.map_eq_ok.mp hcs
    obtain ⟨hds, hs⟩ := ih hmore
    exact ⟨.escaped ch hds, hs⟩
  | case4 p ch s hch hne hst =>
    obtain ⟨hcs, rfl⟩ := Prod.mk.inj h
    obtain rfl := Except.ok.inj hcs
    exact ⟨.nil _, by simpa [Stops] using hst⟩
  | case5 p ch s hch hne hst more c hmore ih =>
    obtain ⟨hcs, rfl⟩ := Prod.mk.inj h
    obtain ⟨ds, rfl, rfl⟩ := Outcome.map_eq_ok.mp hcs
    obtain ⟨hds, hs⟩ := ih hmore
    have hb : ch ≠ '\\' := by
      intro hb
      cases s with
      | nil => exact hch hb rfl
      | cons c' s => exact hne c' s hb rfl
    exact ⟨.plain hb (by simpa using hst) hds, hs⟩

/-- The value that the grammar finds is the one that is read. -/
theorem readValue_of_value (h : Value v c.rest s') (hs : Stops s') : ∃ d, c.readValue = (.ok v, d) ∧ d.rest = s' := by
  obtain ⟨cs, hcs, rfl⟩ := h
  obtain ⟨b, hb, hrest⟩ := c.exists_blank
  rw [hrest] at hcs
  obtain ⟨ds, rfl, hds⟩ := hcs.of_blank hb hs
  obtain ⟨q, hq⟩ := valueChars_of_run hds hs (c.skip isBlank).position
  refine ⟨⟨s', q⟩, ?_, rfl⟩
  rw [readValue, hq, decoded_loose_append hb (hds.head head?_dropWhile)]
  rfl

theorem value_of_readValue (h : c.readValue = (.ok v, d)) : Value v c.rest d.rest ∧ Stops d.rest := by
  obtain ⟨b, hb, hrest⟩ := c.exists_blank
  obtain ⟨hv, hd⟩ := Prod.mk.inj h
  obtain ⟨ds, hds, rfl⟩ := Outcome.map_eq_ok.mp hv
  obtain ⟨hrun, hs⟩ := run_of_valueChars (Prod.ext hds hd)
  refine ⟨⟨loose b ++ ds, ?_, (decoded_loose_append hb (hrun.head head?_dropWhile)).symm⟩, hs⟩
  rw [hrest]
  exact (run_loose hb).append hrun

end Cursor

end RecordGraph.Query
