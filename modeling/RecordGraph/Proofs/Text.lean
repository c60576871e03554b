import RecordGraph.Text.Blank
import RecordGraph.Text.Letter
import Mathlib.Data.List.TakeWhile

namespace RecordGraph.Text

def blankPoints : List Nat :=
  [0x20, 0x9, 0xA, 0xB, 0xC, 0xD, 0x85, 0xA0, 0x1680, 0x2000, 0x2001, 0x2002, 0x2003, 0x2004, 0x2005, 0x2006, 0x2007,
    0x2008, 0x2009, 0x200A, 0x2028, 0x2029, 0x202F, 0x205F, 0x3000]

theorem toNat_mem_blankPoints {c : Char} (h : isBlank c = true) : c.toNat ∈ blankPoints := by
  simp only [isBlank, inRanges, wideBlanks, List.any_cons, List.any_nil, Bool.or_eq_true, Bool.and_eq_true, beq_iff_eq,
    decide_eq_true_eq, Bool.or_false] at h
  simp only [blankPoints, List.mem_cons, List.not_mem_nil, or_false]
  rcases h with (rfl | h) | h
  · exact .inl rfl
  · omega
  · omega

theorem startsWord_of_isBlank {c : Char} (h : isBlank c = true) : startsWord c = false := by
  have hpoints : ∀ n ∈ blankPoints, startsWord (Char.ofNat n) = false := by decide +kernel
  have hc := hpoints _ (toNat_mem_blankPoints h)
  rwa [Char.ofNat_toNat] at hc

theorem not_isBlank_of_startsWord {c : Char} (h : startsWord c = true) : isBlank c = false := by
  by_contra hc
  rw [startsWord_of_isBlank (by simpa using hc)] at h
  cases h

theorem not_isBlank_of_isDigit {c : Char} (h : c.isDigit = true) : isBlank c = false := by
  have hpoints : blankPoints.all (fun n => !(Char.ofNat n).isDigit) = true := by decide +kernel
  by_contra hc
  have hnone := List.all_eq_true.mp hpoints _ (toNat_mem_blankPoints (by simpa using hc))
  rw [Char.ofNat_toNat, h] at hnone
  cases hnone

/-- The longest run of a class in front of a text that does not go on with that class. -/
theorem span_append {α : Type} {p : α → Bool} {a s : List α} (ha : ∀ c ∈ a, p c = true)
    (hs : ∀ c ∈ s.head?, p c = false) :
    (a ++ s).takeWhile p = a ∧ (a ++ s).dropWhile p = s := by
  rw [List.takeWhile_append_of_pos ha, List.dropWhile_append_of_pos ha]
  cases s with
  | nil => simp
  | cons c s => simp [hs c rfl]

theorem head?_dropWhile {p : Char → Bool} {s : List Char} : ∀ c ∈ (s.dropWhile p).head?, p c = false := by
  intro c hc
  have h := List.head?_dropWhile_not p s
  rw [show (s.dropWhile p).head? = some c from hc] at h
  simpa using h

theorem trimEnd_eq (cs : List Char) : trimEnd cs = (cs.reverse.dropWhile isBlank).reverse := by
  induction cs with
  | nil => rfl
  | cons c cs ih =>
    rw [trimEnd, List.reverse_cons, List.dropWhile_append]
    cases h : cs.reverse.dropWhile isBlank with
    | nil =>
      rw [ih, h]
      cases hc : isBlank c with
      | true => simp [hc]
      | false => simp [hc]
    | cons d ds =>
      obtain ⟨x, xs, hx⟩ := List.exists_cons_of_ne_nil (l := (d :: ds).reverse) (by simp)
      rw [ih, h, hx]
      simp [← hx]

theorem head?_trim_append {b cs : List Char} {c : Char} (hb : ∀ c ∈ b, isBlank c = true) (hc : isBlank c = false) :
    (trim (b ++ c :: cs)).head? = some c := by
  have hstart : (b ++ c :: cs).dropWhile isBlank = c :: cs := (span_append hb (by simpa using hc)).2
  rw [trim, trimStart, hstart, trimEnd]
  split
  · simp [hc]
  · rfl

theorem head?_trim (cs : List Char) : ∀ c ∈ (trim cs).head?, isBlank c = false := by
  intro c hc
  obtain ⟨rest, hrest⟩ := trimEnd_prefix (trimStart cs)
  apply head?_dropWhile (s := cs)
  rw [show cs.dropWhile isBlank = trim cs ++ rest from hrest.symm, List.head?_append,
    show (trim cs).head? = some c from hc]
  rfl

theorem getLast?_trim (cs : List Char) : ∀ c ∈ (trim cs).getLast?, isBlank c = false := by
  intro c hc
  rw [trim, trimEnd_eq, List.getLast?_reverse] at hc
  exact head?_dropWhile c hc

/-- A text is what is left without the blanks at its ends, with these around it. -/
theorem trim_between (cs : List Char) :
    cs.takeWhile isBlank ++ trim cs ++ ((cs.dropWhile isBlank).reverse.takeWhile isBlank).reverse = cs := by
  have hrest : trim cs ++ ((cs.dropWhile isBlank).reverse.takeWhile isBlank).reverse = cs.dropWhile isBlank := by
    rw [trim, trimStart, trimEnd_eq, ← List.reverse_append, List.takeWhile_append_dropWhile, List.reverse_reverse]
  rw [List.append_assoc, hrest, List.takeWhile_append_dropWhile]

theorem trim_of_blank {cs : List Char} (h : ∀ c ∈ cs, isBlank c = true) : trim cs = [] := by
  rw [trim, trimStart, List.dropWhile_eq_nil_iff.mpr h]
  rfl

theorem trim_of_between {b m e : List Char} (hb : ∀ c ∈ b, isBlank c = true) (he : ∀ c ∈ e, isBlank c = true)
    (hhead : ∃ c ∈ m.head?, isBlank c = false) (hlast : ∀ c ∈ m.getLast?, isBlank c = false) :
    trim (b ++ (m ++ e)) = m := by
  obtain ⟨c, hc, hblank⟩ := hhead
  have hstart : (b ++ (m ++ e)).dropWhile isBlank = m ++ e := by
    refine (span_append hb ?_).2
    rw [List.head?_append, Option.mem_def.mp hc]
    simpa using hblank
  have hend : (e.reverse ++ m.reverse).dropWhile isBlank = m.reverse := by
    refine (span_append (fun c hc => he c (List.mem_reverse.mp hc)) ?_).2
    rwa [List.head?_reverse]
  rw [trim, trimStart, hstart, trimEnd_eq, List.reverse_append, hend, List.reverse_reverse]

end RecordGraph.Text
