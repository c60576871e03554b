namespace RecordGraph.Text

def byteSize (cs : List Char) : Nat := cs.foldr (fun c n => c.utf8Size + n) 0

/-- Takes some bytes off a text. There is no result if a character would have to be split. -/
def dropBytes? : Nat → List Char → Option (List Char)
  | 0, cs => some cs
  | _ + 1, [] => none
  | n + 1, c :: cs => if c.utf8Size ≤ n + 1 then dropBytes? (n + 1 - c.utf8Size) cs else none

def takeBytes? : Nat → List Char → Option (List Char)
  | 0, _ => some []
  | _ + 1, [] => none
  | n + 1, c :: cs => if c.utf8Size ≤ n + 1 then (takeBytes? (n + 1 - c.utf8Size) cs).map (c :: ·) else none

/-- The part of a text between two positions. -/
def slice? (first last : Nat) (cs : List Char) : Option (List Char) :=
  (dropBytes? first cs).bind (takeBytes? (last - first))

/-- Whether a position lies between two characters of a text, or at its ends. -/
def Between (position : Nat) (cs : List Char) : Prop := ∃ as bs, cs = as ++ bs ∧ position = byteSize as

theorem byteSize_append (as bs : List Char) : byteSize (as ++ bs) = byteSize as + byteSize bs := by
  induction as with
  | nil => simp [byteSize]
  | cons c as ih => simp only [byteSize, List.cons_append, List.foldr_cons] at ih ⊢; omega

theorem byteSize_singleton (c : Char) : byteSize [c] = c.utf8Size := rfl

theorem byteSize_cons (c : Char) (cs : List Char) :
    byteSize (c :: cs) = c.utf8Size - 1 + byteSize cs + 1 := by
  have := c.utf8Size_pos
  simp only [byteSize, List.foldr_cons]
  omega

theorem dropBytes?_append (as bs : List Char) : dropBytes? (byteSize as) (as ++ bs) = some bs := by
  induction as with
  | nil => cases bs <;> rfl
  | cons c as ih =>
    have := c.utf8Size_pos
    have rest : c.utf8Size - 1 + byteSize as + 1 - c.utf8Size = byteSize as := by omega
    rw [byteSize_cons, List.cons_append, dropBytes?, if_pos (by omega), rest, ih]

theorem takeBytes?_append (as bs : List Char) : takeBytes? (byteSize as) (as ++ bs) = some as := by
  induction as with
  | nil => cases bs <;> rfl
  | cons c as ih =>
    have := c.utf8Size_pos
    have rest : c.utf8Size - 1 + byteSize as + 1 - c.utf8Size = byteSize as := by omega
    rw [byteSize_cons, List.cons_append, takeBytes?, if_pos (by omega), rest, ih, Option.map_some]

theorem slice?_append (as bs cs : List Char) :
    slice? (byteSize as) (byteSize (as ++ bs)) (as ++ bs ++ cs) = some bs := by
  simp [slice?, dropBytes?_append, byteSize_append, takeBytes?_append]

theorem between_start (cs : List Char) : Between 0 cs := ⟨[], cs, rfl, rfl⟩

theorem between_append {position : Nat} {as : List Char} (h : Between position as) (bs : List Char) :
    Between position (as ++ bs) := by
  obtain ⟨cs, ds, rfl, rfl⟩ := h
  exact ⟨cs, ds ++ bs, List.append_assoc .., rfl⟩

/-- One byte behind a place between two characters is another one exactly if the character there takes one byte. -/
theorem between_succ {as bs : List Char} {c : Char} : Between (byteSize as + 1) (as ++ c :: bs) ↔ c.utf8Size = 1 := by
  have hpos := c.utf8Size_pos
  constructor
  · rintro ⟨xs, ys, h, hsize⟩
    -- the text up to that position is longer than the text before the character, so it holds that character
    rcases List.append_eq_append_iff.mp h with ⟨zs, rfl, hz⟩ | ⟨zs, rfl, -⟩
    · cases zs with
      | nil =>
        rw [List.append_nil] at hsize
        omega
      | cons d zs =>
        obtain ⟨rfl, -⟩ := List.cons.inj hz
        rw [byteSize_append, byteSize_cons] at hsize
        omega
    · rw [byteSize_append] at hsize
      omega
  · intro h
    refine ⟨as ++ [c], bs, List.append_cons as c bs, ?_⟩
    rw [byteSize_append, byteSize_singleton, h]

theorem dropBytes?_eq_some {position : Nat} {cs bs : List Char} :
    dropBytes? position cs = some bs ↔ ∃ as, cs = as ++ bs ∧ position = byteSize as := by
  constructor
  · intro h
    fun_induction dropBytes? position cs with
    | case1 cs => exact ⟨[], Option.some.inj h, rfl⟩
    | case2 n => cases h
    | case3 n c cs hle ih =>
      obtain ⟨as, rfl, has⟩ := ih h
      refine ⟨c :: as, rfl, ?_⟩
      have hpos := c.utf8Size_pos
      rw [byteSize_cons, ← has]
      omega
    | case4 n c cs hle => cases h
  · rintro ⟨as, rfl, rfl⟩
    exact dropBytes?_append as bs

theorem dropBytes?_isSome_iff {position : Nat} {cs : List Char} :
    (dropBytes? position cs).isSome ↔ Between position cs := by
  rw [Option.isSome_iff_exists]
  constructor
  · rintro ⟨bs, h⟩
    obtain ⟨as, has⟩ := dropBytes?_eq_some.mp h
    exact ⟨as, bs, has⟩
  · rintro ⟨as, bs, has⟩
    exact ⟨bs, dropBytes?_eq_some.mpr ⟨as, has⟩⟩

instance (position : Nat) (cs : List Char) : Decidable (Between position cs) := decidable_of_iff _ dropBytes?_isSome_iff

end RecordGraph.Text
