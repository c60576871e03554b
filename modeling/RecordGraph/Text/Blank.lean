import RecordGraph.Text.Range

namespace RecordGraph.Text

def wideBlanks : List (Nat × Nat) := [
  (0x85, 0x85), (0xA0, 0xA0), (0x1680, 0x1680), (0x2000, 0x200A), (0x2028, 0x2029),
  (0x202F, 0x202F), (0x205F, 0x205F), (0x3000, 0x3000)]

def isBlank (c : Char) : Bool :=
  c == ' ' || (0x9 ≤ c.toNat && c.toNat ≤ 0xD) || inRanges wideBlanks c

def trimStart (cs : List Char) : List Char := cs.dropWhile isBlank

def trimEnd : List Char → List Char
  | [] => []
  | c :: cs =>
    match trimEnd cs with
    | [] => if isBlank c then [] else [c]
    | d :: ds => c :: d :: ds

def trim (cs : List Char) : List Char := trimEnd (trimStart cs)

theorem trimEnd_prefix (cs : List Char) : ∃ rest, trimEnd cs ++ rest = cs := by
  induction cs with
  | nil => exact ⟨[], rfl⟩
  | cons c cs ih =>
    obtain ⟨rest, h⟩ := ih
    rw [trimEnd]
    split <;> rename_i e
    · split
      · exact ⟨c :: cs, rfl⟩
      · exact ⟨cs, rfl⟩
    · exact ⟨rest, by simpa [e] using h⟩

end RecordGraph.Text
