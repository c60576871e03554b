import RecordGraph.Settings.LogFilter

namespace RecordGraph.LogFilter

open Text

theorem part_between {first : Nat} {before : List Char} (h : Between first before) (rest : List Char) :
    ∃ cs, part (before ++ rest) first (byteSize before) = .ok cs := by
  obtain ⟨as, bs, rfl, rfl⟩ := h
  exact ⟨bs, by rw [part, slice?_append]⟩

/-- Whether the part that is read starts between two characters of those before it. -/
def Stage.Placed (before : List Char) : Stage → Prop
  | span first | field first | level first => Between first before
  | start | target | fields | afterSpan => True

/-- Whether a step of reading cuts nothing inside a character, and gives only what fulfils a condition. -/
def Sound {α : Type} (p : α → Prop) : Except Flaw α → Prop
  | .ok a => p a
  | .error e => e = .malformed

theorem Stage.next_sound {before : List Char} {s : Stage} (h : s.Placed before) (c : Char) (rest : List Char) :
    Sound (Placed (before ++ [c])) (s.next (before ++ rest) (byteSize before) c) := by
  cases s with
  | start =>
    rw [next]
    split
    · next hc => exact between_succ.mpr (by rw [hc]; rfl)
    · split
      · trivial
      · rfl
  | target =>
    obtain ⟨cs, hp⟩ := part_between (between_start before) rest
    rw [next, hp]
    split
    · next hc => exact between_succ.mpr (by rw [hc]; rfl)
    · split
      · next hc => exact between_succ.mpr (by rw [hc]; rfl)
      · trivial
  | span first =>
    obtain ⟨cs, hp⟩ := part_between h rest
    rw [next, hp]
    split
    · trivial
    · split
      · next hc => exact between_succ.mpr (by rw [hc]; rfl)
      · exact between_append h [c]
  | field first =>
    obtain ⟨cs, hp⟩ := part_between h rest
    rw [next, hp]
    split
    · change Sound _ (if isField cs then _ else _)
      split
      · trivial
      · rfl
    · exact between_append h [c]
  | fields =>
    rw [next]
    split
    · trivial
    · rfl
  | afterSpan =>
    rw [next]
    split
    · next hc => exact between_succ.mpr (by rw [hc]; rfl)
    · rfl
  | level first => exact between_append h [c]

theorem Stage.finish_sound {before : List Char} {s : Stage} (h : s.Placed before) (rest : List Char) :
    Sound (fun _ => True) (s.finish (before ++ rest)) := by
  cases s with
  | level first =>
    obtain ⟨cs, hp⟩ := part_between (between_append h rest) []
    rw [List.append_nil] at hp
    rw [finish, hp]
    change Sound _ (if isLevel cs then _ else _)
    split
    · trivial
    · rfl
  | target | afterSpan => trivial
  | start | span _ | field _ | fields => rfl

theorem readOn_sound {before : List Char} {s : Stage} (h : s.Placed before) (cs rest : List Char) :
    Sound (fun _ => True) (readOn (before ++ (cs ++ rest)) (byteSize before) s cs) := by
  induction cs generalizing before s with
  | nil => exact Stage.finish_sound h rest
  | cons c cs ih =>
    have step := Stage.next_sound h c (c :: cs ++ rest)
    rw [readOn]
    cases e : s.next (before ++ (c :: cs ++ rest)) (byteSize before) c with
    | error f =>
      rw [e] at step
      exact step
    | ok t =>
      rw [e] at step
      have later := ih step
      rw [byteSize_append, byteSize_singleton, List.append_assoc] at later
      exact later

/-- A directive without a blank before it has its cuts between characters. -/
theorem readDirective_ne_insideCharacter {directive : List Char} (h : trimStart directive = directive) :
    readDirective directive ≠ .error .insideCharacter := by
  obtain ⟨rest, hr⟩ := trimEnd_prefix directive
  have sound := readOn_sound (show Stage.Placed [] .start from trivial) (trimEnd directive) rest
  rw [List.nil_append, hr] at sound
  rw [readDirective, trim, h]
  intro e
  change Sound _ (readOn directive 0 .start (trimEnd directive)) at sound
  rw [e] at sound
  cases sound

end RecordGraph.LogFilter
