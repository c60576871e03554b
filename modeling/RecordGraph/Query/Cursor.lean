import RecordGraph.Query.Token
import RecordGraph.Text.Blank
import RecordGraph.Text.Letter

namespace RecordGraph.Query

open Text

/-- A text partly read: the characters to come, and the place before them. -/
@[ext] structure Cursor where
  rest : List Char
  position : Position
  deriving DecidableEq, Repr

/-- Characters that end a parameter's value unless they are escaped. -/
def isStructural (c : Char) : Bool :=
  c == '{' || c == '}' || c == '(' || c == ')' || c == '[' || c == ']' || c == ','

namespace Cursor

def ofText (text : String) : Cursor := ⟨text.toList, .start⟩

def skip (p : Char → Bool) (c : Cursor) : Cursor :=
  ⟨c.rest.dropWhile p, c.position.advance (c.rest.takeWhile p)⟩

def nextToken (c : Cursor) : Except Misread (Token × Position) × Cursor :=
  let c := c.skip isBlank
  match c.rest with
  | [] => (.ok (.endOfInput, c.position), c)
  | ch :: rest =>
    if startsWord ch then
      (.ok (.ofWord (String.ofList (c.rest.takeWhile continuesWord)), c.position), c.skip continuesWord)
    else
      match Token.ofChar? ch with
      | some token => (.ok (token, c.position), ⟨rest, c.position.next ch⟩)
      | none => (.error ⟨.unexpectedCharacter ch, c.position⟩, c)

/-- The characters of a value, each with whether it was escaped; the reading stops before the first structural
character that is not escaped, or at a backslash with nothing after it. -/
def valueChars (position : Position) : List Char → Except Misread (List (Char × Bool)) × Cursor
  | [] => (.ok [], ⟨[], position⟩)
  | ['\\'] => (.error ⟨.unterminatedEscape, position⟩, ⟨[], position.next '\\'⟩)
  | '\\' :: ch :: rest =>
    let (more, c) := valueChars ((position.next '\\').next ch) rest
    (more.map ((ch, true) :: ·), c)
  | ch :: rest =>
    if isStructural ch then (.ok [], ⟨ch :: rest, position⟩)
    else
      let (more, c) := valueChars (position.next ch) rest
      (more.map ((ch, false) :: ·), c)

/-- The text of a value: its characters without the blanks at the end that were not escaped. -/
def valueText (chars : List (Char × Bool)) : String :=
  String.ofList ((chars.reverse.dropWhile fun p => !p.2 && isBlank p.1).reverse.map Prod.fst)

/-- The raw text of a value. A backslash makes the next character literal, an unescaped structural character ends the
value, and the blanks around the value that are not escaped do not belong to it. -/
def readValue (c : Cursor) : Except Misread String × Cursor :=
  let c := c.skip isBlank
  let (chars, c) := valueChars c.position c.rest
  (chars.map valueText, c)

def remaining (c : Cursor) : Nat := c.rest.length

theorem remaining_skip_le (p : Char → Bool) (c : Cursor) : (c.skip p).remaining ≤ c.remaining :=
  (List.dropWhile_suffix p).length_le

/-- Every token but the end of the input takes at least one character. -/
theorem remaining_nextToken {c d : Cursor} {token : Token} {p : Position}
    (h : c.nextToken = (.ok (token, p), d)) (he : token ≠ .endOfInput) : d.remaining < c.remaining := by
  have hle := remaining_skip_le isBlank c
  unfold nextToken at h
  generalize c.skip isBlank = b at h hle
  rcases b with ⟨_ | ⟨ch, rest⟩, q⟩
  · simp only [Prod.mk.injEq, Except.ok.injEq] at h
    exact absurd h.1.1.symm he
  · simp only at h
    split at h
    · next hs =>
      simp only [Prod.mk.injEq] at h
      rw [← h.2]
      have hc : continuesWord ch = true := continuesWord_of_startsWord hs
      have := (List.dropWhile_suffix continuesWord (l := rest)).length_le
      simp only [remaining, skip, List.dropWhile_cons, hc, if_true, List.length_cons] at hle this ⊢
      omega
    · split at h
      · simp only [Prod.mk.injEq] at h
        rw [← h.2]
        simp only [remaining, List.length_cons] at hle ⊢
        omega
      · simp at h

theorem remaining_valueChars (position : Position) (cs : List Char) :
    (valueChars position cs).2.remaining ≤ cs.length := by
  fun_induction valueChars position cs <;> simp_all [remaining] <;> omega

theorem remaining_readValue_le (c : Cursor) : c.readValue.2.remaining ≤ c.remaining :=
  Nat.le_trans (remaining_valueChars _ _) (remaining_skip_le isBlank c)

def tokens (c : Cursor) : Except Misread (List (Token × Position)) × Cursor :=
  match h : c.nextToken with
  | (.error e, d) => (.error e, d)
  | (.ok (token, p), d) =>
    if he : token = .endOfInput then (.ok [(token, p)], d)
    else
      have := remaining_nextToken h he
      let (more, d) := d.tokens
      (more.map ((token, p) :: ·), d)
termination_by c.remaining

end Cursor

end RecordGraph.Query
