import RecordGraph.Proofs.Query.Place

namespace RecordGraph.Query

open Text Grammar

variable {text : String} {u x : List Char} {c d : Cursor} {ch : Char} {token : Token} {p : Position} {m : Misread}

namespace Token

def spelling : Token → List Char
  | asWord => ['a', 's']
  | name word => word.toList
  | comma => [',']
  | colon => [':']
  | openBrace => ['{']
  | closeBrace => ['}']
  | openBracket => ['[']
  | closeBracket => [']']
  | openParen => ['(']
  | closeParen => [')']
  | endOfInput => []

def isWord : Token → Bool
  | asWord => true
  | name _ => true
  | _ => false

theorem spelling_ofWord (w : String) : (ofWord w).spelling = w.toList := by
  unfold ofWord
  split
  · next h => rw [h]; rfl
  · rfl

theorem spelling_of_char (h : ofChar? ch = some token) : token.spelling = [ch] ∧ token.isWord = false := by
  unfold ofChar? at h
  split at h <;> cases h <;> exact ⟨rfl, rfl⟩

end Token

/-- Whether a place is one of a text: its line and its column are those that the line feeds before it give. -/
structure Position.IsIn (p : Position) (text : List Char) : Prop where
  offset_le : p.offset ≤ text.length
  line_eq : p.line = 1 + (text.take p.offset).count '\n'
  column_eq : p.column = 1 + ((text.take p.offset).reverse.takeWhile (· ≠ '\n')).length

theorem Position.isIn_advance (x y : List Char) : (start.advance x).IsIn (x ++ y) := by
  rw [advance_start]
  refine ⟨?_, ?_, ?_⟩
  · rw [List.length_append]
    exact Nat.le_add_right ..
  · rw [List.take_left]
  · rw [List.take_left]

structure WholeWord (cs rest : List Char) : Prop where
  starts : ∃ ch ∈ cs.head?, startsWord ch = true
  continues : ∀ ch ∈ cs, continuesWord ch = true
  ends : ∀ ch ∈ rest.head?, continuesWord ch = false

namespace Cursor

theorem Passes.offset (h : c.Passes x d) : d.position.offset = c.position.offset + x.length := by
  rw [h.2, Position.offset_advance]

theorem Passes.offset_le (h : c.Passes x d) : c.position.offset ≤ d.position.offset := by
  rw [h.offset]
  exact Nat.le_add_right ..

theorem Passes.isIn (h : (ofText text).Passes u c) : c.position.IsIn text.toList := by
  have htext : text.toList = u ++ c.rest := h.1
  rw [htext, h.2]
  exact Position.isIn_advance u c.rest

theorem Passes.drop_offset (h : (ofText text).Passes u c) : text.toList.drop c.position.offset = c.rest := by
  have htext : text.toList = u ++ c.rest := h.1
  have hlength : c.position.offset = u.length := h.offset.trans (Nat.zero_add _)
  rw [htext, hlength, List.drop_left]

theorem Passes.extract (h : (ofText text).Passes u c) (hx : c.Passes x d) :
    text.toList.extract c.position.offset d.position.offset = x := by
  rw [List.extract_eq_take_drop, h.drop_offset, hx.offset, Nat.add_sub_cancel_left, hx.1, List.take_left]

theorem passes_of_nextToken {r : Except Misread (Token × Position)} (h : c.nextToken = (r, d)) : ∃ x, c.Passes x d := by
  obtain ⟨x, hx⟩ := c.passes_nextToken
  exact ⟨x, by rwa [h] at hx⟩

/-- A token is read from behind the blanks, and what is passed is how it is written. -/
theorem passes_spelling (h : c.nextToken = (.ok (token, p), d)) :
    (c.skip isBlank).position = p ∧ (c.skip isBlank).Passes token.spelling d ∧
      (token.isWord = true → WholeWord token.spelling d.rest) ∧ (token = .endOfInput → d.rest = []) := by
  rcases c.nextToken_cases with ⟨hrest, hnext⟩ | ⟨ch, s, hrest, hstart, hnext⟩ | ⟨ch, s, k, hrest, hch, hnext⟩ |
    ⟨ch, s, -, hnext⟩ <;> rw [hnext] at h
  · obtain ⟨⟨rfl, hp⟩, rfl⟩ : (Token.endOfInput = token ∧ _ = p) ∧ _ = d := by simpa using h
    exact ⟨hp, ⟨rfl, rfl⟩, fun hword => absurd hword Bool.false_ne_true, fun _ => hrest⟩
  · obtain ⟨⟨rfl, hp⟩, rfl⟩ : (Token.ofWord _ = token ∧ _ = p) ∧ _ = d := by simpa using h
    have hpasses := passes_skip (c.skip isBlank) continuesWord
    rw [hrest] at hpasses
    rw [Token.spelling_ofWord, String.toList_ofList]
    refine ⟨hp, hpasses, fun _ => ⟨⟨ch, ?_, hstart⟩, fun _ hch => List.mem_takeWhile_imp hch, head?_dropWhile⟩,
      fun hend => absurd hend (ofWord_ne _).1⟩
    rw [List.takeWhile_cons, if_pos (continuesWord_of_startsWord hstart)]
    rfl
  · obtain ⟨⟨rfl, hp⟩, rfl⟩ : (k = token ∧ _ = p) ∧ _ = d := by simpa using h
    obtain ⟨hspelling, hword⟩ := Token.spelling_of_char hch
    rw [hspelling, hword]
    exact ⟨hp, ⟨hrest, rfl⟩, fun h => absurd h Bool.false_ne_true, fun hend => absurd hend (ofChar?_eq_some hch).2.2⟩
  · cases h

theorem skip_of_nextToken_error (h : c.nextToken = (.error m, d)) :
    m.position = (c.skip isBlank).position ∧ d = c.skip isBlank := by
  rcases c.nextToken_cases with ⟨-, hnext⟩ | ⟨ch, s, -, -, hnext⟩ | ⟨ch, s, token, -, -, hnext⟩ | ⟨ch, s, -, hnext⟩ <;>
    rw [hnext] at h <;> cases h
  exact ⟨rfl, rfl⟩

end Cursor

/-- Whether a token stands in a text at a place and goes up to an offset, with nothing but blanks between an offset before it
and that place. A word goes on as far as it can, and the end of the input is at the end. -/
structure Stands (text : List Char) (i : Nat) (token : Token) (p : Position) (j : Nat) : Prop where
  place : p.IsIn text
  le_offset : i ≤ p.offset
  blank : Blank (text.extract i p.offset)
  offset_le : p.offset ≤ j
  le_length : j ≤ text.length
  spelled : text.extract p.offset j = token.spelling
  whole : token.isWord = true → WholeWord token.spelling (text.drop j)
  last : token = .endOfInput → j = text.length

/-- Whether tokens stand in a text one directly after the other, the end of the input as the last of them. -/
inductive StandAll (text : List Char) : Nat → List (Token × Position) → Nat → Prop
  | last {i j : Nat} {p : Position} (h : Stands text i .endOfInput p j) : StandAll text i [(.endOfInput, p)] j
  | cons {i j k : Nat} {token : Token} {p : Position} {ts : List (Token × Position)} (h : Stands text i token p j)
    (hs : StandAll text j ts k) : StandAll text i ((token, p) :: ts) k

inductive Ask
  | token
  | value
  | tokens
  deriving DecidableEq, Repr

inductive Answer
  | token (r : Except Misread (Token × Position))
  | value (r : Except Misread String)
  | tokens (r : Except Misread (List (Token × Position)))

def Cursor.ask (c : Cursor) : Ask → Answer × Cursor
  | .token => (.token c.nextToken.1, c.nextToken.2)
  | .value => (.value c.readValue.1, c.readValue.2)
  | .tokens => (.tokens c.tokens.1, c.tokens.2)

def Cursor.after (c : Cursor) (asks : List Ask) : Cursor := asks.foldl (fun c a => (c.ask a).2) c

structure Misread.IsIn (m : Misread) (text : List Char) (i j : Nat) : Prop where
  place : m.position.IsIn text
  le_offset : i ≤ m.position.offset
  offset_le : m.position.offset ≤ j

/-- Whether an answer accounts for the characters of a text between two offsets. A value takes pairs of a backslash and a
character, and characters that are neither a backslash nor structural, up to a structural one or to the end. -/
def Answer.Accounts (text : List Char) (i j : Nat) : Answer → Prop
  | .token (.ok (token, p)) => Stands text i token p j
  | .value (.ok v) => Value v (text.drop i) (text.drop j) ∧ Stops (text.drop j)
  | .tokens (.ok ts) => StandAll text i ts j
  | .token (.error m) => m.IsIn text i j
  | .value (.error m) => m.IsIn text i j
  | .tokens (.error m) => m.IsIn text i j

namespace Cursor

variable (h : (ofText text).Passes u c)
include h

theorem stands_nextToken (hd : c.nextToken = (.ok (token, p), d)) :
    Stands text.toList c.position.offset token p d.position.offset := by
  have hblank := c.passes_skip isBlank
  obtain ⟨rfl, hspelling, hwhole, hlast⟩ := passes_spelling hd
  have hskip := h.trans hblank
  have hstop := hskip.trans hspelling
  refine ⟨hskip.isIn, hblank.offset_le, ?_, hspelling.offset_le, hstop.isIn.offset_le, hskip.extract hspelling, ?_,
    fun hend => ?_⟩
  · rw [h.extract hblank]
    exact fun _ hch => List.mem_takeWhile_imp hch
  · rw [hstop.drop_offset]
    exact hwhole
  · have hrest := hstop.drop_offset
    rw [hlast hend, List.drop_eq_nil_iff] at hrest
    exact Nat.le_antisymm hstop.isIn.offset_le hrest

theorem isIn_of_nextToken_error (hd : c.nextToken = (.error m, d)) :
    m.IsIn text.toList c.position.offset d.position.offset := by
  have hblank := c.passes_skip isBlank
  obtain ⟨hm, rfl⟩ := skip_of_nextToken_error hd
  refine ⟨?_, ?_, ?_⟩
  · rw [hm]
    exact (h.trans hblank).isIn
  · rw [hm]
    exact hblank.offset_le
  · rw [hm]

theorem isIn_of_readValue_error (hd : c.readValue = (.error m, d)) :
    m.IsIn text.toList c.position.offset d.position.offset := by
  obtain ⟨v, y, hrest, hm, hend, -⟩ := value_of_readValue_error hd
  have hy : c.Passes y ⟨['\\'], m.position⟩ := ⟨hrest, hm⟩
  refine ⟨(h.trans hy).isIn, hy.offset_le, ?_⟩
  -- the reading has passed the backslash too, since nothing is left
  obtain ⟨x, hx⟩ := c.passes_readValue
  rw [hd] at hx
  have hall : x = y ++ ['\\'] := by rw [← hrest, hx.1, hend, List.append_nil]
  rw [hx.offset, hy.offset, hall, List.length_append]
  omega

theorem accounts_tokens : (Answer.tokens c.tokens.1).Accounts text.toList c.position.offset c.tokens.2.position.offset := by
  fun_induction Cursor.tokens c generalizing u with
  | case1 c e d hd => exact isIn_of_nextToken_error h hd
  | case2 c p d hd => exact .last (stands_nextToken h hd)
  | case3 c token p d hd he hlt more e hmore ih =>
    obtain ⟨x, hx⟩ := passes_of_nextToken hd
    have hrest := ih (h.trans hx)
    rw [hmore] at hrest
    cases more with
    | ok ts => exact .cons (stands_nextToken h hd) hrest
    | error m => exact ⟨hrest.place, Nat.le_trans hx.offset_le hrest.le_offset, hrest.offset_le⟩

/-- Every call accounts for the characters it takes. -/
theorem accounts_ask (a : Ask) : (c.ask a).1.Accounts text.toList c.position.offset (c.ask a).2.position.offset := by
  cases a with
  | token =>
    show (Answer.token c.nextToken.1).Accounts _ _ c.nextToken.2.position.offset
    rcases hd : c.nextToken with ⟨m | ⟨token, p⟩, d⟩
    · exact isIn_of_nextToken_error h hd
    · exact stands_nextToken h hd
  | value =>
    show (Answer.value c.readValue.1).Accounts _ _ c.readValue.2.position.offset
    obtain ⟨x, hx⟩ := c.passes_readValue
    rcases hd : c.readValue with ⟨m | v, d⟩
    · exact isIn_of_readValue_error h hd
    · rw [hd] at hx
      have hvalue := value_of_readValue hd
      rwa [← h.drop_offset, ← (h.trans hx).drop_offset] at hvalue
  | tokens => exact accounts_tokens h

omit h

theorem passes_tokens (c : Cursor) : ∃ x, c.Passes x c.tokens.2 := by
  fun_induction Cursor.tokens c with
  | case1 c e d hd => exact passes_of_nextToken hd
  | case2 c p d hd => exact passes_of_nextToken hd
  | case3 c token p d hd he hlt more e hmore ih =>
    obtain ⟨x, hx⟩ := passes_of_nextToken hd
    obtain ⟨y, hy⟩ := ih
    rw [hmore] at hy
    exact ⟨x ++ y, hx.trans hy⟩

theorem passes_ask (c : Cursor) (a : Ask) : ∃ x, c.Passes x (c.ask a).2 := by
  cases a with
  | token => exact c.passes_nextToken
  | value => exact c.passes_readValue
  | tokens => exact c.passes_tokens

theorem passes_after (c : Cursor) (asks : List Ask) : ∃ x, c.Passes x (c.after asks) := by
  induction asks generalizing c with
  | nil => exact ⟨[], rfl, rfl⟩
  | cons a asks ih =>
    obtain ⟨x, hx⟩ := c.passes_ask a
    obtain ⟨y, hy⟩ := ih (c.ask a).2
    exact ⟨x ++ y, hx.trans hy⟩

theorem after_append (c : Cursor) (asks more : List Ask) : c.after (asks ++ more) = (c.after asks).after more :=
  List.foldl_append

end Cursor

/-- Whatever was asked before, failures included, a reading stands at a place of its text, with all that comes after it still
to be read, and goes back over nothing whatever is asked from there on. Every answer accounts for the characters between the
place before it and the place after it. -/
theorem asks_accounted (text : String) (asks : List Ask) :
    let c := (Cursor.ofText text).after asks
    c.position.IsIn text.toList ∧ c.rest = text.toList.drop c.position.offset ∧
      (∀ more, c.position.offset ≤ ((Cursor.ofText text).after (asks ++ more)).position.offset) ∧
      ∀ a, (c.ask a).1.Accounts text.toList c.position.offset (c.ask a).2.position.offset := by
  intro c
  obtain ⟨u, hu⟩ := (Cursor.ofText text).passes_after asks
  refine ⟨hu.isIn, hu.drop_offset.symm, fun more => ?_, Cursor.accounts_ask hu⟩
  obtain ⟨x, hx⟩ := c.passes_after more
  rw [Cursor.after_append]
  exact hx.offset_le

/-- After a character that starts no token the value goes on from it, and breaks off at the end. -/
example : ((Cursor.ofText "a\n$ b\\").after [.token, .token, .value, .token]).position = ⟨6, 2, 5⟩ := by decide +kernel

end RecordGraph.Query
