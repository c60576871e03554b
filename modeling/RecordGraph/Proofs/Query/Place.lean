import RecordGraph.Proofs.Query.Lexing
import Mathlib.Data.List.Induction

namespace RecordGraph.Query

open Text Grammar

theorem Position.advance_start (cs : List Char) : start.advance cs =
    ⟨cs.length, 1 + cs.count '\n', 1 + (cs.reverse.takeWhile (· ≠ '\n')).length⟩ := by
  induction cs using List.reverseRecOn with
  | nil => rfl
  | append_singleton cs c ih =>
    rw [advance_append, ih, advance_cons, advance_nil, next]
    split
    · next hc =>
      subst hc
      simp
      omega
    · next hc =>
      simp [hc]
      omega

namespace Cursor

variable {b c d e : Cursor} {x y s : List Char} {p : Position} {m : Misread}

/-- Whether some characters lead from one cursor to another. -/
def Passes (c : Cursor) (x : List Char) (d : Cursor) : Prop := c.rest = x ++ d.rest ∧ d.position = c.position.advance x

theorem Passes.trans (h : c.Passes x d) (h' : d.Passes y e) : c.Passes (x ++ y) e := by
  refine ⟨?_, ?_⟩
  · rw [h.1, h'.1, List.append_assoc]
  · rw [h'.2, h.2, Position.advance_append]

theorem passes_skip (c : Cursor) (q : Char → Bool) : c.Passes (c.rest.takeWhile q) (c.skip q) :=
  ⟨List.takeWhile_append_dropWhile.symm, rfl⟩

theorem passes_nextToken (c : Cursor) : ∃ x, c.Passes x c.nextToken.2 := by
  have hskip := c.passes_skip isBlank
  rcases c.nextToken_cases with ⟨-, hnext⟩ | ⟨ch, s, -, -, hnext⟩ | ⟨ch, s, token, hrest, -, hnext⟩ | ⟨ch, s, -, hnext⟩ <;>
    rw [hnext]
  · exact ⟨_, hskip⟩
  · exact ⟨_, hskip.trans (passes_skip _ continuesWord)⟩
  · exact ⟨_, hskip.trans (y := [ch]) ⟨hrest, rfl⟩⟩
  · exact ⟨_, hskip⟩

theorem place_of_nextToken (c : Cursor) : (∃ token, c.nextToken.1 = .ok (token, (c.skip isBlank).position)) ∨
    ∃ m, c.nextToken.1 = .error m ∧ m.position = (c.skip isBlank).position := by
  rcases c.nextToken_cases with ⟨-, hnext⟩ | ⟨ch, s, -, -, hnext⟩ | ⟨ch, s, token, -, -, hnext⟩ | ⟨ch, s, -, hnext⟩ <;>
    rw [hnext]
  · exact .inl ⟨_, rfl⟩
  · exact .inl ⟨_, rfl⟩
  · exact .inl ⟨_, rfl⟩
  · exact .inr ⟨_, rfl, rfl⟩

theorem passes_valueChars (p : Position) (s : List Char) : ∃ x, (⟨s, p⟩ : Cursor).Passes x (valueChars p s).2 := by
  fun_induction valueChars p s with
  | case1 p => exact ⟨[], rfl, rfl⟩
  | case2 p => exact ⟨['\\'], rfl, rfl⟩
  | case3 p ch s more d hmore ih =>
    obtain ⟨x, hx⟩ := ih
    rw [hmore] at hx
    exact ⟨'\\' :: ch :: x, congrArg _ (congrArg _ hx.1), hx.2⟩
  | case4 p ch s _ _ _ => exact ⟨[], rfl, rfl⟩
  | case5 p ch s _ _ _ more d hmore ih =>
    obtain ⟨x, hx⟩ := ih
    rw [hmore] at hx
    exact ⟨ch :: x, congrArg _ hx.1, hx.2⟩

theorem passes_readValue (c : Cursor) : ∃ x, c.Passes x c.readValue.2 := by
  obtain ⟨x, hx⟩ := passes_valueChars (c.skip isBlank).position (c.skip isBlank).rest
  exact ⟨_, (c.passes_skip isBlank).trans hx⟩

/-- A value breaks off at a backslash that nothing follows, which is read too. Up to there it can be read. -/
theorem run_of_valueChars_error (h : valueChars p s = (.error m, d)) :
    ∃ cs u, s = u ++ ['\\'] ∧ m.position = p.advance u ∧ d.rest = [] ∧ ∀ s', Run cs (u ++ s') s' := by
  fun_induction valueChars p s generalizing m d with
  | case1 p => cases h
  | case2 p =>
    obtain ⟨hm, rfl⟩ := Prod.mk.inj h
    exact ⟨[], [], rfl, congrArg Misread.position (Except.error.inj hm).symm, rfl, .nil⟩
  | case3 p ch s more e hmore ih =>
    cases more with
    | ok cs => cases h
    | error m' =>
      cases h
      obtain ⟨cs, u, rfl, hp, hd, hrun⟩ := ih hmore
      exact ⟨(ch, true) :: cs, '\\' :: ch :: u, rfl, hp, hd, fun s' => .escaped ch (hrun s')⟩
  | case4 p ch s _ _ _ => cases h
  | case5 p ch s hch hne hs more e hmore ih =>
    cases more with
    | ok cs => cases h
    | error m' =>
      cases h
      obtain ⟨cs, u, rfl, hp, hd, hrun⟩ := ih hmore
      have hb : ch ≠ '\\' := by
        rintro rfl
        cases u with
        | nil => exact hne '\\' [] rfl rfl
        | cons c' u => exact hne c' (u ++ ['\\']) rfl rfl
      exact ⟨(ch, false) :: cs, ch :: u, rfl, hp, hd, fun s' => .plain hb (by simpa using hs) (hrun s')⟩

theorem valueChars_of_readValue_error (h : c.readValue = (.error m, d)) :
    valueChars (c.skip isBlank).position (c.skip isBlank).rest = (.error m, d) := by
  obtain ⟨hv, hd⟩ := Prod.mk.inj h
  refine Prod.ext ?_ hd
  dsimp only at hv ⊢
  generalize (valueChars (c.skip isBlank).position (c.skip isBlank).rest).1 = x at hv ⊢
  cases x with
  | ok cs => cases hv
  | error m' =>
    cases hv
    rfl

theorem value_of_readValue_error (h : c.readValue = (.error m, d)) :
    ∃ v u, c.rest = u ++ ['\\'] ∧ m.position = c.position.advance u ∧ d.rest = [] ∧ ∀ s', Value v (u ++ s') s' := by
  obtain ⟨hrest, hplace⟩ := c.passes_skip isBlank
  have hb : Blank (c.rest.takeWhile isBlank) := fun _ h => List.mem_takeWhile_imp h
  obtain ⟨cs, u, hu, hp, hd, hrun⟩ := run_of_valueChars_error (valueChars_of_readValue_error h)
  refine ⟨_, c.rest.takeWhile isBlank ++ u, ?_, ?_, hd, fun s' => ⟨loose (c.rest.takeWhile isBlank) ++ cs, ?_, rfl⟩⟩
  · rw [List.append_assoc, ← hu]
    exact hrest
  · rw [hp, hplace, Position.advance_append]
  · rw [List.append_assoc]
    exact (run_loose hb).append (hrun s')

/-- What comes next after a cursor, at its place behind some blanks: the end of the text, a lexeme, a character that starts
none, or a colon whose value breaks off. -/
inductive Ahead (c : Cursor) : Lexemes → Prop
  | ends (hb : Blank c.rest) : Ahead c ⟨[], .complete (c.position.advance c.rest)⟩
  | lexeme {b z : List Char} {l : Lexeme} {d : Cursor} (hb : Blank b) (hs : b <+: c.rest) (hz : c.Passes z d)
    (hl : Lex l c.rest d.rest) : Ahead c (d.lexemes.cons (l, c.position.advance b))
  | badCharacter {b : List Char} {m : Misread} (hb : Blank b) (hs : b <+: c.rest)
    (hm : m.position = c.position.advance b) : Ahead c ⟨[], .badCharacter m⟩
  | badValue {b u : List Char} {v : String} {m : Misread} (hb : Blank b) (hs : c.rest = b ++ ':' :: (u ++ ['\\']))
    (hv : ∀ s, Value v (u ++ s) s) (hm : m.position = c.position.advance (b ++ ':' :: u)) :
    Ahead c ⟨[], .badValue (c.position.advance b) m⟩

theorem ahead_of_badValue (h : c.nextToken = (.ok (.colon, (c.skip isBlank).position), d)) (hv : d.readValue = (.error m, e)) :
    c.Ahead c.lexemes := by
  obtain ⟨z, hz⟩ := c.passes_nextToken
  rw [h] at hz
  have hl : Lexical .colon c.rest d.rest := by
    rcases lexical_of_nextToken h with ⟨hend, -⟩ | ⟨-, hl⟩
    · cases hend
    · exact hl
  obtain ⟨b, hb, hs⟩ := sign_of_lexical_colon hl
  have hbefore : c.rest.takeWhile isBlank = b := by
    rw [hs]
    exact (span_append hb (by simp; decide)).1
  have hplace : (c.skip isBlank).position = c.position.advance b := congrArg c.position.advance hbefore
  -- up to the value there are the blanks and the colon
  have hcolon : z = b ++ [':'] := by
    have hz := hz.1.symm.trans hs
    rw [← List.singleton_append, ← List.append_assoc] at hz
    exact List.append_cancel_right hz
  obtain ⟨v, u, hu, hp, -, hvalue⟩ := value_of_readValue_error hv
  rw [lexemes_of_badValue h hv, hplace]
  refine .badValue hb (hu ▸ hs) hvalue ?_
  rw [hp, hz.2, hcolon, ← Position.advance_append, List.append_assoc]
  rfl

theorem ahead (c : Cursor) : c.Ahead c.lexemes := by
  have hblank : Blank (c.rest.takeWhile isBlank) := fun _ h => List.mem_takeWhile_imp h
  have hprefix : c.rest.takeWhile isBlank <+: c.rest := List.takeWhile_prefix _
  have hplace : (c.skip isBlank).position = c.position.advance (c.rest.takeWhile isBlank) := rfl
  obtain ⟨z, hz⟩ := c.passes_nextToken
  rcases c.place_of_nextToken with ⟨token, htoken⟩ | ⟨m, hm, hp⟩
  · have h : c.nextToken = (.ok (token, _), c.nextToken.2) := Prod.ext htoken rfl
    rcases lexical_of_nextToken h with ⟨rfl, hb⟩ | ⟨he, hl⟩
    · have hall : c.rest.takeWhile isBlank = c.rest := List.takeWhile_eq_self_iff.mpr hb
      rw [lexemes_of_end h, hplace, hall]
      exact .ends hb
    by_cases hc : token = .colon
    · subst hc
      rcases hv : c.nextToken.2.readValue with ⟨m | v, d⟩
      · exact ahead_of_badValue h hv
      · obtain ⟨x, hx⟩ := c.nextToken.2.passes_readValue
        rw [hv] at hx
        obtain ⟨hvalue, hstops⟩ := value_of_readValue hv
        rw [lexemes_of_value h hv]
        exact .lexeme hblank hprefix (hz.trans hx) ⟨_, sign_of_lexical_colon hl, hvalue, hstops⟩
    · rw [lexemes_of_token h he hc]
      exact .lexeme hblank hprefix hz ⟨hc, hl⟩
  · rw [lexemes_of_badCharacter (Prod.ext hm rfl : c.nextToken = (.error m, c.nextToken.2))]
    exact .badCharacter hblank hprefix (hp.trans hplace)

end Cursor

end RecordGraph.Query
