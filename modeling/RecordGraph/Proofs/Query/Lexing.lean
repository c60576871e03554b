import RecordGraph.Proofs.Query.Value

namespace RecordGraph.Query

open Text Grammar

variable {c d : Cursor} {s s' b : List Char} {ch : Char} {n v : String} {token : Token} {l : Lexeme} {p : Position}

/-- A lexeme: a token that is no colon, or a colon with the whole value after it. -/
def Grammar.Lex : Lexeme → List Char → List Char → Prop
  | .token token, s, s' => token ≠ .colon ∧ Lexical token s s'
  | .value v, s, s' => ∃ s₁, Sign ':' s s₁ ∧ Value v s₁ s' ∧ Stops s'

theorem lex_sign (hch : Token.ofChar? ch = some token) (hne : token ≠ .colon) :
    Lex (.token token) s s' ↔ Sign ch s s' := by
  constructor
  · rintro ⟨-, ⟨ch', hch', h⟩ | ⟨w, hw, -⟩⟩
    · exact ofChar?_injective hch' hch ▸ h
    · exact absurd hw (ofChar?_ne_ofWord hch)
  · exact fun h => ⟨hne, .inl ⟨ch, hch, h⟩⟩

theorem lex_ident : Lex (.token (.name n)) s s' ↔ Ident n s s' := by
  constructor
  · rintro ⟨-, ⟨ch, hch, -⟩ | ⟨w, hw, h⟩⟩
    · unfold Token.ofChar? at hch
      split at hch <;> cases hch
    · unfold Token.ofWord at hw
      split at hw
      · cases hw
      · next hne =>
        obtain rfl := Token.name.inj hw
        exact ⟨hne, h⟩
  · rintro ⟨hne, h⟩
    refine ⟨by simp, .inr ⟨n, ?_, h⟩⟩
    rw [Token.ofWord, if_neg hne]

theorem lex_as : Lex (.token .asWord) s s' ↔ Word "as" s s' := by
  constructor
  · rintro ⟨-, ⟨ch, hch, -⟩ | ⟨w, hw, h⟩⟩
    · unfold Token.ofChar? at hch
      split at hch <;> cases hch
    · unfold Token.ofWord at hw
      split at hw
      · next he => exact he ▸ h
      · cases hw
  · exact fun h => ⟨by simp, .inr ⟨"as", rfl, h⟩⟩

theorem Grammar.Sign.blank_append (h : Sign ch s s') (hb : Blank b) : Sign ch (b ++ s) s' := by
  obtain ⟨b', hb', rfl⟩ := h
  exact ⟨b ++ b', List.forall_mem_append.mpr ⟨hb, hb'⟩, (List.append_assoc ..).symm⟩

theorem Grammar.Lex.blank_append (h : Lex l s s') (hb : Blank b) : Lex l (b ++ s) s' := by
  cases l with
  | token token =>
    obtain ⟨hne, ⟨ch, hch, hs⟩ | ⟨w, hw, b', cs, hb', rfl, hword⟩⟩ := h
    · exact ⟨hne, .inl ⟨ch, hch, hs.blank_append hb⟩⟩
    · have hbb' : Blank (b ++ b') := List.forall_mem_append.mpr ⟨hb, hb'⟩
      exact ⟨hne, .inr ⟨w, hw, b ++ b', cs, hbb', (List.append_assoc ..).symm, hword⟩⟩
  | value v =>
    obtain ⟨s₁, hs, hv⟩ := h
    exact ⟨s₁, hs.blank_append hb, hv⟩

theorem Grammar.Sign.length_lt (h : Sign ch s s') : s'.length < s.length := by
  obtain ⟨b, -, rfl⟩ := h
  rw [List.length_append, List.length_cons]
  omega

theorem Grammar.Lex.length_lt (h : Lex l s s') : s'.length < s.length := by
  cases l with
  | token token =>
    rcases h.2 with ⟨ch, -, hs⟩ | ⟨w, -, b, cs, -, rfl, -, ⟨ch, hch, -⟩, -⟩
    · exact hs.length_lt
    · obtain ⟨cs, rfl⟩ := List.head?_eq_some_iff.mp hch
      rw [List.length_append, List.length_append, List.length_cons]
      omega
  | value v =>
    obtain ⟨s₁, hc, ⟨cs, hcs, -⟩, -⟩ := h
    exact Nat.lt_of_le_of_lt hcs.length_le hc.length_lt

namespace Cursor

theorem lexemes_of_end (h : c.nextToken = (.ok (.endOfInput, p), d)) : c.lexemes = ⟨[], .complete p⟩ := by
  rw [lexemes]
  split <;> simp_all

theorem lexemes_of_token (h : c.nextToken = (.ok (token, p), d)) (he : token ≠ .endOfInput) (hc : token ≠ .colon) :
    c.lexemes = d.lexemes.cons (.token token, p) := by
  rw [lexemes]
  split <;> simp_all

theorem lexemes_of_value {e : Cursor} (h : c.nextToken = (.ok (.colon, p), d)) (hv : d.readValue = (.ok v, e)) :
    c.lexemes = e.lexemes.cons (.value v, p) := by
  rw [lexemes]
  split
  · simp_all
  · next h' =>
    rw [h] at h'
    obtain ⟨⟨rfl, rfl⟩, rfl⟩ : (Token.colon = _ ∧ p = _) ∧ d = _ := by simpa using h'
    simp only [reduceCtorEq, ↓reduceDIte, ↓reduceIte]
    split <;> simp_all

theorem lexemes_of_badCharacter {m : Misread} (h : c.nextToken = (.error m, d)) : c.lexemes = ⟨[], .badCharacter m⟩ := by
  rw [lexemes]
  split <;> simp_all

theorem lexemes_of_badValue {e : Cursor} {m : Misread} (h : c.nextToken = (.ok (.colon, p), d))
    (hv : d.readValue = (.error m, e)) : c.lexemes = ⟨[], .badValue p m⟩ := by
  rw [lexemes]
  split
  · simp_all
  · next h' =>
    rw [h] at h'
    obtain ⟨⟨rfl, rfl⟩, rfl⟩ : (Token.colon = _ ∧ p = _) ∧ d = _ := by simpa using h'
    simp only [reduceCtorEq, ↓reduceDIte, ↓reduceIte]
    split <;> simp_all

theorem lexemes_of_blank (h : Blank c.rest) : ∃ p, c.lexemes = ⟨[], .complete p⟩ := by
  obtain ⟨p, d, hd⟩ := nextToken_of_blank h
  exact ⟨p, lexemes_of_end hd⟩

/-- The lexeme that the grammar finds is the next one. -/
theorem lexemes_of_lex (h : Lex l c.rest s') :
    ∃ (p : Position) (d : Cursor), d.rest = s' ∧ c.lexemes = d.lexemes.cons (l, p) := by
  cases l with
  | token token =>
    obtain ⟨hne, h⟩ := h
    obtain ⟨p, d, hd, rfl⟩ := nextToken_of_lexical h
    exact ⟨p, d, rfl, lexemes_of_token hd (lexical_ne_endOfInput h) hne⟩
  | value v =>
    obtain ⟨s₁, hc, hv, hs⟩ := h
    have hcolon : Lexical .colon c.rest s₁ := .inl ⟨':', rfl, hc⟩
    obtain ⟨p, d, hd, rfl⟩ := nextToken_of_lexical hcolon
    obtain ⟨e, he, rfl⟩ := readValue_of_value hv hs
    exact ⟨p, e, rfl, lexemes_of_value hd he⟩

theorem lexemes_cases (c : Cursor) : (Blank c.rest ∧ ∃ p, c.lexemes = ⟨[], .complete p⟩) ∨
    (∃ (l : Lexeme) (p : Position) (d : Cursor), Lex l c.rest d.rest ∧ c.lexemes = d.lexemes.cons (l, p)) ∨
    (c.lexemes.list = [] ∧ ∀ p, c.lexemes.ending ≠ .complete p) := by
  rcases h : c.nextToken with ⟨m | ⟨token, p⟩, d⟩
  · right; right
    rw [lexemes_of_badCharacter h]
    exact ⟨rfl, by simp⟩
  rcases lexical_of_nextToken h with ⟨rfl, hb⟩ | ⟨he, hl⟩
  · exact .inl ⟨hb, p, lexemes_of_end h⟩
  by_cases hc : token = .colon
  · subst hc
    rcases hv : d.readValue with ⟨m | v, e⟩
    · right; right
      rw [lexemes_of_badValue h hv]
      exact ⟨rfl, by simp⟩
    · obtain ⟨hval, hs⟩ := value_of_readValue hv
      exact .inr (.inl ⟨.value v, p, e, ⟨d.rest, sign_of_lexical_colon hl, hval, hs⟩, lexemes_of_value h hv⟩)
  · exact .inr (.inl ⟨.token token, p, d, ⟨hc, hl⟩, lexemes_of_token h he hc⟩)

end Cursor

end RecordGraph.Query
