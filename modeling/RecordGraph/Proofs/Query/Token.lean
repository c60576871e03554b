import RecordGraph.Proofs.Query.Grammar
import RecordGraph.Proofs.Text

namespace RecordGraph.Query

open Text Grammar

variable {c d : Cursor} {s s' b : List Char} {ch : Char} {token : Token} {p : Position}

def Grammar.Lexical (token : Token) (s s' : List Char) : Prop :=
  (∃ ch, Token.ofChar? ch = some token ∧ Sign ch s s') ∨ ∃ w, token = .ofWord w ∧ Word w s s'

theorem blank_nil : Blank [] := by
  intro c hc
  cases hc

theorem blank_of_isBlank (h : isBlank ch = true) : Blank [ch] := by
  intro c hc
  rw [List.mem_singleton.mp hc]
  exact h

theorem ofChar?_eq_some (h : Token.ofChar? ch = some token) :
    isBlank ch = false ∧ startsWord ch = false ∧ token ≠ .endOfInput := by
  unfold Token.ofChar? at h
  split at h <;> cases h
  all_goals exact ⟨by decide, by decide +kernel, by decide⟩

theorem ofChar?_injective {ch' : Char} (h : Token.ofChar? ch = some token) (h' : Token.ofChar? ch' = some token) :
    ch = ch' := by
  unfold Token.ofChar? at h
  split at h <;> cases h <;> unfold Token.ofChar? at h' <;> split at h' <;> first | rfl | cases h'

theorem ofChar?_ne_ofWord {w : String} (h : Token.ofChar? ch = some token) : token ≠ .ofWord w := by
  unfold Token.ofChar? at h
  unfold Token.ofWord
  split at h <;> cases h <;> split <;> simp

theorem ofWord_ne (w : String) : Token.ofWord w ≠ .endOfInput ∧ Token.ofWord w ≠ .colon := by
  unfold Token.ofWord
  split <;> exact ⟨by simp, by simp⟩

theorem sign_of_lexical_colon (h : Lexical .colon s s') : Sign ':' s s' := by
  rcases h with ⟨ch, hch, hs⟩ | ⟨w, hw, -⟩
  · exact ofChar?_injective hch (show Token.ofChar? ':' = some .colon from rfl) ▸ hs
  · exact absurd hw.symm (ofWord_ne w).2

theorem Cursor.skip_blank (hb : Blank b) (hs : c.rest = b ++ s) (hn : ∀ ch ∈ s.head?, isBlank ch = false) :
    (c.skip isBlank).rest = s := by
  show c.rest.dropWhile isBlank = s
  rw [hs]
  exact (span_append hb hn).2

theorem Cursor.exists_blank (c : Cursor) : ∃ b, Blank b ∧ c.rest = b ++ (c.skip isBlank).rest :=
  ⟨c.rest.takeWhile isBlank, fun _ h => List.mem_takeWhile_imp h, List.takeWhile_append_dropWhile.symm⟩

theorem Cursor.nextToken_of_nil (h : (c.skip isBlank).rest = []) :
    c.nextToken = (.ok (.endOfInput, (c.skip isBlank).position), c.skip isBlank) := by
  simp only [nextToken, h]

theorem Cursor.nextToken_of_word (h : (c.skip isBlank).rest = ch :: s) (hw : startsWord ch = true) :
    c.nextToken = (.ok (.ofWord (String.ofList ((ch :: s).takeWhile continuesWord)), (c.skip isBlank).position),
      (c.skip isBlank).skip continuesWord) := by
  simp [nextToken, h, hw]

theorem Cursor.nextToken_of_char (h : (c.skip isBlank).rest = ch :: s) (hw : startsWord ch = false)
    (hch : Token.ofChar? ch = some token) :
    c.nextToken = (.ok (token, (c.skip isBlank).position), ⟨s, (c.skip isBlank).position.next ch⟩) := by
  simp [nextToken, h, hw, hch]

theorem Cursor.nextToken_of_neither (h : (c.skip isBlank).rest = ch :: s) (hw : startsWord ch = false)
    (hch : Token.ofChar? ch = none) :
    c.nextToken = (.error ⟨.unexpectedCharacter ch, (c.skip isBlank).position⟩, c.skip isBlank) := by
  simp [nextToken, h, hw, hch]

/-- Behind the blanks there is nothing, a word, a single character that is a token, or one that starts none. -/
theorem Cursor.nextToken_cases (c : Cursor) :
    ((c.skip isBlank).rest = [] ∧ c.nextToken = (.ok (.endOfInput, (c.skip isBlank).position), c.skip isBlank)) ∨
    (∃ ch s, (c.skip isBlank).rest = ch :: s ∧ startsWord ch = true ∧
      c.nextToken = (.ok (.ofWord (String.ofList ((ch :: s).takeWhile continuesWord)), (c.skip isBlank).position),
        (c.skip isBlank).skip continuesWord)) ∨
    (∃ ch s token, (c.skip isBlank).rest = ch :: s ∧ Token.ofChar? ch = some token ∧
      c.nextToken = (.ok (token, (c.skip isBlank).position), ⟨s, (c.skip isBlank).position.next ch⟩)) ∨
    ∃ ch s, (c.skip isBlank).rest = ch :: s ∧
      c.nextToken = (.error ⟨.unexpectedCharacter ch, (c.skip isBlank).position⟩, c.skip isBlank) := by
  cases hrest : (c.skip isBlank).rest with
  | nil => exact .inl ⟨rfl, nextToken_of_nil hrest⟩
  | cons ch s =>
    cases hstart : startsWord ch with
    | true => exact .inr (.inl ⟨ch, s, rfl, hstart, nextToken_of_word hrest hstart⟩)
    | false =>
      cases hch : Token.ofChar? ch with
      | some token => exact .inr (.inr (.inl ⟨ch, s, token, rfl, hch, nextToken_of_char hrest hstart hch⟩))
      | none => exact .inr (.inr (.inr ⟨ch, s, rfl, nextToken_of_neither hrest hstart hch⟩))

theorem Cursor.nextToken_of_lexical (h : Lexical token c.rest s') :
    ∃ p d, c.nextToken = (.ok (token, p), d) ∧ d.rest = s' := by
  rcases h with ⟨ch, hch, b, hb, hs⟩ | ⟨w, rfl, b, cs, hb, hs, rfl, ⟨ch, hch, hstart⟩, hcs, hs'⟩
  · obtain ⟨hblank, hword, -⟩ := ofChar?_eq_some hch
    have hrest := skip_blank hb hs (by simpa using hblank)
    exact ⟨_, _, nextToken_of_char hrest hword hch, rfl⟩
  · obtain ⟨cs, rfl⟩ : ∃ t, cs = ch :: t := List.head?_eq_some_iff.mp hch
    obtain ⟨htake, hdrop⟩ := span_append hcs hs'
    rw [List.cons_append] at hs htake hdrop
    have hblank : isBlank ch = false := not_isBlank_of_startsWord hstart
    have hrest := skip_blank hb hs (by simpa using hblank)
    refine ⟨(c.skip isBlank).position, (c.skip isBlank).skip continuesWord, ?_, ?_⟩
    · rw [nextToken_of_word hrest hstart, htake]
    · show (c.skip isBlank).rest.dropWhile continuesWord = s'
      rw [hrest]
      exact hdrop

theorem Cursor.nextToken_of_blank (h : Blank c.rest) : ∃ p d, c.nextToken = (.ok (.endOfInput, p), d) :=
  ⟨_, _, nextToken_of_nil (skip_blank (s := []) h (List.append_nil _).symm (by simp))⟩

theorem Cursor.lexical_of_nextToken (h : c.nextToken = (.ok (token, p), d)) :
    (token = .endOfInput ∧ Blank c.rest) ∨ (token ≠ .endOfInput ∧ Lexical token c.rest d.rest) := by
  obtain ⟨b, hb, hs⟩ := c.exists_blank
  rcases c.nextToken_cases with ⟨hrest, hnext⟩ | ⟨ch, s, hrest, hstart, hnext⟩ | ⟨ch, s, k, hrest, hch, hnext⟩ |
    ⟨ch, s, -, hnext⟩ <;> rw [hnext] at h
  · rw [hrest, List.append_nil] at hs
    exact .inl ⟨(congrArg Prod.fst (Except.ok.inj (congrArg Prod.fst h))).symm, hs ▸ hb⟩
  · obtain ⟨⟨rfl, -⟩, rfl⟩ : (Token.ofWord _ = token ∧ _ = p) ∧ _ = d := by simpa using h
    refine .inr ⟨(ofWord_ne _).1, .inr ⟨_, rfl, b, (ch :: s).takeWhile continuesWord, hb, ?_, rfl, ⟨ch, ?_, hstart⟩,
      fun _ hc => List.mem_takeWhile_imp hc, head?_dropWhile⟩⟩
    · show c.rest = b ++ ((ch :: s).takeWhile continuesWord ++ (c.skip isBlank).rest.dropWhile continuesWord)
      rw [hrest, List.takeWhile_append_dropWhile, hs, hrest]
    · rw [List.takeWhile_cons, if_pos (continuesWord_of_startsWord hstart)]
      rfl
  · obtain ⟨⟨rfl, -⟩, rfl⟩ : (k = token ∧ _ = p) ∧ _ = d := by simpa using h
    exact .inr ⟨(ofChar?_eq_some hch).2.2, .inl ⟨ch, hch, b, hb, hrest ▸ hs⟩⟩
  · cases h

theorem lexical_ne_endOfInput (h : Lexical token s s') : token ≠ .endOfInput := by
  rcases h with ⟨ch, hch, -⟩ | ⟨w, rfl, -⟩
  · exact (ofChar?_eq_some hch).2.2
  · exact (ofWord_ne w).1

end RecordGraph.Query
