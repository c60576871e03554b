import RecordGraph.Proofs.Query.Step
import RecordGraph.Fault

namespace RecordGraph.Query

open Text Grammar

variable {r r' : Reading} {c : Cursor} {l : Lexeme} {p : Position} {head : Head} {s : List Char} {t : Selection}

namespace Reading

def outcome (r : Reading) (ls : Lexemes) : Except Misread Selection :=
  (r.run ls.list).bind fun r => r.finish ls.ending

theorem outcome_cons {ls : Lexemes} : r.outcome (ls.cons (l, p)) = (r.step (l, p)).bind fun r => r.outcome ls := by
  rw [outcome, Lexemes.cons, run_cons]
  cases r.step (l, p) <;> rfl

theorem outcome_of_end {ls : Lexemes} (h : ls.list = []) : r.outcome ls = r.finish ls.ending := by
  rw [outcome, h]
  rfl

theorem finish_complete : r.finish (.complete p) = .ok t ↔ r.stage = .query t := by
  cases h : r.stage <;> simp [finish, h]

theorem complete_of_finish {e : Ending} (h : r.finish e = .ok t) : ∃ p, e = .complete p := by
  cases e with
  | complete p => exact ⟨p, rfl⟩
  | badCharacter m => cases h
  | badValue p m => cases hr : r.stage <;> simp [finish, hr] at h

theorem completes_of_query {root : Selection} (h : r.stage = .query root) : r.Completes s t ↔ t = root ∧ Blank s := by
  unfold Completes
  rw [h]

theorem not_query_of_step (h : r.step (l, p) = .ok r') (root : Selection) : r.stage ≠ .query root := by
  intro hq
  have hn := next_of_step h
  unfold Next at hn
  rw [hq] at hn
  exact hn

/-- What completes a reading that is no whole query starts with the next lexeme. -/
theorem lexeme_of_completes (hr : r.Placed) (hq : ∀ root, r.stage ≠ .query root) (h : r.Completes c.rest t) :
    ∃ (l : Lexeme) (p : Position) (d : Cursor) (r' : Reading), c.lexemes = d.lexemes.cons (l, p) ∧
      Lex l c.rest d.rest ∧ r.step (l, p) = .ok r' ∧ r'.Completes d.rest t := by
  -- The place of the lexeme is that of the text, so the lexeme is looked for once more at the place that it has.
  obtain ⟨l₀, s₀, -, hl₀, -, -⟩ := (leads_step hr .start hq).mpr h
  obtain ⟨p, d₀, -, h₀⟩ := Cursor.lexemes_of_lex hl₀
  obtain ⟨l, s', r', hl, hstep, hc⟩ := (leads_step hr p hq).mpr h
  obtain ⟨q, d, rfl, hlex⟩ := Cursor.lexemes_of_lex hl
  have hpq : q = p := by
    have hlist := congrArg Lexemes.list (hlex.symm.trans h₀)
    exact congrArg Prod.snd (List.cons.inj hlist).1
  subst hpq
  exact ⟨l, q, d, r', hlex, hl, hstep, hc⟩

/-- A text that completes a reading is read to the tree that it completes it to. -/
theorem outcome_of_completes (hr : r.Placed) (h : r.Completes c.rest t) : r.outcome c.lexemes = .ok t := by
  generalize hn : c.rest.length = n
  induction n using Nat.strongRecOn generalizing r c with
  | ind n ih =>
    by_cases hq : ∃ root, r.stage = .query root
    · obtain ⟨root, hq⟩ := hq
      obtain ⟨rfl, hb⟩ := (completes_of_query hq).mp h
      obtain ⟨p, hp⟩ := Cursor.lexemes_of_blank hb
      rw [hp, outcome_of_end rfl]
      exact finish_complete.mpr hq
    · have hq (root : Selection) : r.stage ≠ .query root := fun hroot => hq ⟨root, hroot⟩
      obtain ⟨l, p, d, r', hlex, hl, hstep, hc⟩ := lexeme_of_completes hr hq h
      have hlt : d.rest.length < n := hn ▸ hl.length_lt
      rw [hlex, outcome_cons, hstep]
      exact ih _ hlt (placed_step hr hstep) hc rfl

/-- A text over which a reading comes to a tree completes it to that tree. -/
theorem completes_of_outcome (hr : r.Placed) (h : r.outcome c.lexemes = .ok t) : r.Completes c.rest t := by
  generalize hn : c.rest.length = n
  induction n using Nat.strongRecOn generalizing r c with
  | ind n ih =>
    rcases c.lexemes_cases with ⟨hb, p, hlex⟩ | ⟨l, p, d, hl, hlex⟩ | ⟨hlist, hending⟩
    · rw [hlex, outcome_of_end rfl] at h
      exact (completes_of_query (finish_complete.mp h)).mpr ⟨rfl, hb⟩
    · have hlt : d.rest.length < n := hn ▸ hl.length_lt
      rw [hlex, outcome_cons] at h
      obtain ⟨r', hstep, h⟩ := Outcome.bind_eq_ok.mp h
      have hc := ih _ hlt (placed_step hr hstep) h rfl
      exact (leads_step hr p (not_query_of_step hstep)).mp ⟨l, d.rest, r', hl, hstep, hc⟩
    · rw [outcome_of_end hlist] at h
      obtain ⟨p, hp⟩ := complete_of_finish h
      exact absurd hp (hending p)

theorem afterHead_iff : AfterHead [] head s t ↔
    ∃ items s₁, Body (Item (maxDepth - 1)) items s s₁ ∧ t = head.select .root items ∧ Blank s₁ := by
  constructor
  · rintro (⟨-, hin⟩ | ⟨-, h⟩)
    · exact absurd hin id
    · exact h
  · exact fun h => .inr ⟨by decide, h⟩

theorem completes_start : start.Completes s t ↔ Root t s := by
  constructor
  · rintro ⟨n, s₁, s₂, hn, ho, hin⟩
    obtain ⟨ps, s₃, hps, hl⟩ := insideList_iff.mp ⟨s₂, ho, hin⟩
    obtain ⟨a, s₄, ha, hh⟩ := (afterList_iff rfl).mp hl
    obtain ⟨items, s₅, hbody, rfl, hb⟩ := afterHead_iff.mp hh
    exact ⟨n, ps, a, items, s₁, s₃, s₄, s₅, rfl, hn, hps, ha, hbody, hb⟩
  · rintro ⟨n, ps, a, items, s₁, s₃, s₄, s₅, rfl, hn, hps, ha, hbody, hb⟩
    have hh : AfterHead [] ⟨n, some ps, a⟩ s₄ (.mk .root n a ps items) := afterHead_iff.mpr ⟨items, s₅, hbody, rfl, hb⟩
    have hl : AfterList [] ⟨n, some ps, none⟩ s₃ (.mk .root n a ps items) := (afterList_iff rfl).mpr ⟨a, s₄, ha, hh⟩
    obtain ⟨s₂, ho, hin⟩ := @insideList_iff s₁ _ [] (.ofName n) |>.mpr ⟨ps, s₃, hps, hl⟩
    exact ⟨n, s₁, s₂, hn, ho, hin⟩

end Reading

theorem parse_iff {text : String} : parse text = .ok t ↔ Root t text.toList := by
  have hparse : parse text = Reading.start.outcome (Cursor.ofText text).lexemes := rfl
  rw [← Reading.completes_start, hparse]
  constructor
  · exact fun h => Reading.completes_of_outcome (c := .ofText text) Reading.placed_start h
  · exact fun h => Reading.outcome_of_completes (c := .ofText text) Reading.placed_start h

/-- A text is read to a tree if and only if it is derivable as a query with this tree. It is derivable with one tree at
most, and any other text is refused as a syntax error. -/
theorem parse_exact (text : String) :
    (∀ t, parse text = .ok t ↔ Root t text.toList) ∧
      (∀ t u, Root t text.toList → Root u text.toList → t = u) ∧
      ((∀ t, ¬ Root t text.toList) → ∃ e, parse text = .error e ∧ (Fault.misread e).kind = "SyntaxError") := by
  refine ⟨fun t => parse_iff, ?_, ?_⟩
  · intro t u ht hu
    have h : Except.ok t = Except.ok u := (parse_iff.mpr ht).symm.trans (parse_iff.mpr hu)
    exact Except.ok.inj h
  · intro hno
    cases h : parse text with
    | error e => exact ⟨e, rfl, rfl⟩
    | ok t => exact absurd (parse_iff.mp h) (hno t)

end RecordGraph.Query
