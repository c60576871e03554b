import RecordGraph.Proofs.Query.Completion

namespace RecordGraph.Query

open Text Grammar

/-- Whether a text starts with a lexeme that leads on to a reading which the rest of the text completes. -/
def Leads (f : Lexeme → Except Misread Reading) (s : List Char) (t : Selection) : Prop :=
  ∃ l s' r', Lex l s s' ∧ f l = .ok r' ∧ r'.Completes s' t

namespace Reading

/-- A reading that has just seen an item, or asks for one, is inside a body. -/
def Placed (r : Reading) : Prop :=
  match r.stage with
  | .items | .item => r.bodies ≠ []
  | _ => True

variable {r r' : Reading} {head : Head} {l : Lexeme} {p : Position} {s s' : List Char} {t : Selection}
variable {bodies : List OpenBody}

theorem wantedAfter_eq : r.wantedAfter head = .afterField ↔ r.bodies ≠ [] ∧ head.parameters = none := by
  unfold wantedAfter
  cases r.bodies with
  | nil => simp
  | cons body bodies => cases head.parameters <;> simp

theorem bodies_addLeaf : (r.addLeaf head).bodies = addItem (head.select .leaf []) r.bodies := by
  obtain ⟨bodies, stage⟩ := r
  cases bodies <;> rfl

theorem afterItem_eq_ok : r.afterItem l p = .ok r' ↔
    (l = .token .closeBrace ∧ r.closeBody p = .ok r') ∨ l = .token .comma ∧ r' = { r with stage := .items } := by
  cases l with
  | value v => simp [afterItem]
  | token k => cases k <;> simp [afterItem, eq_comm]

theorem afterHead_eq_ok : r.afterHead head l p = .ok r' ↔
    (l = .token .openBrace ∧ r.openBody head p = .ok r') ∨
      r.bodies ≠ [] ∧ head.parameters = none ∧ (r.addLeaf head).afterItem l p = .ok r' := by
  unfold afterHead
  by_cases hl : l = .token .openBrace
  · simp [hl, afterItem_eq_ok]
  · by_cases hw : r.wantedAfter head = .afterField
    · obtain ⟨hb, hp⟩ := wantedAfter_eq.mp hw
      simp [hl, hw, hb, hp]
    · rw [if_neg hl, if_neg hw]
      constructor
      · rintro ⟨⟩
      · rintro (⟨he, -⟩ | ⟨hb, hp, -⟩)
        · exact absurd he hl
        · exact absurd (wantedAfter_eq.mpr ⟨hb, hp⟩) hw

theorem afterList_eq_ok : r.afterList head l p = .ok r' ↔
    (l = .token .asWord ∧ r' = { r with stage := .asWord head }) ∨ r.afterHead head l p = .ok r' := by
  unfold afterList
  by_cases hl : l = .token .asWord
  · have hne : r.afterHead head l p ≠ .ok r' := by simp [hl, afterHead_eq_ok, afterItem_eq_ok]
    simp [hl ▸ hne, hl, eq_comm]
  · simp [hl]

abbrev Next (r : Reading) (l : Lexeme) (p : Position) (r' : Reading) : Prop :=
  match r.stage with
  | .start => ∃ n, l = .token (.name n) ∧ r' = { r with stage := .callName (.ofName n) }
  | .callName head => l = .token .openParen ∧ r' = { r with stage := .parameters { head with parameters := some [] } }
  | .parameters head =>
    (l = .token .closeParen ∧ r' = { r with stage := .closed head }) ∨
      ∃ n, l = .token (.name n) ∧ r' = { r with stage := .parameterName head n p }
  | .parameterName head n _ =>
    ∃ v, l = .value v ∧ head.hasParameter n = false ∧ r' = { r with stage := .parameter (head.addParameter n v) n }
  | .parameter head _ =>
    (l = .token .closeParen ∧ r' = { r with stage := .closed head }) ∨
      l = .token .comma ∧ r' = { r with stage := .parameters head }
  | .itemName head =>
    (l = .token .openParen ∧ r' = { r with stage := .parameters { head with parameters := some [] } }) ∨
      r.afterList head l p = .ok r'
  | .closed head => r.afterList head l p = .ok r'
  | .asWord head => ∃ n, l = .token (.name n) ∧ r' = { r with stage := .aliasName { head with aliasName := some n } }
  | .aliasName head => r.afterHead head l p = .ok r'
  | .items =>
    (l = .token .closeBrace ∧ r.closeBody p = .ok r') ∨
      ∃ n, l = .token (.name n) ∧ r' = { r with stage := .itemName (.ofName n) }
  | .item => r.afterItem l p = .ok r'
  | .query _ => False

theorem step_eq_ok : r.step (l, p) = .ok r' ↔ r.Next l p r' := by
  obtain ⟨bodies, stage⟩ := r
  cases stage with
  | itemName head =>
    unfold step
    by_cases hl : l = .token .openParen
    · have hne : (⟨bodies, .itemName head⟩ : Reading).afterList head l p ≠ .ok r' := by
        simp [hl, afterList_eq_ok, afterHead_eq_ok, afterItem_eq_ok]
      simp [Next, hl ▸ hne, hl, eq_comm]
    · simp [Next, hl]
  | parameterName head n q =>
    unfold step
    cases l with
    | value v => cases hn : head.hasParameter n <;> simp [Next, hn, eq_comm]
    | token k => cases k <;> simp [Next]
  | closed head => rfl
  | aliasName head => rfl
  | item => rfl
  | _ =>
    unfold step
    cases l with
    | value v => simp [Next]
    | token k => cases k <;> simp [Next, eq_comm]

theorem next_of_step (h : r.step (l, p) = .ok r') : r.Next l p r' := by rwa [← step_eq_ok]

theorem step_of_next (h : r.Next l p r') : r.step (l, p) = .ok r' := by rwa [step_eq_ok]

theorem placed_start : start.Placed := trivial

theorem placed_openBody (h : r.openBody head p = .ok r') : r'.Placed := by
  unfold openBody at h
  split at h
  · cases h
  · cases h
    exact List.cons_ne_nil _ _

theorem placed_closeBody (h : r.closeBody p = .ok r') : r'.Placed := by
  unfold closeBody at h
  split at h
  · cases h
  · cases h
  · cases h
    trivial
  · cases h
    exact List.cons_ne_nil _ _

theorem placed_afterItem (hr : r.bodies ≠ []) (h : r.afterItem l p = .ok r') : r'.Placed := by
  obtain ⟨-, h⟩ | ⟨-, rfl⟩ := afterItem_eq_ok.mp h
  · exact placed_closeBody h
  · exact hr

theorem placed_afterHead (h : r.afterHead head l p = .ok r') : r'.Placed := by
  obtain ⟨-, h⟩ | ⟨hb, -, h⟩ := afterHead_eq_ok.mp h
  · exact placed_openBody h
  · refine placed_afterItem ?_ h
    rw [bodies_addLeaf]
    cases hbodies : r.bodies with
    | nil => exact absurd hbodies hb
    | cons body bodies => exact List.cons_ne_nil _ _

theorem placed_afterList (h : r.afterList head l p = .ok r') : r'.Placed := by
  obtain ⟨-, rfl⟩ | h := afterList_eq_ok.mp h
  · trivial
  · exact placed_afterHead h

theorem placed_step (hr : r.Placed) (h : r.step (l, p) = .ok r') : r'.Placed := by
  obtain ⟨bodies, stage⟩ := r
  cases stage with
  | start =>
    obtain ⟨n, -, rfl⟩ := next_of_step h
    trivial
  | callName head =>
    obtain ⟨-, rfl⟩ := next_of_step h
    trivial
  | parameters head => obtain ⟨-, rfl⟩ | ⟨n, -, rfl⟩ := next_of_step h <;> trivial
  | parameterName head n q =>
    obtain ⟨v, -, -, rfl⟩ := next_of_step h
    trivial
  | parameter head n => obtain ⟨-, rfl⟩ | ⟨-, rfl⟩ := next_of_step h <;> trivial
  | itemName head =>
    obtain ⟨-, rfl⟩ | h := next_of_step h
    · trivial
    · exact placed_afterList h
  | closed head => exact placed_afterList h
  | asWord head =>
    obtain ⟨n, -, rfl⟩ := next_of_step h
    trivial
  | aliasName head => exact placed_afterHead h
  | items =>
    obtain ⟨-, h⟩ | ⟨n, -, rfl⟩ := next_of_step h
    · exact placed_closeBody h
    · trivial
  | item => exact placed_afterItem hr h
  | query root => exact absurd (next_of_step h) id

theorem closeBody_iff : (∃ r', r.closeBody p = .ok r' ∧ r'.Completes s t) ↔ AfterBody r.bodies s t := by
  obtain ⟨bodies, stage⟩ := r
  match bodies with
  | [] => simp [closeBody, AfterBody]
  | ⟨head, []⟩ :: bodies => simp [closeBody, AfterBody]
  | [⟨head, i :: is⟩] => simp [closeBody, AfterBody, Completes, Closed]
  | ⟨head, i :: is⟩ :: ⟨outer, before⟩ :: bodies =>
    -- What the body around it has to be completed by is the same before and after the item is added to it.
    have hclosed : Closed (⟨outer, before⟩ :: bodies) head (i :: is) s t ↔
        Reading.Completes ⟨⟨outer, before ++ [head.select .node (i :: is)]⟩ :: bodies, .item⟩ s t :=
      closed_iff (List.cons_ne_nil _ _)
    simp [closeBody, AfterBody, hclosed]

theorem openBody_iff : (∃ s', Sign '{' s s' ∧ ∃ r', r.openBody head p = .ok r' ∧ r'.Completes s' t) ↔
    r.bodies.length < maxDepth ∧
      ∃ items s₁, Body (Item (maxDepth - (r.bodies.length + 1))) items s s₁ ∧ Closed r.bodies head items s₁ t := by
  unfold openBody
  constructor
  · rintro ⟨s', ho, r', h, hc⟩
    split at h
    · cases h
    · next hd =>
      cases h
      obtain ⟨items, s₁, s₂, hitems, hclose, hne, hc⟩ := hc
      rcases hitems with ⟨rfl, -⟩ | hitems
      · exact absurd rfl hne
      · exact ⟨Nat.lt_of_not_le hd, items, s₂, ⟨s', s₁, ho, hitems, hclose⟩, hc⟩
  · rintro ⟨hd, items, s₂, ⟨s', s₁, ho, hitems, hclose⟩, hc⟩
    rw [if_neg (Nat.not_le_of_lt hd)]
    refine ⟨s', ho, _, rfl, items, s₁, s₂, .inr hitems, hclose, ?_, hc⟩
    obtain ⟨a, as, -, rfl, -⟩ := hitems
    exact List.cons_ne_nil _ _

theorem leads_afterItem : Leads (r.afterItem · p) s t ↔ Inside More r.bodies s t := by
  rw [inside_more]
  constructor
  · rintro ⟨l, s', r', hl, h, hc⟩
    obtain ⟨rfl, h⟩ | ⟨rfl, rfl⟩ := afterItem_eq_ok.mp h
    · exact .inl ⟨s', (lex_sign rfl (by simp)).mp hl, closeBody_iff.mp ⟨r', h, hc⟩⟩
    · exact .inr ⟨s', (lex_sign rfl (by simp)).mp hl, hc⟩
  · rintro (⟨s', hs, hc⟩ | ⟨s', hs, hc⟩)
    · obtain ⟨r', h, hc⟩ := closeBody_iff.mpr hc
      exact ⟨.token .closeBrace, s', r', (lex_sign rfl (by simp)).mpr hs, h, hc⟩
    · exact ⟨.token .comma, s', _, (lex_sign rfl (by simp)).mpr hs, rfl, hc⟩

theorem leads_afterHead : Leads (r.afterHead head · p) s t ↔ AfterHead r.bodies head s t := by
  unfold AfterHead
  rw [← openBody_iff (p := p), ← bodies_addLeaf, ← leads_afterItem (p := p)]
  constructor
  · rintro ⟨l, s', r', hl, h, hc⟩
    obtain ⟨rfl, h⟩ | ⟨-, hp, h⟩ := afterHead_eq_ok.mp h
    · exact .inr ⟨s', (lex_sign rfl (by simp)).mp hl, r', h, hc⟩
    · exact .inl ⟨hp, l, s', r', hl, h, hc⟩
  · rintro (⟨hp, l, s', r', hl, h, hc⟩ | ⟨s', hs, r', h, hc⟩)
    · have hb : r.bodies ≠ [] := by
        intro hb
        have hi : Inside More (r.addLeaf head).bodies s t := leads_afterItem.mp ⟨l, s', r', hl, h, hc⟩
        rw [bodies_addLeaf, hb] at hi
        exact hi
      exact ⟨l, s', r', hl, afterHead_eq_ok.mpr (.inr ⟨hb, hp, h⟩), hc⟩
    · exact ⟨.token .openBrace, s', r', (lex_sign rfl (by simp)).mpr hs, afterHead_eq_ok.mpr (.inl ⟨rfl, h⟩), hc⟩

theorem leads_afterList : Leads (r.afterList head · p) s t ↔ AfterList r.bodies head s t := by
  unfold AfterList
  rw [← leads_afterHead (p := p)]
  constructor
  · rintro ⟨l, s', r', hl, h, hc⟩
    obtain ⟨rfl, rfl⟩ | h := afterList_eq_ok.mp h
    · obtain ⟨n, s₁, hn, hc⟩ := hc
      exact .inr ⟨n, s', s₁, lex_as.mp hl, hn, hc⟩
    · exact .inl ⟨l, s', r', hl, h, hc⟩
  · rintro (⟨l, s', r', hl, h, hc⟩ | ⟨n, s', s₁, hs, hn, hc⟩)
    · exact ⟨l, s', r', hl, afterList_eq_ok.mpr (.inr h), hc⟩
    · exact ⟨.token .asWord, s', _, lex_as.mpr hs, afterList_eq_ok.mpr (.inl ⟨rfl, rfl⟩), n, s₁, hn, hc⟩

theorem leads_parameters : Leads (fun l => (⟨bodies, .parameters head⟩ : Reading).step (l, p)) s t ↔
    InsideList Optional bodies head s t := by
  rw [insideList_optional p]
  constructor
  · rintro ⟨l, s', r', hl, h, hc⟩
    obtain ⟨rfl, rfl⟩ | ⟨n, rfl, rfl⟩ := next_of_step h
    · exact .inl ⟨s', (lex_sign rfl (by simp)).mp hl, hc⟩
    · exact .inr ⟨n, s', lex_ident.mp hl, hc⟩
  · rintro (⟨s', hs, hc⟩ | ⟨n, s', hn, hc⟩)
    · exact ⟨.token .closeParen, s', _, (lex_sign rfl (by simp)).mpr hs, rfl, hc⟩
    · exact ⟨.token (.name n), s', _, lex_ident.mpr hn, rfl, hc⟩

/-- After the name of a parameter. Only here the text goes on with a value, and it is read to its very end. -/
theorem leads_parameterName {n : String} {q : Position} :
    Leads (fun l => (⟨bodies, .parameterName head n q⟩ : Reading).step (l, p)) s t ↔
      (⟨bodies, .parameterName head n q⟩ : Reading).Completes s t := by
  constructor
  · rintro ⟨l, s', r', hl, h, hc⟩
    obtain ⟨v, rfl, hn, rfl⟩ := next_of_step h
    obtain ⟨s₁, hcolon, hv, -⟩ := hl
    exact ⟨v, s₁, s', hcolon, hv, hn, hc⟩
  · rintro ⟨v, s₁, s₂, hcolon, hv, hn, hc⟩
    obtain ⟨b, s', rfl, hb, hstops, hc⟩ := insideList_more_stops hc
    exact ⟨.value v, s', _, ⟨s₁, hcolon, hv.append_blank hb, hstops⟩, step_of_next ⟨v, rfl, hn, rfl⟩, hc⟩

theorem leads_parameter {n : String} : Leads (fun l => (⟨bodies, .parameter head n⟩ : Reading).step (l, p)) s t ↔
    InsideList More bodies head s t := by
  rw [insideList_more]
  constructor
  · rintro ⟨l, s', r', hl, h, hc⟩
    obtain ⟨rfl, rfl⟩ | ⟨rfl, rfl⟩ := next_of_step h
    · exact .inl ⟨s', (lex_sign rfl (by simp)).mp hl, hc⟩
    · exact .inr ⟨s', (lex_sign rfl (by simp)).mp hl, hc⟩
  · rintro (⟨s', hs, hc⟩ | ⟨s', hs, hc⟩)
    · exact ⟨.token .closeParen, s', _, (lex_sign rfl (by simp)).mpr hs, rfl, hc⟩
    · exact ⟨.token .comma, s', _, (lex_sign rfl (by simp)).mpr hs, rfl, hc⟩

theorem leads_itemName : Leads (fun l => (⟨bodies, .itemName head⟩ : Reading).step (l, p)) s t ↔
    AfterName bodies head s t := by
  unfold AfterName
  rw [← leads_afterList (r := ⟨bodies, .itemName head⟩) (p := p)]
  constructor
  · rintro ⟨l, s', r', hl, h, hc⟩
    obtain ⟨rfl, rfl⟩ | h := next_of_step h
    · exact .inr ⟨s', (lex_sign rfl (by simp)).mp hl, hc⟩
    · exact .inl ⟨l, s', r', hl, h, hc⟩
  · rintro (⟨l, s', r', hl, h, hc⟩ | ⟨s', hs, hc⟩)
    · exact ⟨l, s', r', hl, step_of_next (.inr h), hc⟩
    · exact ⟨.token .openParen, s', _, (lex_sign rfl (by simp)).mpr hs, step_of_next (.inl ⟨rfl, rfl⟩), hc⟩

theorem leads_items (hb : bodies ≠ []) : Leads (fun l => (⟨bodies, .items⟩ : Reading).step (l, p)) s t ↔
    Inside Optional bodies s t := by
  rw [inside_optional hb]
  constructor
  · rintro ⟨l, s', r', hl, h, hc⟩
    obtain ⟨rfl, h⟩ | ⟨n, rfl, rfl⟩ := next_of_step h
    · exact .inl ⟨s', (lex_sign rfl (by simp)).mp hl, closeBody_iff.mp ⟨r', h, hc⟩⟩
    · exact .inr ⟨n, s', lex_ident.mp hl, hc⟩
  · rintro (⟨s', hs, hc⟩ | ⟨n, s', hn, hc⟩)
    · obtain ⟨r', h, hc⟩ := (closeBody_iff (r := ⟨bodies, .items⟩)).mpr hc
      exact ⟨.token .closeBrace, s', r', (lex_sign rfl (by simp)).mpr hs, step_of_next (.inl ⟨rfl, h⟩), hc⟩
    · exact ⟨.token (.name n), s', _, lex_ident.mpr hn, rfl, hc⟩

/-- What completes a reading is a lexeme that it accepts with what completes the reading after it; only a whole query needs
nothing more. -/
theorem leads_step (hr : r.Placed) (p : Position) (hq : ∀ root, r.stage ≠ .query root) :
    Leads (fun l => r.step (l, p)) s t ↔ r.Completes s t := by
  obtain ⟨bodies, stage⟩ := r
  cases stage with
  | start =>
    constructor
    · rintro ⟨l, s', r', hl, h, hc⟩
      obtain ⟨n, rfl, rfl⟩ := next_of_step h
      obtain ⟨s₂, ho, hc⟩ := hc
      exact ⟨n, s', s₂, lex_ident.mp hl, ho, hc⟩
    · rintro ⟨n, s', s₂, hn, ho, hc⟩
      exact ⟨.token (.name n), s', _, lex_ident.mpr hn, rfl, s₂, ho, hc⟩
  | callName head =>
    constructor
    · rintro ⟨l, s', r', hl, h, hc⟩
      obtain ⟨rfl, rfl⟩ := next_of_step h
      exact ⟨s', (lex_sign rfl (by simp)).mp hl, hc⟩
    · rintro ⟨s', hs, hc⟩
      exact ⟨.token .openParen, s', _, (lex_sign rfl (by simp)).mpr hs, rfl, hc⟩
  | parameters head => exact leads_parameters
  | parameterName head n q => exact leads_parameterName
  | parameter head n => exact leads_parameter
  | itemName head => exact leads_itemName
  | closed head => exact leads_afterList
  | asWord head =>
    constructor
    · rintro ⟨l, s', r', hl, h, hc⟩
      obtain ⟨n, rfl, rfl⟩ := next_of_step h
      exact ⟨n, s', lex_ident.mp hl, hc⟩
    · rintro ⟨n, s', hn, hc⟩
      exact ⟨.token (.name n), s', _, lex_ident.mpr hn, rfl, hc⟩
  | aliasName head => exact leads_afterHead
  | items => exact leads_items hr
  | item => exact leads_afterItem
  | query root => exact absurd rfl (hq root)

end Reading

end RecordGraph.Query
