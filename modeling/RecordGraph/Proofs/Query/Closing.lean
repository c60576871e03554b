import RecordGraph.Proofs.Query.Writing

namespace RecordGraph.Query

open Text Grammar

variable {bodies : List OpenBody} {b s : List Char}

def closers (bodies : List OpenBody) : List Char := bodies.map fun _ => '}'

/-- A body with one item, and the braces that close the bodies around it. -/
def lastBody (bodies : List OpenBody) : List Char := '{' :: 'a' :: '}' :: closers bodies

theorem ident_letter (hb : Blank b) (hs : WordEnds s) : Ident "a" (b ++ 'a' :: s) s :=
  ident_append (show IsIdent "a" by decide +kernel) hb hs

theorem wordEnds_closers (bodies : List OpenBody) : WordEnds (closers bodies) := by
  cases bodies with
  | nil => exact fun c hc => absurd hc (by simp [closers])
  | cons body bodies => exact wordEnds_cons (c := '}') _ (by decide +kernel)

theorem wordEnds_lastBody (bodies : List OpenBody) : WordEnds (lastBody bodies) := wordEnds_cons _ (by decide +kernel)

namespace Grammar

theorem exists_closed (bodies : List OpenBody) (head : Head) (items : List Selection) :
    ∃ t, Closed bodies head items (closers bodies) t := by
  induction bodies generalizing head items with
  | nil => exact ⟨_, rfl, blank_nil⟩
  | cons body bodies ih =>
    obtain ⟨t, ht⟩ := ih body.head (body.items ++ [head.select .node items])
    exact ⟨t, [], _, _, .nil _, sign_append '}' blank_nil _, ht⟩

theorem exists_inside_more (i : Selection) (hb : bodies ≠ []) :
    ∃ t, Inside More (addItem i bodies) (closers bodies) t := by
  cases bodies with
  | nil => exact absurd rfl hb
  | cons body bodies =>
    obtain ⟨t, ht⟩ := exists_closed bodies body.head (body.items ++ [i])
    exact ⟨t, inside_more.mpr (.inl ⟨_, sign_append '}' blank_nil _, by simp, ht⟩)⟩

theorem exists_inside_optional (hb : bodies ≠ []) (hs : Blank b) :
    ∃ t, Inside Optional bodies (b ++ 'a' :: closers bodies) t := by
  obtain ⟨t, ht⟩ := exists_inside_more ((Head.ofName "a").select .leaf []) hb
  have hafter : AfterName bodies (.ofName "a") (closers bodies) t := .inl (.inl (.inl ⟨rfl, ht⟩))
  exact ⟨t, (inside_optional hb).mpr (.inr ⟨"a", _, ident_letter hs (wordEnds_closers bodies), hafter⟩)⟩

theorem exists_afterHead (head : Head) (hd : bodies.length < maxDepth) : ∃ t, AfterHead bodies head (lastBody bodies) t := by
  obtain ⟨t, ht⟩ := exists_inside_optional (List.cons_ne_nil ⟨head, []⟩ bodies) blank_nil
  have hopen : Reading.openBody ⟨bodies, .start⟩ head .start =
      .ok ⟨⟨head, []⟩ :: bodies, .items⟩ := if_neg (Nat.not_le_of_lt hd)
  exact ⟨t, .inr (Reading.openBody_iff.mp ⟨_, sign_append '{' blank_nil _, _, hopen, ht⟩)⟩

theorem exists_insideList_more (head : Head) (hd : bodies.length < maxDepth) :
    ∃ t, InsideList More bodies head (')' :: lastBody bodies) t := by
  obtain ⟨t, ht⟩ := exists_afterHead head hd
  exact ⟨t, insideList_more.mpr (.inl ⟨_, sign_append ')' blank_nil _, .inl ht⟩)⟩

theorem exists_insideList_optional (head : Head) (hd : bodies.length < maxDepth) :
    ∃ t, InsideList Optional bodies head (')' :: lastBody bodies) t := by
  obtain ⟨t, ht⟩ := exists_afterHead head hd
  exact ⟨t, (insideList_optional .start).mpr (.inl ⟨_, sign_append ')' blank_nil _, .inl ht⟩)⟩

end Grammar

namespace Reading

/-- Whether what was read last leaves no doubt where it ends before a character. -/
def Meets (r : Reading) (c : Char) : Prop :=
  continuesWord c = false ∧ ∀ head n, r.stage = .parameter head n → isStructural c = true

/-- How a reading can be completed. -/
def completion (r : Reading) : List Char :=
  match r.stage with
  | .start => ' ' :: 'a' :: '(' :: ')' :: lastBody r.bodies
  | .callName _ => '(' :: ')' :: lastBody r.bodies
  | .parameters _ => ')' :: lastBody r.bodies
  | .parameterName .. => ':' :: ')' :: lastBody r.bodies
  | .parameter .. => ')' :: lastBody r.bodies
  | .itemName _ => lastBody r.bodies
  | .closed _ => lastBody r.bodies
  | .asWord _ => ' ' :: 'a' :: lastBody r.bodies
  | .aliasName _ => lastBody r.bodies
  | .items => ' ' :: 'a' :: closers r.bodies
  | .item => ',' :: 'a' :: closers r.bodies
  | .query _ => []

theorem meets_completion (r : Reading) : ∀ c ∈ r.completion.head?, r.Meets c := by
  obtain ⟨bodies, stage⟩ := r
  intro c hc
  cases stage <;> cases hc
  all_goals exact ⟨by decide +kernel, by simp [isStructural]⟩

/-- A reading can be completed, unless it has come to a name that is there already or to too many bodies. -/
theorem exists_completes {r : Reading} (hr : r.Placed) (hd : r.bodies.length < maxDepth)
    (hn : ∀ head n q, r.stage = .parameterName head n q → head.hasParameter n = false) :
    ∃ t, r.Completes r.completion t := by
  obtain ⟨bodies, stage⟩ := r
  cases stage with
  | start =>
    obtain ⟨t, ht⟩ := exists_insideList_optional { Head.ofName "a" with parameters := some [] } hd
    have hparen : WordEnds ('(' :: ')' :: lastBody bodies) := wordEnds_cons _ (by decide +kernel)
    exact ⟨t, "a", _, _, ident_letter blank_singleton hparen, sign_append '(' blank_nil _, ht⟩
  | callName head =>
    obtain ⟨t, ht⟩ := exists_insideList_optional { head with parameters := some [] } hd
    exact ⟨t, _, sign_append '(' blank_nil _, ht⟩
  | parameters head => exact exists_insideList_optional head hd
  | parameterName head n q =>
    obtain ⟨t, ht⟩ := exists_insideList_more (head.addParameter n (decoded [])) hd
    exact ⟨t, _, _, _, sign_append ':' blank_nil _, ⟨[], .nil _, rfl⟩, hn head n q rfl, ht⟩
  | parameter head n => exact exists_insideList_more head hd
  | itemName head =>
    obtain ⟨t, ht⟩ := exists_afterHead head hd
    exact ⟨t, .inl (.inl ht)⟩
  | closed head =>
    obtain ⟨t, ht⟩ := exists_afterHead head hd
    exact ⟨t, .inl ht⟩
  | asWord head =>
    obtain ⟨t, ht⟩ := exists_afterHead { head with aliasName := some "a" } hd
    exact ⟨t, "a", _, ident_letter blank_singleton (wordEnds_lastBody bodies), ht⟩
  | aliasName head => exact exists_afterHead head hd
  | items => exact exists_inside_optional hr blank_singleton
  | item =>
    obtain ⟨t, ht⟩ := exists_inside_optional hr blank_nil
    exact ⟨t, inside_more.mpr (.inr ⟨_, sign_append ',' blank_nil _, ht⟩)⟩
  | query root => exact ⟨root, rfl, blank_nil⟩

end Reading

end RecordGraph.Query
