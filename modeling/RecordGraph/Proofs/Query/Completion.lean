import RecordGraph.Proofs.Query.Lexing

namespace RecordGraph.Query

open Text Grammar

def Head.addAll (h : Head) (ps : List (String × String)) : Head := ps.foldl (fun h p => h.addParameter p.1 p.2) h

def Head.Takes (h : Head) (ps : List (String × String)) : Prop :=
  (ps.map Prod.fst).Nodup ∧ ∀ p ∈ ps, h.hasParameter p.1 = false

namespace Grammar

/-- The rules for lists of items, of which some are read. -/
abbrev ListRule := {α : Type} → (α → List Char → List Char → Prop) → List α → List Char → List Char → Prop

/-- What follows a body whose items these are: the end of the text, or the rest of the bodies around it. -/
def Closed : List OpenBody → Head → List Selection → List Char → Selection → Prop
  | [], head, items, s, t => t = head.select .root items ∧ Blank s
  | ⟨outer, before⟩ :: bodies, head, items, s, t =>
    ∃ more s₁ s₂, More (Item (maxDepth - (bodies.length + 1))) more s s₁ ∧ Sign '}' s₁ s₂ ∧
      Closed bodies outer (before ++ head.select .node items :: more) s₂ t

/-- What follows inside the innermost body, by a rule for the items that are still to come. -/
def Inside (rule : ListRule) : List OpenBody → List Char → Selection → Prop
  | [], _, _ => False
  | ⟨head, items⟩ :: bodies, s, t =>
    ∃ more s₁ s₂, rule (Item (maxDepth - (bodies.length + 1))) more s s₁ ∧ Sign '}' s₁ s₂ ∧ items ++ more ≠ [] ∧
      Closed bodies head (items ++ more) s₂ t

def AfterBody : List OpenBody → List Char → Selection → Prop
  | [], _, _ => False
  | ⟨head, items⟩ :: bodies, s, t => items ≠ [] ∧ Closed bodies head items s t

def addItem (item : Selection) : List OpenBody → List OpenBody
  | [] => []
  | ⟨head, items⟩ :: bodies => ⟨head, items ++ [item]⟩ :: bodies

/-- What follows a head: a body, or nothing if it can be that of a plain field. -/
def AfterHead (bodies : List OpenBody) (head : Head) (s : List Char) (t : Selection) : Prop :=
  (head.parameters = none ∧ Inside More (addItem (head.select .leaf []) bodies) s t) ∨
    bodies.length < maxDepth ∧
      ∃ items s₁, Body (Item (maxDepth - (bodies.length + 1))) items s s₁ ∧ Closed bodies head items s₁ t

def AfterList (bodies : List OpenBody) (head : Head) (s : List Char) (t : Selection) : Prop :=
  AfterHead bodies head s t ∨
    ∃ n s₁ s₂, Word "as" s s₁ ∧ Ident n s₁ s₂ ∧ AfterHead bodies { head with aliasName := some n } s₂ t

/-- What follows inside a parameter list, by a rule for the parameters that are still to come. -/
def InsideList (rule : ListRule) (bodies : List OpenBody) (head : Head) (s : List Char) (t : Selection) : Prop :=
  ∃ ps s₁ s₂, rule Parameter ps s s₁ ∧ Sign ')' s₁ s₂ ∧ head.Takes ps ∧ AfterList bodies (head.addAll ps) s₂ t

def AfterName (bodies : List OpenBody) (head : Head) (s : List Char) (t : Selection) : Prop :=
  AfterList bodies head s t ∨
    ∃ s₁, Sign '(' s s₁ ∧ InsideList Optional bodies { head with parameters := some [] } s₁ t

end Grammar

/-- Whether a text completes a reading to a tree. -/
def Reading.Completes (r : Reading) (s : List Char) (t : Selection) : Prop :=
  match r.stage with
  | .start =>
    ∃ n s₁ s₂, Ident n s s₁ ∧ Sign '(' s₁ s₂ ∧
      InsideList Optional r.bodies { Head.ofName n with parameters := some [] } s₂ t
  | .callName head => ∃ s₁, Sign '(' s s₁ ∧ InsideList Optional r.bodies { head with parameters := some [] } s₁ t
  | .parameters head => InsideList Optional r.bodies head s t
  | .parameterName head n _ =>
    ∃ v s₁ s₂, Sign ':' s s₁ ∧ Value v s₁ s₂ ∧ head.hasParameter n = false ∧
      InsideList More r.bodies (head.addParameter n v) s₂ t
  | .parameter head _ => InsideList More r.bodies head s t
  | .itemName head => AfterName r.bodies head s t
  | .closed head => AfterList r.bodies head s t
  | .asWord head => ∃ n s₁, Ident n s s₁ ∧ AfterHead r.bodies { head with aliasName := some n } s₁ t
  | .aliasName head => AfterHead r.bodies head s t
  | .items => Inside Optional r.bodies s t
  | .item => Inside More r.bodies s t
  | .query root => t = root ∧ Blank s

section Rules

variable {α : Type} {P : α → List Char → List Char → Prop} {as : List α} {s s' : List Char} {t : Selection}
variable {bodies : List OpenBody} {head : Head} {n v : String} {ps : List (String × String)} {q : String × String}

theorem more_iff : More P as s s' ↔ (as = [] ∧ s' = s) ∨ ∃ s₁, Sign ',' s s₁ ∧ Optional P as s₁ s' := by
  constructor
  · intro h
    cases h with
    | nil => exact .inl ⟨rfl, rfl⟩
    | comma hc => exact .inr ⟨s', hc, .inl ⟨rfl, rfl⟩⟩
    | cons hc ha hl => exact .inr ⟨_, hc, .inr ⟨_, _, _, rfl, ha, hl⟩⟩
  · rintro (⟨rfl, rfl⟩ | ⟨s₁, hc, ⟨rfl, rfl⟩ | ⟨a, l, s₂, rfl, ha, hl⟩⟩)
    · exact .nil _
    · exact .comma hc
    · exact .cons hc ha hl

theorem hasParameter_addParameter {m : String} :
    (head.addParameter n v).hasParameter m = false ↔ head.hasParameter m = false ∧ n ≠ m := by
  simp [Head.hasParameter, Head.addParameter, Entries.has]

theorem takes_nil : head.Takes [] := ⟨List.nodup_nil, by simp⟩

theorem takes_cons : head.Takes (q :: ps) ↔ head.hasParameter q.1 = false ∧ (head.addParameter q.1 q.2).Takes ps := by
  simp only [Head.Takes, List.map_cons, List.nodup_cons, List.forall_mem_cons, hasParameter_addParameter]
  constructor
  · rintro ⟨⟨hq, hps⟩, hqh, hpsh⟩
    exact ⟨hqh, hps, fun p hp => ⟨hpsh p hp, fun he => hq (he ▸ List.mem_map_of_mem hp)⟩⟩
  · rintro ⟨hqh, hps, h⟩
    refine ⟨⟨fun hq => ?_, hps⟩, hqh, fun p hp => (h p hp).1⟩
    obtain ⟨p, hp, he⟩ := List.mem_map.mp hq
    exact (h p hp).2 he.symm

theorem insideList_more : InsideList More bodies head s t ↔
    (∃ s₁, Sign ')' s s₁ ∧ AfterList bodies head s₁ t) ∨ ∃ s₁, Sign ',' s s₁ ∧ InsideList Optional bodies head s₁ t := by
  constructor
  · rintro ⟨ps, s₁, s₂, hps, hc, htakes, h⟩
    rcases more_iff.mp hps with ⟨rfl, rfl⟩ | ⟨s₃, hcomma, hps⟩
    · exact .inl ⟨s₂, hc, h⟩
    · exact .inr ⟨s₃, hcomma, ps, s₁, s₂, hps, hc, htakes, h⟩
  · rintro (⟨s₁, hc, h⟩ | ⟨s₃, hcomma, ps, s₁, s₂, hps, hc, htakes, h⟩)
    · exact ⟨[], s, s₁, .nil s, hc, takes_nil, h⟩
    · exact ⟨ps, s₁, s₂, more_iff.mpr (.inr ⟨s₃, hcomma, hps⟩), hc, htakes, h⟩

theorem insideList_optional (p : Position) : InsideList Optional bodies head s t ↔
    (∃ s₁, Sign ')' s s₁ ∧ AfterList bodies head s₁ t) ∨
      ∃ n s₁, Ident n s s₁ ∧ Reading.Completes ⟨bodies, .parameterName head n p⟩ s₁ t := by
  constructor
  · rintro ⟨ps, s₁, s₂, ⟨rfl, rfl⟩ | ⟨q, ps, s₃, rfl, ⟨s₄, s₅, hn, hcolon, hv⟩, hps⟩, hc, htakes, h⟩
    · exact .inl ⟨s₂, hc, h⟩
    · obtain ⟨hq, htakes⟩ := takes_cons.mp htakes
      exact .inr ⟨q.1, s₄, hn, q.2, s₅, s₃, hcolon, hv, hq, ps, s₁, s₂, hps, hc, htakes, h⟩
  · rintro (⟨s₁, hc, h⟩ | ⟨n, s₄, hn, v, s₅, s₃, hcolon, hv, hq, ps, s₁, s₂, hps, hc, htakes, h⟩)
    · exact ⟨[], s, s₁, .inl ⟨rfl, rfl⟩, hc, takes_nil, h⟩
    · exact ⟨(n, v) :: ps, s₁, s₂, .inr ⟨(n, v), ps, s₃, rfl, ⟨s₄, s₅, hn, hcolon, hv⟩, hps⟩, hc,
        takes_cons.mpr ⟨hq, htakes⟩, h⟩

/-- What follows a parameter starts with a structural character, so a value can be taken to its very end. -/
theorem insideList_more_stops (h : InsideList More bodies head s t) :
    ∃ b s', s = b ++ s' ∧ Blank b ∧ Stops s' ∧ InsideList More bodies head s' t := by
  have hsign {ch : Char} {s' : List Char} : Sign ch (ch :: s') s' := ⟨[], by simp [Blank], rfl⟩
  rcases insideList_more.mp h with ⟨s₁, ⟨b, hb, rfl⟩, hl⟩ | ⟨s₁, ⟨b, hb, rfl⟩, hl⟩
  · exact ⟨b, ')' :: s₁, rfl, hb, by simp [Stops, isStructural], insideList_more.mpr (.inl ⟨s₁, hsign, hl⟩)⟩
  · exact ⟨b, ',' :: s₁, rfl, hb, by simp [Stops, isStructural], insideList_more.mpr (.inr ⟨s₁, hsign, hl⟩)⟩

theorem inside_more : Inside More bodies s t ↔
    (∃ s₁, Sign '}' s s₁ ∧ AfterBody bodies s₁ t) ∨ ∃ s₁, Sign ',' s s₁ ∧ Inside Optional bodies s₁ t := by
  cases bodies with
  | nil => simp [Inside, AfterBody]
  | cons body bodies =>
    obtain ⟨head, items⟩ := body
    constructor
    · rintro ⟨more, s₁, s₂, hmore, hc, hne, h⟩
      rcases more_iff.mp hmore with ⟨rfl, rfl⟩ | ⟨s₃, hcomma, hmore⟩
      · rw [List.append_nil] at hne h
        exact .inl ⟨s₂, hc, hne, h⟩
      · exact .inr ⟨s₃, hcomma, more, s₁, s₂, hmore, hc, hne, h⟩
    · rintro (⟨s₁, hc, hne, h⟩ | ⟨s₃, hcomma, more, s₁, s₂, hmore, hc, hne, h⟩)
      · exact ⟨[], s, s₁, .nil s, hc, by rwa [List.append_nil], by rwa [List.append_nil]⟩
      · exact ⟨more, s₁, s₂, more_iff.mpr (.inr ⟨s₃, hcomma, hmore⟩), hc, hne, h⟩

theorem addAll_some {qs : List (String × String)} (hq : head.parameters = some qs) :
    head.addAll ps = { head with parameters := some (qs ++ ps) } := by
  induction ps generalizing head qs with
  | nil =>
    rw [List.append_nil, ← hq]
    rfl
  | cons q ps ih =>
    have hadd : (head.addParameter q.1 q.2).parameters = some (qs ++ [q]) := by simp [Head.addParameter, hq]
    have h : head.addAll (q :: ps) = (head.addParameter q.1 q.2).addAll ps := rfl
    rw [h, ih hadd, List.append_assoc]
    rfl

theorem insideList_iff : (∃ s₁, Sign '(' s s₁ ∧ InsideList Optional bodies { head with parameters := some [] } s₁ t) ↔
    ∃ ps s₁, Parameters ps s s₁ ∧ AfterList bodies { head with parameters := some ps } s₁ t := by
  have hall (ps : List (String × String)) :
      ({ head with parameters := some [] } : Head).addAll ps = { head with parameters := some ps } := by
    rw [addAll_some rfl, List.nil_append]
  constructor
  · rintro ⟨s₁, ho, ps, s₂, s₃, hps, hc, ⟨hnodup, -⟩, h⟩
    exact ⟨ps, s₃, ⟨s₁, s₂, ho, hps, hnodup, hc⟩, hall ps ▸ h⟩
  · rintro ⟨ps, s₃, ⟨s₁, s₂, ho, hps, hnodup, hc⟩, h⟩
    refine ⟨s₁, ho, ps, s₂, s₃, hps, hc, ⟨hnodup, ?_⟩, (hall ps).symm ▸ h⟩
    intro p _
    simp [Head.hasParameter, Entries.has]

theorem afterList_iff (ha : head.aliasName = none) : AfterList bodies head s t ↔
    ∃ a s₁, Alias a s s₁ ∧ AfterHead bodies { head with aliasName := a } s₁ t := by
  have hnone : ({ head with aliasName := none } : Head) = head := by
    cases head
    simp_all
  constructor
  · rintro (h | ⟨n, s₁, s₂, has, hn, h⟩)
    · exact ⟨none, s, rfl, hnone.symm ▸ h⟩
    · exact ⟨some n, s₂, ⟨s₁, has, hn⟩, h⟩
  · rintro ⟨_ | n, s₂, hal, h⟩
    · obtain rfl : s₂ = s := hal
      exact .inl (hnone ▸ h)
    · obtain ⟨s₁, has, hn⟩ := hal
      exact .inr ⟨n, s₁, s₂, has, hn, h⟩

theorem closed_iff {items : List Selection} (hb : bodies ≠ []) :
    Closed bodies head items s t ↔ Inside More (addItem (head.select .node items) bodies) s t := by
  cases bodies with
  | nil => exact absurd rfl hb
  | cons body bodies =>
    obtain ⟨outer, before⟩ := body
    simp only [Closed, Inside, addItem, List.append_assoc, List.cons_append, List.nil_append]
    simp

theorem item_iff_leaf_or_node {a : Selection} : Item (maxDepth - bodies.length) a s s' ↔
    Leaf a s s' ∨ bodies.length < maxDepth ∧ Node (Item (maxDepth - (bodies.length + 1))) a s s' := by
  by_cases hlt : bodies.length < maxDepth
  · have hd : maxDepth - bodies.length = maxDepth - (bodies.length + 1) + 1 := by omega
    simp [hd, Item, hlt]
  · have hd : maxDepth - bodies.length = 0 := by omega
    simp [hd, Item, hlt]

theorem item_iff (hb : bodies ≠ []) :
    (∃ a s₁, Item (maxDepth - bodies.length) a s s₁ ∧ Inside More (addItem a bodies) s₁ t) ↔
      ∃ n s₁, Ident n s s₁ ∧ AfterName bodies (.ofName n) s₁ t := by
  constructor
  · rintro ⟨a, s₁, ha, h⟩
    rcases item_iff_leaf_or_node.mp ha with ⟨n, al, s₂, rfl, hn, hal⟩ | ⟨hlt, hnode⟩
    · exact ⟨n, s₂, hn, .inl ((afterList_iff rfl).mpr ⟨al, s₁, hal, .inl ⟨rfl, h⟩⟩)⟩
    · obtain ⟨n, ps, al, items, s₂, s₃, s₄, rfl, hn, hps, hal, hbody⟩ := hnode
      refine ⟨n, s₂, hn, ?_⟩
      rcases hps with ⟨rfl, rfl⟩ | hps
      · have hh : AfterHead bodies ⟨n, none, al⟩ s₄ t := .inr ⟨hlt, items, s₁, hbody, (closed_iff hb).mpr h⟩
        exact .inl ((afterList_iff rfl).mpr ⟨al, s₄, hal, hh⟩)
      · have hh : AfterHead bodies ⟨n, some ps, al⟩ s₄ t := .inr ⟨hlt, items, s₁, hbody, (closed_iff hb).mpr h⟩
        exact .inr (insideList_iff.mpr ⟨ps, s₃, hps, (afterList_iff rfl).mpr ⟨al, s₄, hal, hh⟩⟩)
  · rintro ⟨n, s₂, hn, h | h⟩
    · obtain ⟨al, s₄, hal, hh⟩ := (afterList_iff rfl).mp h
      rcases hh with ⟨-, h⟩ | ⟨hlt, items, s₁, hbody, h⟩
      · exact ⟨_, s₄, item_iff_leaf_or_node.mpr (.inl ⟨n, al, s₂, rfl, hn, hal⟩), h⟩
      · have hnode : Node (Item (maxDepth - (bodies.length + 1))) (.mk .node n al [] items) s s₁ :=
          ⟨n, [], al, items, s₂, s₂, s₄, rfl, hn, .inl ⟨rfl, rfl⟩, hal, hbody⟩
        exact ⟨_, s₁, item_iff_leaf_or_node.mpr (.inr ⟨hlt, hnode⟩), (closed_iff hb).mp h⟩
    · obtain ⟨ps, s₃, hps, h⟩ := insideList_iff.mp h
      obtain ⟨al, s₄, hal, hh⟩ := (afterList_iff rfl).mp h
      -- An item with a parameter list cannot be a plain field.
      rcases hh with ⟨hnone, -⟩ | ⟨hlt, items, s₁, hbody, h⟩
      · cases hnone
      · have hnode : Node (Item (maxDepth - (bodies.length + 1))) (.mk .node n al ps items) s s₁ :=
          ⟨n, ps, al, items, s₂, s₃, s₄, rfl, hn, .inr hps, hal, hbody⟩
        exact ⟨_, s₁, item_iff_leaf_or_node.mpr (.inr ⟨hlt, hnode⟩), (closed_iff hb).mp h⟩

theorem inside_optional (hb : bodies ≠ []) : Inside Optional bodies s t ↔
    (∃ s₁, Sign '}' s s₁ ∧ AfterBody bodies s₁ t) ∨ ∃ n s₁, Ident n s s₁ ∧ AfterName bodies (.ofName n) s₁ t := by
  rw [← item_iff hb]
  cases bodies with
  | nil => exact absurd rfl hb
  | cons body bodies =>
    obtain ⟨head, items⟩ := body
    constructor
    · rintro ⟨more, s₁, s₂, ⟨rfl, rfl⟩ | ⟨a, more, s₃, rfl, ha, hmore⟩, hc, hne, h⟩
      · rw [List.append_nil] at hne h
        exact .inl ⟨s₂, hc, hne, h⟩
      · refine .inr ⟨a, s₃, ha, more, s₁, s₂, hmore, hc, by simp, ?_⟩
        rwa [List.append_assoc]
    · rintro (⟨s₁, hc, hne, h⟩ | ⟨a, s₃, ha, more, s₁, s₂, hmore, hc, hne, h⟩)
      · exact ⟨[], s, s₁, .inl ⟨rfl, rfl⟩, hc, by rwa [List.append_nil], by rwa [List.append_nil]⟩
      · refine ⟨a :: more, s₁, s₂, .inr ⟨a, more, s₃, rfl, ha, hmore⟩, hc, by simp, ?_⟩
        rwa [List.append_assoc] at h

end Rules

end RecordGraph.Query
