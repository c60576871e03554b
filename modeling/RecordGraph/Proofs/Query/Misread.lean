import RecordGraph.Proofs.Query.Closing
import RecordGraph.Proofs.Query.Place

namespace RecordGraph.Query

open Text Grammar

variable {r r' : Reading} {c d : Cursor} {head : Head} {l : Lexeme} {p q : Position}
variable {s s' z b : List Char} {names : Option (List String)} {e : Misread}

/-- How many braces are opened. A backslash makes the next character count for nothing. -/
def openings : List Char → Nat
  | [] => 0
  | '\\' :: _ :: cs => openings cs
  | c :: cs => (if c = '{' then 1 else 0) + openings cs

def lexemesOf (s : List Char) : List Lexeme := (Cursor.mk s .start).lexemes.list.map Prod.fst

/-- The names in the parameter list that is open after one more lexeme, if there is one. -/
def listedAfter : Option (List String) → Lexeme → Option (List String)
  | _, .token .openParen => some []
  | _, .token .closeParen => none
  | some ns, .token (.name n) => some (n :: ns)
  | names, _ => names

def isListed : Option (List String) → Lexeme → Bool
  | some ns, .token (.name n) => ns.contains n
  | _, _ => false

/-- Whether some lexemes start two parameters of one list with the same name. -/
def listsTwice : Option (List String) → List Lexeme → Bool
  | _, [] => false
  | names, l :: ls => isListed names l || listsTwice (listedAfter names l) ls

def Lexeme.opens (l : Lexeme) : Nat := if l = .token .openBrace then 1 else 0

theorem openings_cons {c : Char} (hc : c ≠ '\\') (s : List Char) :
    openings (c :: s) = (if c = '{' then 1 else 0) + openings s := by
  rw [openings]
  intro d _ hd
  exact absurd hd hc

theorem openings_append (hz : ∀ c ∈ z, c ≠ '\\') (s : List Char) : openings s ≤ openings (z ++ s) := by
  induction z with
  | nil => exact Nat.le_refl _
  | cons c z ih =>
    obtain ⟨hc, hz⟩ := List.forall_mem_cons.mp hz
    have hle : openings s ≤ openings (z ++ s) := ih hz
    rw [List.cons_append, openings_cons hc]
    omega

theorem ne_backslash_of_blank (hb : Blank b) : ∀ c ∈ b, c ≠ '\\' := fun c hc => (not_structural_of_blank (hb c hc)).2

namespace Reading

def InList (r : Reading) : Prop :=
  match r.stage with
  | .parameters _ | .parameterName .. | .parameter .. => True
  | _ => False

/-- What a step leads to: the parts of a parameter list one by one, or a reading outside all lists, with one body more only
behind a brace. -/
inductive Goes (r : Reading) (p : Position) : Lexeme → Reading → Prop
  | opens {head : Head} : Goes r p (.token .openParen) { r with stage := .parameters { head with parameters := some [] } }
  | names {head : Head} {n : String} (h : r.stage = .parameters head) :
    Goes r p (.token (.name n)) { r with stage := .parameterName head n p }
  | gives {head : Head} {n v : String} {q : Position} (h : r.stage = .parameterName head n q) :
    Goes r p (.value v) { r with stage := .parameter (head.addParameter n v) n }
  | separates {head : Head} {n : String} (h : r.stage = .parameter head n) :
    Goes r p (.token .comma) { r with stage := .parameters head }
  | outside {l : Lexeme} {r' : Reading} (hl : ∀ v, l ≠ .value v) (h : ¬r'.InList)
    (hb : r'.bodies.length ≤ r.bodies.length + l.opens) : Goes r p l r'

theorem goes_closeBody (h : r.closeBody p = .ok r') : ¬r'.InList ∧ r'.bodies.length ≤ r.bodies.length := by
  obtain ⟨bodies, stage⟩ := r
  unfold closeBody at h
  split at h
  · cases h
  · cases h
  · cases h
    exact ⟨not_false, Nat.zero_le _⟩
  · next hb =>
    cases h
    obtain rfl : bodies = _ := hb
    exact ⟨not_false, Nat.le_succ _⟩

theorem goes_afterItem (h : r.afterItem l p = .ok r') :
    (∀ v, l ≠ .value v) ∧ ¬r'.InList ∧ r'.bodies.length ≤ r.bodies.length := by
  obtain ⟨rfl, h⟩ | ⟨rfl, rfl⟩ := afterItem_eq_ok.mp h
  · exact ⟨by simp, goes_closeBody h⟩
  · exact ⟨by simp, not_false, Nat.le_refl _⟩

theorem length_addLeaf : (r.addLeaf head).bodies.length = r.bodies.length := by
  obtain ⟨bodies, stage⟩ := r
  cases bodies <;> rfl

theorem goes_afterHead (h : r.afterHead head l p = .ok r') : r.Goes p l r' := by
  obtain ⟨rfl, hopen⟩ | ⟨-, -, h⟩ := afterHead_eq_ok.mp h
  · unfold openBody at hopen
    split at hopen
    · cases hopen
    · cases hopen
      exact .outside (by simp) not_false (by simp [Lexeme.opens])
  · obtain ⟨hl, hout, hle⟩ := goes_afterItem h
    rw [length_addLeaf] at hle
    exact .outside hl hout (Nat.le_add_right_of_le hle)

theorem goes_afterList (h : r.afterList head l p = .ok r') : r.Goes p l r' := by
  obtain ⟨rfl, rfl⟩ | h := afterList_eq_ok.mp h
  · exact .outside (by simp) not_false (Nat.le_add_right ..)
  · exact goes_afterHead h

theorem goes_of_step (h : r.step (l, p) = .ok r') : r.Goes p l r' := by
  obtain ⟨bodies, stage⟩ := r
  cases stage with
  | start =>
    obtain ⟨n, rfl, rfl⟩ := next_of_step h
    exact .outside (by simp) not_false (Nat.le_add_right ..)
  | callName head =>
    obtain ⟨rfl, rfl⟩ := next_of_step h
    exact .opens
  | parameters head =>
    obtain ⟨rfl, rfl⟩ | ⟨n, rfl, rfl⟩ := next_of_step h
    · exact .outside (by simp) not_false (Nat.le_add_right ..)
    · exact .names rfl
  | parameterName head n q =>
    obtain ⟨v, rfl, -, rfl⟩ := next_of_step h
    exact .gives rfl
  | parameter head n =>
    obtain ⟨rfl, rfl⟩ | ⟨rfl, rfl⟩ := next_of_step h
    · exact .outside (by simp) not_false (Nat.le_add_right ..)
    · exact .separates rfl
  | itemName head =>
    obtain ⟨rfl, rfl⟩ | h := next_of_step h
    · exact .opens
    · exact goes_afterList h
  | closed head => exact goes_afterList h
  | asWord head =>
    obtain ⟨n, rfl, rfl⟩ := next_of_step h
    exact .outside (by simp) not_false (Nat.le_add_right ..)
  | aliasName head => exact goes_afterHead h
  | items =>
    obtain ⟨rfl, h⟩ | ⟨n, rfl, rfl⟩ := next_of_step h
    · obtain ⟨hout, hle⟩ := goes_closeBody h
      exact .outside (by simp) hout (Nat.le_add_right_of_le hle)
    · exact .outside (by simp) not_false (Nat.le_add_right ..)
  | item =>
    obtain ⟨hl, hout, hle⟩ := goes_afterItem h
    exact .outside hl hout (Nat.le_add_right_of_le hle)
  | query root => exact absurd (next_of_step h) id

theorem Goes.length_bodies_le (h : r.Goes p l r') : r'.bodies.length ≤ r.bodies.length + l.opens := by
  cases h with
  | outside _ _ hb => exact hb
  | _ => exact Nat.le_add_right ..

theorem Goes.place {n : String} (h : r.Goes p l r') (hs : r'.stage = .parameterName head n q) : q = p := by
  obtain ⟨bodies', stage'⟩ := r'
  obtain rfl : stage' = _ := hs
  cases h with
  | names _ => rfl
  | outside _ h _ => exact absurd trivial h

theorem Goes.stage_of_value {v : String} (h : r.Goes p (.value v) r') : ∃ head n, r'.stage = .parameter head n := by
  cases h with
  | gives _ => exact ⟨_, _, rfl⟩
  | outside hl _ _ => exact absurd rfl (hl v)

/-- Whether some names are those of the parameters that a reading knows, with the one that it reads, which is new. -/
def Tracks (names : Option (List String)) (r : Reading) : Prop :=
  match r.stage with
  | .parameters head | .parameter head _ => ∃ ns, names = some ns ∧ ∀ m, m ∉ ns → head.hasParameter m = false
  | .parameterName head n _ =>
    head.hasParameter n = false ∧ ∃ ns, names = some ns ∧ n ∈ ns ∧ ∀ m, m ∉ ns → head.hasParameter m = false
  | _ => True

theorem tracks_of_not_inList (h : ¬r.InList) : r.Tracks names := by
  obtain ⟨bodies, stage⟩ := r
  cases stage <;> first | trivial | exact absurd trivial h

theorem Goes.tracks (h : r.Goes p l r') (ht : r.Tracks names) (hl : isListed names l = false) :
    r'.Tracks (listedAfter names l) := by
  obtain ⟨bodies, stage⟩ := r
  cases h with
  | opens =>
    cases names <;> exact ⟨[], rfl, fun m _ => rfl⟩
  | @names head n h =>
    obtain rfl : stage = _ := h
    obtain ⟨ns, rfl, hns⟩ := ht
    have hn : n ∉ ns := by simpa [isListed] using hl
    refine ⟨hns n hn, n :: ns, rfl, List.mem_cons_self, fun m hm => hns m ?_⟩
    exact fun hmem => hm (List.mem_cons_of_mem _ hmem)
  | @gives head n v q h =>
    obtain rfl : stage = _ := h
    obtain ⟨-, ns, rfl, hn, hns⟩ := ht
    refine ⟨ns, rfl, fun m hm => hasParameter_addParameter.mpr ⟨hns m hm, ?_⟩⟩
    rintro rfl
    exact hm hn
  | separates h =>
    obtain rfl : stage = _ := h
    obtain ⟨ns, rfl, hns⟩ := ht
    exact ⟨ns, rfl, hns⟩
  | outside _ h _ => exact tracks_of_not_inList h

end Reading

theorem Grammar.Run.exists_prefix {cs : List (Char × Bool)} (h : Run cs s s') :
    ∃ u, s = u ++ s' ∧ ∀ t, Run cs (u ++ t) t ∧ openings t ≤ openings (u ++ t) := by
  induction h with
  | nil s => exact ⟨[], rfl, fun t => ⟨.nil t, Nat.le_refl _⟩⟩
  | escaped c _ ih =>
    obtain ⟨u, rfl, hu⟩ := ih
    exact ⟨'\\' :: c :: u, rfl, fun t => ⟨.escaped c (hu t).1, (hu t).2⟩⟩
  | @plain c _ _ _ hb hc _ ih =>
    obtain ⟨u, rfl, hu⟩ := ih
    refine ⟨c :: u, rfl, fun t => ⟨.plain hb hc (hu t).1, ?_⟩⟩
    rw [List.cons_append, openings_cons hb]
    exact Nat.le_add_left_of_le (hu t).2

theorem opens_of_ofChar? {ch : Char} {token : Token} (h : Token.ofChar? ch = some token) :
    ch ≠ '\\' ∧ (Lexeme.token token).opens = if ch = '{' then 1 else 0 := by
  unfold Token.ofChar? at h
  split at h <;> cases h
  all_goals exact ⟨by decide, rfl⟩

theorem opens_ofWord (w : String) : (Lexeme.token (.ofWord w)).opens = 0 := by
  unfold Token.ofWord
  split <;> rfl

/-- A lexeme can be read before any text that does not go on with it, so before one that starts like the text after it. -/
theorem Grammar.Lex.exists_prefix (h : Lex l s s') : ∃ z, s = z ++ s' ∧
    (∀ t, (∀ ch ∈ t.head?, s'.head? = some ch ∨ (continuesWord ch = false ∧ ∀ v, l = .value v → isStructural ch = true)) →
      Lex l (z ++ t) t) ∧ ∀ t, l.opens + openings t ≤ openings (z ++ t) := by
  cases l with
  | token token =>
    obtain ⟨hne, ⟨ch, hch, b, hb, rfl⟩ | ⟨w, rfl, b, cs, hb, rfl, hw, hstart, hcs, hend⟩⟩ := h
    · obtain ⟨hbackslash, hopens⟩ := opens_of_ofChar? hch
      refine ⟨b ++ [ch], by simp, fun t _ => ⟨hne, .inl ⟨ch, hch, b, hb, by simp⟩⟩, fun t => ?_⟩
      rw [hopens, ← openings_cons hbackslash, List.append_assoc]
      exact openings_append (ne_backslash_of_blank hb) _
    · refine ⟨b ++ cs, by simp, fun t ht => ⟨hne, .inr ⟨w, rfl, b, cs, hb, by simp, hw, hstart, hcs, ?_⟩⟩, fun t => ?_⟩
      · intro ch hch
        rcases ht ch hch with hs' | ⟨hword, -⟩
        · exact hend ch hs'
        · exact hword
      · rw [opens_ofWord, Nat.zero_add]
        refine openings_append (fun c hc => ?_) t
        rcases List.mem_append.mp hc with hc | hc
        · exact ne_backslash_of_blank hb c hc
        · rintro rfl
          exact absurd (hcs _ hc) (by decide +kernel)
  | value v =>
    obtain ⟨s₁, ⟨b, hb, rfl⟩, ⟨cs, hcs, rfl⟩, hstops⟩ := h
    obtain ⟨u, rfl, hu⟩ := hcs.exists_prefix
    refine ⟨b ++ ':' :: u, by simp, fun t ht => ⟨u ++ t, ⟨b, hb, by simp⟩, ⟨cs, (hu t).1, rfl⟩, ?_⟩, fun t => ?_⟩
    · intro ch hch
      rcases ht ch hch with hs' | ⟨-, hstructural⟩
      · exact hstops ch hs'
      · exact hstructural _ rfl
    · have hle : openings (':' :: (u ++ t)) ≤ openings (b ++ ':' :: (u ++ t)) :=
        openings_append (ne_backslash_of_blank hb) _
      rw [openings_cons (by decide)] at hle
      rw [List.append_assoc, List.cons_append]
      exact Nat.le_trans (Nat.add_le_add (Nat.zero_le _) (hu t).2) hle

theorem map_fst_lexemes (h : c.rest = d.rest) :
    c.lexemes.list.map Prod.fst = d.lexemes.list.map Prod.fst := by
  generalize hn : c.rest.length = n
  -- a lexeme takes off at least one character
  induction n using Nat.strongRecOn generalizing c d with
  | ind n ih =>
    rcases c.lexemes_cases with ⟨hb, p, hc⟩ | ⟨l, p, c', hl, hc⟩ | ⟨hlist, hending⟩
    · obtain ⟨q, hd⟩ := Cursor.lexemes_of_blank (h ▸ hb : Blank d.rest)
      rw [hc, hd]
    · have hlt : c'.rest.length < n := hn ▸ hl.length_lt
      obtain ⟨q, d', hrest, hd⟩ := Cursor.lexemes_of_lex (h ▸ hl : Lex l d.rest c'.rest)
      rw [hc, hd]
      exact congrArg (l :: ·) (ih _ hlt hrest.symm rfl)
    · rw [hlist]
      rcases d.lexemes_cases with ⟨hb, q, -⟩ | ⟨l, q, d', hl, -⟩ | ⟨hlist', -⟩
      · obtain ⟨p, hc⟩ := Cursor.lexemes_of_blank (h ▸ hb : Blank c.rest)
        rw [hc] at hending
        exact absurd rfl (hending p)
      · obtain ⟨p, c', -, hc⟩ := Cursor.lexemes_of_lex (h ▸ hl : Lex l c.rest d'.rest)
        rw [hc] at hlist
        cases hlist
      · rw [hlist']

theorem lexemesOf_of_lex (h : Lex l s s') : lexemesOf s = l :: lexemesOf s' := by
  obtain ⟨p, d, hd, hs⟩ := Cursor.lexemes_of_lex (c := ⟨s, .start⟩) h
  rw [lexemesOf, hs]
  exact congrArg (l :: ·) (map_fst_lexemes hd)

namespace Reading

variable {x y : List Char} {t : Selection}

/-- Whether a text can be continued so that it completes a reading, in a way that leaves no doubt where the text before it
ends. -/
def Resumes (r : Reading) (x : List Char) : Prop :=
  ∃ more t, r.Completes (x ++ more) t ∧ (x = [] → ∀ ch ∈ more.head?, r.Meets ch)

theorem completes_blank_append (hr : r.Placed) (hb : Blank b) (h : r.Completes s t) : r.Completes (b ++ s) t := by
  by_cases hq : ∃ root, r.stage = .query root
  · obtain ⟨root, hq⟩ := hq
    obtain ⟨ht, hs⟩ := (completes_of_query hq).mp h
    exact (completes_of_query hq).mpr ⟨ht, List.forall_mem_append.mpr ⟨hb, hs⟩⟩
  · have hq (root : Selection) : r.stage ≠ .query root := fun hroot => hq ⟨root, hroot⟩
    obtain ⟨l, s', r', hl, hstep, hc⟩ := (leads_step hr .start hq).mpr h
    exact (leads_step hr .start hq).mp ⟨l, s', r', hl.blank_append hb, hstep, hc⟩

theorem resumes_blank (hr : r.Placed) (ht : r.Tracks names) (hd : r.bodies.length < maxDepth) (hb : Blank b) :
    r.Resumes b := by
  have hnew : ∀ head n q, r.stage = .parameterName head n q → head.hasParameter n = false := by
    intro head n q hs
    unfold Tracks at ht
    rw [hs] at ht
    exact ht.1
  obtain ⟨t, hc⟩ := exists_completes hr hd hnew
  exact ⟨r.completion, t, completes_blank_append hr hb hc, fun _ => r.meets_completion⟩

theorem resumes_of_step (hr : r.Placed) (hl : Lex l (z ++ (x ++ y)) (x ++ y)) (h : r.step (l, p) = .ok r')
    (hx : r'.Resumes x) : r.Resumes (z ++ x) := by
  obtain ⟨more, t, hc, hmeets⟩ := hx
  obtain ⟨z', hz, hjoins, -⟩ := hl.exists_prefix
  obtain rfl : z = z' := List.append_cancel_right hz
  -- what is added after a lexeme must not make it longer
  have hlex : Lex l (z ++ (x ++ more)) (x ++ more) := by
    refine hjoins _ fun ch hch => ?_
    cases x with
    | nil =>
      obtain ⟨hword, hvalue⟩ := hmeets rfl ch hch
      refine .inr ⟨hword, ?_⟩
      rintro v rfl
      obtain ⟨head, n, hs⟩ := (goes_of_step h).stage_of_value
      exact hvalue head n hs
    | cons _ _ => exact .inl hch
  refine ⟨more, t, ?_, fun hnil => ?_⟩
  · rw [List.append_assoc]
    exact (leads_step hr p (not_query_of_step h)).mp ⟨l, _, r', hlex, h, hc⟩
  · have hlt := hl.length_lt
    rw [(List.append_eq_nil_iff.mp hnil).1] at hlt
    exact absurd hlt (Nat.lt_irrefl _)

theorem place_of_closeBody_error (h : r.closeBody p = .error e) : e.position = p := by
  unfold closeBody at h
  split at h <;> cases h
  · rfl
  · rfl

theorem place_of_afterItem_error (h : r.afterItem l p = .error e) : e.position = p := by
  unfold afterItem at h
  split at h
  · cases h
  · exact place_of_closeBody_error h
  · cases h
    rfl

theorem place_of_afterHead_error (h : r.afterHead head l p = .error e) : e.position = p := by
  unfold afterHead openBody at h
  split at h
  · split at h <;> cases h
    rfl
  split at h
  · exact place_of_afterItem_error h
  · cases h
    rfl

theorem place_of_afterList_error (h : r.afterList head l p = .error e) : e.position = p := by
  unfold afterList at h
  split at h
  · cases h
  · exact place_of_afterHead_error h

theorem place_of_step_error (h : r.step (l, p) = .error e) :
    e.position = p ∨ ∃ head n, r.stage = .parameterName head n e.position := by
  obtain ⟨bodies, stage⟩ := r
  cases stage with
  | parameterName head n q =>
    unfold step at h
    cases l with
    | token k => exact .inl (congrArg Misread.position (Except.error.inj h).symm)
    | value v =>
      dsimp only at h
      split at h
      · cases h
        exact .inr ⟨head, n, rfl⟩
      · cases h
  | itemName head =>
    unfold step at h
    dsimp only at h
    split at h
    · cases h
    · exact .inl (place_of_afterList_error h)
  | closed head => exact .inl (place_of_afterList_error h)
  | aliasName head => exact .inl (place_of_afterHead_error h)
  | item => exact .inl (place_of_afterItem_error h)
  | items =>
    left
    unfold step at h
    cases l with
    | token k =>
      cases k with
      | closeBrace => exact place_of_closeBody_error h
      | _ => cases h <;> rfl
    | value v =>
      cases h
      rfl
  | _ =>
    left
    unfold step at h
    cases l with
    | token k => cases k <;> cases h <;> rfl
    | value v =>
      cases h
      rfl

theorem place_of_finish_complete (h : r.finish (.complete p) = .error e) : e.position = p := by
  unfold finish at h
  dsimp only at h
  split at h <;> cases h
  rfl

theorem place_of_finish_badValue {m : Misread} (h : r.finish (.badValue p m) = .error e) :
    e.position = p ∨ ((∃ head n q, r.stage = .parameterName head n q) ∧ e = m) := by
  unfold finish at h
  dsimp only at h
  split at h
  · next hs =>
    cases h
    exact .inr ⟨⟨_, _, _, hs⟩, rfl⟩
  · cases h
    exact .inl rfl

/-- Whether a reading goes wrong at a place to which a text leads from a cursor, and can be completed from there on, unless
the text opens too many bodies or starts two parameters of one list with the same name. -/
def Breaks (r : Reading) (c : Cursor) (q : Position) : Prop :=
  ∃ x y, c.rest = x ++ y ∧ q = c.position.advance x ∧
    ∀ names, r.Tracks names → r.bodies.length + openings x < maxDepth → listsTwice names (lexemesOf x) = false → r.Resumes x

theorem breaks_blank (hr : r.Placed) (hb : Blank b) (hs : b <+: c.rest) : r.Breaks c (c.position.advance b) := by
  obtain ⟨y, hy⟩ := hs
  exact ⟨b, y, hy.symm, rfl, fun names ht hd _ => resumes_blank hr ht (by omega) hb⟩

theorem breaks_value {head : Head} {n v : String} {u : List Char} (hs : r.stage = .parameterName head n q) (hb : Blank b)
    (hc : c.rest = b ++ ':' :: (u ++ ['\\'])) (hv : ∀ s, Value v (u ++ s) s) :
    r.Breaks c (c.position.advance (b ++ ':' :: u)) := by
  -- what is left over is the backslash
  refine ⟨b ++ ':' :: u, ['\\'], by simp [hc], rfl, fun names ht hd _ => ?_⟩
  obtain ⟨bodies, stage⟩ := r
  obtain rfl : stage = _ := hs
  have hbodies : bodies.length < maxDepth := Nat.lt_of_le_of_lt (Nat.le_add_right ..) hd
  obtain ⟨t, hlist⟩ := exists_insideList_more (head.addParameter n v) hbodies
  refine ⟨')' :: lastBody bodies, t, ⟨v, u ++ ')' :: lastBody bodies, _, ⟨b, hb, ?_⟩, hv _, ht.1, hlist⟩, fun hnil => ?_⟩
  · simp
  · simp at hnil

/-- A reading that goes wrong after a step goes wrong before it, at a place that is further on by the lexeme. -/
theorem Breaks.step (hr : r.Placed) (hz : c.Passes z d) (hl : Lex l c.rest d.rest) (h : r.step (l, p) = .ok r')
    (hbreaks : r'.Breaks d q) : r.Breaks c q := by
  obtain ⟨x, y, hx, hq, hresumes⟩ := hbreaks
  refine ⟨z ++ x, y, ?_, ?_, fun names ht hd hnames => ?_⟩
  · rw [hz.1, hx, List.append_assoc]
  · rw [hq, hz.2, Position.advance_append]
  rw [hz.1] at hl
  obtain ⟨z', hz', hjoins, hopen⟩ := hl.exists_prefix
  obtain rfl : z = z' := List.append_cancel_right hz'
  have hgoes : r.Goes p l r' := goes_of_step h
  have hlex : Lex l (z ++ x) x := by
    refine hjoins x fun ch hch => .inl ?_
    rw [hx, List.head?_append, Option.mem_def.mp hch]
    rfl
  rw [lexemesOf_of_lex hlex, listsTwice, Bool.or_eq_false_iff] at hnames
  have hdepth : r'.bodies.length + openings x < maxDepth := by
    have hbodies := hgoes.length_bodies_le
    have hopens := hopen x
    omega
  rw [hx] at hl
  exact resumes_of_step hr hl h (hresumes _ (hgoes.tracks ht hnames.1) hdepth hnames.2)

/-- A text over which a reading goes wrong breaks it, unless what is wrong is a name that was read just before. -/
theorem breaks_of_outcome (hr : r.Placed) (h : r.outcome c.lexemes = .error e) :
    r.Breaks c e.position ∨ ∃ head n, r.stage = .parameterName head n e.position := by
  generalize hn : c.rest.length = n
  induction n using Nat.strongRecOn generalizing r c with
  | ind n ih =>
    have hahead := c.ahead
    generalize c.lexemes = ls at h hahead
    cases hahead with
    | ends hb =>
      rw [outcome_of_end rfl] at h
      rw [place_of_finish_complete h]
      exact .inl (breaks_blank hr hb List.prefix_rfl)
    | badCharacter hb hs hm =>
      obtain rfl := Except.error.inj h
      rw [hm]
      exact .inl (breaks_blank hr hb hs)
    | @badValue b u v m hb hs hv hm =>
      rw [outcome_of_end rfl] at h
      rcases place_of_finish_badValue h with hp | ⟨⟨head, n, q, hstage⟩, rfl⟩
      · rw [hp]
        exact .inl (breaks_blank hr hb (hs ▸ List.prefix_append ..))
      · rw [hm]
        exact .inl (breaks_value hstage hb hs hv)
    -- either the step goes wrong, or a later one does
    | @lexeme b z l d hb hs hz hl =>
      rw [outcome_cons] at h
      cases hstep : r.step (l, c.position.advance b) with
      | error e' =>
        rw [hstep] at h
        obtain rfl := Except.error.inj h
        refine (place_of_step_error hstep).imp_left fun hp => ?_
        rw [hp]
        exact breaks_blank hr hb hs
      | ok r' =>
        rw [hstep] at h
        have hlt : d.rest.length < n := hn ▸ hl.length_lt
        rcases ih _ hlt (placed_step hr hstep) h rfl with hbreaks | ⟨head, n, hstage⟩
        · exact .inl (hbreaks.step hr hz hl hstep)
        · rw [(goes_of_step hstep).place hstage]
          exact .inl (breaks_blank hr hb hs)

end Reading

/-- A text that is refused is refused at a place in it, whose line and column are those that its line feeds give, and what
stands before that place can be continued to a query, unless it opens `maxDepth` bodies or starts two parameters of one list
with the same name. -/
theorem misread_continued {text : String} (h : parse text = .error e) :
    let before := text.toList.take e.position.offset
    e.position.offset ≤ text.length ∧
      e.position.line = 1 + before.count '\n' ∧
      e.position.column = 1 + (before.reverse.takeWhile (· ≠ '\n')).length ∧
      (openings before < maxDepth → listsTwice none (lexemesOf before) = false →
        ∃ more t, parse (String.ofList (before ++ more)) = .ok t) := by
  intro before
  rcases Reading.breaks_of_outcome (c := .ofText text) Reading.placed_start h with hbreaks | ⟨head, n, hstage⟩
  · obtain ⟨x, y, hx, hplace, hresumes⟩ := hbreaks
    have htext : text.toList = x ++ y := hx
    have hstart : e.position = Position.start.advance x := hplace
    rw [Position.advance_start] at hstart
    have hbefore : before = x := by
      show text.toList.take e.position.offset = x
      rw [hstart, htext]
      exact List.take_left
    rw [hbefore]
    refine ⟨?_, ?_, ?_, fun hopen hnames => ?_⟩
    · rw [hstart, ← String.length_toList, htext, List.length_append]
      exact Nat.le_add_right ..
    · rw [hstart]
    · rw [hstart]
    -- nothing is open yet, and no list is
    · have hdepth : Reading.start.bodies.length + openings x < maxDepth := by
        rw [show Reading.start.bodies.length = 0 from rfl, Nat.zero_add]
        exact hopen
      obtain ⟨more, t, hcompletes, -⟩ := hresumes none trivial hdepth hnames
      refine ⟨more, t, parse_iff.mpr (Reading.completes_start.mp ?_)⟩
      rwa [String.toList_ofList]
  -- a reading that starts has read no name
  · cases hstage

theorem misread_continued_lineFeed :
    let text := "f(a: \\,1)\n\x7b g h"
    parse text = .error ⟨.expected .afterField (.name "h"), ⟨14, 2, 5⟩⟩ ∧
      ∃ more t, parse (String.ofList (text.toList.take 14 ++ more)) = .ok t := by
  have h : parse "f(a: \\,1)\n\x7b g h" = .error ⟨.expected .afterField (.name "h"), ⟨14, 2, 5⟩⟩ := by decide +kernel
  obtain ⟨-, -, -, hcontinued⟩ := misread_continued h
  exact ⟨h, hcontinued (by decide +kernel) (by decide +kernel)⟩

end RecordGraph.Query
