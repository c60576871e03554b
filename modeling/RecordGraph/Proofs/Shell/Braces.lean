import RecordGraph.Proofs.Query.Parse
import RecordGraph.Shell.Session

namespace RecordGraph.Shell

open Text Query Grammar

variable {u v w : List Char} {c : Char}

/-- A text in which no brace counts. -/
inductive Flat : List Char → Prop
  | nil : Flat []
  | escaped {u : List Char} (c : Char) (h : Flat u) : Flat ('\\' :: c :: u)
  | plain {c : Char} {u : List Char} (hb : c ≠ '\\') (ho : c ≠ '{') (hc : c ≠ '}') (h : Flat u) : Flat (c :: u)

/-- A text whose braces that count come in pairs. -/
inductive Balanced : List Char → Prop
  | flat {u : List Char} (h : Flat u) : Balanced u
  | block {u : List Char} (h : Balanced u) : Balanced ('{' :: (u ++ ['}']))
  | append {u v : List Char} (h : Balanced u) (h' : Balanced v) : Balanced (u ++ v)

/-- A kind of texts that joins texts of that kind, those without braces among them. -/
structure Joins (B : List Char → Prop) : Prop where
  flat : ∀ {u}, Flat u → B u
  append : ∀ {u v}, B u → B v → B (u ++ v)

theorem Flat.append (h : Flat u) (h' : Flat v) : Flat (u ++ v) := by
  induction h with
  | nil => exact h'
  | escaped c _ ih => exact .escaped c ih
  | plain hb ho hc _ ih => exact .plain hb ho hc ih

theorem joins_flat : Joins Flat := ⟨id, Flat.append⟩

theorem joins_balanced : Joins Balanced := ⟨.flat, .append⟩

theorem flat_of_forall (h : ∀ c ∈ u, c ≠ '\\' ∧ c ≠ '{' ∧ c ≠ '}') : Flat u := by
  induction u with
  | nil => exact .nil
  | cons c u ih =>
    obtain ⟨⟨hb, ho, hc⟩, hu⟩ := List.forall_mem_cons.mp h
    exact .plain hb ho hc (ih hu)

theorem not_brace_of_isBlank (h : isBlank c = true) : c ≠ '\\' ∧ c ≠ '{' ∧ c ≠ '}' := by
  obtain ⟨hs, hb⟩ := not_structural_of_blank h
  refine ⟨hb, ?_, ?_⟩ <;> rintro rfl <;> exact absurd hs (by decide)

theorem not_brace_of_continuesWord (h : continuesWord c = true) : c ≠ '\\' ∧ c ≠ '{' ∧ c ≠ '}' := by
  refine ⟨?_, ?_, ?_⟩ <;> rintro rfl <;> exact absurd h (by decide +kernel)

theorem flat_of_blank (h : Blank u) : Flat u := flat_of_forall fun c hc => not_brace_of_isBlank (h c hc)

section Count

theorem openBraces_escaped (c : Char) (w : List Char) : openBraces ('\\' :: c :: w) = openBraces w := rfl

theorem openBraces_cons (hc : c ≠ '\\') (w : List Char) :
    openBraces (c :: w) = (if c = '{' then 1 else if c = '}' then -1 else 0) + openBraces w := by
  rw [openBraces]
  intro d _ hd
  exact absurd hd hc

theorem openBraces_open (w : List Char) : openBraces ('{' :: w) = 1 + openBraces w :=
  openBraces_cons (by decide) w

theorem openBraces_close (w : List Char) : openBraces ('}' :: w) = -1 + openBraces w :=
  openBraces_cons (by decide) w

theorem openBraces_plain (hb : c ≠ '\\') (ho : c ≠ '{') (hc : c ≠ '}') (w : List Char) :
    openBraces (c :: w) = openBraces w := by
  rw [openBraces_cons hb, if_neg ho, if_neg hc, Int.zero_add]

theorem Flat.openBraces_append (h : Flat u) (w : List Char) : openBraces (u ++ w) = openBraces w := by
  induction h with
  | nil => rfl
  | escaped c _ ih => exact ih
  | plain hb ho hc _ ih => rw [List.cons_append, openBraces_plain hb ho hc, ih]

theorem Balanced.openBraces_append (h : Balanced u) (w : List Char) : openBraces (u ++ w) = openBraces w := by
  induction h generalizing w with
  | flat h => exact h.openBraces_append w
  | block _ ih =>
    rw [List.cons_append, openBraces_open, List.append_assoc, ih, List.singleton_append, openBraces_close]
    omega
  | append _ _ ih ih' => rw [List.append_assoc, ih, ih']

theorem prefix_append_cases (h : v <+: u ++ w) : v <+: u ∨ ∃ v', v' <+: w ∧ v = u ++ v' := by
  rcases List.prefix_or_prefix_of_prefix h (List.prefix_append u w) with h' | ⟨v', rfl⟩
  · exact .inl h'
  · exact .inr ⟨v', (List.prefix_append_right_inj u).mp h, rfl⟩

theorem Flat.openBraces_eq_zero (h : Flat u) (hv : v <+: u) : openBraces v = 0 := by
  induction h generalizing v with
  | nil => rw [List.prefix_nil.mp hv]; rfl
  | escaped c _ ih =>
    rcases List.prefix_cons_iff.mp hv with rfl | ⟨v₁, rfl, hv₁⟩
    · rfl
    rcases List.prefix_cons_iff.mp hv₁ with rfl | ⟨v₂, rfl, hv₂⟩
    · rfl
    rw [openBraces_escaped, ih hv₂]
  | plain hb ho hc _ ih =>
    rcases List.prefix_cons_iff.mp hv with rfl | ⟨v₁, rfl, hv₁⟩
    · rfl
    rw [openBraces_plain hb ho hc, ih hv₁]

theorem Balanced.openBraces_nonneg (h : Balanced u) (hv : v <+: u) : 0 ≤ openBraces v := by
  induction h generalizing v with
  | flat h => exact Int.le_of_eq (h.openBraces_eq_zero hv).symm
  | @block u h ih =>
    rcases List.prefix_cons_iff.mp hv with rfl | ⟨v₁, rfl, hv₁⟩
    · exact Int.le_refl 0
    rw [openBraces_open]
    rcases List.prefix_concat_iff.mp hv₁ with rfl | hv₁
    · rw [h.openBraces_append]
      decide
    · have hopen := ih hv₁
      omega
  | append h _ ih ih' =>
    rcases prefix_append_cases hv with hv | ⟨v₁, hv₁, rfl⟩
    · exact ih hv
    · rw [h.openBraces_append]
      exact ih' hv₁

end Count

section Rules

variable {B : List Char → Prop} {P Q : List Char → List Char → Prop} {s s' s₁ : List Char}

/-- What a rule reads of a text is of some kind, and the rule reads it whatever comes after, as long as that starts with
the same character. -/
def Consumes (B : List Char → Prop) (P : List Char → List Char → Prop) (s s' : List Char) : Prop :=
  ∃ u, B u ∧ s = u ++ s' ∧ ∀ r, r.head? = s'.head? → P (u ++ r) r

namespace Consumes

theorem imp (h : Consumes B P s s') (hPQ : ∀ s s', P s s' → Q s s') : Consumes B Q s s' := by
  obtain ⟨u, hu, hs, hr⟩ := h
  exact ⟨u, hu, hs, fun r hhead => hPQ _ _ (hr r hhead)⟩

theorem of_flat (hB : Joins B) (h : Consumes Flat P s s') : Consumes B P s s' := by
  obtain ⟨u, hu, hs, hr⟩ := h
  exact ⟨u, hB.flat hu, hs, hr⟩

theorem none (hB : Joins B) (s : List Char) : Consumes B (fun s s' => s' = s) s s :=
  ⟨[], hB.flat .nil, rfl, fun _ _ => rfl⟩

theorem seq (hB : Joins B) (h : Consumes B P s s₁) (h' : Consumes B Q s₁ s') :
    Consumes B (fun s s' => ∃ s₁, P s s₁ ∧ Q s₁ s') s s' := by
  obtain ⟨u, hu, rfl, hP⟩ := h
  obtain ⟨v, hv, rfl, hQ⟩ := h'
  refine ⟨u ++ v, hB.append hu hv, (List.append_assoc u v s').symm, fun r hr => ⟨v ++ r, ?_, hQ r hr⟩⟩
  rw [List.append_assoc]
  exact hP (v ++ r) (by rw [List.head?_append, List.head?_append, hr])

end Consumes

theorem exists_word {n : String} (h : Word n s s') : ∃ b cs, Blank b ∧ Flat cs ∧ (∃ c ∈ cs.head?, startsWord c = true) ∧
    s = b ++ (cs ++ s') ∧ ∀ b' r, Blank b' → r.head? = s'.head? → Word n (b' ++ (cs ++ r)) r := by
  obtain ⟨b, cs, hb, hs, hn, hstart, hcs, hend⟩ := h
  have hflat : Flat cs := flat_of_forall fun c hc => not_brace_of_continuesWord (hcs c hc)
  exact ⟨b, cs, hb, hflat, hstart, hs, fun b' r hb' hr => ⟨b', cs, hb', rfl, hn, hstart, hcs, hr ▸ hend⟩⟩

theorem consumes_word {n : String} (h : Word n s s') : Consumes Flat (Word n) s s' := by
  obtain ⟨b, cs, hb, hcs, -, hs, hr⟩ := exists_word h
  refine ⟨b ++ cs, (flat_of_blank hb).append hcs, by rw [List.append_assoc]; exact hs, fun r hhead => ?_⟩
  rw [List.append_assoc]
  exact hr b r hb hhead

theorem consumes_ident {n : String} (h : Ident n s s') : Consumes Flat (Ident n) s s' :=
  (consumes_word h.2).imp fun _ _ hw => ⟨h.1, hw⟩

theorem consumes_sign (hb : c ≠ '\\') (ho : c ≠ '{') (hc : c ≠ '}') (h : Sign c s s') :
    Consumes Flat (Sign c) s s' := by
  obtain ⟨b, hblank, hs⟩ := h
  refine ⟨b ++ [c], (flat_of_blank hblank).append (.plain hb ho hc .nil), ?_, fun r _ => ⟨b, hblank, ?_⟩⟩
  · rw [List.append_assoc]
    exact hs
  · exact List.append_assoc b [c] r

/-- Within a value every brace is escaped. -/
theorem consumes_run {cs : List (Char × Bool)} (h : Run cs s s') : Consumes Flat (Run cs) s s' := by
  induction h with
  | nil s => exact ⟨[], .nil, rfl, fun r _ => .nil r⟩
  | escaped c _ ih =>
    obtain ⟨u, hu, rfl, hr⟩ := ih
    exact ⟨'\\' :: c :: u, .escaped c hu, rfl, fun r hhead => .escaped c (hr r hhead)⟩
  | @plain c _ _ _ hb hc _ ih =>
    obtain ⟨u, hu, rfl, hr⟩ := ih
    have ho : c ≠ '{' := by
      rintro rfl
      cases hc
    have hcl : c ≠ '}' := by
      rintro rfl
      cases hc
    exact ⟨c :: u, .plain hb ho hcl hu, rfl, fun r hhead => .plain hb hc (hr r hhead)⟩

theorem consumes_value {n : String} (h : Grammar.Value n s s') : Consumes Flat (Grammar.Value n) s s' := by
  obtain ⟨cs, hcs, rfl⟩ := h
  exact (consumes_run hcs).imp fun _ _ hcs => ⟨cs, hcs, rfl⟩

section Lists

variable {α : Type} {R : α → List Char → List Char → Prop} {l : List α}

theorem consumes_comma (hB : Joins B) (h : Sign ',' s s') : Consumes B (Sign ',') s s' :=
  .of_flat hB (consumes_sign (by decide) (by decide) (by decide) h)

theorem consumes_more (hB : Joins B) (hR : ∀ a s s', R a s s' → Consumes B (R a) s s') (h : More R l s s') :
    Consumes B (More R l) s s' := by
  induction h with
  | nil s => exact (Consumes.none hB s).imp fun _ _ h => h ▸ .nil _
  | comma hc => exact (consumes_comma hB hc).imp fun _ _ hc => .comma hc
  | cons hc ha _ ih =>
    have hitem := (consumes_comma hB hc).seq hB ((hR _ _ _ ha).seq hB ih)
    exact hitem.imp fun _ _ ⟨_, hc, _, ha, hl⟩ => .cons hc ha hl

theorem consumes_items (hB : Joins B) (hR : ∀ a s s', R a s s' → Consumes B (R a) s s') (h : Items R l s s') :
    Consumes B (Items R l) s s' := by
  obtain ⟨a, as, s₁, rfl, ha, hl⟩ := h
  have hitems := (hR _ _ _ ha).seq hB (consumes_more hB hR hl)
  exact hitems.imp fun _ _ ⟨_, ha, hl⟩ => ⟨a, as, _, rfl, ha, hl⟩

theorem consumes_optional (hB : Joins B) (hR : ∀ a s s', R a s s' → Consumes B (R a) s s') (h : Optional R l s s') :
    Consumes B (Optional R l) s s' := by
  rcases h with ⟨rfl, rfl⟩ | h
  · exact (Consumes.none hB _).imp fun _ _ h => .inl ⟨rfl, h⟩
  · exact (consumes_items hB hR h).imp fun _ _ h => .inr h

end Lists

theorem consumes_parameter {p : String × String} (h : Parameter p s s') : Consumes Flat (Parameter p) s s' := by
  obtain ⟨s₁, s₂, hn, hc, hv⟩ := h
  have hcolon := consumes_sign (by decide) (by decide) (by decide) hc
  have hall := (consumes_ident hn).seq joins_flat (hcolon.seq joins_flat (consumes_value hv))
  exact hall.imp fun _ _ ⟨_, hn, _, hc, hv⟩ => ⟨_, _, hn, hc, hv⟩

theorem consumes_parameters {ps : List (String × String)} (h : Parameters ps s s') :
    Consumes Flat (Parameters ps) s s' := by
  obtain ⟨s₁, s₂, ho, hps, hd, hc⟩ := h
  have hopen := consumes_sign (by decide) (by decide) (by decide) ho
  have hlist := consumes_optional joins_flat (R := Parameter) (fun _ _ _ h => consumes_parameter h) hps
  have hclose := consumes_sign (by decide) (by decide) (by decide) hc
  have hall := hopen.seq joins_flat (hlist.seq joins_flat hclose)
  exact hall.imp fun _ _ ⟨_, ho, _, hps, hc⟩ => ⟨_, _, ho, hps, hd, hc⟩

theorem consumes_alias {a : Option String} (h : Alias a s s') : Consumes Flat (Alias a) s s' := by
  cases a with
  | none =>
    obtain rfl : s' = s := h
    exact Consumes.none joins_flat _
  | some n =>
    obtain ⟨s₁, hw, hn⟩ := h
    exact (consumes_word hw).seq joins_flat (consumes_ident hn)

variable {R : Selection → List Char → List Char → Prop} {items : List Selection} {t : Selection}

theorem exists_body (hR : ∀ t s s', R t s s' → Consumes Balanced (R t) s s') (h : Body R items s s') :
    ∃ b u, Blank b ∧ Balanced u ∧ s = b ++ '{' :: (u ++ '}' :: s') ∧
      ∀ r, Body R items (b ++ '{' :: (u ++ '}' :: r)) r := by
  obtain ⟨s₁, s₂, ⟨b, hb, rfl⟩, hitems, ⟨e, he, rfl⟩⟩ := h
  obtain ⟨u, hu, rfl, hr⟩ := consumes_items joins_balanced hR hitems
  refine ⟨b, u ++ e, hb, .append hu (.flat (flat_of_blank he)), by simp, fun r => ?_⟩
  have hread := hr (e ++ '}' :: r) (by rw [List.head?_append, List.head?_append]; rfl)
  exact ⟨u ++ (e ++ '}' :: r), e ++ '}' :: r, ⟨b, hb, by simp⟩, hread, ⟨e, he, rfl⟩⟩

theorem consumes_body (hR : ∀ t s s', R t s s' → Consumes Balanced (R t) s s') (h : Body R items s s') :
    Consumes Balanced (Body R items) s s' := by
  obtain ⟨b, u, hb, hu, rfl, hr⟩ := exists_body hR h
  refine ⟨b ++ '{' :: (u ++ ['}']), .append (.flat (flat_of_blank hb)) (.block hu), by simp, fun r _ => ?_⟩
  simpa using hr r

theorem consumes_leaf (h : Leaf t s s') : Consumes Flat (Leaf t) s s' := by
  obtain ⟨n, a, s₁, rfl, hn, ha⟩ := h
  have hall := (consumes_ident hn).seq joins_flat (consumes_alias ha)
  exact hall.imp fun _ _ ⟨_, hn, ha⟩ => ⟨n, a, _, rfl, hn, ha⟩

theorem consumes_node (hR : ∀ t s s', R t s s' → Consumes Balanced (R t) s s') (h : Node R t s s') :
    Consumes Balanced (Node R t) s s' := by
  obtain ⟨n, ps, a, items, s₁, s₂, s₃, rfl, hn, hps, ha, hbody⟩ := h
  have hlist : Consumes Flat (fun s s' => (ps = [] ∧ s' = s) ∨ Parameters ps s s') s₁ s₂ := by
    rcases hps with ⟨rfl, rfl⟩ | hps
    · exact (Consumes.none joins_flat _).imp fun _ _ h => .inl ⟨rfl, h⟩
    · exact (consumes_parameters hps).imp fun _ _ h => .inr h
  have hhead := (consumes_ident hn).seq joins_flat (hlist.seq joins_flat (consumes_alias ha))
  have hall := (hhead.of_flat joins_balanced).seq joins_balanced (consumes_body hR hbody)
  exact hall.imp fun _ _ ⟨_, ⟨_, hn, _, hps, ha⟩, hbody⟩ => ⟨n, ps, a, items, _, _, _, rfl, hn, hps, ha, hbody⟩

theorem consumes_item (d : Nat) (t : Selection) (s s' : List Char) (h : Item d t s s') :
    Consumes Balanced (Item d t) s s' := by
  induction d generalizing t s s' with
  | zero => exact .of_flat joins_balanced (consumes_leaf h)
  | succ d ih =>
    rcases h with h | h
    · exact (Consumes.of_flat joins_balanced (consumes_leaf h)).imp fun _ _ h => .inl h
    · exact (consumes_node ih h).imp fun _ _ h => .inr h

end Rules

/-- The layout of a query text: a head that starts with a word, then what stands between the outer braces, and blanks
around. -/
structure Layout where
  before : List Char
  head : List Char
  inner : List Char
  after : List Char
  blank_before : Blank before
  starts : ∃ c ∈ head.head?, startsWord c = true
  flat : Flat head
  balanced : Balanced inner
  blank_after : Blank after

namespace Layout

variable (l : Layout)

def core : List Char := l.head ++ '{' :: (l.inner ++ ['}'])

def text : List Char := l.before ++ (l.core ++ l.after)

def start : List Char := l.before ++ l.head

def upTo : List Char := l.start ++ '{' :: l.inner

theorem upTo_append (e : List Char) : l.upTo ++ '}' :: e = l.before ++ (l.core ++ e) := by
  simp [core, upTo, start]

theorem text_eq : l.text = l.upTo ++ '}' :: l.after := (l.upTo_append l.after).symm

theorem flat_start : Flat l.start := (flat_of_blank l.blank_before).append l.flat

theorem openBraces_upTo (w : List Char) : openBraces (l.upTo ++ w) = 1 + openBraces w := by
  rw [upTo, List.append_assoc, l.flat_start.openBraces_append, List.cons_append, openBraces_open,
    l.balanced.openBraces_append]

/-- Up to any place between the outer braces a brace is open. -/
theorem openBraces_pos (hv : v <+: l.inner) : 0 < openBraces (l.start ++ '{' :: v) := by
  have hinner := l.balanced.openBraces_nonneg hv
  rw [l.flat_start.openBraces_append, openBraces_open]
  omega

theorem openBraces_closed {e : List Char} (he : Blank e) : openBraces (l.upTo ++ '}' :: e) = 0 := by
  have hblank := (flat_of_blank he).openBraces_eq_zero (List.prefix_refl e)
  rw [openBraces_upTo, openBraces_close, hblank]
  rfl

theorem exists_head : ∃ c ∈ l.core.head?, startsWord c = true := by
  obtain ⟨c, hc, hstart⟩ := l.starts
  refine ⟨c, ?_, hstart⟩
  rw [core, List.head?_append, Option.mem_def.mp hc]
  rfl

theorem trim_upTo {e : List Char} (he : Blank e) : trim (l.upTo ++ '}' :: e) = l.core := by
  obtain ⟨c, hc, hstart⟩ := l.exists_head
  have hlast : l.core.getLast? = some '}' := by
    rw [core, ← List.cons_append, ← List.append_assoc, List.getLast?_concat]
  rw [upTo_append]
  refine trim_of_between l.blank_before he ⟨c, hc, not_isBlank_of_startsWord hstart⟩ ?_
  rw [hlast]
  intro d hd
  obtain rfl := Option.some.inj hd
  decide

end Layout

/-- Every query text has a layout, and it is the same query with any other blanks around it. -/
theorem exists_layout {t : Selection} {s : List Char} (h : Root t s) :
    ∃ l : Layout, s = l.text ∧ ∀ b e, Blank b → Blank e → Root t (b ++ (l.core ++ e)) := by
  obtain ⟨n, ps, a, items, s₁, s₂, s₃, s₄, rfl, ⟨hne, hn⟩, hps, ha, hbody, hblank⟩ := h
  obtain ⟨b, cs, hb, hcs, hstart, rfl, hword⟩ := exists_word hn
  obtain ⟨v, hv, rfl, hrest⟩ := (consumes_parameters hps).seq joins_flat (consumes_alias ha)
  obtain ⟨b', u, hb', hu, rfl, hr⟩ := exists_body (consumes_item _) hbody
  obtain ⟨c, hc, hcstart⟩ := hstart
  have hhead : c ∈ (cs ++ (v ++ b')).head? := by
    rw [List.head?_append, Option.mem_def.mp hc]
    rfl
  have hflat : Flat (cs ++ (v ++ b')) := hcs.append (hv.append (flat_of_blank hb'))
  refine ⟨⟨b, cs ++ (v ++ b'), u, s₄, hb, ⟨c, hhead, hcstart⟩, hflat, hu, hblank⟩, by simp [Layout.text, Layout.core], ?_⟩
  intro p e hp he
  obtain ⟨s₂, hps, ha⟩ := hrest (b' ++ '{' :: (u ++ '}' :: e)) (by simp [List.head?_append])
  have hname := hword p (v ++ (b' ++ '{' :: (u ++ '}' :: e))) hp (by simp [List.head?_append])
  have htext : p ++ ((cs ++ (v ++ b') ++ '{' :: (u ++ ['}'])) ++ e) =
      p ++ (cs ++ (v ++ (b' ++ '{' :: (u ++ '}' :: e)))) := by simp
  rw [Layout.core, htext]
  exact ⟨n, ps, a, items, _, s₂, _, e, rfl, ⟨hne, hname⟩, hps, ha, hr e, he⟩

end RecordGraph.Shell
