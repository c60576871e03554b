import RecordGraph.Proofs.Query.Escape
import RecordGraph.Proofs.Query.Parse

namespace RecordGraph.Query

open Text Grammar

structure IsIdent (n : String) : Prop where
  head : ∃ c ∈ n.toList.head?, startsWord c = true
  tail : ∀ c ∈ n.toList, continuesWord c = true
  ne_as : n ≠ "as"

/-- What can stand before a body: all names are identifiers, and no parameter is given twice. -/
structure IsHead (name : String) (aliasName : Option String) (parameters : Entries String) : Prop where
  ident : IsIdent name
  alias_ident : ∀ a ∈ aliasName, IsIdent a
  parameter_ident : ∀ p ∈ parameters, IsIdent p.1
  distinct : (parameters.map Prod.fst).Nodup

instance : DecidablePred IsIdent := fun n =>
  decidable_of_iff (n.toList.head?.any startsWord = true ∧ n.toList.all continuesWord = true ∧ n ≠ "as")
    ⟨fun h => ⟨(Option.any_eq_true ..).mp h.1, List.all_eq_true.mp h.2.1, h.2.2⟩,
      fun h => ⟨(Option.any_eq_true ..).mpr h.head, List.all_eq_true.mpr h.tail, h.ne_as⟩⟩

namespace Selection

/-- What can stand in a body: plain fields, and items with bodies of their own. -/
inductive IsItem : Selection → Prop
  | leaf {name : String} {aliasName : Option String} (h : IsHead name aliasName []) :
    IsItem (.mk .leaf name aliasName [] [])
  | node {name : String} {aliasName : Option String} {parameters : Entries String} {children : List Selection}
    (h : IsHead name aliasName parameters) (hne : children ≠ []) (hc : ∀ s ∈ children, s.IsItem) :
    IsItem (.mk .node name aliasName parameters children)

mutual

def nesting : Selection → Nat
  | mk _ _ _ _ children => nestingAll children

def nestingAll : List Selection → Nat
  | [] => 0
  | s :: ss => max (nesting s + 1) (nestingAll ss)

end

/-- Whether a selection is a query that can be written. -/
structure Printable (t : Selection) : Prop where
  form : t.form = .root
  head : IsHead t.name t.aliasName t.parameters
  body : t.children ≠ []
  items : ∀ s ∈ t.children, s.IsItem
  nesting : t.nesting ≤ maxDepth

end Selection

def listed : List (List Char) → List Char
  | [] => []
  | x :: xs => x ++ xs.flatMap fun y => ',' :: ' ' :: y

def writtenParameters (enc : String → List Char) (ps : Entries String) : List Char :=
  '(' :: (listed (ps.map fun p => p.1.toList ++ ':' :: ' ' :: enc p.2) ++ [')'])

def writtenAlias : Option String → List Char
  | none => []
  | some n => ' ' :: 'a' :: 's' :: ' ' :: n.toList

def writtenBody (items : List (List Char)) : List Char :=
  if items = [] then [] else ' ' :: '{' :: ' ' :: (listed items ++ [' ', '}'])

namespace Selection

mutual

/-- The text of a selection, whose values are written in some way. -/
def written (enc : String → List Char) : Selection → List Char
  | mk form name aliasName parameters children =>
    name.toList ++ ((if form = .root ∨ parameters ≠ [] then writtenParameters enc parameters else []) ++
      (writtenAlias aliasName ++ writtenBody (writtenAll enc children)))

def writtenAll (enc : String → List Char) : List Selection → List (List Char)
  | [] => []
  | s :: ss => written enc s :: writtenAll enc ss

end

mutual

def mapValues (f : String → String) : Selection → Selection
  | mk form name aliasName parameters children =>
    mk form name aliasName (parameters.map fun p => (p.1, f p.2)) (mapValuesAll f children)

def mapValuesAll (f : String → String) : List Selection → List Selection
  | [] => []
  | s :: ss => mapValues f s :: mapValuesAll f ss

end

variable {enc : String → List Char} {f : String → String}

theorem writtenAll_eq (ss : List Selection) : writtenAll enc ss = ss.map (written enc) := by
  induction ss with
  | nil => rfl
  | cons s ss ih => rw [writtenAll, ih, List.map_cons]

theorem mapValuesAll_eq (ss : List Selection) : mapValuesAll f ss = ss.map (mapValues f) := by
  induction ss with
  | nil => rfl
  | cons s ss ih => rw [mapValuesAll, ih, List.map_cons]

theorem nesting_lt {s : Selection} {ss : List Selection} (h : s ∈ ss) : s.nesting < nestingAll ss := by
  induction ss with
  | nil => cases h
  | cons t ss ih =>
    rw [nestingAll]
    rcases List.mem_cons.mp h with rfl | h
    · omega
    · have hlt : s.nesting < nestingAll ss := ih h
      omega

mutual

theorem mapValues_id : ∀ s : Selection, s.mapValues id = s
  | mk form name aliasName parameters children => by
    rw [mapValues, mapValuesAll_id children]
    simp

theorem mapValuesAll_id : ∀ ss : List Selection, mapValuesAll id ss = ss
  | [] => rfl
  | s :: ss => by rw [mapValuesAll, mapValues_id s, mapValuesAll_id ss]

end

end Selection

def WordEnds (s : List Char) : Prop := ∀ c ∈ s.head?, continuesWord c = false

theorem wordEnds_cons {c : Char} (s : List Char) (h : continuesWord c = false) : WordEnds (c :: s) := by
  intro d hd
  obtain rfl : c = d := Option.some.inj hd
  exact h

theorem blank_singleton : Blank [' '] := blank_of_isBlank (by decide)

variable {enc : String → List Char} {dec : String → String} {n : String} {a : Option String} {ps : Entries String}
variable {b s : List Char} {d : Nat} {t : Selection}

theorem sign_append (c : Char) (hb : Blank b) (s : List Char) : Sign c (b ++ c :: s) s := ⟨b, hb, rfl⟩

theorem ident_append (h : IsIdent n) (hb : Blank b) (hs : WordEnds s) : Ident n (b ++ (n.toList ++ s)) s :=
  ⟨h.ne_as, b, n.toList, hb, rfl, String.ofList_toList.symm, h.head, h.tail, hs⟩

section Lists

variable {α β : Type} {P : β → List Char → List Char → Prop} {E : List Char → Prop} {f : α → List Char} {g : α → β}
variable {l : List α}

/-- The items of a list after the first, if each item can be read where the next comma or the end of the list comes. -/
theorem more_listed (h : ∀ x ∈ l, ∀ b s, Blank b → E s → P (g x) (b ++ (f x ++ s)) s) (hcomma : ∀ s, E (',' :: s))
    (hs : E s) : More P (l.map g) ((l.map f).flatMap (fun y => ',' :: ' ' :: y) ++ s) s := by
  induction l with
  | nil => exact .nil s
  | cons x l ih =>
    obtain ⟨hx, hl⟩ := List.forall_mem_cons.mp h
    have hrest : E ((l.map f).flatMap (fun y => ',' :: ' ' :: y) ++ s) := by
      cases l with
      | nil => exact hs
      | cons y l => exact hcomma _
    have hitem := hx [' '] _ blank_singleton hrest
    have htext : ((x :: l).map f).flatMap (fun y => ',' :: ' ' :: y) ++ s =
        ',' :: ([' '] ++ (f x ++ ((l.map f).flatMap (fun y => ',' :: ' ' :: y) ++ s))) := by
      rw [List.map_cons, List.flatMap_cons, List.append_assoc]
      rfl
    rw [htext]
    exact .cons (sign_append ',' blank_nil _) hitem (ih hl)

theorem items_listed (hl : l ≠ []) (h : ∀ x ∈ l, ∀ b s, Blank b → E s → P (g x) (b ++ (f x ++ s)) s)
    (hcomma : ∀ s, E (',' :: s)) (hb : Blank b) (hs : E s) : Items P (l.map g) (b ++ (listed (l.map f) ++ s)) s := by
  cases l with
  | nil => exact absurd rfl hl
  | cons x l =>
    obtain ⟨hx, htail⟩ := List.forall_mem_cons.mp h
    have hmore := more_listed htail hcomma hs
    have hrest : E ((l.map f).flatMap (fun y => ',' :: ' ' :: y) ++ s) := by
      cases l with
      | nil => exact hs
      | cons y l => exact hcomma _
    have hitem := hx b _ hb hrest
    refine ⟨g x, l.map g, _, rfl, ?_, hmore⟩
    simpa only [List.map_cons, listed, List.append_assoc] using hitem

end Lists

/-- A way to write values, given with what the written values are read to. -/
def Reads (enc : String → List Char) (dec : String → String) : Prop := ∀ v s, Value (dec v) (enc v ++ s) s

theorem reads_quoted : Reads quoted id := value_quoted

theorem reads_escaped : Reads escaped fun v => String.ofList (trim v.toList) := value_escaped

theorem parameters_written (henc : Reads enc dec) (h : ∀ p ∈ ps, IsIdent p.1) (hd : (ps.map Prod.fst).Nodup)
    (s : List Char) : Parameters (ps.map fun p => (p.1, dec p.2)) (writtenParameters enc ps ++ s) s := by
  have hnames : (ps.map fun p => (p.1, dec p.2)).map Prod.fst = ps.map Prod.fst := by simp
  have hparameter : ∀ p ∈ ps, ∀ b s, Blank b → True →
      Parameter (p.1, dec p.2) (b ++ ((p.1.toList ++ ':' :: ' ' :: enc p.2) ++ s)) s := by
    intro p hp b s hb _
    have hname := ident_append (h p hp) hb (wordEnds_cons (' ' :: (enc p.2 ++ s)) (c := ':') (by decide +kernel))
    have hvalue := (henc p.2 s).blank_append blank_singleton
    refine ⟨_, _, ?_, sign_append ':' blank_nil _, hvalue⟩
    simpa using hname
  refine ⟨listed (ps.map fun p => p.1.toList ++ ':' :: ' ' :: enc p.2) ++ ')' :: s, ')' :: s, ?_, ?_, hnames ▸ hd,
    sign_append ')' blank_nil s⟩
  · simpa [writtenParameters] using sign_append '(' blank_nil _
  · by_cases hps : ps = []
    · subst hps
      exact .inl ⟨rfl, rfl⟩
    · exact .inr (items_listed hps hparameter (fun _ => trivial) blank_nil trivial)

theorem alias_written (h : ∀ n ∈ a, IsIdent n) (hs : WordEnds s) : Alias a (writtenAlias a ++ s) s := by
  cases a with
  | none => rfl
  | some n =>
    have hname := ident_append (h n rfl) blank_singleton hs
    refine ⟨' ' :: (n.toList ++ s), ⟨[' '], ['a', 's'], blank_singleton, by simp [writtenAlias], rfl, ?_, ?_, ?_⟩, hname⟩
    · exact ⟨'a', rfl, by decide +kernel⟩
    · exact List.all_eq_true.mp (by decide +kernel)
    · exact wordEnds_cons _ (by decide +kernel)

theorem wordEnds_alias (hs : WordEnds s) : WordEnds (writtenAlias a ++ s) := by
  cases a with
  | none => exact hs
  | some n => exact wordEnds_cons _ (by decide +kernel)

/-- A head is read to its name, its parameters and its alias. Only a query has a list without parameters. -/
theorem head_written (form : Form) (henc : Reads enc dec) (h : IsHead n a ps) (hb : Blank b) (hs : WordEnds s) :
    ∃ s₁ s₂, Ident n (b ++ (n.toList ++ ((if form = .root ∨ ps ≠ [] then writtenParameters enc ps else []) ++
        (writtenAlias a ++ s)))) s₁ ∧
      ((form ≠ .root ∧ (ps.map fun p => (p.1, dec p.2)) = [] ∧ s₂ = s₁) ∨
        Parameters (ps.map fun p => (p.1, dec p.2)) s₁ s₂) ∧ Alias a s₂ s := by
  have halias := alias_written h.alias_ident hs
  by_cases hlist : form = .root ∨ ps ≠ []
  · rw [if_pos hlist]
    have hends : WordEnds (writtenParameters enc ps ++ (writtenAlias a ++ s)) := wordEnds_cons _ (by decide +kernel)
    have hparameters := parameters_written henc h.parameter_ident h.distinct (writtenAlias a ++ s)
    exact ⟨_, _, ident_append h.ident hb hends, .inr hparameters, halias⟩
  · rw [if_neg hlist]
    obtain ⟨hform, hps⟩ := not_or.mp hlist
    have hnone : ps = [] := not_not.mp hps
    subst hnone
    exact ⟨_, _, ident_append h.ident hb (wordEnds_alias hs), .inl ⟨hform, rfl, rfl⟩, halias⟩

theorem body_written {P : Selection → List Char → List Char → Prop} {items : List Selection} (hne : items ≠ [])
    (h : ∀ t ∈ items, ∀ b s, Blank b → WordEnds s → P (t.mapValues dec) (b ++ (t.written enc ++ s)) s)
    (s : List Char) :
    Body P (Selection.mapValuesAll dec items) (writtenBody (Selection.writtenAll enc items) ++ s) s := by
  have hend : WordEnds (' ' :: '}' :: s) := wordEnds_cons _ (by decide +kernel)
  have hitems : Items P (items.map (·.mapValues dec))
      ([' '] ++ (listed (items.map (·.written enc)) ++ ' ' :: '}' :: s)) (' ' :: '}' :: s) :=
    items_listed hne h (fun _ => wordEnds_cons _ (by decide +kernel)) blank_singleton hend
  have htext : writtenBody (items.map (·.written enc)) ++ s =
      [' '] ++ '{' :: ([' '] ++ (listed (items.map (·.written enc)) ++ ' ' :: '}' :: s)) := by
    rw [writtenBody, if_neg (by simpa using hne)]
    simp
  rw [Selection.writtenAll_eq, Selection.mapValuesAll_eq, htext]
  exact ⟨_, _, sign_append '{' blank_singleton _, hitems, sign_append '}' blank_singleton s⟩

theorem wordEnds_body (enc : String → List Char) {items : List Selection} (hne : items ≠ []) (s : List Char) :
    WordEnds (writtenBody (Selection.writtenAll enc items) ++ s) := by
  rw [Selection.writtenAll_eq, writtenBody, if_neg (by simpa using hne)]
  exact wordEnds_cons _ (by decide +kernel)

/-- What is written of an item is read to it, by induction on the bodies in it. -/
theorem item_written (henc : Reads enc dec) (h : t.IsItem) (hd : t.nesting ≤ d) (hb : Blank b) (hs : WordEnds s) :
    Item d (t.mapValues dec) (b ++ (t.written enc ++ s)) s := by
  induction h generalizing d b s with
  | @leaf name aliasName h =>
    have hname := ident_append h.ident hb (wordEnds_alias (a := aliasName) hs)
    have halias := alias_written h.alias_ident hs
    have htext : (Selection.mk .leaf name aliasName [] []).written enc ++ s =
        name.toList ++ (writtenAlias aliasName ++ s) := by
      simp [Selection.written, Selection.writtenAll, writtenBody]
    have hleaf : Leaf (.mk .leaf name aliasName [] []) (b ++ (name.toList ++ (writtenAlias aliasName ++ s))) s :=
      ⟨name, aliasName, _, rfl, hname, halias⟩
    rw [htext]
    cases d with
    | zero => exact hleaf
    | succ d => exact .inl hleaf
  | @node name aliasName parameters children h hne hc ih =>
    cases d with
    | zero =>
      obtain ⟨c, cs, rfl⟩ := List.exists_cons_of_ne_nil hne
      have hlt : c.nesting < Selection.nestingAll (c :: cs) := Selection.nesting_lt List.mem_cons_self
      have hzero : Selection.nestingAll (c :: cs) ≤ 0 := hd
      omega
    | succ d =>
      have hitems : ∀ t ∈ children, ∀ b s, Blank b → WordEnds s →
          Item d (t.mapValues dec) (b ++ (t.written enc ++ s)) s := by
        intro t ht b s hb hs
        have hlt : t.nesting < Selection.nestingAll children := Selection.nesting_lt ht
        have hle : Selection.nestingAll children ≤ d + 1 := hd
        exact ih t ht (by omega) hb hs
      have hbody := body_written hne hitems s
      obtain ⟨s₁, s₂, hname, hlist, halias⟩ := head_written .node henc h hb (wordEnds_body enc hne s)
      rw [Selection.written, Selection.mapValues, List.append_assoc, List.append_assoc, List.append_assoc]
      exact .inr ⟨name, _, aliasName, _, s₁, s₂, _, rfl, hname, hlist.imp_left And.right, halias, hbody⟩

theorem root_written (henc : Reads enc dec) (h : t.Printable) : Root (t.mapValues dec) (t.written enc) := by
  obtain ⟨form, name, aliasName, parameters, children⟩ := t
  obtain ⟨hform, hhead, hne, hitems, hnesting⟩ := h
  have hform : form = .root := hform
  subst hform
  have hitem : ∀ t ∈ children, ∀ b s, Blank b → WordEnds s →
      Item (maxDepth - 1) (t.mapValues dec) (b ++ (t.written enc ++ s)) s := by
    intro t ht b s hb hs
    have hlt : t.nesting < Selection.nestingAll children := Selection.nesting_lt ht
    have hle : Selection.nestingAll children ≤ maxDepth := hnesting
    exact item_written henc (hitems t ht) (by omega) hb hs
  have hbody := body_written hne hitem []
  obtain ⟨s₁, s₂, hname, hlist, halias⟩ :=
    head_written .root henc hhead blank_nil (wordEnds_body enc hne [])
  have hparameters := hlist.resolve_left fun hno => hno.1 rfl
  rw [List.append_nil] at hname halias hbody
  rw [Selection.mapValues, Selection.written]
  exact ⟨name, _, aliasName, _, s₁, s₂, _, [], rfl, hname, hparameters, halias, hbody, blank_nil⟩

/-- Every query can be written and is read to itself again. Where the blanks at the ends of its values have no backslash,
it is read to itself with its values but without these blanks. -/
theorem parse_written (t : Selection) (h : t.Printable) :
    parse (String.ofList (t.written quoted)) = .ok t ∧
      parse (String.ofList (t.written escaped)) = .ok (t.mapValues fun v => String.ofList (trim v.toList)) := by
  have hquoted : Root t (t.written quoted) := by
    have hroot := root_written reads_quoted h
    rwa [Selection.mapValues_id] at hroot
  have hescaped := root_written reads_escaped h
  constructor
  · rw [parse_iff, String.toList_ofList]
    exact hquoted
  · rw [parse_iff, String.toList_ofList]
    exact hescaped

def nested : Selection :=
  .mk .root "f" (some "g") [("p", " a,b ")] [.mk .leaf "g" none [] [], .mk .node "g" none [] [.leaf "f"]]

theorem parse_written_nested :
    parse (String.ofList (nested.written quoted)) = .ok nested ∧
      parse (String.ofList (nested.written escaped)) = .ok (nested.mapValues fun v => String.ofList (trim v.toList)) := by
  have hf : IsIdent "f" := by decide +kernel
  have hg : IsIdent "g" := by decide +kernel
  have hp : IsIdent "p" := by decide +kernel
  have hplain : ∀ n, IsIdent n → IsHead n none [] := fun n hn => ⟨hn, by simp, by simp, List.nodup_nil⟩
  have hleaf : (Selection.leaf "f").IsItem := .leaf (hplain "f" hf)
  apply parse_written
  refine ⟨rfl, ⟨hf, by simpa [nested, Selection.aliasName] using hg, by simpa [nested, Selection.parameters] using hp,
    by decide⟩, by simp [nested, Selection.children], ?_, by decide⟩
  intro s hs
  rcases List.mem_cons.mp hs with hs | hs
  · subst hs
    exact .leaf (hplain "g" hg)
  · obtain rfl := List.mem_singleton.mp hs
    exact .node (hplain "g" hg) (by simp) (by simpa using hleaf)

example : String.ofList (nested.written quoted) = "f(p: \\ a\\,b\\ ) as g \x7b g, g \x7b f \x7d \x7d" := by decide +kernel

end RecordGraph.Query
