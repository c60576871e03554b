import RecordGraph.Proofs.Engine.Reachable
import RecordGraph.Proofs.Query.Writing

namespace RecordGraph.Query

open Text Grammar

def fieldQuery (T id n : String) : String := "node(type: " ++ T ++ ", id: " ++ id ++ ") \x7b " ++ n ++ " \x7d"

def inId (c : Char) : Bool := isLetter c || isNumeral c || c == '-'

/-- Whether a text stands for itself where a value is read: no character of it needs a backslash, and none is a blank. -/
def IsPlain (v : String) : Prop := ∀ c ∈ v.toList, isSpecial c = false ∧ isBlank c = false

variable {c : Cursor} {l : Lexeme} {s s' : List Char} {v n T id : String} {ch : Char}

theorem isLetter_of_isAlpha (h : ch.isAlpha = true) : isLetter ch = true := by
  have hlow : ch.toNat < 0x80 := by
    have halpha : ch.isAlpha = (decide (ch.val ≥ 65 ∧ ch.val ≤ 90) || (ch.val ≥ 97 && ch.val ≤ 122)) := rfl
    simp only [halpha, Bool.or_eq_true, Bool.and_eq_true, decide_eq_true_eq, ge_iff_le, UInt32.le_iff_toNat_le] at h
    change ch.val.toNat < 0x80
    rcases h with h | h
    · exact Nat.lt_of_le_of_lt h.2 (by decide)
    · exact Nat.lt_of_le_of_lt h.2 (by decide)
  rw [isLetter, if_pos hlow]
  exact h

theorem isNumeral_of_isDigit (h : ch.isDigit = true) : isNumeral ch = true := by
  have hlow : ch.toNat < 0x80 := by
    have hdigit : ch.isDigit = (decide (ch.val ≥ 48) && ch.val ≤ 57) := rfl
    simp only [hdigit, Bool.and_eq_true, decide_eq_true_eq, ge_iff_le, UInt32.le_iff_toNat_le] at h
    exact Nat.lt_of_le_of_lt h.2 (by decide)
  rw [isNumeral, if_pos hlow]
  exact h

theorem plain_of_inId (h : inId ch = true) : isSpecial ch = false ∧ isBlank ch = false := by
  constructor
  · cases hs : isSpecial ch with
    | false => rfl
    | true =>
      simp only [isSpecial, isStructural, Bool.or_eq_true, beq_iff_eq] at hs
      rcases hs with ((((((rfl | rfl) | rfl) | rfl) | rfl) | rfl) | rfl) | rfl <;> exact absurd h (by decide +kernel)
  · cases hb : isBlank ch with
    | false => rfl
    | true =>
      have hpoints : ∀ k ∈ blankPoints, inId (Char.ofNat k) = false := by decide +kernel
      have hch := hpoints _ (toNat_mem_blankPoints hb)
      rw [Char.ofNat_toNat, h] at hch
      cases hch

theorem isPlain_of_word (h : IsAsciiWord v) : IsPlain v := by
  intro ch hch
  apply plain_of_inId
  have halpha : ch.isAlphanum = true := h.2 ch hch
  rw [Char.isAlphanum, Bool.or_eq_true] at halpha
  rw [inId, Bool.or_eq_true, Bool.or_eq_true]
  exact .inl (halpha.imp isLetter_of_isAlpha isNumeral_of_isDigit)

theorem word_of_identifier (h : IsAsciiIdentifier n) :
    (∃ ch ∈ n.toList.head?, startsWord ch = true) ∧ ∀ ch ∈ n.toList, continuesWord ch = true := by
  obtain ⟨hne, hall, hhead⟩ := h
  have hclass : ∀ ch ∈ n.toList, startsWord ch = true ∨ ch.isDigit = true := by
    intro ch hch
    rcases hall ch hch with h | rfl
    · rw [Char.isAlphanum, Bool.or_eq_true] at h
      refine h.imp_left fun h => ?_
      rw [startsWord, isLetter_of_isAlpha h]
      rfl
    · exact .inl rfl
  constructor
  · cases hs : n.toList with
    | nil => exact absurd (String.toList_eq_nil_iff.mp hs) hne
    | cons ch cs =>
      have hdigit : ¬ch.isDigit = true := hhead ch (by rw [hs]; rfl)
      have hstart := (hclass ch (by rw [hs]; exact List.mem_cons_self)).resolve_right hdigit
      exact ⟨ch, rfl, hstart⟩
  · intro ch hch
    rcases hclass ch hch with h | h
    · exact continuesWord_of_startsWord h
    · rw [continuesWord, isNumeral_of_isDigit h]
      simp

theorem value_plain (h : IsPlain v) (s : List Char) : Grammar.Value v (v.toList ++ s) s := by
  have hspelled : spelled (v.toList.map (·, false)) = v.toList := by
    simp [spelled, List.flatMap_map]
  have hspecial : ∀ p ∈ v.toList.map (·, false), p.2 = false → isSpecial p.1 = false := by
    intro p hp _
    obtain ⟨ch, hch, rfl⟩ := List.mem_map.mp hp
    exact (h ch hch).1
  have hloose : ∀ p ∈ v.toList.map (·, false), isLoose p = false := by
    intro p hp
    obtain ⟨ch, hch, rfl⟩ := List.mem_map.mp hp
    exact (h ch hch).2
  have hfirm : Firm (v.toList.map (·, false)) :=
    ⟨fun p hp => hloose p (List.mem_of_mem_head? hp), fun p hp => hloose p (List.mem_of_mem_getLast? hp)⟩
  refine ⟨v.toList.map (·, false), ?_, ?_⟩
  · have hrun := run_spelled (s := s) hspecial
    rwa [hspelled] at hrun
  · rw [hfirm.decoded_eq]
    simp [Function.comp_def]

/-- A lexeme takes every reading one step on. -/
theorem outcome_of_lex (hc : c.rest = s) (h : Lex l s s') : ∃ (p : Position) (d : Cursor), d.rest = s' ∧
    ∀ r : Reading, r.outcome c.lexemes = (r.step (l, p)).bind fun r => r.outcome d.lexemes := by
  subst hc
  obtain ⟨p, d, hd, hlex⟩ := Cursor.lexemes_of_lex h
  refine ⟨p, d, hd, fun r => ?_⟩
  rw [hlex, Reading.outcome_cons]

def fieldQueryHead (T id : String) (s : List Char) : List Char :=
  "node".toList ++ '(' :: ("type".toList ++ ':' :: ([' '] ++ (T.toList ++ ',' :: ([' '] ++ ("id".toList ++ ':' ::
    ([' '] ++ (id.toList ++ ')' :: ([' '] ++ '{' :: s))))))))

def inFieldQuery (T id : String) : Reading := ⟨[⟨⟨"node", some [("type", T), ("id", id)], none⟩, []⟩], .items⟩

theorem lex_name (h : IsIdent n) (b : List Char) (hb : Blank b) (hs : WordEnds s) :
    Lex (.token (.name n)) (b ++ (n.toList ++ s)) s := lex_ident.mpr (ident_append h hb hs)

theorem lex_char (ch : Char) {token : Token} (hch : Token.ofChar? ch = some token) (hne : token ≠ .colon) (b : List Char)
    (hb : Blank b) (s : List Char) : Lex (.token token) (b ++ ch :: s) s := (lex_sign hch hne).mpr (sign_append ch hb s)

theorem lex_plain (h : IsPlain v) (hs : Stops s) : Lex (.value v) (':' :: ([' '] ++ (v.toList ++ s))) s :=
  ⟨_, sign_append ':' blank_nil _, (value_plain h s).blank_append blank_singleton, hs⟩

theorem outcome_fieldQueryHead (hT : IsPlain T) (hid : IsPlain id) (hc : c.rest = fieldQueryHead T id s) :
    ∃ d : Cursor, d.rest = s ∧ Reading.start.outcome c.lexemes = (inFieldQuery T id).outcome d.lexemes := by
  have hstops : ∀ (ch : Char) (s : List Char), isStructural ch = true → Stops (ch :: s) := by
    intro ch s h d hd
    obtain rfl : ch = d := Option.some.inj hd
    exact h
  have hends : ∀ (ch : Char) (s : List Char), continuesWord ch = false → WordEnds (ch :: s) := fun ch s =>
    wordEnds_cons s
  obtain ⟨p₁, c₁, h₁, e₁⟩ := outcome_of_lex hc (lex_name (n := "node") (by decide +kernel) [] blank_nil
    (hends '(' _ (by decide +kernel)))
  obtain ⟨p₂, c₂, h₂, e₂⟩ := outcome_of_lex h₁ (lex_char '(' rfl (by decide) [] blank_nil _)
  obtain ⟨p₃, c₃, h₃, e₃⟩ := outcome_of_lex h₂ (lex_name (n := "type") (by decide +kernel) [] blank_nil
    (hends ':' _ (by decide +kernel)))
  obtain ⟨p₄, c₄, h₄, e₄⟩ := outcome_of_lex h₃ (lex_plain hT (hstops ',' _ (by decide)))
  obtain ⟨p₅, c₅, h₅, e₅⟩ := outcome_of_lex h₄ (lex_char ',' rfl (by decide) [] blank_nil _)
  obtain ⟨p₆, c₆, h₆, e₆⟩ := outcome_of_lex h₅ (lex_name (n := "id") (by decide +kernel) [' '] blank_singleton
    (hends ':' _ (by decide +kernel)))
  obtain ⟨p₇, c₇, h₇, e₇⟩ := outcome_of_lex h₆ (lex_plain hid (hstops ')' _ (by decide)))
  obtain ⟨p₈, c₈, h₈, e₈⟩ := outcome_of_lex h₇ (lex_char ')' rfl (by decide) [] blank_nil _)
  obtain ⟨p₉, c₉, h₉, e₉⟩ := outcome_of_lex h₈ (lex_char '{' rfl (by decide) [' '] blank_singleton _)
  refine ⟨c₉, h₉, ?_⟩
  rw [e₁]
  show Reading.outcome _ c₁.lexemes = _
  rw [e₂]
  show Reading.outcome _ c₂.lexemes = _
  rw [e₃]
  show Reading.outcome _ c₃.lexemes = _
  rw [e₄]
  show Reading.outcome _ c₄.lexemes = _
  rw [e₅]
  show Reading.outcome _ c₅.lexemes = _
  rw [e₆]
  show Reading.outcome _ c₆.lexemes = _
  rw [e₇]
  show Reading.outcome _ c₇.lexemes = _
  rw [e₈]
  show Reading.outcome _ c₈.lexemes = _
  rw [e₉]
  rfl

theorem rest_fieldQuery :
    (Cursor.ofText (fieldQuery T id n)).rest = fieldQueryHead T id ([' '] ++ (n.toList ++ ([' '] ++ ['}']))) := by
  have hrest : (Cursor.ofText (fieldQuery T id n)).rest = "node(type: ".toList ++ (T.toList ++ (", id: ".toList ++
      (id.toList ++ (") \x7b ".toList ++ (n.toList ++ " \x7d".toList))))) := by
    show ("node(type: " ++ T ++ ", id: " ++ id ++ ") \x7b " ++ n ++ " \x7d").toList = _
    simp only [String.toList_append, List.append_assoc]
  exact hrest.trans rfl

theorem parse_fieldQuery (hT : IsPlain T) (hid : IsPlain id) (hn : IsIdent n) :
    parse (fieldQuery T id n) = .ok (.mk .root "node" none [("type", T), ("id", id)] [.leaf n]) := by
  obtain ⟨c₁, h₁, e₁⟩ := outcome_fieldQueryHead hT hid (rest_fieldQuery (n := n))
  obtain ⟨p₂, c₂, h₂, e₂⟩ := outcome_of_lex h₁ (lex_name hn [' '] blank_singleton (wordEnds_cons _ (by decide +kernel)))
  obtain ⟨p₃, c₃, h₃, e₃⟩ := outcome_of_lex h₂ (lex_char '}' rfl (by decide) [' '] blank_singleton [])
  obtain ⟨p₄, h₄⟩ := Cursor.lexemes_of_blank (c := c₃) (by rw [h₃]; exact blank_nil)
  show Reading.start.outcome _ = _
  rw [e₁, e₂]
  show Reading.outcome _ c₂.lexemes = _
  rw [e₃]
  show Reading.outcome _ c₃.lexemes = _
  rw [h₄]
  rfl

/-- The query for a field `as`: the word stands where a field has to come. -/
theorem parse_fieldQuery_as (hT : IsPlain T) (hid : IsPlain id) :
    ∃ p, parse (fieldQuery T id "as") = .error ⟨.expected .fieldOrClose .asWord, p⟩ := by
  obtain ⟨c₁, h₁, e₁⟩ := outcome_fieldQueryHead hT hid (rest_fieldQuery (n := "as"))
  have hword : Word "as" ([' '] ++ ("as".toList ++ ([' '] ++ ['}']))) ([' '] ++ ['}']) :=
    ⟨[' '], "as".toList, blank_singleton, rfl, by decide, (Option.any_eq_true ..).mp (by decide +kernel),
      List.all_eq_true.mp (by decide +kernel), wordEnds_cons _ (by decide +kernel)⟩
  obtain ⟨p₂, c₂, -, e₂⟩ := outcome_of_lex h₁ (lex_as.mpr hword)
  refine ⟨p₂, ?_⟩
  show Reading.start.outcome _ = _
  rw [e₁, e₂]
  rfl

variable {db : Database} {t : RecordType} {f : Field}

/-- In every catalog that can be reached, every field but one named `as` can be selected by its name. The name `as` is
accepted for a field too, and no query can select it. -/
theorem parse_field [Ids] (h : db.Reachable) (ht : db.catalog.requireNode T = .ok t) (hf : f ∈ t.fields.values)
    (hid : ∀ ch ∈ id.toList, inId ch = true) :
    (f.name ≠ "as" →
      parse (fieldQuery T id f.name) = .ok (.mk .root "node" none [("type", T), ("id", id)] [.leaf f.name])) ∧
    (f.name = "as" → ∃ p, parse (fieldQuery T id f.name) = .error ⟨.expected .fieldOrClose .asWord, p⟩) := by
  have hsound : t.Sound := h.wellFormed.toRegular.sound ht
  have hname : t.name = T := h.wellFormed.name_of_type? (Catalog.requireNode_ok.mp ht).1
  have hT : IsPlain T := hname ▸ isPlain_of_word hsound.name
  have hplain : IsPlain id := fun ch hch => plain_of_inId (hid ch hch)
  constructor
  · intro has
    have hidentifier : IsAsciiIdentifier f.name := by
      obtain ⟨e, he, rfl⟩ := List.mem_map.mp hf
      exact hsound.fields_named e he ▸ hsound.field_name e he
    have hword := word_of_identifier hidentifier
    exact parse_fieldQuery hT hplain ⟨hword.1, hword.2, has⟩
  · intro has
    rw [has]
    exact parse_fieldQuery_as hT hplain

def withField (n : String) : List Event :=
  [.process .createType [("name", "A")], .perform .createType 0,
    .process .createField [("type", "A"), ("fieldName", n), ("fieldType", "string")], .perform .createField 1]

section

open scoped Ids

theorem requireNode_withField_as : (Engine.initial.run .standard (withField "as")).db.catalog.requireNode "A" =
    .ok ⟨"A", true, [(idName, .id), ("as", ⟨"as", .string, false, false, none, none⟩)], [(idName, .id)]⟩ := by decide +kernel

theorem parse_field_withField :
    parse (fieldQuery "A" "x-1" "note") = .ok (.mk .root "node" none [("type", "A"), ("id", "x-1")] [.leaf "note"]) ∧
      ∃ p, parse (fieldQuery "A" "x-1" "as") = .error ⟨.expected .fieldOrClose .asWord, p⟩ := by
  have hreach : ∀ n, (Engine.initial.run .standard (withField n)).db.Reachable := fun n => Database.Reachable.initial.run
  have hnote : (Engine.initial.run .standard (withField "note")).db.catalog.requireNode "A" =
      .ok ⟨"A", true, [(idName, .id), ("note", ⟨"note", .string, false, false, none, none⟩)], [(idName, .id)]⟩ := by decide +kernel
  have hid : ∀ ch ∈ "x-1".toList, inId ch = true := List.all_eq_true.mp (by decide +kernel)
  have hread := (parse_field (hreach "note") hnote (f := ⟨"note", .string, false, false, none, none⟩) (by simp [Entries.values]) hid).1
  have hrefused := (parse_field (hreach "as") requireNode_withField_as (f := ⟨"as", .string, false, false, none, none⟩)
    (by simp [Entries.values]) hid).2
  exact ⟨hread (by decide), hrefused rfl⟩

/-- Not every field can be selected. -/
theorem not_parse_every_field : ¬∀ (db : Database) (T : String) (t : RecordType) (f : Field) (id : String), db.Reachable →
    db.catalog.requireNode T = .ok t → f ∈ t.fields.values → (∀ ch ∈ id.toList, inId ch = true) →
    parse (fieldQuery T id f.name) = .ok (.mk .root "node" none [("type", T), ("id", id)] [.leaf f.name]) := by
  intro hevery
  have hread := hevery _ "A" _ ⟨"as", .string, false, false, none, none⟩ "x" Database.Reachable.initial.run
    requireNode_withField_as (by simp [Entries.values]) (List.all_eq_true.mp (by decide +kernel))
  have hA : IsPlain "A" := isPlain_of_word ⟨by decide, List.all_eq_true.mp (by decide +kernel)⟩
  have hx : IsPlain "x" := isPlain_of_word ⟨by decide, List.all_eq_true.mp (by decide +kernel)⟩
  obtain ⟨p, hrefused⟩ := parse_fieldQuery_as hA hx
  rw [hrefused] at hread
  cases hread

end

end RecordGraph.Query
