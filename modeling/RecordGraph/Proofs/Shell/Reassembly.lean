import RecordGraph.Proofs.Shell.Braces

namespace RecordGraph.Shell

open Text Query Grammar

/-- The text before the first brace that is opened. A backslash makes the next character count for nothing. -/
def beforeBrace : List Char → List Char
  | [] => []
  | '\\' :: c :: cs => '\\' :: c :: beforeBrace cs
  | c :: cs => if c = '{' then [] else c :: beforeBrace cs

def linesOf (cs : List Char) : List String := (cs.splitOn '\n').map String.ofList

theorem Flat.beforeBrace_append {u : List Char} (h : Flat u) (w : List Char) : beforeBrace (u ++ '{' :: w) = u := by
  induction h with
  | nil => rfl
  | escaped c _ ih => rw [List.cons_append, List.cons_append, beforeBrace, ih]
  | plain hb ho _ _ ih =>
    rw [List.cons_append, beforeBrace, if_neg ho, ih]
    intro d _ hd
    exact absurd hd hb

section Lines

variable {cs l t : List Char}

theorem linesOf_line (h : '\n' ∉ l) (t : List Char) : linesOf (l ++ '\n' :: t) = String.ofList l :: linesOf t := by
  rw [linesOf, List.splitOn_append_cons_self_of_not_mem h]
  rfl

theorem linesOf_last (h : '\n' ∉ l) : linesOf l = [String.ofList l] := by
  rw [linesOf, List.splitOn_eq_singleton h]
  rfl

theorem count_line (h : '\n' ∉ l) (t : List Char) : (l ++ '\n' :: t).count '\n' = t.count '\n' + 1 := by
  rw [List.count_append, List.count_cons_self, List.count_eq_zero_of_not_mem h, Nat.zero_add]

@[elab_as_elim] theorem line_induction {P : List Char → Prop} (last : ∀ l, '\n' ∉ l → P l)
    (line : ∀ l t, '\n' ∉ l → P t → P (l ++ '\n' :: t)) (t : List Char) : P t := by
  generalize hn : t.length = n
  induction n using Nat.strongRecOn generalizing t with
  | ind n ih =>
    by_cases h : '\n' ∈ t
    · obtain ⟨l, t, rfl, hl⟩ := List.eq_append_cons_of_mem h
      have hlt : t.length < n := by
        rw [← hn, List.length_append, List.length_cons]
        omega
      exact line l t hl (ih _ hlt t rfl)
    · exact last t h

/-- Of two places of a text that hold different characters one comes before the other. -/
theorem append_cons_cases {u t a s : List Char} {c d : Char} (hne : c ≠ d) (h : u ++ c :: t = a ++ d :: s) :
    (∃ y, u = a ++ d :: y ∧ s = y ++ c :: t) ∨ ∃ y, a = u ++ c :: y ∧ t = y ++ d :: s := by
  rcases List.append_eq_append_iff.mp h with ⟨y, rfl, hy⟩ | ⟨y, rfl, hy⟩
  · right
    cases y with
    | nil => exact absurd (List.cons.inj hy).1 hne
    | cons e y =>
      obtain ⟨rfl, ht⟩ := List.cons.inj hy
      exact ⟨y, rfl, ht⟩
  · left
    cases y with
    | nil => exact absurd (List.cons.inj hy).1.symm hne
    | cons e y =>
      obtain ⟨rfl, hs⟩ := List.cons.inj hy
      exact ⟨y, rfl, hs⟩

end Lines

namespace Session

variable {b line : List Char} (limits : PageLimits) (db : Database)

/-- Whether a line goes to the query that is open, or opens one: it is neither blank nor a command. -/
def Collected (b line : List Char) : Prop := b ≠ [] ∨ ∃ c ∈ (trim line).head?, startsWord c = true

theorem ofList_ne_empty (h : b ≠ []) : String.ofList b ≠ "" := by
  intro hb
  have hnil := congrArg String.toList hb
  rw [String.toList_ofList] at hnil
  exact h hnil

variable [Ids]

theorem feed_eq (h : Collected b line) : feed limits ⟨db, String.ofList b⟩ (String.ofList line) =
    if isIncomplete (String.ofList (b ++ line ++ ['\n'])) then (⟨db, String.ofList (b ++ line ++ ['\n'])⟩, .nothing)
    else
      let query := trimmed (String.ofList (b ++ line ++ ['\n']))
      (⟨((execute limits query).on db).2, ""⟩, .query query ((execute limits query).on db).1) := by
  have hblank : ¬(String.ofList b = "" ∧ trimmed (String.ofList line) = "") := by
    intro ⟨hb, hline⟩
    rcases h with h | ⟨c, hc, -⟩
    · exact ofList_ne_empty h hb
    · rw [trimmed, String.toList_ofList] at hline
      refine ofList_ne_empty ?_ hline
      intro hnil
      rw [hnil] at hc
      cases hc
  have hcommand : ¬(String.ofList b = "" ∧ (trimmed (String.ofList line)).startsWith "." = true) := by
    intro ⟨hb, hline⟩
    rcases h with h | ⟨c, hc, hstart⟩
    · exact ofList_ne_empty h hb
    · simp only [String.startsWith_string_iff, trimmed, String.toList_ofList] at hline
      obtain ⟨rest, hrest⟩ := hline
      rw [← hrest] at hc
      obtain rfl := Option.some.inj hc
      exact absurd hstart (by decide +kernel)
  have htext : String.ofList b ++ String.ofList line ++ "\n" = String.ofList (b ++ line ++ ['\n']) := by
    rw [String.ofList_append, String.ofList_append]
  simp only [feed, hblank, hcommand, if_false, htext]

theorem feed_of_open (h : Collected b line) (ho : 0 < openBraces (b ++ line ++ ['\n'])) :
    feed limits ⟨db, String.ofList b⟩ (String.ofList line) = (⟨db, String.ofList (b ++ line ++ ['\n'])⟩, .nothing) := by
  have hi : isIncomplete (String.ofList (b ++ line ++ ['\n'])) = true := by
    rw [isIncomplete, String.toList_ofList]
    exact decide_eq_true ho
  rw [feed_eq limits db h, if_pos hi]

theorem feed_of_closed (h : Collected b line) (hc : openBraces (b ++ line ++ ['\n']) = 0) :
    feed limits ⟨db, String.ofList b⟩ (String.ofList line) =
      let query := String.ofList (trim (b ++ line ++ ['\n']))
      (⟨((execute limits query).on db).2, ""⟩, .query query ((execute limits query).on db).1) := by
  have hi : ¬isIncomplete (String.ofList (b ++ line ++ ['\n'])) = true := by
    rw [isIncomplete, String.toList_ofList, hc]
    decide
  rw [feed_eq limits db h, if_neg hi, trimmed, String.toList_ofList]

theorem feed_of_blank (h : Blank line) : feed limits ⟨db, ""⟩ (String.ofList line) = (⟨db, ""⟩, .nothing) := by
  have hline : trimmed (String.ofList line) = "" := by
    rw [trimmed, String.toList_ofList, trim_of_blank h]
  simp only [feed, hline, and_self, if_true]

theorem feedAll_cons (s : Session) (line : String) (lines : List String) : s.feedAll limits (line :: lines) =
    (((s.feed limits line).1.feedAll limits lines).1,
      (s.feed limits line).2 :: ((s.feed limits line).1.feedAll limits lines).2) := rfl

theorem feedAll_blank {t : List Char} (h : Blank t) :
    feedAll limits ⟨db, ""⟩ (linesOf t) = (⟨db, ""⟩, List.replicate (t.count '\n' + 1) .nothing) := by
  induction t using line_induction with
  | last l hl =>
    rw [linesOf_last hl, feedAll_cons, feed_of_blank limits db h, List.count_eq_zero_of_not_mem hl]
    rfl
  | line l t hl ih =>
    obtain ⟨hblank, ht⟩ := List.forall_mem_append.mp h
    have hrest := ih (List.forall_mem_cons.mp ht).2
    rw [linesOf_line hl, feedAll_cons, feed_of_blank limits db hblank, hrest, count_line hl]
    rfl

end Session

namespace Layout

variable (l : Layout)

theorem beforeBrace_text : beforeBrace l.text = l.start := by
  rw [text_eq, upTo, List.append_assoc]
  exact l.flat_start.beforeBrace_append _

theorem not_mem_after : '}' ∉ l.after := fun h => absurd (l.blank_after _ h) (by decide)

theorem openBraces_line {a s : List Char} (h : l.text = a ++ '\n' :: s) (ha : l.start ++ ['{'] <+: a) (hs : '}' ∈ s) :
    0 < openBraces (a ++ ['\n']) := by
  obtain ⟨v, rfl⟩ := ha
  have hplaces : l.inner ++ '}' :: l.after = v ++ '\n' :: s := by
    simpa [text_eq, upTo] using h
  rcases append_cons_cases (by decide) hplaces with ⟨y, hy, -⟩ | ⟨y, -, hafter⟩
  · have hv : v ++ ['\n'] <+: l.inner := ⟨y, by rw [hy, List.append_assoc]; rfl⟩
    simpa using l.openBraces_pos hv
  · exact absurd (hafter ▸ List.mem_append_right y (List.mem_cons_of_mem _ hs)) l.not_mem_after

theorem exists_start (hn : '\n' ∉ l.start) {a s : List Char} (h : l.upTo = a ++ '\n' :: s) :
    ∃ y, a = l.start ++ '{' :: y := by
  rcases append_cons_cases (by decide) h with ⟨y, hy, -⟩ | ⟨y, hy, -⟩
  · exact absurd (hy ▸ by simp) hn
  · exact ⟨y, hy⟩

/-- The first line of a query goes up to its first brace at least, so it is collected like those after it. -/
theorem collected {b line : List Char} (h : b = [] → ∃ y, line = l.start ++ '{' :: y) : Session.Collected b line := by
  by_cases hb : b = []
  · obtain ⟨y, rfl⟩ := h hb
    obtain ⟨c, hc, hstart⟩ := l.starts
    obtain ⟨head, hhead⟩ : ∃ head, l.head = c :: head := List.head?_eq_some_iff.mp hc
    have htext : l.start ++ '{' :: y = l.before ++ c :: (head ++ '{' :: y) := by simp [start, hhead]
    refine .inr ⟨c, ?_, hstart⟩
    rw [htext]
    exact head?_trim_append l.blank_before (not_isBlank_of_startsWord hstart)
  · exact .inl hb

variable [Ids]

/-- The line with the last brace runs the query, and nothing else of that line is left. -/
theorem feed_last (limits : PageLimits) (db : Database) {x b e : List Char} (hbx : b ++ x = l.upTo) (he : Blank e) :
    Session.feed limits ⟨db, String.ofList b⟩ (String.ofList (x ++ '}' :: e)) =
      (⟨((execute limits (String.ofList l.core)).on db).2, ""⟩,
        .query (String.ofList l.core) ((execute limits (String.ofList l.core)).on db).1) := by
  have hline : Session.Collected b (x ++ '}' :: e) := by
    refine l.collected fun hb => ⟨l.inner ++ '}' :: e, ?_⟩
    rw [hb, List.nil_append] at hbx
    rw [hbx, upTo, List.append_assoc, List.cons_append]
  have hend : Blank (e ++ ['\n']) := List.forall_mem_append.mpr ⟨he, blank_of_isBlank (by decide)⟩
  have htext : b ++ (x ++ '}' :: e) ++ ['\n'] = l.upTo ++ '}' :: (e ++ ['\n']) := by
    rw [← hbx]
    simp
  have hclosed : openBraces (b ++ (x ++ '}' :: e) ++ ['\n']) = 0 := htext ▸ l.openBraces_closed hend
  rw [Session.feed_of_closed limits db hline hclosed, htext, l.trim_upTo hend]

theorem feed_line (limits : PageLimits) (db : Database) (hn : '\n' ∉ l.start) {a x b : List Char}
    (hbx : b ++ (a ++ '\n' :: x) = l.upTo) :
    Session.feed limits ⟨db, String.ofList b⟩ (String.ofList a) = (⟨db, String.ofList (b ++ a ++ ['\n'])⟩, .nothing) := by
  have hplace : l.upTo = b ++ a ++ '\n' :: x := by rw [← hbx, List.append_assoc]
  obtain ⟨y, hy⟩ := l.exists_start hn hplace
  have hline : Session.Collected b a := by
    refine l.collected fun hb => ⟨y, ?_⟩
    rwa [hb, List.nil_append] at hy
  have hopen : 0 < openBraces (b ++ a ++ ['\n']) := by
    refine l.openBraces_line (s := x ++ '}' :: l.after) ?_ ?_ (by simp)
    · rw [text_eq, hplace, List.append_assoc, List.cons_append]
    · exact ⟨y, by rw [hy, List.append_assoc]; rfl⟩
  exact Session.feed_of_open limits db hline hopen

theorem feedAll_rest (limits : PageLimits) (db : Database) (hn : '\n' ∉ l.start) (x b : List Char) (hbx : b ++ x = l.upTo) :
    Session.feedAll limits ⟨db, String.ofList b⟩ (linesOf (x ++ '}' :: l.after)) =
      (⟨((execute limits (String.ofList l.core)).on db).2, ""⟩,
        List.replicate (x.count '\n') .nothing ++
          .query (String.ofList l.core) ((execute limits (String.ofList l.core)).on db).1 ::
            List.replicate (l.after.count '\n') .nothing) := by
  induction x using line_induction generalizing b with
  | last x hx =>
    rw [List.count_eq_zero_of_not_mem hx]
    by_cases hafter : '\n' ∈ l.after
    · -- The line with the last brace ends there, and the lines after it are blank.
      obtain ⟨e, t, ht, he⟩ := List.eq_append_cons_of_mem hafter
      obtain ⟨hblank, hrest⟩ := List.forall_mem_append.mp (ht ▸ l.blank_after)
      have hline : '\n' ∉ x ++ '}' :: e := by simp [hx, he]
      have hlast := l.feed_last limits db hbx hblank
      have htail := Session.feedAll_blank limits ((execute limits (String.ofList l.core)).on db).2
        (List.forall_mem_cons.mp hrest).2
      have htext : x ++ '}' :: l.after = (x ++ '}' :: e) ++ '\n' :: t := by simp [ht]
      have hcount : l.after.count '\n' = t.count '\n' + 1 := by rw [ht, count_line he]
      rw [htext, linesOf_line hline, Session.feedAll_cons, hlast, htail, hcount]
      rfl
    · have hline : '\n' ∉ x ++ '}' :: l.after := by simp [hx, hafter]
      have hlast := l.feed_last limits db hbx l.blank_after
      rw [linesOf_last hline, Session.feedAll_cons, hlast, List.count_eq_zero_of_not_mem hafter]
      rfl
  | line a x ha ih =>
    have hrest := ih (b ++ a ++ ['\n']) (by rw [← hbx]; simp)
    rw [List.append_assoc, List.cons_append, linesOf_line ha, Session.feedAll_cons, l.feed_line limits db hn hbx, hrest,
      count_line ha]
    rfl

end Layout

/-- A text that can be read is reassembled from its lines. At a line feed between its first brace and its last one a brace is
open, and at its end none is. If it has no line feed before its first brace, then its lines up to the last brace lead to
nothing, the line with that brace runs the query, and what comes after leads to nothing. -/
theorem feedAll_linesOf [Ids] {q : String} {t : Selection} (hq : Query.parse q = .ok t) :
    (∀ a s, q.toList = a ++ '\n' :: s → beforeBrace q.toList ++ ['{'] <+: a → '}' ∈ s →
        isIncomplete (String.ofList (a ++ ['\n'])) = true) ∧
      isIncomplete q = false ∧
      ('\n' ∉ beforeBrace q.toList → ∃ a s, q.toList = a ++ '}' :: s ∧ '}' ∉ s ∧ ∀ limits db,
        (⟨db, ""⟩ : Session).feedAll limits (linesOf q.toList) =
          (⟨((execute limits q).on db).2, ""⟩,
            List.replicate (a.count '\n') .nothing ++ .query (trimmed q) ((execute limits q).on db).1 ::
              List.replicate (s.count '\n') .nothing)) := by
  obtain ⟨l, hl, hroot⟩ := exists_layout (parse_iff.mp hq)
  have hstart : beforeBrace q.toList = l.start := by rw [hl, l.beforeBrace_text]
  refine ⟨?_, ?_, ?_⟩
  · intro a s hplace ha hs
    rw [isIncomplete, String.toList_ofList]
    exact decide_eq_true (l.openBraces_line (hl ▸ hplace) (hstart ▸ ha) hs)
  · rw [isIncomplete, hl, l.text_eq, l.openBraces_closed l.blank_after]
    rfl
  · intro hn
    refine ⟨l.upTo, l.after, hl.trans l.text_eq, l.not_mem_after, fun limits db => ?_⟩
    have htrim : trimmed q = String.ofList l.core := by rw [trimmed, hl, l.text_eq, l.trim_upTo l.blank_after]
    have hcore : Query.parse (String.ofList l.core) = .ok t := by
      refine parse_iff.mpr ?_
      rw [String.toList_ofList]
      simpa using hroot [] [] blank_nil blank_nil
    have hrun : execute limits (String.ofList l.core) = execute limits q := by
      rw [execute, execute, hcore, hq]
    have hall := l.feedAll_rest limits db (hstart ▸ hn) l.upTo [] rfl
    rw [htrim, ← hrun, hl, l.text_eq]
    exact hall

def spreadQuery : String := "node(type: A, id: 1) \x7b\n  b(n: \\\x7d\\\n\n\\\x7b) as c \x7b\n    name\n  \x7d\n\x7d\n"

open scoped Ids in
theorem feedAll_spreadQuery :
    (∃ t, Query.parse spreadQuery = .ok t) ∧
      isIncomplete (String.ofList ("node(type: A, id: 1) \x7b\n  b(n: \\\x7d\\".toList ++ ['\n'])) = true ∧
      isIncomplete spreadQuery = false ∧
      '\n' ∉ beforeBrace spreadQuery.toList ∧
      ∃ a s, spreadQuery.toList = a ++ '}' :: s ∧ '}' ∉ s ∧ ∀ limits db,
        (⟨db, ""⟩ : Session).feedAll limits (linesOf spreadQuery.toList) =
          (⟨((execute limits spreadQuery).on db).2, ""⟩,
            List.replicate (a.count '\n') .nothing ++ .query (trimmed spreadQuery) ((execute limits spreadQuery).on db).1 ::
              List.replicate (s.count '\n') .nothing) := by
  have hread : (Query.parse spreadQuery).isOk = true := by decide +kernel
  obtain ⟨t, hq⟩ : ∃ t, Query.parse spreadQuery = .ok t := by
    cases h : Query.parse spreadQuery with
    | ok t => exact ⟨t, rfl⟩
    | error e =>
      rw [h] at hread
      cases hread
  have hn : '\n' ∉ beforeBrace spreadQuery.toList := by decide
  obtain ⟨hopen, hclosed, hall⟩ := feedAll_linesOf hq
  refine ⟨⟨t, hq⟩, ?_, hclosed, hn, hall hn⟩
  exact hopen _ "\n\\\x7b) as c \x7b\n    name\n  \x7d\n\x7d\n".toList (by decide) (by decide) (by decide)

end RecordGraph.Shell
