import RecordGraph.Shell.Completion
import Mathlib.Data.List.Induction

namespace RecordGraph.Shell

open Text

variable {front word : List Char} {w : String}

def lastEnd? (cs : List Char) : Option Char := cs.reverse.find? endsWord

/-- What stands at the end of a text and can be completed: it goes back to a character that ends a word, or to the start. -/
structure IsLastWord (front word : List Char) : Prop where
  inside : ∀ c ∈ word, endsWord c = false
  starts : ∀ c ∈ front.getLast?, endsWord c = true

theorem mem_vocabulary : w ∈ vocabulary ↔ w ∈ Call.all.map Call.name ∨ w ∈ otherWords := by
  rw [vocabulary, List.mem_eraseDups, List.mem_mergeSort, List.mem_append]

/-- The position of the next character is counted up along with the start of the word. -/
theorem foldl_wordStart (cs : List Char) :
    cs.foldl (fun (at_, start) c => (at_ + c.utf8Size, if endsWord c then at_ + 1 else start)) (0, 0) =
      (byteSize cs, wordStart cs) := by
  refine Prod.ext ?_ rfl
  induction cs using List.reverseRecOn with
  | nil => rfl
  | append_singleton cs c ih =>
    rw [List.foldl_append, byteSize_append, List.foldl_cons, List.foldl_nil, byteSize_singleton]
    exact congrArg (· + c.utf8Size) ih

theorem wordStart_concat (cs : List Char) (c : Char) :
    wordStart (cs ++ [c]) = if endsWord c then byteSize cs + 1 else wordStart cs := by
  rw [wordStart, List.foldl_append, foldl_wordStart]
  rfl

theorem wordStart_append (front : List Char) (h : ∀ c ∈ word, endsWord c = false) :
    wordStart (front ++ word) = wordStart front := by
  induction word using List.reverseRecOn with
  | nil => rw [List.append_nil]
  | append_singleton word c ih =>
    obtain ⟨hword, hc⟩ := List.forall_mem_append.mp h
    rw [← List.append_assoc, wordStart_concat, hc c (List.mem_singleton_self c), if_neg Bool.false_ne_true, ih hword]

theorem lastEnd?_append (front : List Char) (h : ∀ c ∈ word, endsWord c = false) :
    lastEnd? (front ++ word) = lastEnd? front := by
  have hnone : word.reverse.find? endsWord = none := by
    rw [List.find?_eq_none]
    intro c hc
    rw [h c (List.mem_reverse.mp hc)]
    exact Bool.false_ne_true
  rw [lastEnd?, List.reverse_append, List.find?_append, hnone, Option.none_or]
  rfl

theorem lastEnd?_concat (cs : List Char) {c : Char} (h : endsWord c = true) : lastEnd? (cs ++ [c]) = some c := by
  rw [lastEnd?, List.reverse_append, List.reverse_singleton, List.singleton_append, List.find?_cons_of_pos h]

theorem exists_lastWord (cs : List Char) : ∃ front word, cs = front ++ word ∧ IsLastWord front word := by
  induction cs using List.reverseRecOn with
  | nil => exact ⟨[], [], rfl, by simp, by simp⟩
  | append_singleton cs c ih =>
    cases hc : endsWord c with
    | true => exact ⟨cs ++ [c], [], (List.append_nil _).symm, by simp, by simpa using hc⟩
    | false =>
      obtain ⟨front, word, rfl, h⟩ := ih
      refine ⟨front, word ++ [c], List.append_assoc .., ?_, h.starts⟩
      exact List.forall_mem_append.mpr ⟨h.inside, by simpa using hc⟩

namespace IsLastWord

variable (h : IsLastWord front word)
include h

theorem front_cases : (front = [] ∧ lastEnd? (front ++ word) = none ∧ wordStart (front ++ word) = 0) ∨
    ∃ cs c, front = cs ++ [c] ∧ lastEnd? (front ++ word) = some c ∧ wordStart (front ++ word) = byteSize cs + 1 := by
  rw [lastEnd?_append front h.inside, wordStart_append front h.inside]
  rcases List.eq_nil_or_concat front with rfl | ⟨cs, c, hfront⟩
  · exact .inl ⟨rfl, rfl, rfl⟩
  · obtain rfl : front = cs ++ [c] := hfront.trans (List.concat_eq_append ..)
    have hc : endsWord c = true := h.starts c (by simp)
    rw [lastEnd?_concat cs hc, wordStart_concat, if_pos hc]
    exact .inr ⟨cs, c, rfl, rfl, rfl⟩

/-- The word starts between two characters exactly if the one before it takes one byte. -/
theorem between_iff : Between (wordStart (front ++ word)) (front ++ word) ↔
    ∀ c ∈ lastEnd? (front ++ word), c.utf8Size = 1 := by
  rcases h.front_cases with ⟨rfl, hend, hstart⟩ | ⟨cs, c, rfl, hend, hstart⟩
  · rw [hend, hstart]
    exact iff_of_true (between_start _) (by simp)
  · rw [hend, hstart, List.append_assoc, List.singleton_append, between_succ]
    simp

theorem wordStart_le : wordStart (front ++ word) ≤ byteSize (front ++ word) := by
  rcases h.front_cases with ⟨-, -, hstart⟩ | ⟨cs, c, rfl, -, hstart⟩
  · rw [hstart]
    exact Nat.zero_le _
  · have hpos := c.utf8Size_pos
    rw [hstart, byteSize_append, byteSize_append, byteSize_singleton]
    omega

theorem byteSize_front (hb : Between (wordStart (front ++ word)) (front ++ word)) :
    wordStart (front ++ word) = byteSize front := by
  have hone := h.between_iff.mp hb
  rcases h.front_cases with ⟨rfl, -, hstart⟩ | ⟨cs, c, rfl, hend, hstart⟩
  · exact hstart
  · rw [hstart, byteSize_append, byteSize_singleton, hone c hend]

end IsLastWord

section Words

variable {h : String}

theorem mem_candidates : w ∈ candidates word ↔ w ∈ vocabulary ∧ word <+: w.toList := by
  rw [candidates, List.mem_filter, List.isPrefixOf_iff_prefix]

theorem isLonger_iff : (word.isPrefixOf w.toList && decide (word.length < w.length)) = true ↔
    word <+: w.toList ∧ word ≠ w.toList := by
  rw [Bool.and_eq_true, List.isPrefixOf_iff_prefix, decide_eq_true_eq, ← String.length_toList]
  refine and_congr_right fun hbegins => ⟨fun hlt heq => ?_, fun hne => ?_⟩
  · rw [← heq] at hlt
    exact Nat.lt_irrefl _ hlt
  · have hle := hbegins.length_le
    have hne : word.length ≠ w.toList.length := fun heq => hne (hbegins.eq_of_length heq)
    omega

theorem continuation?_isSome : (continuation? word).isSome ↔
    word ≠ [] ∧ ∃ w ∈ vocabulary, word <+: w.toList ∧ word ≠ w.toList := by
  unfold continuation?
  split
  · next hnil => simp [List.isEmpty_iff.mp hnil]
  · next hnil =>
    rw [Option.isSome_map, List.find?_isSome]
    refine ⟨fun ⟨w, hw, hlonger⟩ => ⟨by simpa using hnil, w, hw, isLonger_iff.mp hlonger⟩, ?_⟩
    exact fun ⟨_, w, hw, hlonger⟩ => ⟨w, hw, isLonger_iff.mpr hlonger⟩

/-- The characters together with what is missing are one of the words that start with them. -/
theorem of_continuation? (hc : continuation? word = some h) : h ≠ "" ∧ String.ofList word ++ h ∈ candidates word := by
  unfold continuation? at hc
  split at hc
  · cases hc
  · obtain ⟨w, hfind, rfl⟩ := Option.map_eq_some_iff.mp hc
    have hlonger := List.find?_some hfind
    obtain ⟨⟨rest, hrest⟩, hne⟩ := isLonger_iff.mp hlonger
    have hdrop : w.toList.drop word.length = rest := by rw [← hrest, List.drop_left]
    have hword : String.ofList word ++ String.ofList rest = w := by
      rw [← String.ofList_append, hrest, String.ofList_toList]
    rw [hdrop, hword, mem_candidates]
    refine ⟨fun hempty => hne ?_, List.mem_of_find?_eq_some hfind, rest, hrest⟩
    have hnil : rest = [] := by simpa using congrArg String.toList hempty
    rw [← hrest, hnil, List.append_nil]

end Words

section Calls

variable (before after : List Char)

theorem complete?_eq : complete? (String.ofList (before ++ after)) (byteSize before) =
    (dropBytes? (wordStart before) before).map fun word => (wordStart before, candidates word) := by
  rw [complete?, String.toList_ofList, takeBytes?_append]
  show (dropBytes? (wordStart before) before).bind _ = _
  rw [Option.map_eq_bind]
  rfl

theorem hint?_eq : hint? (String.ofList before) (byteSize before) =
    (dropBytes? (wordStart before) before).map continuation? := by
  rw [hint?, String.toList_ofList, if_neg (Nat.lt_irrefl _)]

end Calls

/-- Wherever the cursor stands between two characters of a line, the word before it starts at a position up to the cursor.
This position lies between two characters exactly if the last character before the cursor that ends a word takes one byte.
Then it is the start of the text without such characters that follows the last one or the start of the line, the word is
completed to the words that start with it, and behind the line there is a hint exactly if one of them is longer and the word
is not empty; with the hint the word is one of them. Otherwise neither has a result. -/
theorem completed_at_boundary (before after : List Char) :
    let line := String.ofList (before ++ after)
    let cursor := byteSize before
    let start := wordStart before
    start ≤ cursor ∧ (Between start before ↔ ∀ c ∈ lastEnd? before, c.utf8Size = 1) ∧
      (Between start before → ∃ front word, before = front ++ word ∧ IsLastWord front word ∧ start = byteSize front ∧
        complete? line cursor = some (start, candidates word) ∧
        ∃ hint, hint? (String.ofList before) cursor = some hint ∧
          (hint.isSome ↔ word ≠ [] ∧ ∃ w ∈ vocabulary, word <+: w.toList ∧ word ≠ w.toList) ∧
          ∀ h ∈ hint, h ≠ "" ∧ String.ofList word ++ h ∈ candidates word) ∧
      (¬Between start before → complete? line cursor = none ∧ hint? (String.ofList before) cursor = none) := by
  intro line cursor start
  obtain ⟨front, word, hbefore, hword⟩ := exists_lastWord before
  refine ⟨?_, ?_, fun hb => ?_, fun hb => ?_⟩
  · show wordStart before ≤ byteSize before
    rw [hbefore]
    exact hword.wordStart_le
  · show Between (wordStart before) before ↔ _
    rw [hbefore]
    exact hword.between_iff
  · have hstart : start = byteSize front := by
      show wordStart before = byteSize front
      rw [hbefore]
      exact hword.byteSize_front (hbefore ▸ hb)
    have hdrop : dropBytes? (wordStart before) before = some word := dropBytes?_eq_some.mpr ⟨front, hbefore, hstart⟩
    refine ⟨front, word, hbefore, hword, hstart, ?_, continuation? word, ?_, continuation?_isSome, fun h hh => ?_⟩
    · show complete? (String.ofList (before ++ after)) (byteSize before) = _
      rw [complete?_eq, hdrop]
      rfl
    · show hint? (String.ofList before) (byteSize before) = _
      rw [hint?_eq, hdrop]
      rfl
    · exact of_continuation? hh
  -- where the word would have to be cut off inside a character there is nothing to complete
  · have hnone : dropBytes? (wordStart before) before = none := by
      rw [← Option.not_isSome_iff_eq_none, dropBytes?_isSome_iff]
      exact hb
    refine ⟨?_, ?_⟩
    · show complete? (String.ofList (before ++ after)) (byteSize before) = _
      rw [complete?_eq, hnone]
      rfl
    · show hint? (String.ofList before) (byteSize before) = _
      rw [hint?_eq, hnone]
      rfl

theorem completed_at_boundary_blanks :
    (complete? "\u3000node c)" 9 = some (8, candidates ['c']) ∧
      ∃ h, hint? "\u3000node c" 9 = some (some h) ∧ "c" ++ h ∈ candidates ['c']) ∧
      complete? "\u3000c" 4 = none ∧ hint? "\u3000c" 4 = none := by
  have hb : Between (wordStart "\u3000node c".toList) "\u3000node c".toList := by decide +kernel
  have hcut : ¬Between (wordStart "\u3000c".toList) "\u3000c".toList := by decide +kernel
  obtain ⟨-, -, hcompleted, -⟩ := completed_at_boundary "\u3000node c".toList [')']
  obtain ⟨front, word, hbefore, -, hstart, hcomplete, hint, hhint, hsome, hall⟩ := hcompleted hb
  have hword : word = ['c'] := by
    have hdrop := dropBytes?_eq_some.mpr ⟨front, hbefore, hstart⟩
    rw [show dropBytes? (wordStart "\u3000node c".toList) "\u3000node c".toList = some ['c'] by decide +kernel] at hdrop
    exact (Option.some.inj hdrop).symm
  subst hword
  obtain ⟨h, rfl⟩ : ∃ h, hint = some h := by
    refine Option.isSome_iff_exists.mp (hsome.mpr ⟨by decide, "count", ?_, by decide, by decide⟩)
    exact mem_vocabulary.mpr (.inr (by decide))
  exact ⟨⟨hcomplete, h, hhint, (hall h rfl).2⟩, (completed_at_boundary "\u3000c".toList []).2.2.2 hcut⟩

/-- Not every word before a cursor starts between two characters. -/
theorem not_completed_at_boundary :
    ¬Between (wordStart "\u3000c".toList) "\u3000c".toList ∧ complete? "\u3000c" 4 = none ∧ hint? "\u3000c" 4 = none := by
  refine ⟨?_, ?_, ?_⟩ <;> decide +kernel

end RecordGraph.Shell
