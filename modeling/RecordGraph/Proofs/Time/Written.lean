import RecordGraph.Time.Reader
import RecordGraph.Proofs.Text
import RecordGraph.Proofs.Time.Padded
import Mathlib.Algebra.Ring.Nat

namespace RecordGraph

open Text

namespace Text.Scan

variable {α β : Type} {x : Scan α} {f : α → Scan β} {P : β → Prop} {Q : α → Prop} {a : α} {cs mid rest : List Char}

theorem run_bind_of_some (h : x.run cs = some (a, mid)) : (x >>= f).run cs = (f a).run mid := by
  rw [StateT.run_bind, h]
  rfl

theorem run_bind_of_none (h : x.run cs = none) : (x >>= f).run cs = none := by
  rw [StateT.run_bind, h]
  rfl

theorem run_lift {o : Option α} : (liftM o : Scan α).run cs = o.map (·, cs) := by
  cases o <;> rfl

theorem run_oneOf {l : List Char} {c : Char} (h : l.contains c = true) : (oneOf l).run (c :: rest) = some (c, rest) :=
  if_pos h

def Yields (Q : α → Prop) (x : Scan α) : Prop := ∀ cs a rest, x.run cs = some (a, rest) → Q a

theorem Yields.bind (hx : Yields Q x) (h : ∀ a, Q a → Yields P (f a)) : Yields P (x >>= f) := by
  intro cs b rest hb
  rw [StateT.run_bind] at hb
  obtain ⟨⟨a, mid⟩, ha, hb⟩ := Option.bind_eq_some_iff.mp hb
  exact h a (hx cs a mid ha) mid b rest hb

theorem yields_bind (h : ∀ a, Yields P (f a)) : Yields P (x >>= f) := by
  have hany : Yields (fun _ => True) x := fun _ _ _ _ => trivial
  exact hany.bind fun a _ => h a

theorem yields_pure (h : Q a) : Yields Q (pure a : Scan α) := by
  intro cs b rest hb
  exact (Prod.mk.inj (Option.some.inj hb)).1 ▸ h

theorem yields_guard {p : Prop} [Decidable p] : Yields (fun _ => p) (guard p : Scan Unit) := by
  intro cs a rest ha
  by_contra hp
  have hfails : (guard p : Scan Unit) = failure := if_neg hp
  rw [hfails] at ha
  cases ha

theorem yields_lift {o : Option α} (h : ∀ a, o = some a → Q a) : Yields Q (liftM o : Scan α) := by
  intro cs a rest ha
  rw [run_lift] at ha
  obtain ⟨b, hb, ha⟩ := Option.map_eq_some_iff.mp ha
  exact (Prod.mk.inj ha).1 ▸ h b hb

end Text.Scan

namespace Time

open Decimal (ofDigits)
open Text.Scan

variable {w n m : Nat} {ahead : Int} {d : Date} {t : Instant} {cs rest : List Char} {text : String}

theorem length_padded (hw : 0 < w) (h : n < 10 ^ w) : (padded w n).toList.length = w := by
  have hlen : (Nat.toDigits 10 n).length ≤ w := (Nat.length_toDigits_le_iff (by decide) hw).mpr h
  rw [toList_padded, List.length_append, List.length_replicate, ← String.length_toList, Nat.toList_repr]
  omega

theorem run_exactly (hw : 0 < w) (h : n < 10 ^ w) : (exactly w).run ((padded w n).toList ++ rest) = some (n, rest) := by
  have hrun (cs : List Char) : (exactly w).run cs = if (cs.take w).length = w ∧ (cs.take w).all Char.isDigit then
      some (ofDigits (cs.take w), cs.drop w) else none := rfl
  have hlen := length_padded hw h
  have hdigits : (padded w n).toList.all Char.isDigit = true := List.all_eq_true.mpr fun _ => isDigit_of_mem_padded
  rw [hrun, List.take_left' hlen, List.drop_left' hlen, if_pos ⟨hlen, hdigits⟩, ofDigits_padded]

theorem run_atMost_of_span (h : (((padded w n).toList ++ rest).take m).takeWhile Char.isDigit = (padded w n).toList) :
    (atMost m).run ((padded w n).toList ++ rest) = some (n, rest) := by
  have hrun (cs : List Char) : (atMost m).run cs = if ((cs.take m).takeWhile Char.isDigit).isEmpty then none
      else some (ofDigits ((cs.take m).takeWhile Char.isDigit), cs.drop ((cs.take m).takeWhile Char.isDigit).length) := rfl
  rw [hrun, h, if_neg, ofDigits_padded, List.drop_left]
  rw [List.isEmpty_iff]
  exact padded_ne_nil

theorem run_atMost (hw : 0 < w) (h : n < 10 ^ w) : (atMost w).run ((padded w n).toList ++ rest) = some (n, rest) := by
  apply run_atMost_of_span
  rw [List.take_left' (length_padded hw h), List.takeWhile_eq_self_iff]
  exact fun _ => isDigit_of_mem_padded

theorem takeWhile_padded {c : Char} (hc : c.isDigit = false) :
    ((padded w n).toList ++ c :: rest).takeWhile Char.isDigit = (padded w n).toList :=
  (span_append (fun _ => isDigit_of_mem_padded) (by simpa using hc)).1

theorem run_allDigits {c : Char} (hc : c.isDigit = false) :
    allDigits.run ((padded w n).toList ++ c :: rest) = some (n, c :: rest) := by
  have hrun (cs : List Char) : allDigits.run cs = (atMost cs.length).run cs := rfl
  rw [hrun]
  apply run_atMost_of_span
  rw [List.take_length]
  exact takeWhile_padded hc

theorem trimStart_padded : trimStart ((padded w n).toList ++ rest) = (padded w n).toList ++ rest := by
  obtain ⟨c, cs, hc⟩ := List.exists_cons_of_ne_nil (padded_ne_nil (w := w) (n := n))
  have hblank : isBlank c = false := not_isBlank_of_isDigit (isDigit_of_mem_padded (hc ▸ List.mem_cons_self))
  rw [hc, List.cons_append, trimStart, List.dropWhile_cons_of_neg (by simp [hblank])]

theorem run_short (h : n < 100) : short.run ((padded 2 n).toList ++ rest) = some (n, rest) := by
  have hblanks : blanks.run ((padded 2 n).toList ++ rest) = some ((), (padded 2 n).toList ++ rest) :=
    congrArg (fun cs => some ((), cs)) trimStart_padded
  rw [short, run_bind_of_some hblanks]
  exact run_atMost (by decide) h

theorem run_signedYear {sign c : Char} (hs : sign = '-' ∨ sign = '+') (hc : c.isDigit = false) :
    ∃ y, signedYear.run (sign :: ((padded w n).toList ++ c :: rest)) = some (y, c :: rest) := by
  have hdigits : allDigits.run ((padded w n).toList ++ c :: rest) = some (n, c :: rest) := run_allDigits hc
  rcases hs with rfl | rfl
  · have hrun (cs : List Char) :
        signedYear.run ('-' :: cs) = (allDigits >>= fun k => pure (-(k : Int)) : Scan Int).run cs := rfl
    rw [hrun, run_bind_of_some hdigits]
    exact ⟨-(n : Int), rfl⟩
  · have hrun (cs : List Char) :
        signedYear.run ('+' :: cs) = (allDigits >>= fun k => pure (k : Int) : Scan Int).run cs := rfl
    rw [hrun, run_bind_of_some hdigits]
    exact ⟨n, rfl⟩

theorem run_fraction_padded (hw : 0 < w) (hw9 : w ≤ 9) (h : n < 10 ^ w) :
    fraction.run ('.' :: ((padded w n).toList ++ ['Z'])) = some (10 ^ (9 - w) * n, ['Z']) := by
  have hrun (cs : List Char) : fraction.run ('.' :: cs) = if (cs.takeWhile Char.isDigit).isEmpty then none
      else some (ofDigits ((cs.takeWhile Char.isDigit ++ List.replicate 9 '0').take 9),
        cs.drop (cs.takeWhile Char.isDigit).length) := rfl
  have hnine : ((padded w n).toList ++ List.replicate 9 '0').take 9 =
      (padded w n).toList ++ List.replicate (9 - w) '0' := by
    have hlen := length_padded hw h
    rw [List.take_append, hlen, List.take_of_length_le (by omega), List.take_replicate, Nat.min_eq_left (by omega)]
  have hvalue : ofDigits ((padded w n).toList ++ List.replicate (9 - w) '0') = 10 ^ (9 - w) * n := by
    have hofDigits (cs : List Char) : ofDigits cs = Nat.ofDigitChars 10 cs 0 := rfl
    rw [hofDigits, Nat.ofDigitChars_append, Nat.ofDigitChars_replicate_zero, ← hofDigits, ofDigits_padded]
  rw [hrun, takeWhile_padded (by decide), if_neg, hnine, hvalue, List.drop_left]
  rw [List.isEmpty_iff]
  exact padded_ne_nil

theorem run_fraction (h : n < 1000000000) : fraction.run ((fractionText n).toList ++ ['Z']) = some (n, ['Z']) := by
  have hpoint (s : String) : ("." ++ s).toList ++ ['Z'] = '.' :: (s.toList ++ ['Z']) := by
    rw [String.toList_append]
    rfl
  unfold fractionText
  split
  · next h0 =>
    rw [h0]
    rfl
  split
  · rw [hpoint, run_fraction_padded (by decide) (by decide) (by omega)]
    congr 2
    omega
  split
  · rw [hpoint, run_fraction_padded (by decide) (by decide) (by omega)]
    congr 2
    omega
  · rw [hpoint, run_fraction_padded (by decide) (by decide) (by omega)]
    congr 2
    omega

theorem one_le_daysInMonth (y : Int) (m : Nat) : 1 ≤ daysInMonth y m := by
  unfold daysInMonth
  split
  · split
    · decide
    · decide
  split
  · decide
  · decide

theorem daysInMonth_le (y : Int) (m : Nat) : daysInMonth y m ≤ 31 := by
  unfold daysInMonth
  split
  · split
    · decide
    · decide
  split
  · decide
  · decide

/-- Whether the parts name a date of some year, however far. -/
structure Date.Proper (d : Date) : Prop where
  month : 1 ≤ d.month ∧ d.month ≤ 12
  day : 1 ≤ d.day ∧ d.day ≤ daysInMonth d.year d.month

theorem Date.Proper.next (h : d.Proper) : d.next.Proper := by
  obtain ⟨hm, hd⟩ := h
  unfold Date.next
  split
  · next hlt => exact ⟨hm, ⟨Nat.le_add_left _ _, hlt⟩⟩
  split
  · next hlt => exact ⟨⟨Nat.le_add_left _ _, hlt⟩, ⟨le_rfl, one_le_daysInMonth _ _⟩⟩
  · exact ⟨⟨le_rfl, Nat.le_add_left _ _⟩, ⟨le_rfl, one_le_daysInMonth _ _⟩⟩

theorem Date.Proper.previous (h : d.Proper) : d.previous.Proper := by
  obtain ⟨hm, hd⟩ := h
  unfold Date.previous
  split
  · refine ⟨hm, ?_⟩
    dsimp only
    omega
  split
  · refine ⟨?_, ⟨one_le_daysInMonth _ _, le_rfl⟩⟩
    dsimp only
    omega
  · exact ⟨⟨Nat.le_add_left _ _, le_rfl⟩, Nat.le_add_left _ _, le_of_eq rfl⟩

structure Instant.Proper (t : Instant) : Prop where
  date : t.date.Proper
  minute : t.minute < minutesInDay
  second : t.second ≤ 60
  nano : t.nano < 1000000000

theorem Instant.Proper.behind (h : t.Proper) (ho : ahead.natAbs < minutesInDay) : (t.behind ahead).Proper := by
  obtain ⟨hdate, hminute, hsecond, hnano⟩ := h
  unfold Instant.behind
  dsimp only
  split
  · exact ⟨hdate.previous, by dsimp only; omega, hsecond, hnano⟩
  split
  · exact ⟨hdate.next, by dsimp only; omega, hsecond, hnano⟩
  · exact ⟨hdate, by dsimp only; omega, hsecond, hnano⟩

theorem Instant.Proper.isValid (h : t.Proper) (hy : Date.minYear ≤ t.date.year ∧ t.date.year ≤ Date.maxYear) :
    t.isValid = true := by
  obtain ⟨⟨hm, hd⟩, hminute, hsecond, hnano⟩ := h
  simp [Instant.isValid, Date.isValid, hm, hd, hminute, hsecond, hnano, hy]

theorem Instant.proper_of_isValid (h : t.isValid = true) : t.Proper := by
  simp only [Instant.isValid, Date.isValid, Bool.and_eq_true, decide_eq_true_eq] at h
  obtain ⟨⟨⟨⟨⟨⟨⟨⟨-, -⟩, hm⟩, hm'⟩, hd⟩, hd'⟩, hminute⟩, hsecond⟩, hnano⟩ := h
  exact ⟨⟨⟨hm, hm'⟩, hd, hd'⟩, hminute, hsecond, hnano⟩

theorem proper_instant? {year : Int} {month day hour minute second nano : Nat}
    (h : instant? year month day hour minute second nano = some t) : t.Proper := by
  unfold instant? at h
  dsimp only at h
  split at h
  · next hv => exact Option.some.inj h ▸ Instant.proper_of_isValid hv.2.2
  · cases h

theorem yields_offset : Yields (fun ahead => Int.natAbs ahead < minutesInDay) offset := by
  refine yields_bind fun sign => ?_
  split
  · exact yields_pure (by decide)
  · exact yields_pure (by decide)
  refine yields_bind fun hours => yields_bind fun _ => yields_bind fun minutes => ?_
  refine yields_guard.bind fun _ h => yields_pure ?_
  simp only [Bool.and_eq_true, decide_eq_true_eq] at h
  unfold minutesInDay
  split
  · omega
  · omega

theorem yields_withOffset : Yields Instant.Proper withOffset := by
  refine yields_bind fun year => yields_bind fun _ => yields_bind fun month => yields_bind fun _ => ?_
  refine yields_bind fun day => yields_bind fun _ => yields_bind fun hour => yields_bind fun _ => ?_
  refine yields_bind fun minute => yields_bind fun _ => yields_bind fun second => yields_bind fun nano => ?_
  refine (yields_lift fun _ => proper_instant?).bind fun t ht => yields_offset.bind fun ahead hahead => ?_
  exact yields_bind fun _ => yields_pure (ht.behind hahead)

theorem yields_withoutOffset : Yields Instant.Proper withoutOffset := by
  refine yields_bind fun year => yields_bind fun _ => yields_bind fun month => yields_bind fun _ => ?_
  refine yields_bind fun day => yields_bind fun _ => yields_bind fun hour => yields_bind fun _ => ?_
  refine yields_bind fun minute => yields_bind fun _ => yields_bind fun second => yields_bind fun nano => ?_
  exact yields_bind fun _ => yields_lift fun _ => proper_instant?

/-- Whatever text an instant is read from, its parts name one. -/
theorem Instant.proper_ofText? (h : Instant.ofText? text = some t) : t.Proper := by
  unfold ofText? at h
  split at h
  · next u rest hu => exact Option.some.inj h ▸ yields_withOffset _ u rest hu
  · obtain ⟨⟨u, rest⟩, hu, rfl⟩ := Option.map_eq_some_iff.mp h
    exact yields_withoutOffset _ u rest hu

namespace Instant

theorem toList_text : t.text.toList = (yearText t.date.year).toList ++ '-' :: ((padded 2 t.date.month).toList ++
    '-' :: ((padded 2 t.date.day).toList ++ 'T' :: ((padded 2 (t.minute / 60)).toList ++
    ':' :: ((padded 2 (t.minute % 60)).toList ++ ':' :: ((padded 2 t.second).toList ++
    ((fractionText t.nano).toList ++ ['Z'])))))) := by
  have hstring (s : String) : toString s = s := rfl
  simp [text, hstring, String.toList_append]

/-- The text of an instant reads back if the year has four digits. -/
theorem ofText?_text (h : t.Proper) (hy : 0 ≤ t.date.year ∧ t.date.year ≤ 9999) : Instant.ofText? t.text = some t := by
  obtain ⟨⟨hm, hd⟩, hminute, hsecond, hnano⟩ := id h
  have hdays := daysInMonth_le t.date.year t.date.month
  have hlt : t.minute < 1440 := hminute
  have hinstant : instant? t.date.year.toNat t.date.month t.date.day (t.minute / 60) (t.minute % 60) t.second t.nano =
      some t := by
    have hyear : (t.date.year.toNat : Int) = t.date.year := Int.toNat_of_nonneg hy.1
    have hvalid : t.isValid = true := h.isValid ⟨by unfold Date.minYear; omega, by unfold Date.maxYear; omega⟩
    unfold instant?
    rw [hyear, Nat.div_add_mod]
    exact if_pos ⟨by omega, by omega, hvalid⟩
  have hrun : withOffset.run t.text.toList = some (t, []) := by
    rw [toList_text, yearText, if_pos hy, withOffset, run_bind_of_some (run_exactly (by decide) (by omega)),
      run_bind_of_some (run_oneOf rfl), run_bind_of_some (run_exactly (by decide) (by omega)),
      run_bind_of_some (run_oneOf rfl), run_bind_of_some (run_exactly (by decide) (by omega)),
      run_bind_of_some (run_oneOf rfl), run_bind_of_some (run_exactly (by decide) (by omega)),
      run_bind_of_some (run_oneOf rfl), run_bind_of_some (run_exactly (by decide) (by omega)),
      run_bind_of_some (run_oneOf rfl), run_bind_of_some (run_exactly (by decide) (by omega)),
      run_bind_of_some (run_fraction hnano), hinstant]
    have hoffset : offset.run ['Z'] = some (0, []) := rfl
    rw [run_bind_of_some run_lift, run_bind_of_some hoffset, run_bind_of_some (x := atEnd) rfl, behind_zero hminute]
    rfl
  unfold ofText?
  rw [hrun]

theorem ofText?_text_eq_none (h : t.Proper) (hy : ¬(0 ≤ t.date.year ∧ t.date.year ≤ 9999)) :
    Instant.ofText? t.text = none := by
  obtain ⟨⟨hm, hd⟩, hminute, hsecond, hnano⟩ := h
  have hdays := daysInMonth_le t.date.year t.date.month
  have hlt : t.minute < 1440 := hminute
  obtain ⟨sign, hs, hyear⟩ : ∃ sign, (sign = '-' ∨ sign = '+') ∧
      (yearText t.date.year).toList = sign :: (padded 4 t.date.year.natAbs).toList := by
    unfold yearText
    rw [if_neg hy, String.toList_append]
    split
    · exact ⟨'-', .inl rfl, rfl⟩
    · exact ⟨'+', .inr rfl, rfl⟩
  have hwith : withOffset.run t.text.toList = none := by
    have hrun (cs : List Char) : (exactly 4).run (sign :: cs) = none := by
      refine if_neg fun hall => ?_
      have hsign := List.all_eq_true.mp hall.2 sign List.mem_cons_self
      rcases hs with rfl | rfl
      · cases hsign
      · cases hsign
    rw [toList_text, hyear, List.cons_append, withOffset]
    exact run_bind_of_none (hrun _)
  have hwithout : withoutOffset.run t.text.toList = none := by
    obtain ⟨y, hyear'⟩ := run_signedYear (w := 4) (n := t.date.year.natAbs) (c := '-') hs rfl
    rw [toList_text, hyear, withoutOffset, List.cons_append, run_bind_of_some hyear',
      run_bind_of_some (run_oneOf rfl), run_bind_of_some (run_short (by omega)),
      run_bind_of_some (run_oneOf rfl), run_bind_of_some (run_short (by omega)),
      run_bind_of_some (run_oneOf rfl), run_bind_of_some (run_short (by omega)),
      run_bind_of_some (run_oneOf rfl), run_bind_of_some (run_short (by omega)),
      run_bind_of_some (run_oneOf rfl), run_bind_of_some (run_short (by omega)),
      run_bind_of_some (run_fraction hnano)]
    exact run_bind_of_none rfl
  unfold ofText?
  rw [hwith, hwithout]
  rfl

end Instant

end Time

end RecordGraph
