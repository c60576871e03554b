import RecordGraph.Time.Instant
import RecordGraph.Decimal.Numeral

namespace RecordGraph.Time

open Decimal (ofDigits)

variable {w n m : Nat}

theorem toList_padded : (padded w n).toList = List.replicate (w - n.repr.length) '0' ++ Nat.toDigits 10 n := by
  rw [padded, String.toList_append, String.toList_ofList, Nat.toList_repr]

theorem isDigit_of_mem_padded {c : Char} (h : c ∈ (padded w n).toList) : c.isDigit = true := by
  rw [toList_padded] at h
  rcases List.mem_append.mp h with h | h
  · rw [(List.mem_replicate.mp h).2]
    decide
  · exact Nat.isDigit_of_mem_toDigits (by decide) (by decide) h

theorem padded_ne_nil : (padded w n).toList ≠ [] := by
  rw [toList_padded]
  exact List.append_ne_nil_of_right_ne_nil _ (List.ne_nil_of_length_pos Nat.length_toDigits_pos)

/-- Read as a number, leading zeros do not count. -/
theorem ofDigits_padded : ofDigits (padded w n).toList = n := by
  show Nat.ofDigitChars 10 (padded w n).toList 0 = n
  rw [toList_padded, Nat.ofDigitChars_append, Nat.ofDigitChars_replicate_zero, Nat.mul_zero,
    Nat.ofDigitChars_ten_toDigits]

theorem padded_injective (h : padded w n = padded w m) : n = m := by
  rw [← ofDigits_padded (w := w) (n := n), h, ofDigits_padded]

end RecordGraph.Time
