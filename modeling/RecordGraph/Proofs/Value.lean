import RecordGraph.Proofs.Json.Proper
import RecordGraph.Proofs.Time.Written

namespace RecordGraph.Value

open Decimal Time

variable {k : Kind} {j : Json} {v : Value} {t : Instant}

/-- Whether it is a value that conversion can give. -/
def Proper : Value → Prop
  | float x => x.isFinite = true
  | datetime t => t.Proper
  | connection id => id ≠ ""
  | _ => True

theorem toString_ne_empty (i : Int) : toString i ≠ "" := by
  intro h
  have hlist : (toString i).toList = [] := by
    rw [h]
    rfl
  cases i with
  | ofNat n =>
    have hn : (toString (Int.ofNat n)).toList = Nat.toDigits 10 n := Nat.toList_repr
    rw [hn] at hlist
    exact List.ne_nil_of_length_pos Nat.length_toDigits_pos hlist
  | negSucc n =>
    have hn : toString (Int.negSucc n) = "-" ++ (n + 1).repr := rfl
    rw [hn, String.toList_append] at hlist
    cases hlist

theorem proper_ofJson? (hj : j.Proper) (h : ofJson? k j = some v) : v.Proper := by
  unfold ofJson? at h
  split at h
  · exact Option.some.inj h ▸ trivial
  · obtain ⟨i, -, rfl⟩ := Option.map_eq_some_iff.mp h
    trivial
  · obtain ⟨i, -, rfl⟩ := Option.map_eq_some_iff.mp h
    trivial
  · cases hj with
    | number hn => exact Option.some.inj h ▸ isFinite_toDouble hn
  · obtain ⟨x, hx, rfl⟩ := Option.map_eq_some_iff.mp h
    exact (Option.filter_eq_some_iff.mp hx).2
  · exact Option.some.inj h ▸ trivial
  · split at h
    · exact Option.some.inj h ▸ trivial
    split at h
    · exact Option.some.inj h ▸ trivial
    · cases h
  · obtain ⟨t, ht, rfl⟩ := Option.map_eq_some_iff.mp h
    exact Instant.proper_ofText? ht
  · split at h
    · cases h
    · next hne => exact Option.some.inj h ▸ hne
  · next i => exact Option.some.inj h ▸ toString_ne_empty i
  · cases h

theorem proper_of_coerce (hj : j.Proper) (h : coerce k j = .ok v) : v.Proper := by
  unfold coerce at h
  split at h
  · next hv => exact Except.ok.inj h ▸ proper_ofJson? hj hv
  · cases h

theorem int64?_toInt (i : Int64) : int64? i.toInt = some i := by
  rw [int64?, if_pos ⟨Int64.minValue_le_toInt i, Int64.toInt_le i⟩, Int64.ofInt_toInt]

/-- Whether its year has four digits, if it is an instant. -/
def Dated (v : Value) : Prop := ∀ t, v = .datetime t → 0 ≤ t.date.year ∧ t.date.year ≤ 9999

theorem ofJson?_toJson (h : v.Proper) (hy : v.Dated) : ofJson? v.kind v.toJson = some v := by
  cases v with
  | string text => rfl
  | int i => exact congrArg (Option.map int) (int64?_toInt i)
  | float x =>
    have hx : (float x).toJson = .number (.float x) := if_pos h
    rw [hx]
    rfl
  | boolean b => rfl
  | datetime t => exact congrArg (Option.map datetime) (Instant.ofText?_text h (hy t rfl))
  | connection id => exact if_neg h

/-- A proper value is what its report stands for. -/
theorem coerce_toJson (h : v.Proper) (hy : v.Dated) : coerce v.kind v.toJson = .ok v := by
  rw [coerce, ofJson?_toJson h hy]

theorem coerce_toJson_of_not_dated (h : v.Proper) (hy : ¬v.Dated) :
    coerce v.kind v.toJson = .error (.notConvertible v.toJson.text "datetime") := by
  obtain ⟨t, hv⟩ := Classical.not_forall.mp hy
  obtain ⟨rfl, hfar⟩ := Classical.not_imp.mp hv
  have hnone : ofJson? .datetime (datetime t).toJson = none :=
    congrArg (Option.map datetime) (Instant.ofText?_text_eq_none h hfar)
  rw [coerce, kind, hnone]
  rfl

/-- A value that was converted is of the kind asked for. What is reported of it is accepted again, and as the same value, just
if it is no instant of a year without four digits; the report of such an instant is refused. -/
theorem coerce_reported (hj : j.Proper) (h : coerce k j = .ok v) : v.kind = k ∧
    (coerce k v.toJson = .ok v ↔ v.Dated) ∧
      (¬v.Dated → coerce k v.toJson = .error (.notConvertible v.toJson.text "datetime")) := by
  have hproper : v.Proper := proper_of_coerce hj h
  obtain rfl : v.kind = k := kind_of_coerce h
  refine ⟨rfl, ⟨fun hback => ?_, coerce_toJson hproper⟩, coerce_toJson_of_not_dated hproper⟩
  by_contra hy
  rw [coerce_toJson_of_not_dated hproper hy] at hback
  cases hback

theorem coerce_reported_leapSecond :
    let t : Value := .datetime ⟨⟨2016, 12, 31⟩, 1439, 60, 500000000⟩
    let u : Value := .datetime ⟨⟨10000, 1, 1⟩, 0, 0, 0⟩
    (coerce .datetime (.string "2017-01-01T00:59:60.5+01:00") = .ok t ∧ coerce .datetime t.toJson = .ok t) ∧
      coerce .datetime (.string "+10000-01-01T00:00:00") = .ok u ∧
      coerce .datetime u.toJson = .error (.notConvertible u.toJson.text "datetime") := by
  intro t u
  have ht : coerce .datetime (.string "2017-01-01T00:59:60.5+01:00") = .ok t := by
    rw [coerce, show ofJson? .datetime (.string "2017-01-01T00:59:60.5+01:00") = some t by decide +kernel]
  have hu : coerce .datetime (.string "+10000-01-01T00:00:00") = .ok u := by
    rw [coerce, show ofJson? .datetime (.string "+10000-01-01T00:00:00") = some u by decide +kernel]
  have hdated : t.Dated := by
    intro _ hs
    rw [← Value.datetime.inj hs]
    decide
  have hfar : ¬u.Dated := fun hy => absurd (hy _ rfl) (by decide)
  exact ⟨⟨ht, (coerce_reported (.string _) ht).2.1.mpr hdated⟩, hu, (coerce_reported (.string _) hu).2.2 hfar⟩

/-- Not every value that was converted is accepted again. -/
theorem not_coerce_reported : ¬∀ (k : Kind) (j : Json) (v : Value), j.Proper → coerce k j = .ok v →
    v.kind = k ∧ coerce k v.toJson = .ok v := by
  intro hevery
  have hread : coerce .datetime (.string "+10000-01-01T00:00:00") = .ok (.datetime ⟨⟨10000, 1, 1⟩, 0, 0, 0⟩) := by
    rw [coerce, show ofJson? .datetime (.string "+10000-01-01T00:00:00") =
      some (.datetime ⟨⟨10000, 1, 1⟩, 0, 0, 0⟩) by decide +kernel]
  have hback := (hevery _ _ _ (.string _) hread).2
  have hnone : ofJson? .datetime (Value.datetime ⟨⟨10000, 1, 1⟩, 0, 0, 0⟩).toJson = none := by decide +kernel
  rw [coerce, hnone] at hback
  cases hback

end RecordGraph.Value
