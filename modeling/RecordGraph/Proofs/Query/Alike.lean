import RecordGraph.Query.Selection
import RecordGraph.Proofs.Entries
import Mathlib.Data.List.Perm.Subperm

namespace RecordGraph.Query.Selection

open Entries

mutual

def unaliased : Selection → Selection
  | mk form name _ parameters children => mk form name none parameters (unaliasedAll children)

def unaliasedAll : List Selection → List Selection
  | [] => []
  | s :: ss => unaliased s :: unaliasedAll ss

end

/-- Whether no parameter is given twice, neither in a selection nor below it. -/
inductive WellKeyed : Selection → Prop
  | mk {s : Selection} (hp : Keyed s.parameters) (hc : ∀ t ∈ s.children, WellKeyed t) : WellKeyed s

mutual

/-- Whether two selections are the same but for their aliases, and but for parameters in a relation. -/
def Alike (R : Entries String → Entries String → Prop) : Selection → Selection → Prop
  | mk form name _ parameters children, mk form' name' _ parameters' children' =>
    form = form' ∧ name = name' ∧ R parameters parameters' ∧ AlikeAll R children children'

def AlikeAll (R : Entries String → Entries String → Prop) : List Selection → List Selection → Prop
  | [], [] => True
  | s :: ss, t :: ts => Alike R s t ∧ AlikeAll R ss ts
  | _, _ => False

end

/-- Whether one list of parameters is the other in some order, and no parameter is given twice. -/
def Reordered (p q : Entries String) : Prop := p.Perm q ∧ Keyed p

variable {R : Entries String → Entries String → Prop} {p q : Entries String} {s t : Selection} {ss ts : List Selection}

theorem reordered_of_same (hp : Keyed p) (h : sameParameters p q = true) : Reordered p q := by
  rw [sameParameters, Bool.and_eq_true, decide_eq_true_eq, List.all_eq_true] at h
  obtain ⟨hlength, hall⟩ := h
  have hsubset : p ⊆ q := by
    rintro ⟨n, v⟩ he
    exact mem_of_get? (of_decide_eq_true (hall (n, v) he))
  have hsub : p.Subperm q := List.subperm_of_subset (List.Nodup.of_map _ hp) hsubset
  exact ⟨hsub.perm_of_length_le (Nat.le_of_eq hlength.symm), hp⟩

theorem Reordered.keyed (h : Reordered p q) : Keyed q := (h.1.map Prod.fst).nodup_iff.mp h.2

theorem Reordered.get? (h : Reordered p q) (n : String) : p.get? n = q.get? n := by
  cases hp : Entries.get? n p with
  | some v =>
    have hv : (n, v) ∈ q := h.1.subset ((get?_eq_some_iff h.2).mp hp)
    exact ((get?_eq_some_iff h.keyed).mpr hv).symm
  | none =>
    rw [get?_eq_none_iff] at hp
    have hnames : n ∉ names q := fun hn => hp ((h.1.map Prod.fst).symm.subset hn)
    exact (get?_eq_none_iff.mpr hnames).symm

mutual

theorem alike_of_unaliased_eq : ∀ s t : Selection, s.unaliased = t.unaliased → Alike Eq s t
  | mk form name a parameters children, mk form' name' b parameters' children', h => by
    obtain ⟨hform, hname, -, hparameters, hchildren⟩ := mk.inj h
    exact ⟨hform, hname, hparameters, alikeAll_of_unaliasedAll_eq children children' hchildren⟩

theorem alikeAll_of_unaliasedAll_eq : ∀ ss ts : List Selection, unaliasedAll ss = unaliasedAll ts → AlikeAll Eq ss ts
  | [], [], _ => trivial
  | s :: ss, t :: ts, h => by
    obtain ⟨hs, hss⟩ := List.cons.inj h
    exact ⟨alike_of_unaliased_eq s t hs, alikeAll_of_unaliasedAll_eq ss ts hss⟩
  | [], _ :: _, h => by cases h
  | _ :: _, [], h => by cases h

end

mutual

theorem alike_of_agrees : ∀ s t : Selection, s.WellKeyed → s.unaliased.agrees t.unaliased = true → Alike Reordered s t
  | mk form name a parameters children, mk form' name' b parameters' children', hk, h => by
    obtain ⟨hp, hc⟩ := hk
    simp only [unaliased, agrees, Bool.and_eq_true, decide_eq_true_eq] at h
    obtain ⟨⟨⟨⟨hform, hname⟩, -⟩, hparameters⟩, hchildren⟩ := h
    exact ⟨hform, hname, reordered_of_same hp hparameters, alikeAll_of_agreesAll children children' hc hchildren⟩

theorem alikeAll_of_agreesAll : ∀ ss ts : List Selection, (∀ s ∈ ss, s.WellKeyed) →
    agreesAll (unaliasedAll ss) (unaliasedAll ts) = true → AlikeAll Reordered ss ts
  | [], [], _, _ => trivial
  | s :: ss, t :: ts, hk, h => by
    rw [List.forall_mem_cons] at hk
    simp only [unaliasedAll, agreesAll, Bool.and_eq_true] at h
    exact ⟨alike_of_agrees s t hk.1 h.1, alikeAll_of_agreesAll ss ts hk.2 h.2⟩
  | [], _ :: _, _, h => by cases h
  | _ :: _, [], _, h => by cases h

end

end RecordGraph.Query.Selection
