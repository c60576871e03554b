import RecordGraph.Proofs.Engine.Items
import RecordGraph.Proofs.Store

namespace RecordGraph

open Entries Query Outcome

section Yields

variable {α β : Type} {n : String} {v : α}

/-- Whether a computation, if it succeeds, gives something under a name. -/
def Yields (n : String) (x : Except Fault (String × α)) : Prop := ∀ p, x = .ok p → p.1 = n

theorem yields_pure : Yields n (pure (n, v)) := ensures_pure rfl

theorem yields_throw {e : Fault} : Yields n (throw e : Except Fault (String × α)) := ensures_throw

theorem yields_bind {x : Except Fault β} {f : β → Except Fault (String × α)} (h : ∀ a, Yields n (f a)) :
    Yields n (x >>= f) := ensures_true.bind fun a _ => h a

end Yields

variable {db : Database} {limits : PageLimits} {T : String} {t : RecordType} {r : Record} {s : Selection}
variable {selection : List Selection} {count : Nat} {shown : List Record} {entries : List (String × Json)} {v : Json}

theorem yields_recordItem : Yields s.outputName (recordItem db limits t r s) := by
  cases s with
  | mk form name aliasName parameters children =>
    rw [recordItem]
    dsimp only
    split
    · exact yields_throw
    split
    -- a plain field
    · refine yields_bind fun _ => ?_
      split
      · exact yields_throw
      · exact yields_pure
    split
    -- the many side of a connection
    · refine yields_bind fun _ => ?_
      split
      · exact yields_pure
      · exact yields_bind fun _ => yields_pure
    -- the one side of a connection
    · refine yields_bind fun _ => ?_
      split
      · exact yields_pure
      split
      · exact yields_pure
      split
      · exact yields_pure
      split
      · exact yields_pure
      · exact yields_bind fun _ => yields_bind fun _ => yields_pure

theorem yields_listingItem : Yields s.outputName (listingItem db limits T count shown s) := by
  cases s with
  | mk form name aliasName parameters children =>
    refine yields_bind fun _ => ?_
    dsimp only
    split
    · exact yields_pure
    split
    · exact yields_bind fun _ => yields_pure
    · exact yields_throw

theorem names_mapM {f : Selection → Except Fault (String × Json)} (hf : ∀ s, Yields s.outputName (f s))
    (h : selection.mapM f = .ok entries) : names entries = selection.map Selection.outputName := by
  replace h := mapM_eq_ok.mp h
  induction h with
  | nil => rfl
  | cons hp _ ih => exact congrArg₂ List.cons (hf _ _ hp) ih

/-- Whether a value is an object with the names of some items, each of them once. -/
def HasOutputs (selection : List Selection) (v : Json) : Prop :=
  ∃ entries, v = .object entries ∧ Keyed entries ∧ ∀ n, n ∈ names entries ↔ n ∈ selection.map Selection.outputName

theorem hasOutputs_assemble (h : names entries = selection.map Selection.outputName) :
    HasOutputs selection (assemble entries) := by
  refine ⟨Entries.ofList entries, rfl, Entries.keyed_foldl_put keyed_nil, fun n => ?_⟩
  rw [Entries.ofList, Entries.mem_names_foldl_put, h]
  simp [names]

theorem hasOutputs_resolveRecord (h : resolveRecord db limits T r selection = .ok v) (hne : selection ≠ []) :
    HasOutputs selection v := by
  rw [resolveRecord_eq, if_neg (by simpa using hne)] at h
  obtain ⟨t, -, h⟩ := bind_eq_ok.mp h
  obtain ⟨entries, hentries, rfl⟩ := map_eq_ok.mp h
  rw [recordItems_eq_mapM] at hentries
  exact hasOutputs_assemble (names_mapM (fun _ => yields_recordItem) hentries)

theorem hasOutputs_resolveListing (h : resolveListing db limits T count shown selection = .ok v)
    (hne : selection ≠ []) : HasOutputs selection v := by
  rw [resolveListing_eq, if_neg (by simpa using hne)] at h
  obtain ⟨entries, hentries, rfl⟩ := map_eq_ok.mp h
  rw [listingItems_eq_mapM] at hentries
  exact hasOutputs_assemble (names_mapM (fun _ => yields_listingItem) hentries)

end RecordGraph
