import RecordGraph.Engine.Resolve
import RecordGraph.Proofs.Catalog.WellFormed
import RecordGraph.Proofs.Page

namespace RecordGraph

open Query Outcome Catalog

/-- The faults that a selection can have. -/
def Fault.OfSelection : Fault → Prop
  | .invalidParameter .. | .unknownField .. | .fieldIsNotConnection .. => True
  | _ => False

abbrev Selective {α : Type} (x : Except Fault α) : Prop := Refuses Fault.OfSelection x

theorem refuses_rejectParameters {P : Fault → Prop} {name : String} {parameters : Entries String}
    (h : ∀ parameter objection, P (.invalidParameter parameter objection)) :
    Refuses P (rejectParameters name parameters) := by
  unfold rejectParameters
  split
  · exact refuses_ok
  · exact refuses_throw (h _ _)

theorem selective_rejectParameters {name : String} {parameters : Entries String} :
    Selective (rejectParameters name parameters) := refuses_rejectParameters fun _ _ => trivial

section Json

variable {f : Entries Json → Except Fault Json}

mutual

theorem selective_onObjects (hf : ∀ entries, Selective (f entries)) : ∀ v : Json, Selective (v.onObjects f)
  | .object entries => hf entries
  | .array items => (selective_onObjectsOf hf items).map
  | .null => refuses_ok
  | .bool _ => refuses_ok
  | .number _ => refuses_ok
  | .string _ => refuses_ok

theorem selective_onObjectsOf (hf : ∀ entries, Selective (f entries)) :
    ∀ items : List Json, Selective (Json.onObjectsOf f items)
  | [] => refuses_ok
  | v :: items =>
    (selective_onObjects hf v).bind fun _ _ => (selective_onObjectsOf hf items).bind fun _ _ => refuses_pure

end

mutual

theorem selective_projectItem : ∀ (s : Selection) (entries : Entries Json), Selective (projectItem entries s)
  | .mk form name aliasName parameters children, entries => by
    refine selective_rejectParameters.bind fun _ _ => ?_
    split
    · exact refuses_pure
    · have hchildren := selective_onObjects fun inner => (selective_projectItems children inner).map (f := assemble)
      exact (hchildren _).bind fun _ _ => refuses_pure

theorem selective_projectItems : ∀ (selection : List Selection) (entries : Entries Json),
    Selective (projectItems entries selection)
  | [], _ => refuses_ok
  | s :: selection, entries =>
    (selective_projectItem s entries).bind fun _ _ =>
      (selective_projectItems selection entries).bind fun _ _ => refuses_pure

end

theorem selective_project {v : Json} {selection : List Selection} : Selective (project v selection) := by
  unfold project
  split
  · exact refuses_ok
  · exact selective_onObjects (fun entries => (selective_projectItems selection entries).map) v

end Json

section Record

variable {db : Database} {limits : PageLimits}

theorem refuses_referring {P : Fault → Prop} {link : Link} {r : Record} {field : String} {parameters : Entries String}
    (h : ∀ parameter objection, P (.invalidParameter parameter objection)) :
    Refuses P (referring db limits link r field parameters) := by
  have hcount : ∀ value, Refuses P (Parameter.count "first" value) := by
    intro value
    unfold Parameter.count
    split
    · exact refuses_ok
    · exact refuses_throw (h _ _)
  unfold referring
  split
  · split
    · exact (hcount _).map.bind fun _ _ => refuses_throw (h _ _)
    · exact refuses_throw (h _ _)
  · split
    · exact (hcount _).map.bind fun _ _ => (refuses_page fun _ _ _ => h _ _).bind fun _ _ => refuses_pure
    · exact (refuses_page fun _ _ _ => h _ _).bind fun _ _ => refuses_pure

theorem selective_referring {link : Link} {r : Record} {field : String} {parameters : Entries String} :
    Selective (referring db limits link r field parameters) := refuses_referring fun _ _ => trivial

mutual

theorem selective_recordItem (h : db.catalog.WellFormed) : ∀ (s : Selection) (T : String) (t : RecordType) (r : Record),
    db.catalog.requireNode T = .ok t → Selective (recordItem db limits t r s)
  | .mk form name aliasName parameters children, T, t, r, ht => by
    unfold recordItem
    split
    · exact refuses_throw trivial
    next f hf =>
    split
    · refine selective_rejectParameters.bind fun _ _ => ?_
      exact Refuses.guard refuses_pure trivial
    next link hl =>
    rw [← field?_of_requireNode ht] at hf
    obtain ⟨hnode, -⟩ := h.paired T name f link hf hl
    split
    · refine selective_referring.bind fun p _ => ?_
      have hlisting := selective_listingItems h children link.targetType p.1 p.2 hnode
      dsimp only
      split
      · exact refuses_pure
      · exact hlisting.map.bind fun _ _ => refuses_pure
    · refine selective_rejectParameters.bind fun _ _ => ?_
      obtain ⟨u, hu⟩ := hnode
      split
      · exact refuses_pure
      next id _ =>
      split
      · exact refuses_pure
      split
      · exact refuses_pure
      next target _ =>
      have htarget := selective_recordItems h children link.targetType u target hu
      rw [hu]
      split
      · exact refuses_pure
      · exact htarget.map.bind fun _ _ => refuses_pure

theorem selective_recordItems (h : db.catalog.WellFormed) : ∀ (selection : List Selection) (T : String) (t : RecordType)
    (r : Record), db.catalog.requireNode T = .ok t → Selective (recordItems db limits t r selection)
  | [], _, _, _, _ => refuses_ok
  | s :: selection, T, t, r, ht =>
    (selective_recordItem h s T t r ht).bind fun _ _ =>
      (selective_recordItems h selection T t r ht).bind fun _ _ => refuses_pure

theorem selective_listingItem (h : db.catalog.WellFormed) : ∀ (s : Selection) (T : String) (count : Nat)
    (records : List Record), db.catalog.IsNode T → Selective (listingItem db limits T count records s)
  | .mk form name aliasName parameters children, T, count, records, hT => by
    refine selective_rejectParameters.bind fun _ _ => ?_
    obtain ⟨t, ht⟩ := hT
    split
    · exact refuses_pure
    split
    · refine (refuses_mapM fun r _ => ?_).bind fun _ _ => refuses_pure
      rw [ht]
      split
      · exact refuses_pure
      · exact (selective_recordItems h children T t r ht).map
    · exact refuses_throw trivial

theorem selective_listingItems (h : db.catalog.WellFormed) : ∀ (selection : List Selection) (T : String) (count : Nat)
    (records : List Record), db.catalog.IsNode T → Selective (listingItems db limits T count records selection)
  | [], _, _, _, _ => refuses_ok
  | s :: selection, T, count, records, hT =>
    (selective_listingItem h s T count records hT).bind fun _ _ =>
      (selective_listingItems h selection T count records hT).bind fun _ _ => refuses_pure

end

def Output.typeName? : Output → Option String
  | json _ => none
  | record typeName _ => some typeName
  | connection typeName _ _ => some typeName

/-- A selection is refused for what is wrong with it, and not for the state, if what it selects from is of a type that is
there. -/
theorem selective_resolve {output : Output} {selection : List Selection} (h : db.catalog.WellFormed)
    (ho : ∀ T, output.typeName? = some T → db.catalog.IsNode T) : Selective (resolve db limits output selection) := by
  cases output with
  | json v => exact selective_project
  | record T r =>
    obtain ⟨t, ht⟩ := ho T rfl
    simp only [resolve, resolveRecord, ht]
    split
    · exact refuses_pure
    · exact (selective_recordItems h selection T t r ht).bind fun _ _ => refuses_pure
  | connection T count records =>
    simp only [resolve, resolveListing]
    split
    · exact refuses_pure
    · exact (selective_listingItems h selection T count records (ho T rfl)).bind fun _ _ => refuses_pure

end Record

end RecordGraph
