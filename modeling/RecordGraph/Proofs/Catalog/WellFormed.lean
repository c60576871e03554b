import RecordGraph.Proofs.Catalog.View

namespace RecordGraph

open Entries

/-- A letter or underscore, then letters, digits and underscores, all of them ASCII. -/
def IsAsciiIdentifier (s : String) : Prop :=
  s ≠ "" ∧ (∀ c ∈ s.toList, c.isAlphanum ∨ c = '_') ∧ ∀ c ∈ s.toList.head?, ¬c.isDigit

def IsAsciiWord (s : String) : Prop := s ≠ "" ∧ ∀ c ∈ s.toList, c.isAlphanum

theorem isTypeName_iff {s : String} : isTypeName s = true ↔ IsAsciiWord s := by
  simp [isTypeName, IsAsciiWord]

theorem isIdentifier_iff {s : String} : isIdentifier s = true ↔ IsAsciiIdentifier s := by
  have hs : s = "" ↔ s.toList = [] := by simp
  unfold isIdentifier IsAsciiIdentifier
  rw [Ne, hs]
  cases s.toList with
  | nil => simp
  | cons c cs =>
    have hd : c = '_' → c.isDigit = false := by rintro rfl; rfl
    have ha : c.isAlpha = true → c.isDigit = false := by
      have halpha : c.isAlpha = (decide (c.val ≥ 65 ∧ c.val ≤ 90) || (c.val ≥ 97 && c.val ≤ 122)) := rfl
      have hdigit : c.isDigit = (decide (c.val ≥ 48) && c.val ≤ 57) := rfl
      rw [halpha, hdigit]
      grind
    simp [Char.isAlphanum]
    grind

def Side.opposite : Side → Side
  | one => many
  | many => one

theorem Side.opposite_ne (s : Side) : s.opposite ≠ s := by cases s <;> decide

/-- What holds of a node type on its own. -/
structure RecordType.Sound (t : RecordType) : Prop where
  isNode : t.isNode = true
  name : IsAsciiWord t.name
  fields_keyed : Keyed t.fields
  indexes_keyed : Keyed t.indexes
  fields_named : ∀ e ∈ t.fields, e.1 = e.2.name
  indexes_named : ∀ e ∈ t.indexes, e.1 = e.2.name
  field_id : t.field? idName = some .id
  index_id : t.index? idName = some .id
  field_builtIn : ∀ e ∈ t.fields, e.2.builtIn = true → e.1 = idName
  index_builtIn : ∀ e ∈ t.indexes, e.2.builtIn = true → e.1 = idName
  field_name : ∀ e ∈ t.fields, IsAsciiIdentifier e.1
  index_name : ∀ e ∈ t.indexes, IsAsciiIdentifier e.1
  field_kind : ∀ e ∈ t.fields, e.2.kind = .connection ↔ e.2.isConnection = true
  index_nonempty : ∀ e ∈ t.indexes, e.2.fields ≠ []
  index_stored : ∀ e ∈ t.indexes, ∀ n ∈ e.2.fields, ∃ f, t.field? n = some f ∧ f.isStored = true

structure Catalog.Regular (c : Catalog) : Prop where
  keyed : Keyed c.types
  named : ∀ e ∈ c.types, e.1 = e.2.name
  edges : c.type? edgesName = some (.reserved edgesName)
  node : ∀ e ∈ c.types, e.1 ≠ edgesName → e.2.Sound

/-- Whether each connection field is paired with one that leads back to it. -/
def Catalog.LinksBack (c : Catalog) : Prop :=
  ∀ T n f l, c.field? T n = some f → f.link = some l →
    ∃ g, c.field? l.targetType l.targetField = some g ∧ g.link = some ⟨T, n, l.side.opposite⟩

/-- The invariant of catalogs: each connection has its other end on a node type, and the two ends are two fields. -/
structure Catalog.WellFormed (c : Catalog) : Prop extends c.Regular where
  paired : ∀ T n f l, c.field? T n = some f → f.link = some l → c.IsNode l.targetType ∧
    (T = l.targetType → n ≠ l.targetField) ∧
    ∃ g, c.field? l.targetType l.targetField = some g ∧ g.link = some ⟨T, n, l.side.opposite⟩

namespace RecordType.Sound

variable {t : RecordType} {f : Field} {i : Index} {e : String × Index} {n : String}

theorem node (h : IsAsciiWord n) : (RecordType.node n).Sound where
  isNode := rfl
  name := h
  fields_keyed := List.nodup_singleton _
  indexes_keyed := List.nodup_singleton _
  fields_named := by simp [RecordType.node, Field.id]
  indexes_named := by simp [RecordType.node, Index.id]
  field_id := rfl
  index_id := rfl
  field_builtIn := by simp [RecordType.node, Field.id]
  index_builtIn := by simp [RecordType.node, Index.id]
  field_name := by
    have hi : IsAsciiIdentifier idName := isIdentifier_iff.mp (by decide)
    simpa [RecordType.node, Field.id] using hi
  index_name := by
    have hi : IsAsciiIdentifier idName := isIdentifier_iff.mp (by decide)
    simpa [RecordType.node, Index.id] using hi
  field_kind := by simp [RecordType.node, Field.id, Field.isConnection]
  index_nonempty := by simp [RecordType.node, Index.id]
  index_stored := by
    have hs : ∃ f, (RecordType.node n).field? idName = some f ∧ f.isStored = true := ⟨.id, rfl, rfl⟩
    simpa [RecordType.node, Index.id] using hs

theorem addField (h : t.Sound) (hn : IsAsciiIdentifier f.name) (hf : f.name ∉ names t.fields)
    (hb : f.builtIn = false) (hk : f.kind = .connection ↔ f.isConnection = true) : (t.addField f).Sound where
  isNode := h.isNode
  name := h.name
  fields_keyed := h.fields_keyed.append hf
  indexes_keyed := h.indexes_keyed
  fields_named := List.forall_mem_append.mpr ⟨h.fields_named, by simp⟩
  indexes_named := h.indexes_named
  field_id := by rw [field?_addField, h.field_id]; rfl
  index_id := h.index_id
  field_builtIn := List.forall_mem_append.mpr ⟨h.field_builtIn, by simp [hb]⟩
  index_builtIn := h.index_builtIn
  field_name := List.forall_mem_append.mpr ⟨h.field_name, by simpa using hn⟩
  index_name := h.index_name
  field_kind := List.forall_mem_append.mpr ⟨h.field_kind, by simpa using hk⟩
  index_nonempty := h.index_nonempty
  index_stored := by
    intro i hi m hm
    obtain ⟨g, hg, hs⟩ := h.index_stored i hi m hm
    exact ⟨g, by rw [field?_addField, hg]; rfl, hs⟩

theorem mem_indexes_removeField :
    e ∈ (t.removeField n).indexes ↔ e ∈ t.indexes ∧ (e.2.builtIn = true ∨ n ∉ e.2.fields) := by
  simp [removeField, dropIndexes, eraseField, Index.covers]

theorem removeField (h : t.Sound) (hn : n ≠ idName) : (t.removeField n).Sound where
  isNode := h.isNode
  name := h.name
  fields_keyed := h.fields_keyed.erase
  indexes_keyed := h.indexes_keyed.sublist List.filter_sublist
  fields_named := fun e he => h.fields_named e (mem_erase.mp he).1
  indexes_named := fun e he => h.indexes_named e (mem_indexes_removeField.mp he).1
  field_id := by rw [field?_removeField, if_neg (Ne.symm hn), h.field_id]
  index_id := by
    refine (get?_eq_some_iff (h.indexes_keyed.sublist List.filter_sublist)).mpr ?_
    exact mem_indexes_removeField.mpr ⟨mem_of_get? h.index_id, .inl rfl⟩
  field_builtIn := fun e he => h.field_builtIn e (mem_erase.mp he).1
  index_builtIn := fun e he => h.index_builtIn e (mem_indexes_removeField.mp he).1
  field_name := fun e he => h.field_name e (mem_erase.mp he).1
  index_name := fun e he => h.index_name e (mem_indexes_removeField.mp he).1
  field_kind := fun e he => h.field_kind e (mem_erase.mp he).1
  index_nonempty := fun e he => h.index_nonempty e (mem_indexes_removeField.mp he).1
  index_stored := by
    rintro ⟨k, i⟩ hi m hm
    obtain ⟨hit, hc⟩ := mem_indexes_removeField.mp hi
    obtain ⟨f, hf, hs⟩ := h.index_stored (k, i) hit m hm
    refine ⟨f, ?_, hs⟩
    rw [field?_removeField, if_neg, hf]
    rintro rfl
    -- only the built-in index can stay, and that one covers the id alone
    have hb : i.builtIn = true := hc.resolve_right (not_not_intro hm)
    obtain rfl : k = idName := h.index_builtIn _ hit hb
    have hid : t.index? idName = some i := (get?_eq_some_iff h.indexes_keyed).mpr hit
    rw [h.index_id, Option.some.injEq] at hid
    rw [← hid] at hm
    exact hn (List.mem_singleton.mp hm)

theorem addIndex (h : t.Sound) (hn : IsAsciiIdentifier i.name) (hi : i.name ∉ names t.indexes)
    (hb : i.builtIn = false) (hf : i.fields ≠ [])
    (hs : ∀ n ∈ i.fields, ∃ f, t.field? n = some f ∧ f.isStored = true) : (t.addIndex i).Sound where
  isNode := h.isNode
  name := h.name
  fields_keyed := h.fields_keyed
  indexes_keyed := h.indexes_keyed.append hi
  fields_named := h.fields_named
  indexes_named := List.forall_mem_append.mpr ⟨h.indexes_named, by simp⟩
  field_id := h.field_id
  index_id := by
    have hid : (t.addIndex i).index? idName = (t.index? idName).or (if i.name = idName then some i else none) :=
      get?_append
    rw [hid, h.index_id]
    rfl
  field_builtIn := h.field_builtIn
  index_builtIn := List.forall_mem_append.mpr ⟨h.index_builtIn, by simp [hb]⟩
  field_name := h.field_name
  index_name := List.forall_mem_append.mpr ⟨h.index_name, by simpa using hn⟩
  field_kind := h.field_kind
  index_nonempty := List.forall_mem_append.mpr ⟨h.index_nonempty, by simpa using hf⟩
  index_stored := by
    refine List.forall_mem_append.mpr ⟨h.index_stored, ?_⟩
    rw [List.forall_mem_singleton]
    exact hs

theorem removeIndex (h : t.Sound) (hn : n ≠ idName) : (t.removeIndex n).Sound where
  isNode := h.isNode
  name := h.name
  fields_keyed := h.fields_keyed
  indexes_keyed := h.indexes_keyed.erase
  fields_named := h.fields_named
  indexes_named := fun e he => h.indexes_named e (mem_erase.mp he).1
  field_id := h.field_id
  index_id := (get?_erase_of_ne (Ne.symm hn)).trans h.index_id
  field_builtIn := h.field_builtIn
  index_builtIn := fun i hi => h.index_builtIn i (mem_erase.mp hi).1
  field_name := h.field_name
  index_name := fun i hi => h.index_name i (mem_erase.mp hi).1
  field_kind := h.field_kind
  index_nonempty := fun i hi => h.index_nonempty i (mem_erase.mp hi).1
  index_stored := fun i hi => h.index_stored i (mem_erase.mp hi).1

end RecordType.Sound

namespace Catalog

variable {c d : Catalog} {t : RecordType} {f : Field} {l : Link} {T U n m : String} {g : RecordType → RecordType}

namespace Regular

theorem sound_of_field? (h : c.Regular) (hf : c.field? T n = some f) :
    ∃ t, c.type? T = some t ∧ t.Sound ∧ t.field? n = some f := by
  obtain ⟨t, ht, htf⟩ := Option.bind_eq_some_iff.mp hf
  refine ⟨t, ht, h.node (T, t) (mem_of_get? ht) ?_, htf⟩
  rintro rfl
  rw [h.edges, Option.some.injEq] at ht
  rw [← ht] at htf
  cases htf

theorem name_of_field? (h : c.Regular) (hf : c.field? T n = some f) : f.name = n := by
  obtain ⟨t, -, hs, ht⟩ := h.sound_of_field? hf
  exact (hs.fields_named (n, f) (mem_of_get? ht)).symm

theorem isNode_of_field? (h : c.Regular) (hf : c.field? T n = some f) : c.IsNode T := by
  obtain ⟨t, ht, hs, -⟩ := h.sound_of_field? hf
  exact isNode_iff.mpr ⟨t, ht, hs.isNode⟩

theorem ne_edges (h : c.Regular) (ht : c.requireNode T = .ok t) : T ≠ edgesName := by
  rintro rfl
  obtain ⟨ht, hn⟩ := requireNode_ok.mp ht
  rw [h.edges, Option.some.injEq] at ht
  rw [← ht] at hn
  cases hn

theorem sound (h : c.Regular) (ht : c.requireNode T = .ok t) : t.Sound :=
  h.node (T, t) (mem_of_get? (requireNode_ok.mp ht).1) (h.ne_edges ht)

theorem name_of_type? (h : c.Regular) (ht : c.type? T = some t) : t.name = T := (h.named (T, t) (mem_of_get? ht)).symm

theorem ne_id (h : c.Regular) (hf : c.field? T n = some f) (hl : f.link = some l) : n ≠ idName := by
  rintro rfl
  obtain ⟨t, -, hs, ht⟩ := h.sound_of_field? hf
  rw [hs.field_id, Option.some.injEq] at ht
  rw [← ht] at hl
  cases hl

theorem modifyType (h : c.Regular) (hg : ∀ t, (g t).name = t.name)
    (hT : T ≠ edgesName ∨ g (.reserved edgesName) = .reserved edgesName)
    (hs : ∀ t, c.type? T = some t → t.Sound → (g t).Sound) : (c.modifyType T g).Regular where
  keyed := h.keyed.modify
  named := by
    rintro ⟨U, u⟩ hu
    obtain ⟨t, ht, rfl⟩ := (mem_modify h.keyed).mp hu
    refine (h.named (U, t) ht).trans ?_
    split
    · exact (hg t).symm
    · rfl
  edges := by
    rw [type?_modifyType, h.edges, Option.map_some]
    by_cases he : edgesName = T
    · rw [if_pos he, hT.resolve_left (not_not_intro he.symm)]
    · rw [if_neg he]
  node := by
    rintro ⟨U, u⟩ hu hne
    obtain ⟨t, ht, rfl⟩ := (mem_modify h.keyed).mp hu
    dsimp only
    split
    · next hU =>
      subst hU
      exact hs t ((get?_eq_some_iff h.keyed).mpr ht) (h.node _ ht hne)
    · exact h.node _ ht hne

theorem removeField (h : c.Regular) (hn : n ≠ idName) : (c.modifyType T (·.removeField n)).Regular :=
  h.modifyType (fun _ => rfl) (.inr rfl) fun _ _ hs => hs.removeField hn

theorem unlink {links : List (String × Link)} (h : c.Regular) (hl : ∀ l ∈ links, l.2.targetField ≠ idName) :
    (c.unlink links).Regular := by
  induction links generalizing c with
  | nil => exact h
  | cons l links ih =>
    rw [List.forall_mem_cons] at hl
    exact ih (h.removeField hl.1) hl.2

theorem removeType (h : c.Regular) (hT : T ≠ edgesName) : (c.removeType T).Regular where
  keyed := h.keyed.erase
  named := fun e he => h.named e (mem_erase.mp he).1
  edges := by rw [type?_removeType, if_neg (Ne.symm hT), h.edges]
  node := fun e he => h.node e (mem_erase.mp he).1

theorem addType (h : c.Regular) (hT : c.type? T = none) (hn : IsAsciiWord T) : (c.addType (.node T)).Regular where
  keyed := h.keyed.append (get?_eq_none_iff.mp hT)
  named := List.forall_mem_append.mpr ⟨h.named, by simp⟩
  edges := by rw [type?_addType, h.edges]; rfl
  node := List.forall_mem_append.mpr ⟨h.node, by simpa using fun _ => RecordType.Sound.node hn⟩

/-- What is left of the invariant is that links lead back. -/
theorem wellFormed (h : c.Regular) (hl : c.LinksBack) : c.WellFormed := by
  refine ⟨h, ?_⟩
  intro T n f l hf hfl
  obtain ⟨g, hg, hgl⟩ := hl T n f l hf hfl
  refine ⟨h.isNode_of_field? hg, ?_, g, hg, hgl⟩
  rintro rfl rfl
  -- a field that is its own other end would be on both sides
  rw [hf, Option.some.injEq] at hg
  rw [← hg, hfl, Option.some.injEq] at hgl
  exact l.side.opposite_ne (congrArg Link.side hgl).symm

end Regular

theorem WellFormed.linksBack (h : c.WellFormed) : c.LinksBack := fun T n f l hf hl => (h.paired T n f l hf hl).2.2

theorem LinksBack.other_end (h : c.LinksBack) (hf : c.field? T n = some f) (hl : f.link = some l) :
    ∃ g, c.field? l.targetType l.targetField = some g ∧ g.link = some ⟨T, n, l.side.opposite⟩ :=
  h T n f l hf hl

/-- Links still lead back when fields go, none of them without its other end. -/
theorem LinksBack.remove {R : String → String → Prop} [∀ U m, Decidable (R U m)] (h : c.LinksBack)
    (hd : ∀ U m, d.field? U m = if R U m then none else c.field? U m)
    (hR : ∀ T n f l, c.field? T n = some f → f.link = some l → R l.targetType l.targetField → R T n) :
    d.LinksBack := by
  intro T n f l hf hl
  rw [hd] at hf
  split at hf
  · cases hf
  next hTn =>
  obtain ⟨g, hg, hgl⟩ := h.other_end hf hl
  refine ⟨g, ?_, hgl⟩
  rw [hd, if_neg fun hlR => hTn (hR T n f l hf hl hlR), hg]

theorem LinksBack.add {e : Field} (h : c.LinksBack) (hT : c.field? T m = none) (he : e.link = none)
    (hd : ∀ U n, d.field? U n = if U = T ∧ n = m then some e else c.field? U n) : d.LinksBack := by
  intro U n f l hf hl
  rw [hd] at hf
  split at hf
  · rw [← Option.some.inj hf, he] at hl
    cases hl
  obtain ⟨g, hg, hgl⟩ := h.other_end hf hl
  refine ⟨g, ?_, hgl⟩
  rw [hd, if_neg, hg]
  rintro ⟨hlT, hlm⟩
  rw [hlT, hlm, hT] at hg
  cases hg

/-- Two connection fields with the same other end are the same field. -/
theorem LinksBack.eq_of_target (h : c.LinksBack) {k : Link} {e : Field} (hf : c.field? T n = some f)
    (hl : f.link = some l) (he : c.field? U m = some e) (hk : e.link = some k)
    (hT : k.targetType = l.targetType) (hn : k.targetField = l.targetField) : U = T ∧ m = n := by
  obtain ⟨g, hg, hgl⟩ := h.other_end hf hl
  obtain ⟨g', hg', hgl'⟩ := h.other_end he hk
  rw [hT, hn, hg, Option.some.injEq] at hg'
  rw [← hg', hgl, Option.some.injEq, Link.mk.injEq] at hgl'
  exact ⟨hgl'.1.symm, hgl'.2.1.symm⟩

end Catalog

end RecordGraph
