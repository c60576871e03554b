import RecordGraph.Proofs.Catalog.WellFormed
import RecordGraph.Proofs.Catalog.Mutation

namespace RecordGraph.Catalog

open Entries

variable {c d : Catalog} {t : RecordType} {f g : Field} {i : Index} {l : Link} {T U n m : String}

namespace WellFormed

theorem initial : Catalog.initial.WellFormed := by
  have hr : Catalog.initial.Regular := by
    refine ⟨List.nodup_singleton _, by decide, by decide, ?_⟩
    intro e he hne
    exact absurd (congrArg Prod.fst (List.mem_singleton.mp he)) hne
  refine hr.wellFormed fun T n f l hf _ => ?_
  obtain ⟨t, ht, hs, -⟩ := hr.sound_of_field? hf
  have hm := List.mem_singleton.mp (mem_of_get? ht)
  have hn := hs.isNode
  rw [(Prod.mk.inj hm).2] at hn
  cases hn

theorem createType (h : c.WellFormed) (e : c.createType T = .ok (t, d)) : d.WellFormed := by
  obtain ⟨⟨hT, hn⟩, -, rfl⟩ := createType_ok.mp e
  refine (h.addType hT (isTypeName_iff.mp hn)).wellFormed (h.linksBack.add ?_ rfl fun _ _ => field?_of_createType e)
  simp [field?, hT]

theorem mem_links (h : c.WellFormed) (ht : c.requireNode T = .ok t) :
    (n, l) ∈ t.links ↔ ∃ f, c.field? T n = some f ∧ f.link = some l := by
  rw [RecordType.mem_links]
  constructor
  · rintro ⟨⟨k, f⟩, hf, hn, hl⟩
    obtain rfl : k = n := ((h.sound ht).fields_named _ hf).trans hn
    refine ⟨f, ?_, hl⟩
    rw [field?_of_requireNode ht]
    exact (get?_eq_some_iff (h.sound ht).fields_keyed).mpr hf
  · rintro ⟨f, hf, hl⟩
    rw [field?_of_requireNode ht] at hf
    have hm := mem_of_get? hf
    exact ⟨(n, f), hm, ((h.sound ht).fields_named _ hm).symm, hl⟩

theorem deleteType (h : c.WellFormed) (e : c.deleteType T = .ok (t, d)) : d.WellFormed := by
  obtain ⟨ht, hd⟩ := deleteType_ok.mp e
  have hid : ∀ l ∈ t.links, l.2.targetField ≠ idName := by
    rintro ⟨n, l⟩ hl
    obtain ⟨f, hf, hfl⟩ := (h.mem_links ht).mp hl
    obtain ⟨g, hg, hgl⟩ := h.linksBack.other_end hf hfl
    exact h.ne_id hg hgl
  have hreg : d.Regular := hd ▸ (h.removeType (h.ne_edges ht)).unlink hid
  refine hreg.wellFormed (h.linksBack.remove (fun _ _ => field?_of_deleteType e) ?_)
  rintro U m f l hf hl (hlT | ⟨⟨n, k⟩, hk, hkT, hkn⟩)
  · -- the other end is on the deleted type, whose links lead to this field
    obtain ⟨g, hg, hgl⟩ := h.linksBack.other_end hf hl
    rw [hlT] at hg
    exact .inr ⟨(l.targetField, _), (h.mem_links ht).mpr ⟨g, hg, hgl⟩, rfl, rfl⟩
  · -- the other end is also that of a field of the deleted type
    obtain ⟨e, he, hek⟩ := (h.mem_links ht).mp hk
    exact .inl (h.linksBack.eq_of_target he hek hf hl hkT.symm hkn.symm).1

theorem createField (h : c.WellFormed) (e : c.createField T f = .ok (g, d)) : d.WellFormed := by
  obtain ⟨⟨t, ht, hi, hn⟩, ⟨hk, hl⟩, -, hd⟩ := createField_ok.mp e
  have hreg : d.Regular := by
    rw [hd]
    refine h.modifyType (fun _ => rfl) (.inl (h.ne_edges ht)) fun u hu hs => ?_
    obtain rfl : t = u := Option.some.inj ((requireNode_ok.mp ht).1.symm.trans hu)
    exact hs.addField (isIdentifier_iff.mp hi) hn rfl (by simp [hk, hl, Field.isConnection])
  exact hreg.wellFormed <| h.linksBack.add (e := { f with builtIn := false }) (field?_of_fresh ht hn) hl
    fun _ _ => field?_of_createField e

theorem deleteField (h : c.WellFormed) (e : c.deleteField T n = .ok (f, d)) : d.WellFormed := by
  obtain ⟨hf, hd⟩ := deleteField_ok.mp e
  obtain ⟨⟨t, ht, hf⟩, hb, hl⟩ := deletableField_ok.mp hf
  have hid : n ≠ idName := by
    rintro rfl
    rw [(h.sound ht).field_id, Option.some.injEq] at hf
    rw [← hf] at hb
    cases hb
  have hreg : d.Regular := hd ▸ h.removeField hid
  refine hreg.wellFormed (h.linksBack.remove (fun _ _ => field?_of_deleteField e) ?_)
  rintro U m e k he hek ⟨hkT, hkn⟩
  -- the deleted field is no connection, so it is no other end
  obtain ⟨g, hg, hgl⟩ := h.linksBack.other_end he hek
  rw [hkT, hkn, field?_of_requireNode ht, hf, Option.some.injEq] at hg
  rw [← hg, hl] at hgl
  cases hgl

theorem createConnection {b : Bool} (h : c.WellFormed) (e : c.createConnection T n U m b = .ok d) :
    d.WellFormed := by
  obtain ⟨⟨t, ht, hn, hnt⟩, ⟨u, hu, hm, hmu⟩, hne, hd⟩ := createConnection_ok.mp e
  have hview (V k : String) := field?_of_createConnection (V := V) (k := k) e
  have hfirst : (c.modifyType T (·.addField { Field.connection n U m .one with required := b })).Regular := by
    refine h.modifyType (fun _ => rfl) (.inl (h.ne_edges ht)) fun v hv hs => ?_
    obtain rfl : t = v := Option.some.inj ((requireNode_ok.mp ht).1.symm.trans hv)
    exact hs.addField (isIdentifier_iff.mp hn) hnt rfl (by simp [Field.connection, Field.isConnection])
  have hreg : d.Regular := by
    rw [hd]
    refine hfirst.modifyType (fun _ => rfl) (.inl (h.ne_edges hu)) fun v hv hs => ?_
    refine hs.addField (isIdentifier_iff.mp hm) ?_ rfl (by simp [Field.connection, Field.isConnection])
    -- the second field is new also beside the first
    refine get?_eq_none_iff.mp ((field?_of_type? hv).symm.trans ?_)
    rw [field?_addField (requireNode_ok.mp ht).1 (field?_of_fresh ht hnt), if_neg]
    · exact field?_of_fresh hu hmu
    · rintro ⟨hUT, hmn⟩
      exact hne ⟨hUT.symm, hmn.symm⟩
  refine hreg.wellFormed ?_
  intro V k f l hf hl
  rw [hview] at hf
  split at hf
  · next hV =>
    obtain ⟨rfl, rfl⟩ := hV
    obtain rfl := Option.some.inj hf
    obtain rfl := Option.some.inj hl
    exact ⟨_, (hview T n).trans ((if_neg hne).trans (if_pos ⟨rfl, rfl⟩)), rfl⟩
  split at hf
  · next hV =>
    obtain ⟨rfl, rfl⟩ := hV
    obtain rfl := Option.some.inj hf
    obtain rfl := Option.some.inj hl
    exact ⟨_, (hview U m).trans (if_pos ⟨rfl, rfl⟩), rfl⟩
  · obtain ⟨g, hg, hgl⟩ := h.linksBack.other_end hf hl
    refine ⟨g, ?_, hgl⟩
    rw [hview, if_neg, if_neg, hg]
    · rintro ⟨hlT, hln⟩
      rw [hlT, hln, field?_of_fresh ht hnt] at hg
      cases hg
    · rintro ⟨hlU, hlm⟩
      rw [hlU, hlm, field?_of_fresh hu hmu] at hg
      cases hg

theorem unpair_eq (h : c.WellFormed) (hf : c.field? T n = some f) (hl : f.link = some l) :
    c.unpair T n l = (c.modifyType T (·.removeField n)).modifyType l.targetType (·.removeField l.targetField) := by
  obtain ⟨-, hne, g, hg, -⟩ := h.paired T n f l hf hl
  refine Catalog.unpair_eq (g := g) ?_ (h.name_of_field? hg)
  rw [pairedWith_eq, if_neg, hg]
  rintro ⟨hT, hn⟩
  exact hne hT.symm hn.symm

theorem deleteConnection {p : Option Field} (h : c.WellFormed) (e : c.deleteConnection T n = .ok ((f, p), d)) :
    d.WellFormed := by
  obtain ⟨hf, l, hl, -, hd⟩ := deleteConnection_ok.mp e
  obtain ⟨⟨t, ht, hf⟩, -⟩ := existingConnection_ok.mp hf
  rw [← field?_of_requireNode ht] at hf
  obtain ⟨g, hg, hgl⟩ := h.linksBack.other_end hf hl
  have hreg : d.Regular := by
    rw [hd, h.unpair_eq hf hl]
    exact (h.removeField (h.ne_id hf hl)).removeField (h.ne_id hg hgl)
  refine hreg.wellFormed (h.linksBack.remove (fun _ _ => field?_of_deleteConnection e hl) ?_)
  rintro U m e k he hek (⟨hkT, hkn⟩ | ⟨hkT, hkn⟩)
  · -- the other end is the deleted field, so this one is its pair
    obtain ⟨g', hg', hgl'⟩ := h.linksBack.other_end he hek
    rw [hkT, hkn, hf, Option.some.injEq] at hg'
    rw [← hg', hl, Option.some.injEq, Link.mk.injEq] at hgl'
    exact .inr ⟨hgl'.1.symm, hgl'.2.1.symm⟩
  · exact .inl (h.linksBack.eq_of_target hf hl he hek hkT hkn)

theorem of_field?_eq (h : c.WellFormed) (hd : d.Regular) (hv : ∀ U m, d.field? U m = c.field? U m) :
    d.WellFormed := by
  refine hd.wellFormed ?_
  intro U m f l hf hl
  rw [hv] at hf ⊢
  exact h.linksBack.other_end hf hl

theorem createIndex {fields : List String} (h : c.WellFormed) (e : c.createIndex T n fields = .ok (i, d)) :
    d.WellFormed := by
  obtain ⟨⟨t, ht, hi, hs⟩, ⟨hn, hf⟩, -, hd⟩ := createIndex_ok.mp e
  refine h.of_field?_eq ?_ fun _ _ => field?_of_createIndex e
  rw [hd]
  refine h.modifyType (fun _ => rfl) (.inl (h.ne_edges ht)) fun u hu hsu => ?_
  obtain rfl : t = u := Option.some.inj ((requireNode_ok.mp ht).1.symm.trans hu)
  exact hsu.addIndex (isIdentifier_iff.mp hn) hi rfl hf hs

theorem deleteIndex (h : c.WellFormed) (e : c.deleteIndex T n = .ok (i, d)) : d.WellFormed := by
  obtain ⟨hi, hd⟩ := deleteIndex_ok.mp e
  obtain ⟨⟨t, ht, hi⟩, hb⟩ := deletableIndex_ok.mp hi
  refine h.of_field?_eq ?_ fun _ _ => field?_of_deleteIndex e
  rw [hd]
  refine h.modifyType (fun _ => rfl) (.inl (h.ne_edges ht)) fun u hu hsu => hsu.removeIndex ?_
  rintro rfl
  rw [(h.sound ht).index_id, Option.some.injEq] at hi
  rw [← hi] at hb
  cases hb

end WellFormed

inductive Edit
  | createType (name : String)
  | deleteType (name : String)
  | createField (type : String) (field : Field)
  | deleteField (type name : String)
  | createConnection (type field targetType targetField : String) (required : Bool)
  | deleteConnection (type name : String)
  | createIndex (type name : String) (fields : List String)
  | deleteIndex (type name : String)

/-- The catalog that an operation reaches, also if it is refused. -/
def edit (c : Catalog) : Edit → Catalog
  | .createType name => ((Mutation.createType name).on c).2
  | .deleteType name => ((Mutation.deleteType name).on c).2
  | .createField type field => ((Mutation.createField type field).on c).2
  | .deleteField type name => ((Mutation.deleteField type name).on c).2
  | .createConnection type field targetType targetField required =>
    ((Mutation.createConnection type field targetType targetField required).on c).2
  | .deleteConnection type name => ((Mutation.deleteConnection type name).on c).2
  | .createIndex type name fields => ((Mutation.createIndex type name fields).on c).2
  | .deleteIndex type name => ((Mutation.deleteIndex type name).on c).2

def edits (c : Catalog) (es : List Edit) : Catalog := es.foldl edit c

theorem WellFormed.edit {e : Edit} (h : c.WellFormed) : (c.edit e).WellFormed := by
  cases e with
  | createType name => exact Mutation.comesTo_createType.preserves h fun _ _ => h.createType
  | deleteType name => exact Mutation.comesTo_deleteType.preserves h fun _ _ => h.deleteType
  | createField type field => exact Mutation.comesTo_createField.preserves h fun _ _ => h.createField
  | deleteField type name => exact Mutation.comesTo_deleteField.preserves h fun _ _ => h.deleteField
  | createConnection type field targetType targetField required =>
    exact Mutation.comesTo_createConnection.preserves h fun _ _ hd => h.createConnection (Outcome.map_unit_eq_ok.mp hd)
  | deleteConnection type name => exact Mutation.comesTo_deleteConnection.preserves h fun _ _ => h.deleteConnection
  | createIndex type name fields => exact Mutation.comesTo_createIndex.preserves h fun _ _ => h.createIndex
  | deleteIndex type name => exact Mutation.comesTo_deleteIndex.preserves h fun _ _ => h.deleteIndex

theorem WellFormed.edits {es : List Edit} (h : c.WellFormed) : (c.edits es).WellFormed := by
  induction es generalizing c with
  | nil => exact h
  | cons e es ih => exact ih h.edit

/-- Every catalog that operations can make, refused ones among them, satisfies the invariant. -/
theorem wellFormed_edits_initial (es : List Edit) : (Catalog.initial.edits es).WellFormed :=
  WellFormed.initial.edits

end RecordGraph.Catalog
