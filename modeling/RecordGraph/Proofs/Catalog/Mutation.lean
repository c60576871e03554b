import RecordGraph.Proofs.Catalog.View
import RecordGraph.Proofs.Stateful

namespace RecordGraph

open Entries Outcome Stateful Catalog

variable {c : Catalog} {t u : RecordType} {f : Field} {i : Index} {l : Link} {T U n m : String} {fields : List String}

namespace Catalog

theorem checkDeleteField_eq : c.checkDeleteField T n = (c.deletableField T n).map fun _ => () := by
  unfold checkDeleteField deletableField
  cases c.requireNode T with
  | error e => rfl
  | ok t =>
    rw [ok_bind, ok_bind]
    cases existingField t n with
    | error e => rfl
    | ok f => cases hb : f.builtIn <;> cases hc : f.isConnection <;> simp [hb, hc, ok_bind] <;> rfl

theorem checkDeleteConnection_eq : c.checkDeleteConnection T n = (c.existingConnection T n).map fun _ => () := by
  unfold checkDeleteConnection existingConnection
  cases c.requireNode T with
  | error e => rfl
  | ok t =>
    rw [ok_bind, ok_bind]
    cases existingField t n with
    | error e => rfl
    | ok f => cases hc : f.isConnection <;> simp [hc, ok_bind] <;> rfl

theorem checkDeleteIndex_eq : c.checkDeleteIndex T n = (c.deletableIndex T n).map fun _ => () := by
  unfold checkDeleteIndex deletableIndex
  cases c.requireNode T with
  | error e => rfl
  | ok t =>
    rw [ok_bind, ok_bind]
    cases t.index? n with
    | none => rfl
    | some i => cases hb : i.builtIn <;> simp [hb] <;> rfl

theorem modifyType_congr {g h : RecordType → RecordType} (ht : c.type? T = some t) (hg : g t = h t) :
    c.modifyType T g = c.modifyType T h := by
  refine congrArg mk (modify_congr fun v hv => ?_)
  obtain rfl : t = v := Option.some.inj (ht.symm.trans hv)
  exact hg

theorem exists_requireNode_modifyType {g : RecordType → RecordType} (hg : ∀ t, (g t).isNode = t.isNode)
    (hu : c.requireNode U = .ok u) : ∃ v, (c.modifyType T g).requireNode U = .ok v :=
  (isNode_modifyType hg).mpr ⟨u, hu⟩

end Catalog

namespace Mutation

theorem on_node (ht : c.requireNode T = .ok t) : (node T).on c = (.ok t, c) := by
  rw [node, on_ask_bind, ht]
  exact congrArg (·, c) (getType_ok.mpr (requireNode_ok.mp ht).1)

theorem on_takeField (ht : c.requireNode T = .ok t) (hf : t.field? n = some f) :
    (takeField T n).on c = (.ok f, c.modifyType T (·.eraseField n)) := by
  rw [takeField, on_bind_ok (on_node ht), hf]
  rfl

theorem on_putField (ht : c.requireNode T = .ok t) (hf : f.name = n) (hn : n ∉ names t.fields) :
    (putField T n f).on c = (.ok (), c.modifyType T (·.addField f)) := by
  have hput : c.modifyType T (fun t => { t with fields := t.fields.put n f }) = c.modifyType T (·.addField f) := by
    refine modifyType_congr (requireNode_ok.mp ht).1 ?_
    rw [RecordType.addField, hf, put_of_absent hn]
  rw [putField, on_bind_ok (on_node ht), ← hput]
  rfl

theorem on_takePaired : (takePaired l).on c =
    (.ok ((c.type? l.targetType).bind (·.field? l.targetField)), c.modifyType l.targetType (·.eraseField l.targetField)) := rfl

theorem comesTo_createType : (createType n).ComesTo (·.createType n) := by
  intro c
  show _ = settled c (c.createType n)
  rw [createType, on_ask_bind]
  cases hcheck : c.checkCreateType n with
  | error e => simp only [Catalog.createType, hcheck]; rfl
  | ok _ =>
    have hcreate : c.createType n = .ok (.node n, c.addType (.node n)) := by
      simp only [Catalog.createType, hcheck]
      rfl
    have habsent : n ∉ names c.types := get?_eq_none_iff.mp (createType_ok.mp hcreate).1.1
    dsimp only
    rw [hcreate, on_get_bind, putNew_of_absent habsent]
    rfl

theorem comesTo_deleteType : (deleteType n).ComesTo (·.deleteType n) := by
  intro c
  show _ = settled c (c.deleteType n)
  rw [deleteType, on_ask_bind, checkDeleteType, Catalog.deleteType]
  cases ht : c.requireNode n with
  | error e => rfl
  | ok t =>
    simp only [ok_bind, pure, Except.pure]
    rw [on_ask_bind, getType_ok.mpr (requireNode_ok.mp ht).1]
    dsimp only
    rw [on_modify_bind, on_forM_modify_bind]
    rfl

theorem comesTo_createField : (createField T f).ComesTo (·.createField T f) := by
  intro c
  show _ = settled c (c.createField T f)
  rw [createField, on_ask_bind]
  cases hcheck : c.checkCreateField T f with
  | error e => simp only [Catalog.createField, hcheck]; rfl
  | ok _ =>
    have hcreate : c.createField T f =
        .ok ({ f with builtIn := false }, c.modifyType T (·.addField { f with builtIn := false })) := by
      simp only [Catalog.createField, hcheck]
      rfl
    obtain ⟨⟨t, ht, -, hn⟩, -⟩ := createField_ok.mp hcreate
    dsimp only
    rw [hcreate, on_bind_ok (on_node ht), putNew_of_absent hn]
    exact congrArg (Prod.mk _) (modifyType_congr (requireNode_ok.mp ht).1 rfl)

theorem comesTo_deleteField : (deleteField T n).ComesTo (·.deleteField T n) := by
  intro c
  show _ = settled c (c.deleteField T n)
  rw [deleteField, on_ask_bind, checkDeleteField_eq, Catalog.deleteField]
  cases hf : c.deletableField T n with
  | error e => rfl
  | ok f =>
    obtain ⟨⟨t, ht, hget⟩, -⟩ := deletableField_ok.mp hf
    simp only [Except.map]
    rw [on_bind_ok (on_takeField ht hget), on_modify_bind, modifyType_modifyType]
    rfl

/-- The second type is found again after the first side was made, also where the two are one type. -/
theorem comesTo_createConnection {b : Bool} :
    (createConnection T n U m b).ComesTo fun c => (c.createConnection T n U m b).map ((), ·) := by
  intro c
  show _ = settled c ((c.createConnection T n U m b).map ((), ·))
  rw [createConnection, on_ask_bind]
  cases hcheck : c.checkCreateConnection T n U m with
  | error e => simp only [Catalog.createConnection, hcheck]; rfl
  | ok _ =>
    obtain ⟨d, hcreate⟩ : ∃ d, c.createConnection T n U m b = .ok d := by
      simp only [Catalog.createConnection, hcheck]
      exact ⟨_, rfl⟩
    obtain ⟨⟨t, ht, -, hn⟩, ⟨u, hu, -, hm⟩, hne, rfl⟩ := createConnection_ok.mp hcreate
    obtain ⟨v, hv⟩ := exists_requireNode_modifyType (T := T)
      (g := (·.addField { Field.connection n U m .one with required := b })) (fun _ => rfl) hu
    have hmv : m ∉ names v.fields := by
      refine get?_eq_none_iff.mp ((field?_of_requireNode hv).symm.trans ?_)
      rw [field?_addField (requireNode_ok.mp ht).1 (field?_of_fresh ht hn), if_neg]
      · exact field?_of_fresh hu hm
      · rintro ⟨hUT, hmn⟩
        exact hne ⟨hUT.symm, hmn.symm⟩
    have hfirst := on_putField (f := { Field.connection n U m .one with required := b }) ht rfl hn
    rw [hcreate]
    exact (on_bind_ok hfirst).trans (on_putField hv rfl hmv)

theorem comesTo_deleteConnection : (deleteConnection T n).ComesTo (·.deleteConnection T n) := by
  intro c
  show _ = settled c (c.deleteConnection T n)
  rw [deleteConnection, on_ask_bind, checkDeleteConnection_eq, Catalog.deleteConnection]
  cases hf : c.existingConnection T n with
  | error e => rfl
  | ok f =>
    obtain ⟨⟨t, ht, hget⟩, l, hl⟩ := existingConnection_ok.mp hf
    simp only [Except.map, ok_bind, hl]
    rw [on_bind_ok (on_takeField ht hget)]
    simp only [hl]
    rw [on_bind_ok on_takePaired, on_modify_bind, unpair, pairedWith]
    cases ((c.modifyType T (·.eraseField n)).type? l.targetType).bind (·.field? l.targetField) <;> rfl

theorem comesTo_createIndex : (createIndex T n fields).ComesTo (·.createIndex T n fields) := by
  intro c
  show _ = settled c (c.createIndex T n fields)
  rw [createIndex, on_ask_bind]
  cases hcheck : c.checkCreateIndex T n fields with
  | error e => simp only [Catalog.createIndex, hcheck]; rfl
  | ok _ =>
    have hcreate : c.createIndex T n fields =
        .ok (⟨n, fields, false⟩, c.modifyType T (·.addIndex ⟨n, fields, false⟩)) := by
      simp only [Catalog.createIndex, hcheck]
      rfl
    obtain ⟨⟨t, ht, hn, -⟩, -⟩ := createIndex_ok.mp hcreate
    dsimp only
    rw [hcreate, on_bind_ok (on_node ht), putNew_of_absent hn]
    exact congrArg (Prod.mk _) (modifyType_congr (requireNode_ok.mp ht).1 rfl)

theorem comesTo_deleteIndex : (deleteIndex T n).ComesTo (·.deleteIndex T n) := by
  intro c
  show _ = settled c (c.deleteIndex T n)
  rw [deleteIndex, on_ask_bind, checkDeleteIndex_eq, Catalog.deleteIndex]
  cases hi : c.deletableIndex T n with
  | error e => rfl
  | ok i =>
    obtain ⟨⟨t, ht, hget⟩, -⟩ := deletableIndex_ok.mp hi
    simp only [Except.map]
    rw [on_bind_ok (on_node ht), hget]
    rfl

end Mutation

end RecordGraph
