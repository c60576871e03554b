import RecordGraph.Proofs.Engine.Proper

namespace RecordGraph

open Entries Catalog Operation Outcome

variable {limits : PageLimits} {c : Catalog} {s : Store} {db : Database} {t : RecordType} {r : Record} {T n id : String}
variable {data : Entries Json} {fields : Entries Value} {v : Value} {e : Fault}

namespace Record

/-- The stored fields of a record, as they are reported. -/
def written (r : Record) : Entries Json := r.fields.map fun e => (e.1, e.2.toJson)

def Dated (r : Record) : Prop := ∀ n v, (n, v) ∈ r.fields → v.Dated

theorem merge_eq_self (hk : Keyed r.fields) (h : ∀ e ∈ fields, e ∈ r.fields) : r.merge fields = r := by
  have hfields : (Entries.erase idName fields).foldl (fun m e => Entries.put e.1 e.2 m) r.fields = r.fields :=
    Entries.foldl_put_eq_self hk fun e he => h e (mem_erase.mp he).1
  rw [merge, hfields]

end Record

section

variable [Ids]

theorem Store.Filed.update_eq_self (h : s.Filed) (hr : r ∈ s.records) (hm : r.merge fields = r) :
    s.update r.type r.id fields = .ok s := by
  have hget : s.get? r.type r.id = some r := h.get? hr
  refine update_eq_ok.mpr ⟨⟨r, hget⟩, congrArg (Store.mk · s.inserted) (modify_eq_self fun t ht => ?_).symm⟩
  refine modify_eq_self fun q hq => ?_
  obtain rfl : r = q := by
    rw [Store.get?, ht, Option.bind_some, hq] at hget
    exact (Option.some.inj hget).symm
  exact hm

section Written

variable (h : db.Sound) (hp : db.Proper) (hr : r ∈ db.store.records) (ht : db.catalog.requireNode r.type = .ok t)

include h hp hr ht

/-- A value of a record is supplied as it is, unless it is an instant that may not be written back. -/
theorem supply_written (hv : (n, v) ∈ r.fields) : (v.Dated ∧ t.supply (n, v.toJson) = .ok (n, v)) ∨
    ¬v.Dated ∧ t.supply (n, v.toJson) = .error (.notConvertible v.toJson.text "datetime") := by
  obtain ⟨f, hf, hb, hs, hk⟩ := (h.fits r hr).holds n v hv
  rw [field?_of_requireNode ht] at hf
  have hproper : v.Proper := hp.values r hr n v hv
  rw [RecordType.supply_of_stored hf hb hs, ← hk]
  by_cases hy : v.Dated
  · exact .inl ⟨hy, congrArg (Except.map (n, ·)) (Value.coerce_toJson hproper hy)⟩
  · exact .inr ⟨hy, congrArg (Except.map (n, ·)) (Value.coerce_toJson_of_not_dated hproper hy)⟩

variable (hd : data.Perm r.written)

include hd

theorem refuses_written : Refuses (fun e => ∃ n v, (n, v) ∈ r.fields ∧ ¬v.Dated ∧
    e = .notConvertible v.toJson.text "datetime") (data.mapM t.supply) := by
  apply refuses_mapM
  intro entry hentry e he
  obtain ⟨⟨n, v⟩, hv, rfl⟩ := List.mem_map.mp (hd.mem_iff.mp hentry)
  rcases supply_written h hp hr ht hv with ⟨-, hs⟩ | ⟨hy, hs⟩
  · rw [hs] at he
    cases he
  · rw [hs] at he
    exact ⟨n, v, hv, hy, (Except.error.inj he).symm⟩

theorem dated_of_supplied {supplied : Entries Value} (hm : data.mapM t.supply = .ok supplied) : r.Dated := by
  intro n v hv
  have hentry : (n, v.toJson) ∈ r.written := List.mem_map_of_mem (f := fun e => (e.1, e.2.toJson)) hv
  obtain ⟨e, -, he⟩ := exists_of_mapM_ok hm (hd.mem_iff.mpr hentry)
  rcases supply_written h hp hr ht hv with ⟨hy, -⟩ | ⟨-, hs⟩
  · exact hy
  · rw [hs] at he
    cases he

theorem mem_of_accept_written (ha : t.accept data .update = .ok fields) : ∀ e ∈ fields, e ∈ r.fields := by
  rintro ⟨n, v⟩ he
  rcases RecordType.supplied_or_default ha he with ⟨j, hj, hs⟩ | ⟨hc, -⟩
  · obtain ⟨⟨m, w⟩, hw, hmj⟩ := List.mem_map.mp (hd.mem_iff.mp hj)
    obtain ⟨rfl, rfl⟩ := Prod.mk.inj hmj
    rcases supply_written h hp hr ht hw with ⟨-, hs'⟩ | ⟨-, hs'⟩
    · rw [hs'] at hs
      exact Except.ok.inj hs ▸ hw
    · rw [hs'] at hs
      cases hs
  · cases hc

theorem on_update_written (limits : PageLimits) : (r.Dated ∧ (Call.update.perform limits (.update r.type r.id data)).on db =
      (.ok (.record r.type r), db)) ∨
    ∃ n v, (n, v) ∈ r.fields ∧ ¬v.Dated ∧ (Call.update.perform limits (.update r.type r.id data)).on db =
      (.error (.notConvertible v.toJson.text "datetime"), db) := by
  cases hm : data.mapM t.supply with
  | error e =>
    obtain ⟨n, v, hv, hy, rfl⟩ := refuses_written h hp hr ht hd e hm
    have ha : t.accept data .update = .error (.notConvertible v.toJson.text "datetime") := by
      rw [RecordType.accept_update, hm]
      rfl
    exact .inr ⟨n, v, hv, hy, Call.on_update_refused ht ha⟩
  | ok supplied =>
    obtain ⟨fields, ha⟩ : ∃ fields, t.accept data .update = .ok fields := by
      rw [RecordType.accept_update, hm]
      exact ⟨_, rfl⟩
    have hmerge : r.merge fields = r :=
      Record.merge_eq_self (h.fits r hr).keyed (mem_of_accept_written h hp hr ht hd ha)
    have hstore := h.filed.update_eq_self hr hmerge
    exact .inl ⟨dated_of_supplied h hp hr ht hd hm, Call.on_update ht ha hstore (h.filed.get? hr)⟩

end Written

/-- In every state that a run reaches, a record can be written back to itself just if the year of each of its instants has
four digits. The answer is then the record as it was, and otherwise a refused conversion of one of the instants; in either
case nothing changes. -/
theorem written_back_initial (limits : PageLimits) (es : List Event) {T : String} {r : Record} {data : Entries Json}
    (hr : r ∈ (Engine.initial.run limits es).db.store.list T []) (hd : data.Perm r.written) :
    let db := (Engine.initial.run limits es).db
    let answer := (Call.update.perform limits (.update T r.id data)).on db
    ((∃ o, answer.1 = .ok o) ↔ r.Dated) ∧
      (r.Dated → answer = (.ok (.record T r), db)) ∧
      (¬r.Dated → ∃ n v, (n, v) ∈ r.fields ∧ ¬v.Dated ∧
        answer = (.error (.notConvertible v.toJson.text "datetime"), db)) := by
  intro db answer
  have hsound : db.Sound := Engine.Sound.initial.run.db
  have hproper : db.Proper := (Engine.Proper.initial.run Engine.Sound.initial).db
  obtain ⟨hm, rfl⟩ := hsound.filed.mem_list.mp hr
  obtain ⟨t, ht⟩ := (hsound.fits r hm).isNode
  rcases on_update_written hsound hproper hm ht hd limits with ⟨hy, ha⟩ | ⟨n, v, hv, hy, ha⟩
  · have hanswer : answer = (.ok (.record r.type r), db) := ha
    exact ⟨⟨fun _ => hy, fun _ => ⟨_, congrArg Prod.fst hanswer⟩⟩, fun _ => hanswer, fun hno => absurd hy hno⟩
  · have hanswer : answer = (.error (.notConvertible v.toJson.text "datetime"), db) := ha
    have hno : ¬r.Dated := fun hall => hy (hall n v hv)
    refine ⟨⟨?_, fun hy => absurd hy hno⟩, fun hy => absurd hy hno, fun _ => ⟨n, v, hv, hy, hanswer⟩⟩
    rintro ⟨o, ho⟩
    rw [hanswer] at ho
    cases ho

end

def calendar : List Event :=
  [.process .createType [("name", "A")], .perform .createType 0,
    .process .createField [("type", "A"), ("fieldName", "at"), ("fieldType", "datetime")], .perform .createField 1,
    .process .createField [("type", "A"), ("fieldName", "x"), ("fieldType", "float")], .perform .createField 2,
    .process .create [("type", "A"), ("data", "\x7b\"x\":1.5,\"at\":\"2017-01-01T00:59:60.5+01:00\"\x7d")],
    .perform .create 3,
    .process .create [("type", "A"), ("data", "\x7b\"at\":\"+12345-06-07T08:09:10\"\x7d")], .perform .create 4]

open scoped Ids in
theorem written_back_calendar :
    let db := (Engine.initial.run .standard calendar).db
    let r : Record := ⟨Ids.id 1, "A", [("at", .datetime ⟨⟨2016, 12, 31⟩, 1439, 60, 500000000⟩),
      ("x", .float ⟨0x3FF8000000000000⟩)]⟩
    let q : Record := ⟨Ids.id 2, "A", [("at", .datetime ⟨⟨12345, 6, 7⟩, 489, 10, 0⟩)]⟩
    r ∈ db.store.list "A" [] ∧ q ∈ db.store.list "A" [] ∧
      (Call.update.perform .standard (.update "A" r.id r.written)).on db = (.ok (.record "A" r), db) ∧
      ∃ text, (Call.update.perform .standard (.update "A" q.id q.written)).on db =
        (.error (.notConvertible text "datetime"), db) := by
  intro db r q
  have hr : r ∈ db.store.list "A" [] := by decide +kernel
  have hq : q ∈ db.store.list "A" [] := by decide +kernel
  have hdated : r.Dated := by
    rintro n v hv t rfl
    rcases List.mem_cons.mp hv with hv | hv
    · cases hv
      decide
    · cases List.mem_singleton.mp hv
  have hfar : ¬q.Dated := fun hy => absurd (hy "at" _ List.mem_cons_self _ rfl) (by decide)
  obtain ⟨-, hback, -⟩ := written_back_initial .standard calendar hr (.refl r.written)
  obtain ⟨-, -, hrefused⟩ := written_back_initial .standard calendar hq (.refl q.written)
  obtain ⟨n, v, -, -, ha⟩ := hrefused hfar
  exact ⟨hr, hq, hback hdated, _, ha⟩

end RecordGraph
