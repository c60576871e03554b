import RecordGraph.Call.Parameter
import RecordGraph.Schema.Value
import RecordGraph.Proofs.Entries
import RecordGraph.Proofs.Decimal.Magnitude

namespace RecordGraph.Number

open Decimal

/-- Whether it is one of the numbers that texts write: an integer below `2 ^ 64` in size, or a finite number. -/
def Proper : Number → Prop
  | int i => i.natAbs < UInt64.size
  | float x => x.isFinite = true

variable {m n k : Nat} {e : Int} {x : Double} {cs : List Char}

/-- Numbers whose exponent field is at most 1100 are far from infinity, and all below `2 ^ 64` are among them. -/
theorem isFinite_of_le (h : x.magnitude ≤ 1100 * Double.fractions) : x.isFinite = true :=
  Double.isFinite_iff.mpr (h.trans_lt (by decide))

theorem magnitude_ofRatio_one_le {negative : Bool} (h : m < UInt64.size) :
    (Double.ofRatio negative m 1).magnitude ≤ 1100 * Double.fractions :=
  (Double.magnitude_ofRatio_le (b := 64) Nat.one_pos (by simpa using h)).trans (by decide)

theorem magnitude_roundedPower (h : 0 < n) (hn : n ≤ maxPower) :
    1026 * Double.fractions ≤ (roundedPower n).magnitude := by
  have hall : ∀ n ∈ List.range' 1 maxPower, 1026 * Double.fractions ≤ (roundedPower n).magnitude :=
    by decide +kernel
  exact hall n (List.mem_range'_1.mpr ⟨h, by omega⟩)

theorem magnitude_divideByPower_le (hn : 0 < n) (hx : x.magnitude ≤ 1100 * Double.fractions) :
    (divideByPower x n).magnitude ≤ 1100 * Double.fractions := by
  have hdiv {x : Double} {k : Nat} (hx : x.magnitude ≤ 1100 * Double.fractions) (hk : 0 < k) (h : k ≤ maxPower) :
      (x.div (roundedPower k)).magnitude ≤ 1100 * Double.fractions :=
    (Double.magnitude_div_le (b := 75) hx (magnitude_roundedPower hk h)).trans (by decide)
  fun_induction divideByPower x n with
  | case1 x n h => exact hdiv hx hn h
  | case2 x n _ _ => exact hx
  | case3 x n h _ ih => exact ih (by omega) (hdiv hx (by decide) le_rfl)

theorem isFinite_scale? (hm : m < UInt64.size) (h : scale? m e = some x) : x.isFinite = true := by
  have hint : (Double.ofInt m).magnitude ≤ 1100 * Double.fractions := magnitude_ofRatio_one_le hm
  unfold scale? at h
  dsimp only at h
  split at h
  · next he =>
    rw [← Option.some.inj h]
    exact isFinite_of_le (magnitude_divideByPower_le (by omega) hint)
  split at h
  · exact (Option.filter_eq_some_iff.mp h).2
  split at h
  · rw [← Option.some.inj h]
    exact isFinite_of_le hint
  · cases h

theorem appendDigits_lt (h : m < UInt64.size) : (appendDigits m cs).1 < UInt64.size := by
  induction cs generalizing m with
  | nil => exact h
  | cons c cs ih =>
    unfold appendDigits
    dsimp only
    split
    · next hn => exact ih hn
    · exact h

theorem proper_ofSignificand {negative : Bool} (hm : m < UInt64.size) : (ofSignificand negative m).Proper := by
  unfold ofSignificand
  split
  · exact hm
  split
  · exact isFinite_of_le (magnitude_ofRatio_one_le hm)
  · show (-(m : Int)).natAbs < UInt64.size
    simpa using hm

theorem proper_ofText? {number : Number} (h : ofText? cs = some number) : number.Proper := by
  have hscaled {negative : Bool} {m : Nat} {e : Int} (hm : m < UInt64.size)
      (h : (scale? m e).map (fun x => float (.ofMagnitude negative x.magnitude)) = some number) : number.Proper := by
    obtain ⟨x, hx, rfl⟩ := Option.map_eq_some_iff.mp h
    exact Double.isFinite_ofMagnitude (isFinite_scale? hm hx)
  unfold ofText? at h
  dsimp only at h
  -- with a sign and without
  split at h
  all_goals
    obtain ⟨-, -, h⟩ := Option.bind_eq_some_iff.mp h
    split at h
    · split at h
      · rw [← Option.some.inj h]
        exact proper_ofSignificand (appendDigits_lt (by decide))
      · exact hscaled (appendDigits_lt (by decide)) h
    · obtain ⟨-, -, h⟩ := Option.bind_eq_some_iff.mp h
      obtain ⟨e, -, h⟩ := Option.bind_eq_some_iff.mp h
      exact hscaled (appendDigits_lt (appendDigits_lt (by decide))) h
    · obtain ⟨e, -, h⟩ := Option.bind_eq_some_iff.mp h
      exact hscaled (appendDigits_lt (by decide)) h

end RecordGraph.Number

namespace RecordGraph

theorem Value.isFinite_toDouble {number : Number} (h : number.Proper) : (Value.toDouble number).isFinite = true := by
  cases number with
  | int i => exact Number.isFinite_of_le (Number.magnitude_ofRatio_one_le h)
  | float x => exact h

namespace Json

/-- Whether all numbers in a value are such as texts write. -/
inductive Proper : Json → Prop
  | null : Proper null
  | bool (b : Bool) : Proper (bool b)
  | number {n : Number} (h : n.Proper) : Proper (number n)
  | string (s : String) : Proper (string s)
  | array {items : List Json} (h : ∀ v ∈ items, Proper v) : Proper (array items)
  | object {entries : List (String × Json)} (h : ∀ e ∈ entries, Proper e.2) : Proper (object entries)

variable {c : Char} {cs rest : List Char} {l : Lexeme} {ls : List Lexeme} {r r' : Reading} {v : Json} {limit : Nat}
variable {containers : List Container} {text : String}

theorem Proper.of_object {entries : List (String × Json)} (h : (Json.object entries).Proper) : ∀ e ∈ entries, e.2.Proper := by
  cases h with
  | object h => exact h

theorem proper_word? {word : String} (h : word? word = some v) : v.Proper := by
  unfold word? at h
  split at h
  · exact Option.some.inj h ▸ .null
  · exact Option.some.inj h ▸ .bool true
  · exact Option.some.inj h ▸ .bool false
  · cases h

def Lexeme.Proper : Lexeme → Prop
  | scalar v => v.Proper
  | _ => True

theorem proper_lexeme? (h : lexeme? c cs = some (l, rest)) : l.Proper := by
  unfold lexeme? at h
  split at h
  · next l' hl =>
    obtain rfl : l' = l := (Prod.mk.inj (Option.some.inj h)).1
    unfold mark? at hl
    split at hl
    case h_7 => cases hl
    all_goals
      rw [← Option.some.inj hl]
      trivial
  split at h
  · obtain ⟨⟨inside, after⟩, -, h⟩ := Option.map_eq_some_iff.mp h
    exact (Prod.mk.inj h).1 ▸ Proper.string _
  split at h
  · obtain ⟨w, hw, h⟩ := Option.map_eq_some_iff.mp h
    exact (Prod.mk.inj h).1 ▸ proper_word? hw
  · obtain ⟨n, hn, h⟩ := Option.map_eq_some_iff.mp h
    exact (Prod.mk.inj h).1 ▸ Proper.number (Number.proper_ofText? hn)

theorem proper_lexemes? (h : lexemes? cs = some ls) : ∀ l ∈ ls, l.Proper := by
  fun_induction lexemes? cs generalizing ls with
  | case1 =>
    cases h
    simp
  | case2 c rest _ ih => exact ih h
  | case3 => cases h
  | case4 c rest _ l after hl _ ih =>
    obtain ⟨ls', hls, rfl⟩ := Option.map_eq_some_iff.mp h
    exact List.forall_mem_cons.mpr ⟨proper_lexeme? hl, ih hls⟩

def Container.Proper : Container → Prop
  | array items => ∀ v ∈ items, v.Proper
  | object entries _ => ∀ e ∈ entries, e.2.Proper

def Stage.Proper : Stage → Prop
  | keyOrClose entries => ∀ e ∈ entries, e.2.Proper
  | key entries => ∀ e ∈ entries, e.2.Proper
  | colon entries _ => ∀ e ∈ entries, e.2.Proper
  | finished v => v.Proper
  | _ => True

namespace Reading

structure Proper (r : Reading) : Prop where
  containers : ∀ c ∈ r.containers, c.Proper
  stage : r.stage.Proper

theorem proper_start : start.Proper := ⟨by simp [start], trivial⟩

theorem proper_complete (h : ∀ c ∈ containers, c.Proper) (hv : v.Proper) : (complete containers v).Proper := by
  unfold complete
  split
  · exact ⟨by simp, hv⟩
  · next items outer =>
    obtain ⟨hitems, houter⟩ := List.forall_mem_cons.mp h
    refine ⟨List.forall_mem_cons.mpr ⟨?_, houter⟩, trivial⟩
    exact List.forall_mem_append.mpr ⟨hitems, by simpa using hv⟩
  · next entries key outer =>
    obtain ⟨hentries, houter⟩ := List.forall_mem_cons.mp h
    refine ⟨List.forall_mem_cons.mpr ⟨fun e he => ?_, houter⟩, trivial⟩
    rcases Entries.mem_put he with rfl | he
    · exact hv
    · exact hentries e he

theorem proper_readValue? (h : r.Proper) (hl : l.Proper) (hr : r.readValue? limit l = some r') : r'.Proper := by
  unfold readValue? at hr
  split at hr
  · exact Option.some.inj hr ▸ proper_complete h.containers hl
  · split at hr
    · exact Option.some.inj hr ▸ ⟨List.forall_mem_cons.mpr ⟨by simp [Container.Proper], h.containers⟩, trivial⟩
    · cases hr
  · split at hr
    · exact Option.some.inj hr ▸ ⟨h.containers, by simp [Stage.Proper]⟩
    · cases hr
  · cases hr

theorem proper_step? (h : r.Proper) (hl : l.Proper) (hr : r.step? limit l = some r') : r'.Proper := by
  obtain ⟨hc, hs⟩ := h
  unfold step? at hr
  split at hr
  · exact proper_readValue? ⟨hc, hs⟩ hl hr
  · next he =>
    rw [he] at hc
    exact Option.some.inj hr ▸ proper_complete (List.forall_mem_cons.mp hc).2 (.array (by simp))
  · exact proper_readValue? ⟨hc, hs⟩ hl hr
  · next he =>
    rw [he] at hs
    exact Option.some.inj hr ▸ proper_complete hc (.object hs)
  · next he =>
    rw [he] at hs
    exact Option.some.inj hr ▸ ⟨hc, hs⟩
  · next he =>
    rw [he] at hs
    exact Option.some.inj hr ▸ ⟨hc, hs⟩
  · next he =>
    rw [he] at hs
    exact Option.some.inj hr ▸ ⟨List.forall_mem_cons.mpr ⟨hs, hc⟩, trivial⟩
  · next he =>
    rw [he] at hc
    exact Option.some.inj hr ▸ ⟨hc, trivial⟩
  · next he =>
    rw [he] at hc
    obtain ⟨hitems, houter⟩ := List.forall_mem_cons.mp hc
    exact Option.some.inj hr ▸ proper_complete houter (.array hitems)
  · next he =>
    rw [he] at hc
    obtain ⟨hentries, houter⟩ := List.forall_mem_cons.mp hc
    exact Option.some.inj hr ▸ ⟨houter, hentries⟩
  · next he =>
    rw [he] at hc
    obtain ⟨hentries, houter⟩ := List.forall_mem_cons.mp hc
    exact Option.some.inj hr ▸ proper_complete houter (.object hentries)
  · cases hr

theorem proper_foldlM (h : r.Proper) (hl : ∀ l ∈ ls, l.Proper) (hr : ls.foldlM (step? limit) r = some r') :
    r'.Proper := by
  induction ls generalizing r with
  | nil => exact Option.some.inj hr ▸ h
  | cons l ls ih =>
    obtain ⟨hl, hls⟩ := List.forall_mem_cons.mp hl
    rw [List.foldlM_cons] at hr
    obtain ⟨q, hq, hr⟩ := Option.bind_eq_some_iff.mp hr
    exact ih (proper_step? h hl hq) hls hr

end Reading

/-- The value that a text writes is proper. -/
theorem proper_ofText? (h : ofText? text limit = some v) : v.Proper := by
  unfold ofText? at h
  obtain ⟨ls, hls, h⟩ := Option.bind_eq_some_iff.mp h
  obtain ⟨r, hr, h⟩ := Option.bind_eq_some_iff.mp h
  have hproper := Reading.proper_foldlM Reading.proper_start (proper_lexemes? hls) hr
  split at h
  · next w hw =>
    have hstage := hproper.stage
    rw [hw] at hstage
    exact Option.some.inj h ▸ hstage
  · cases h

end Json

theorem Parameter.proper_object {parameter value : String} {data : Entries Json}
    (h : Parameter.object parameter value = .ok data) : ∀ e ∈ data, e.2.Proper := by
  unfold object at h
  split at h
  · next entries he => exact Except.ok.inj h ▸ (Json.proper_ofText? he).of_object
  · cases h
  · cases h

end RecordGraph
