import RecordGraph.Stateful

namespace RecordGraph.Stateful

variable {σ α β : Type} {s s' : σ} {P : σ → Prop} {a : Stateful σ α} {k : α → Stateful σ β}

theorem on_bind : (a >>= k).on s = match a.on s with
    | (.ok x, s) => (k x).on s
    | (.error e, s) => (.error e, s) := by
  simp only [on, ExceptT.run_bind, StateT.run_bind]
  rcases StateT.run (ExceptT.run a) s with ⟨x | x, s'⟩ <;> rfl

theorem on_bind_ok {x : α} (h : a.on s = (.ok x, s')) : (a >>= k).on s = (k x).on s' := by
  rw [on_bind, h]

theorem on_get_bind {k : σ → Stateful σ β} : (get >>= k).on s = (k s).on s := by
  rw [on_bind]
  rfl

theorem on_modify_bind {f : σ → σ} {k : PUnit → Stateful σ β} : (modify f >>= k).on s = (k ()).on (f s) := by
  rw [on_bind]
  rfl

theorem on_ask_bind {f : σ → Except Fault α} : (ask f >>= k).on s = match f s with
    | .ok x => (k x).on s
    | .error e => (.error e, s) := by
  rw [on_bind, show (ask f).on s = (f s, s) from rfl]
  cases f s <;> rfl

theorem on_forM_modify_bind {f : α → σ → σ} {l : List α} {k : PUnit → Stateful σ β} :
    ((l.forM fun x => modify (f x)) >>= k).on s = (k ()).on (l.foldl (fun s x => f x s) s) := by
  rw [List.forM_eq_forM]
  induction l generalizing s with
  | nil => rfl
  | cons x l ih => rw [List.forM_cons, bind_assoc, on_modify_bind, ih, List.foldl_cons]

/-- What a function gives for a state, with that state where it refuses. -/
def settled (s : σ) : Except Fault (α × σ) → Except Fault α × σ
  | .ok (x, s') => (.ok x, s')
  | .error e => (.error e, s)

/-- Whether a computation comes down to a function. -/
def ComesTo (a : Stateful σ α) (f : σ → Except Fault (α × σ)) : Prop := ∀ s, a.on s = settled s (f s)

theorem ComesTo.on_eq {f : σ → Except Fault (α × σ)} (ha : a.ComesTo f) : a.on s = settled s (f s) := ha s

theorem comesTo_ask_set {f : σ → Except Fault σ} : (ask f >>= fun s' => set s').ComesTo fun s => (f s).map ((), ·) := by
  intro s
  rw [on_ask_bind]
  show _ = settled s ((f s).map ((), ·))
  cases f s <;> rfl

/-- A property of the state that holds before and wherever the function leads to holds afterwards, refused or not. -/
theorem ComesTo.preserves {f : σ → Except Fault (α × σ)} (ha : a.ComesTo f) (hs : P s)
    (hf : ∀ x s', f s = .ok (x, s') → P s') : P (a.on s).2 := by
  rw [ha s]
  cases h : f s with
  | ok y => exact hf y.1 y.2 h
  | error e => exact hs

end RecordGraph.Stateful
