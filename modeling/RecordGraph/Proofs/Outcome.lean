import Mathlib.Data.List.Forall2

namespace RecordGraph.Outcome

variable {ε α β : Type} {a b : α} {e : ε} {x : Except ε α} {p : Prop} [Decidable p]

@[simp] theorem pure_eq_ok : (pure a : Except ε α) = .ok b ↔ a = b := by simp [pure, Except.pure]

@[simp] theorem throw_bind {f : α → Except ε β} : (throw e >>= f) = throw e := rfl

theorem ok_bind {f : α → Except ε β} : (.ok a >>= f) = f a := rfl

theorem bind_pure_eq_map {u : Except ε Unit} : (u >>= fun _ => pure a) = u.map fun _ => a := by
  cases u <;> rfl

/-- What is asked twice is as good as asked once. -/
theorem bind_twice {f : α → Except ε β} : (x >>= fun _ => x >>= f) = x >>= f := by
  cases x <;> rfl

theorem bind_eq_ok {f : α → Except ε β} {b : β} : x >>= f = .ok b ↔ ∃ a, x = .ok a ∧ f a = .ok b := by
  cases x <;> simp [bind, Except.bind]

theorem map_eq_ok {f : α → β} {b : β} : x.map f = .ok b ↔ ∃ a, x = .ok a ∧ f a = b := by
  cases x <;> simp [Except.map]

theorem map_unit_eq_ok {u : Unit} : x.map ((), ·) = .ok (u, a) ↔ x = .ok a := by
  cases x <;> simp [Except.map]

theorem map_unit_bind {f : Unit × α → Except ε β} : (x.map ((), ·) >>= f) = x >>= fun a => f ((), a) := by
  cases x <;> rfl

theorem mapError_eq_ok {f : ε → β} : x.mapError f = .ok a ↔ x = .ok a := by
  cases x <;> simp [Except.mapError]

theorem guard_eq_ok : (if p then throw e else x) = .ok a ↔ ¬p ∧ x = .ok a := by
  by_cases h : p <;> simp [h]

theorem guard_eq_ok' : (if p then x else throw e) = .ok a ↔ p ∧ x = .ok a := by
  by_cases h : p <;> simp [h]

theorem forM_eq_ok {f : α → Except ε Unit} {l : List α} {u : Unit} :
    l.forM f = .ok u ↔ ∀ x ∈ l, f x = .ok () := by
  induction l with
  | nil => simp
  | cons x l ih =>
    rw [List.forM_eq_forM] at ih ⊢
    rw [List.forM_cons, bind_eq_ok, List.forall_mem_cons, ih]
    constructor
    · rintro ⟨⟨⟩, hx, hl⟩
      exact ⟨hx, hl⟩
    · rintro ⟨hx, hl⟩
      exact ⟨(), hx, hl⟩

theorem mapM_eq_ok {f : α → Except ε β} {l : List α} {k : List β} :
    l.mapM f = .ok k ↔ List.Forall₂ (fun x y => f x = .ok y) l k := by
  induction l generalizing k with
  | nil => cases k <;> simp
  | cons x l ih =>
    rw [List.mapM_cons, bind_eq_ok, List.forall₂_cons_left_iff]
    constructor
    · rintro ⟨y, hy, h⟩
      obtain ⟨m, hm, h⟩ := bind_eq_ok.mp h
      exact ⟨y, m, hy, ih.mp hm, (pure_eq_ok.mp h).symm⟩
    · rintro ⟨y, m, hy, hm, rfl⟩
      exact ⟨y, hy, bind_eq_ok.mpr ⟨m, ih.mpr hm, rfl⟩⟩

theorem exists_of_mem_mapM {f : α → Except ε β} {l : List α} {k : List β} {y : β} (h : l.mapM f = .ok k) (hy : y ∈ k) :
    ∃ x ∈ l, f x = .ok y := by
  replace h := mapM_eq_ok.mp h
  induction h with
  | nil => cases hy
  | @cons x z l k hx _ ih =>
    rcases List.mem_cons.mp hy with rfl | hy
    · exact ⟨x, List.mem_cons_self, hx⟩
    · obtain ⟨x', hx', hf⟩ := ih hy
      exact ⟨x', List.mem_cons_of_mem _ hx', hf⟩

theorem exists_of_mapM_ok {f : α → Except ε β} {l : List α} {k : List β} {x : α} (h : l.mapM f = .ok k) (hx : x ∈ l) :
    ∃ y ∈ k, f x = .ok y := by
  replace h := mapM_eq_ok.mp h
  induction h with
  | nil => cases hx
  | @cons z y l k hz _ ih =>
    rcases List.mem_cons.mp hx with rfl | hx
    · exact ⟨y, List.mem_cons_self, hz⟩
    · obtain ⟨y', hy', hf⟩ := ih hx
      exact ⟨y', List.mem_cons_of_mem _ hy', hf⟩

theorem exists_mapM_ok {f : α → Except ε β} {l : List α} : (∃ k, l.mapM f = .ok k) ↔ ∀ x ∈ l, ∃ y, f x = .ok y := by
  constructor
  · rintro ⟨k, h⟩ x hx
    obtain ⟨y, -, hy⟩ := exists_of_mapM_ok h hx
    exact ⟨y, hy⟩
  · intro h
    induction l with
    | nil => exact ⟨[], rfl⟩
    | cons x l ih =>
      obtain ⟨⟨y, hy⟩, hl⟩ := List.forall_mem_cons.mp h
      obtain ⟨k, hk⟩ := ih hl
      exact ⟨y :: k, mapM_eq_ok.mpr (.cons hy (mapM_eq_ok.mp hk))⟩

instance decidableEqError [DecidableEq ε] (x : Except ε α) (e : ε) : Decidable (x = .error e) :=
  match x with
  | .ok _ => isFalse (by simp)
  | .error e' => decidable_of_iff (e' = e) (by simp)

instance decidableForallOk {P : α → Prop} [DecidablePred P] (x : Except ε α) : Decidable (∀ a, x = .ok a → P a) :=
  match x with
  | .ok a => decidable_of_iff (P a) (by simp)
  | .error _ => isTrue (by simp)

/-- Whether a computation, if it is refused, is refused for a reason of some kind. -/
def Refuses (P : ε → Prop) (x : Except ε α) : Prop := ∀ e, x = .error e → P e

section Refuses

variable {P : ε → Prop}

theorem refuses_ok : Refuses P (.ok a) := by
  intro e he
  cases he

theorem refuses_pure : Refuses P (pure a : Except ε α) := refuses_ok

theorem refuses_throw (h : P e) : Refuses P (throw e : Except ε α) := by
  intro e' he
  cases he
  exact h

theorem Refuses.bind {f : α → Except ε β} (hx : Refuses P x) (hf : ∀ a, x = .ok a → Refuses P (f a)) :
    Refuses P (x >>= f) := by
  intro e he
  cases h : x with
  | error e' =>
    rw [h] at he
    cases he
    exact hx e h
  | ok a =>
    rw [h] at he
    exact hf a h e he

theorem Refuses.map {f : α → β} (hx : Refuses P x) : Refuses P (x.map f) := by
  intro e he
  cases h : x with
  | error e' =>
    rw [h] at he
    cases he
    exact hx e h
  | ok a =>
    rw [h] at he
    cases he

theorem Refuses.mono {Q : ε → Prop} (hx : Refuses P x) (h : ∀ e, P e → Q e) : Refuses Q x :=
  fun e he => h e (hx e he)

theorem Refuses.guard (hx : Refuses P x) (he : P e) : Refuses P (if p then throw e else x) := by
  split
  · exact refuses_throw he
  · exact hx

theorem refuses_mapM {f : α → Except ε β} {l : List α} (h : ∀ x ∈ l, Refuses P (f x)) : Refuses P (l.mapM f) := by
  induction l with
  | nil => exact refuses_pure
  | cons x l ih =>
    rw [List.forall_mem_cons] at h
    rw [List.mapM_cons]
    exact h.1.bind fun _ _ => (ih h.2).bind fun _ _ => refuses_pure

theorem refuses_forM {f : α → Except ε Unit} {l : List α} (h : ∀ x ∈ l, Refuses P (f x)) : Refuses P (l.forM f) := by
  induction l with
  | nil => exact refuses_pure
  | cons x l ih =>
    rw [List.forall_mem_cons] at h
    rw [List.forM_eq_forM] at ih ⊢
    rw [List.forM_cons]
    exact h.1.bind fun _ _ => ih h.2

end Refuses

/-- Whether a computation, if it gives something, gives something of some kind. -/
def Ensures (P : α → Prop) (x : Except ε α) : Prop := ∀ a, x = .ok a → P a

section Ensures

variable {P : α → Prop} {Q : β → Prop}

theorem ensures_pure (h : P a) : Ensures P (pure a : Except ε α) := by
  intro b hb
  cases hb
  exact h

theorem ensures_true : Ensures (fun _ => True) x := fun _ _ => trivial

theorem ensures_throw : Ensures P (throw e : Except ε α) := by
  intro b hb
  cases hb

theorem Ensures.bind {f : α → Except ε β} (hx : Ensures P x) (hf : ∀ a, P a → Ensures Q (f a)) : Ensures Q (x >>= f) := by
  intro b hb
  obtain ⟨a, ha, hb⟩ := bind_eq_ok.mp hb
  exact hf a (hx a ha) b hb

theorem Ensures.map {f : α → β} (hx : Ensures P x) (h : ∀ a, P a → Q (f a)) : Ensures Q (x.map f) := by
  intro b hb
  obtain ⟨a, ha, rfl⟩ := map_eq_ok.mp hb
  exact h a (hx a ha)

theorem ensures_mapM {f : α → Except ε β} {l : List α} (h : ∀ x ∈ l, Ensures Q (f x)) :
    Ensures (fun k => k.length = l.length ∧ ∀ y ∈ k, Q y) (l.mapM f) := by
  intro k hk
  refine ⟨(mapM_eq_ok.mp hk).length_eq.symm, fun y hy => ?_⟩
  obtain ⟨x, hx, hf⟩ := exists_of_mem_mapM hk hy
  exact h x hx y hf

end Ensures

/-- Whether two computations come out alike: both give something, or both are refused. -/
def Matches {ζ γ : Type} (E : ε → ζ → Prop) (V : α → γ → Prop) : Except ε α → Except ζ γ → Prop
  | .ok a, .ok b => V a b
  | .error e, .error f => E e f
  | _, _ => False

/-- Whether some things are related two by two, each pair by what it comes from. -/
inductive Pairs {γ δ : Type} (V : α → β → γ → δ → Prop) : List α → List β → List γ → List δ → Prop
  | nil : Pairs V [] [] [] []
  | cons {x : α} {y : β} {a : γ} {b : δ} {l : List α} {k : List β} {as : List γ} {bs : List δ} (h : V x y a b)
    (hl : Pairs V l k as bs) : Pairs V (x :: l) (y :: k) (a :: as) (b :: bs)

section Matches

variable {γ δ : Type} {E : ε → ε → Prop} {V : α → γ → Prop} {y : Except ε γ}

theorem matches_refl {V : α → α → Prop} (hE : ∀ e, E e e) (hV : ∀ a, V a a) (x : Except ε α) : Matches E V x x := by
  cases x with
  | error e => exact hE e
  | ok a => exact hV a

theorem Matches.mono {W : α → γ → Prop} (hx : Matches E V x y) (h : ∀ a b, V a b → W a b) : Matches E W x y := by
  cases x with
  | error e =>
    cases y with
    | error e' => exact hx
    | ok b => exact hx.elim
  | ok a =>
    cases y with
    | error e' => exact hx.elim
    | ok b => exact h a b hx

theorem Matches.bind {W : β → δ → Prop} {f : α → Except ε β} {g : γ → Except ε δ} (hx : Matches E V x y)
    (h : ∀ a b, V a b → Matches E W (f a) (g b)) : Matches E W (x >>= f) (y >>= g) := by
  cases x with
  | error e =>
    cases y with
    | error e' => exact hx
    | ok b => exact hx.elim
  | ok a =>
    cases y with
    | error e' => exact hx.elim
    | ok b => exact h a b hx

theorem Matches.map {W : β → δ → Prop} {f : α → β} {g : γ → δ} (hx : Matches E V x y)
    (h : ∀ a b, V a b → W (f a) (g b)) : Matches E W (x.map f) (y.map g) := hx.bind h

theorem matches_mapM {V : α → β → γ → δ → Prop} {f : α → Except ε γ} {g : β → Except ε δ} {l : List α} {k : List β}
    (h : List.Forall₂ (fun x y => Matches E (V x y) (f x) (g y)) l k) : Matches E (Pairs V l k) (l.mapM f) (k.mapM g) := by
  induction h with
  | nil => exact .nil
  | cons hx _ ih =>
    rw [List.mapM_cons, List.mapM_cons]
    exact hx.bind fun a b hab => ih.bind fun as bs has => .cons hab has

end Matches

end RecordGraph.Outcome
