import Mathlib.Data.List.Forall2
import Quarry.Fault

namespace Quarry

variable {α β : Type}

@[simp]
theorem Fault.reported_of_isWritable {φ : Fault} (h : φ.isWritable) : φ.reported = φ := if_pos h

@[simp]
theorem Fault.reported_of_not_isWritable {φ : Fault} (h : ¬ φ.isWritable) :
    φ.reported = .unwritable :=
  if_neg h

theorem Fault.reported_ne {φ ψ : Fault} (h : φ ≠ ψ) (hu : Fault.unwritable ≠ ψ) :
    φ.reported ≠ ψ := by
  by_cases hw : φ.isWritable
  · rwa [reported_of_isWritable hw]
  · rwa [reported_of_not_isWritable hw]

theorem exists_mem_of_forall₂ {R : α → β → Prop} {xs : List α} {ys : List β}
    (h : List.Forall₂ R xs ys) {y : β} (hy : y ∈ ys) : ∃ x ∈ xs, R x y := by
  induction h with
  | nil => cases hy
  | cons hxy _ ih =>
    rcases List.mem_cons.mp hy with rfl | hy
    · exact ⟨_, List.mem_cons_self, hxy⟩
    · obtain ⟨x, hx, hR⟩ := ih hy
      exact ⟨x, List.mem_cons_of_mem _ hx, hR⟩

@[simp]
theorem Outcome.ok_bind {ε : Type} (a : α) (f : α → Except ε β) : .ok a >>= f = f a := rfl

@[simp]
theorem Outcome.error_bind {ε : Type} (e : ε) (f : α → Except ε β) :
    .error e >>= f = .error e := rfl

@[simp]
theorem Outcome.bind_ok {ε : Type} (x : Except ε α) : x >>= .ok = x := bind_pure x

theorem Outcome.bind_eq_ok {ε : Type} {x : Except ε α} {f : α → Except ε β} {b : β} :
    x >>= f = .ok b ↔ ∃ a, x = .ok a ∧ f a = .ok b := by
  cases x with
  | error e => simp [bind, Except.bind]
  | ok a => simp [bind, Except.bind]

theorem Outcome.bind_eq_error {ε : Type} {x : Except ε α} {f : α → Except ε β} {e : ε} :
    x >>= f = .error e ↔ x = .error e ∨ ∃ a, x = .ok a ∧ f a = .error e := by
  cases x with
  | error e => simp [bind, Except.bind]
  | ok a => simp [bind, Except.bind]

theorem Outcome.bind_ne_error {x : Outcome α} {f : α → Outcome β} {e : Fault} (hx : x ≠ .error e)
    (hf : ∀ a, f a ≠ .error e) : x >>= f ≠ .error e := fun h =>
  (Outcome.bind_eq_error.mp h).elim hx fun ⟨a, _, ha⟩ => hf a ha

theorem Outcome.map_eq_ok {x : Outcome α} {f : α → β} {b : β} :
    f <$> x = .ok b ↔ ∃ a, x = .ok a ∧ f a = b := by
  cases x with
  | error e => simp [Functor.map, Except.map]
  | ok a => simp [Functor.map, Except.map]

@[simp]
theorem Outcome.mapM_ok (xs : List α) : xs.mapM (Except.ok : α → Outcome α) = .ok xs := by
  have h := List.mapM_pure (m := Outcome) (l := xs) (f := fun x => x)
  rwa [List.map_id'] at h

theorem Outcome.eq_mapM (g : List α → Outcome (List β)) (f : α → Outcome β) (hn : g [] = .ok [])
    (hc : ∀ x xs, g (x :: xs) = do return (← f x) :: (← g xs)) (xs : List α) :
    g xs = xs.mapM f := by
  induction xs with
  | nil => exact hn
  | cons x xs ih => rw [hc, List.mapM_cons, ih]

/-- A step made for each member gives one result for each, in the same order. -/
theorem Outcome.forall₂_of_mapM {f : α → Outcome β} {xs : List α} {ys : List β}
    (h : xs.mapM f = .ok ys) : List.Forall₂ (fun x y => f x = .ok y) xs ys := by
  induction xs generalizing ys with
  | nil =>
    have hy : ys = [] := (Except.ok.inj h).symm
    subst ys
    exact .nil
  | cons x xs ih =>
    rw [List.mapM_cons] at h
    obtain ⟨y, hx, h⟩ := Outcome.bind_eq_ok.mp h
    obtain ⟨ys', hxs, h⟩ := Outcome.bind_eq_ok.mp h
    have hy : ys = y :: ys' := (Except.ok.inj h).symm
    subst ys
    exact .cons hx (ih hxs)

theorem Outcome.mapM_eq_ok {f : α → Outcome β} {xs : List α} {ys : List β} :
    xs.mapM f = .ok ys ↔ List.Forall₂ (fun x y => f x = .ok y) xs ys := by
  refine ⟨Outcome.forall₂_of_mapM, fun h => ?_⟩
  induction h with
  | nil => rfl
  | cons hx _ ih => rw [List.mapM_cons, hx, ih]; rfl

/-- Steps made for each member fail as the first of them that fails. -/
theorem Outcome.mapM_eq_error {f : α → Outcome β} {xs : List α} {e : Fault} :
    xs.mapM f = .error e ↔
      ∃ ys x zs, xs = ys ++ x :: zs ∧ (∀ y ∈ ys, ∃ b, f y = .ok b) ∧ f x = .error e := by
  induction xs with
  | nil =>
    constructor
    · intro h
      cases h
    · rintro ⟨ys, x, zs, h, -, -⟩
      cases ys <;> cases h
  | cons a xs ih =>
    rw [List.mapM_cons, Outcome.bind_eq_error]
    constructor
    · rintro (ha | ⟨b, hb, h⟩)
      · exact ⟨[], a, xs, rfl, by simp, ha⟩
      · obtain hxs | ⟨bs, -, h⟩ := Outcome.bind_eq_error.mp h
        · obtain ⟨ys, x, zs, rfl, hys, hx⟩ := ih.mp hxs
          exact ⟨a :: ys, x, zs, rfl, List.forall_mem_cons.mpr ⟨⟨b, hb⟩, hys⟩, hx⟩
        · cases h
    · rintro ⟨ys, x, zs, h, hys, hx⟩
      cases ys with
      | nil =>
        obtain ⟨rfl, rfl⟩ := List.cons.inj h
        exact .inl hx
      | cons y ys =>
        obtain ⟨rfl, rfl⟩ := List.cons.inj h
        obtain ⟨⟨b, hb⟩, hys⟩ := List.forall_mem_cons.mp hys
        refine .inr ⟨b, hb, ?_⟩
        rw [ih.mpr ⟨ys, x, zs, rfl, hys, hx⟩]
        rfl

theorem Outcome.exists_of_mapM_eq_error {f : α → Outcome β} {xs : List α} {e : Fault}
    (h : xs.mapM f = .error e) : ∃ x ∈ xs, f x = .error e := by
  obtain ⟨ys, x, zs, rfl, -, hx⟩ := Outcome.mapM_eq_error.mp h
  exact ⟨x, by simp, hx⟩

theorem Outcome.exists_mapM_eq_ok_iff {f : α → Outcome β} {xs : List α} :
    (∃ ys, xs.mapM f = .ok ys) ↔ ∀ x ∈ xs, ∃ y, f x = .ok y := by
  constructor
  · rintro ⟨ys, h⟩ x hx
    obtain ⟨y, -, hy⟩ := exists_mem_of_forall₂ (Outcome.forall₂_of_mapM h).flip hx
    exact ⟨y, hy⟩
  · intro h
    cases hm : xs.mapM f with
    | ok ys => exact ⟨ys, rfl⟩
    | error e =>
      obtain ⟨x, hx, he⟩ := Outcome.exists_of_mapM_eq_error hm
      obtain ⟨y, hy⟩ := h x hx
      cases he.symm.trans hy

theorem Outcome.error_iff_of_ok_iff {x y : Outcome α} (h : ∀ a, x = .ok a ↔ y = .ok a) :
    (∃ e, x = .error e) ↔ ∃ e, y = .error e := by
  cases x with
  | ok a => simp [(h a).mp rfl]
  | error e =>
    cases y with
    | ok b => cases (h b).mpr rfl
    | error e' => simp

/-- Two outcomes fail together, and for the same cause. -/
def Outcome.FailsLike (x : Outcome α) (y : Outcome β) : Prop := ∀ e, x = .error e ↔ y = .error e

namespace Outcome.FailsLike

variable {γ δ : Type} {x : Outcome α} {y : Outcome β}

theorem of_ok (a : α) (b : β) : FailsLike (.ok a) (.ok b) := fun _ => by simp

theorem of_error (e : Fault) : FailsLike (.error e : Outcome α) (.error e : Outcome β) :=
  fun _ => by simp

theorem bind {g : α → Outcome γ} {h : β → Outcome δ} (hxy : FailsLike x y)
    (hgh : ∀ a b, FailsLike (g a) (h b)) : FailsLike (x >>= g) (y >>= h) := by
  cases x with
  | error e =>
    obtain rfl : y = .error e := (hxy e).mp rfl
    exact fun _ => by simp [Bind.bind, Except.bind]
  | ok a =>
    cases y with
    | error e => cases (hxy e).mpr rfl
    | ok b => exact hgh a b

theorem bind_ok (hxy : FailsLike x y) (g : α → γ) : FailsLike (x >>= fun a => .ok (g a)) y := by
  intro e
  rw [← hxy, Outcome.bind_eq_error]
  simp

theorem singleton {f : α → Outcome β} {a : α} {x : Outcome γ} (h : FailsLike x (f a)) :
    FailsLike x ([a].mapM f) := by
  intro e
  have hf : FailsLike (f a) (f a) := fun _ => Iff.rfl
  rw [List.mapM_cons, h]
  exact (hf.bind_ok (fun b => [b]) e).symm

theorem append {f : α → Outcome β} {xs ys : List α} {x : Outcome γ} {y : Outcome δ}
    (hx : FailsLike x (xs.mapM f)) (hy : FailsLike y (ys.mapM f)) {ε : Type} (g : γ → δ → ε) :
    FailsLike (do return g (← x) (← y)) ((xs ++ ys).mapM f) := by
  rw [List.mapM_append]
  exact hx.bind fun _ _ => hy.bind fun _ _ => .of_ok _ _

theorem exists_ok_iff (hxy : FailsLike x y) : (∃ a, x = .ok a) ↔ ∃ b, y = .ok b := by
  cases x with
  | error e => simp [(hxy e).mp rfl]
  | ok a =>
    cases y with
    | error e => cases (hxy e).mpr rfl
    | ok b => simp

end Outcome.FailsLike

end Quarry
