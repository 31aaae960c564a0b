import Quarry.Extractor
import Quarry.Pattern
import Quarry.Proofs.Outcome
import Quarry.Value.Project
import Quarry.Value.Walk

namespace Quarry

theorem Value.replaceInAll_eq_mapM (f : Value → Outcome Value) (vs : List Value) :
    Value.replaceInAll f vs = vs.mapM (Value.replaceNodes f) :=
  Outcome.eq_mapM (Value.replaceInAll f) (Value.replaceNodes f) rfl (fun _ _ => rfl) vs

theorem Value.toNumbers_eq_mapM (aim : NumberKind) (vs : List Value) :
    Value.toNumbers aim vs = vs.mapM (Value.toNumber aim) :=
  Outcome.eq_mapM (Value.toNumbers aim) (Value.toNumber aim) rfl (fun _ _ => rfl) vs

theorem Pattern.captureInAll_eq_mapM (p : Pattern) (vs : List Value) :
    p.captureInAll vs = vs.mapM p.captureIn :=
  Outcome.eq_mapM p.captureInAll p.captureIn rfl (fun _ _ => rfl) vs

@[simp]
theorem Value.replaceNodes_list (f : Value → Outcome Value) (vs : List Value) :
    Value.replaceNodes f (.list vs) = Value.list <$> vs.mapM (Value.replaceNodes f) := by
  rw [Value.replaceNodes, Value.replaceInAll_eq_mapM, map_eq_pure_bind]

@[simp]
theorem Value.toNumber_list (aim : NumberKind) (vs : List Value) :
    Value.toNumber aim (.list vs) = Value.list <$> vs.mapM (Value.toNumber aim) := by
  rw [Value.toNumber, Value.toNumbers_eq_mapM, map_eq_pure_bind]

@[simp]
theorem Pattern.captureIn_list (p : Pattern) (vs : List Value) :
    p.captureIn (.list vs) = Value.list <$> vs.mapM p.captureIn := by
  rw [Pattern.captureIn, Pattern.captureInAll_eq_mapM, map_eq_pure_bind]

/-- A walk along entries that makes the step for each value in turn gives entries with the same
keys. -/
theorem entries_eq_ok_iff (g : List (Value × Value) → Outcome (List (Value × Value)))
    (f : Value → Outcome Value) (hn : g [] = .ok [])
    (hc : ∀ k v es, g ((k, v) :: es) = do
      let w ← f v
      let fs ← g es
      return (k, w) :: fs) {es fs : List (Value × Value)} :
    g es = .ok fs ↔ es.map Prod.fst = fs.map Prod.fst ∧
      List.Forall₂ (fun v w => f v = .ok w) (es.map Prod.snd) (fs.map Prod.snd) := by
  induction es generalizing fs with
  | nil => cases fs <;> simp [hn]
  | cons e es ih =>
    obtain ⟨k, v⟩ := e
    constructor
    · intro h
      rw [hc] at h
      obtain ⟨w, hw, h⟩ := Outcome.bind_eq_ok.mp h
      obtain ⟨gs, hg, h⟩ := Outcome.bind_eq_ok.mp h
      cases h
      obtain ⟨hk, hv⟩ := ih.mp hg
      exact ⟨congrArg (k :: ·) hk, .cons hw hv⟩
    · rintro ⟨hk, hv⟩
      cases fs with
      | nil => cases hk
      | cons g gs =>
        obtain ⟨rfl, hks⟩ := List.cons.inj hk
        obtain ⟨hw, hvs⟩ := List.forall₂_cons.mp hv
        rw [hc, hw, ih.mpr ⟨hks, hvs⟩]
        rfl

@[simp]
theorem distribute_list (f : Value → Outcome Value) (vs : List Value) :
    distribute f (.list vs) = Value.list <$> vs.mapM f := by
  rw [map_eq_pure_bind]
  rfl

end Quarry
