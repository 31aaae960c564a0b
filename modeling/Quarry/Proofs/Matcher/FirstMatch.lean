import Quarry.Proofs.Matcher.NormalForm
import Quarry.Proofs.Value.Replaced

namespace Quarry

namespace Operation

variable {e : Option Extractor}

/-- Whether an operation goes into containers: it takes a list member by member and leaves an
absent value alone. -/
def isPointwise : Operation → Bool
  | .map _ | .each _ | .first => false
  | _ => true

theorem act_none {o : Operation} (ho : o.isPointwise) : o.act e .none = .ok .none := by
  cases o with
  | map f | each f | first => cases ho
  | _ => rfl

theorem act_list_of_isPointwise {o : Operation} (ho : o.isPointwise) (vs : List Value) :
    o.act e (.list vs) = Value.list <$> vs.mapM (o.act e) := by
  have he : o.isElementwise := by
    cases o with
    | map f | first => cases ho
    | _ => rfl
  have hm : o.member e = o.act e := by
    cases o with
    | each f => cases ho
    | _ => rfl
  rw [act_list he, hm]

variable {os : List Operation}

theorem actAll_none (hos : ∀ o ∈ os, o.isPointwise) : actAll e os .none = .ok .none := by
  induction os with
  | nil => rfl
  | cons o os ih =>
    obtain ⟨ho, hos⟩ := List.forall_mem_cons.mp hos
    rw [actAll, act_none ho]
    exact ih hos

theorem actAll_list_eq_ok (hos : ∀ o ∈ os, o.isPointwise) {vs : List Value} {w : Value} :
    actAll e os (.list vs) = .ok w ↔
      ∃ ws, w = .list ws ∧ List.Forall₂ (fun x y => actAll e os x = .ok y) vs ws := by
  induction os generalizing vs w with
  | nil => simp [actAll, eq_comm]
  | cons o os ih =>
    obtain ⟨ho, hos⟩ := List.forall_mem_cons.mp hos
    simp only [actAll, act_list_of_isPointwise ho, Outcome.bind_eq_ok, Outcome.map_eq_ok,
      Outcome.mapM_eq_ok, ← Value.forall₂_comp]
    constructor
    · rintro ⟨_, ⟨us, hus, rfl⟩, hw⟩
      obtain ⟨ws, rfl, hws⟩ := (ih hos).mp hw
      exact ⟨ws, rfl, us, hus, hws⟩
    · rintro ⟨ws, rfl, us, hus, hws⟩
      exact ⟨_, ⟨us, hus, rfl⟩, (ih hos).mpr ⟨ws, rfl, hws⟩⟩

end Operation

namespace Matcher

open Operation (actAll)

variable {q : String} {p : Path} {os : List Operation} {n : Value} {e : Option Extractor}

theorem eval_single_after_of_empty (hos : ∀ o ∈ os, o.isPointwise) (hq : Query.run n q = .ok []) :
    ((single (.query q)).after os).eval n e = .ok .none := by
  simpa [eval_after, hq] using Operation.actAll_none hos

theorem eval_single_after_of_multi (hos : ∀ o ∈ os, o.isPointwise) {v : Value}
    (hv : ((multi (.query q)).after os).eval n e = .ok v) :
    ∃ ws, v = .list ws ∧ ((single (.query q)).after os).eval n e = .ok (ws.head?.getD .none) := by
  rw [eval_after, eval_multi_query] at hv
  obtain ⟨u, hu, hv⟩ := Outcome.bind_eq_ok.mp hv
  obtain ⟨xs, hxs, hu⟩ := Outcome.bind_eq_ok.mp hu
  obtain ⟨us, hus, rfl⟩ := Outcome.map_eq_ok.mp hu
  obtain ⟨ws, rfl, hws⟩ := (Operation.actAll_list_eq_ok hos).mp hv
  refine ⟨ws, rfl, ?_⟩
  -- the matches, their extracted values and the final ones are three lists in step
  cases Outcome.mapM_eq_ok.mp hus with
  | nil =>
    cases hws
    exact eval_single_after_of_empty hos hxs
  | cons hx _ =>
    cases hws with
    | cons hw _ =>
      simp only [eval_after, eval_single, Path.eval_query, hxs]
      exact Outcome.bind_eq_ok.mpr ⟨_, hx, hw⟩

theorem exists_eval_multi_of_run {xs : List Value} (hq : Query.run n q = .ok xs)
    (he : ∀ x ∈ xs, ∃ y, (Extractor.resolve e).apply x = .ok y) :
    ∃ ws, (multi (.query q)).eval n e = .ok (.list ws) ∧
      List.Forall₂ (fun x w => (Extractor.resolve e).apply x = .ok w) xs ws := by
  obtain ⟨ws, hws⟩ := Outcome.exists_mapM_eq_ok_iff.mpr he
  refine ⟨ws, ?_, Outcome.mapM_eq_ok.mp hws⟩
  simp [hq, hws]

theorem single_multi_count_has_agree (q : String) (hos : ∀ o ∈ os, o.isPointwise) (n : Value)
    (e : Option Extractor) :
    (∀ v, ((multi (.query q)).after os).first.eval n e = .ok v →
      ((single (.query q)).after os).eval n e = .ok v) ∧
    (Query.run n q = .ok [] → ((single (.query q)).after os).eval n e = .ok .none) ∧
    (∀ φ, ((single (.query q)).after os).eval n e = .error φ →
      ∃ ψ, ((multi (.query q)).after os).eval n e = .error ψ) ∧
    ∀ xs, Query.run n q = .ok xs → (∀ x ∈ xs, ∃ y, (Extractor.resolve e).apply x = .ok y) →
      ∃ ws, (multi (.query q)).eval n e = .ok (.list ws) ∧
        List.Forall₂ (fun x w => (Extractor.resolve e).apply x = .ok w) xs ws ∧
        (count (.query q)).eval n e = .ok (.int xs.length) ∧
        (has (.query q)).eval n e = .ok (.bool (0 < xs.length)) := by
  refine ⟨fun v hv => ?_, eval_single_after_of_empty hos, fun φ hφ => ?_, fun xs hq he => ?_⟩
  · obtain ⟨u, hu, hv⟩ := Outcome.bind_eq_ok.mp hv
    obtain ⟨ws, rfl, hs⟩ := eval_single_after_of_multi hos hu
    rwa [← hv]
  · cases hm : ((multi (.query q)).after os).eval n e with
    | error ψ => exact ⟨ψ, rfl⟩
    | ok v =>
      obtain ⟨ws, -, hs⟩ := eval_single_after_of_multi hos hm
      cases hφ.symm.trans hs
  · obtain ⟨ws, hm, hws⟩ := exists_eval_multi_of_run hq he
    rw [eval_count, eval_has, hm, hws.length_eq]
    exact ⟨ws, rfl, hws, rfl, rfl⟩

theorem single_multi_count_has_agree_numbered :
    ((single (.query "*")).after [.asInt]).eval Sample.top none = .ok (.int 1) ∧
    (count (.query "*")).eval Sample.top none = .ok (.int 2) ∧
    (has (.query "*")).eval Sample.top none = .ok (.bool true) ∧
    ∃ ψ, ((multi (.query "*")).after [.raw, .asInt]).eval Sample.top none = .error ψ := by
  have hi : ∀ o ∈ [Operation.asInt], o.isPointwise := by simp [Operation.isPointwise]
  have hr : ∀ o ∈ [Operation.raw, .asInt], o.isPointwise := by simp [Operation.isPointwise]
  obtain ⟨hfirst, -, -, hcount⟩ := single_multi_count_has_agree "*" hi Sample.top none
  obtain ⟨-, -, herr, -⟩ := single_multi_count_has_agree "*" hr Sample.top none
  have hv : ((multi (.query "*")).after [.asInt]).first.eval Sample.top none = .ok (.int 1) := by
    simp only [eval_first, eval_after, eval_multi_query, Sample.finds_elements.run]
    cbv
  have he : ((single (.query "*")).after [.raw, .asInt]).eval Sample.top none =
      .error (.operation (.notNumeric "_Element" .int)) := by
    simp only [eval_after, eval_single, Path.eval_query, Sample.finds_elements.run]
    rfl
  obtain ⟨ws, -, -, hc, hh⟩ := hcount _ Sample.finds_elements.run fun _ _ => ⟨_, rfl⟩
  exact ⟨hfirst _ hv, hc, hh, herr _ he⟩

end Matcher

end Quarry
