import Quarry.Proofs.Matcher.Evaluation
import Quarry.Proofs.Value.Nodes

namespace Quarry

namespace Evaluator

def self : Evaluator := .plain "self" fun x _ => .ok x

def inside (g f : Evaluator) : Evaluator :=
  .plain "inside" fun x e => do (← f.eval x e).replaceNodes fun y => g.eval y e

end Evaluator

namespace Matcher

variable {m : Matcher} {n v : Value} {e : Option Extractor}

theorem eval_deepMap_of_eval (hv : m.eval n e = .ok v) (f : Evaluator) :
    (m.deepMap f).eval n e = v.replaceNodes fun x => f.eval x e := by
  simp [hv]

theorem eval_deepMap_self (hv : m.eval n e = .ok v) :
    (m.deepMap .self).eval n e = .ok v.untupled := by
  rw [eval_deepMap_of_eval hv]
  exact v.replaceNodes_ok

theorem eval_deepMap_deepMap_eq_ok (f g : Evaluator) (w : Value) :
    ((m.deepMap f).deepMap g).eval n e = .ok w ↔ (m.deepMap (g.inside f)).eval n e = .ok w := by
  rw [eval_deepMap, eval_deepMap, eval_deepMap, bind_assoc, Outcome.bind_eq_ok, Outcome.bind_eq_ok]
  exact exists_congr fun u => and_congr_right fun _ => Value.replaceNodes_bind_eq_ok

theorem exists_eval_deepMap_inside (hv : m.eval n e = .ok v) {f g : Evaluator}
    (h : ∀ x ∈ v.nodes, ∃ y, f.eval x e = .ok y ∧ ∀ z ∈ y.nodes, ∃ u, g.eval z e = .ok u) :
    ∃ w, (m.deepMap (g.inside f)).eval n e = .ok w := by
  rw [eval_deepMap_of_eval hv, Value.exists_replaceNodes_eq_ok_iff]
  intro x hx
  obtain ⟨y, hy, hg⟩ := h x hx
  obtain ⟨w, hw⟩ := Value.exists_replaceNodes_eq_ok_iff.mpr hg
  exact ⟨w, Outcome.bind_eq_ok.mpr ⟨y, hy, hw⟩⟩

/-- Where an evaluator fails on some node, the first such node decides. -/
theorem eval_deepMap_eq_error_of_mem (hv : m.eval n e = .ok v) {f : Evaluator} {x : Value}
    (hx : x ∈ v.nodes) {ψ : Fault} (hψ : f.eval x e = .error ψ) :
    ∃ xs y ys φ, v.nodes = xs ++ y :: ys ∧ (∀ z ∈ xs, ∃ w, f.eval z e = .ok w) ∧
      f.eval y e = .error φ ∧ (m.deepMap f).eval n e = .error φ := by
  rw [eval_deepMap_of_eval hv]
  cases hw : v.replaceNodes fun x => f.eval x e with
  | ok w =>
    obtain ⟨y, hy⟩ := Value.exists_replaceNodes_eq_ok_iff.mp ⟨w, hw⟩ x hx
    cases hψ.symm.trans hy
  | error φ =>
    obtain ⟨xs, y, ys, hn, hxs, hy⟩ := Value.replaceNodes_eq_error.mp hw
    exact ⟨xs, y, ys, φ, hn, hxs, hy, rfl⟩

theorem deepMap_replaces_composes (hv : m.eval n e = .ok v) (f g : Evaluator) :
    ((∀ x ∈ v.nodes, ∃ y, f.eval x e = .ok y) → ∃ w, (m.deepMap f).eval n e = .ok w ∧
      v.Replaced (fun x y => f.eval x e = .ok y) w) ∧
    (m.deepMap .self).eval n e = .ok v.untupled ∧
    (∀ w, ((m.deepMap f).deepMap g).eval n e = .ok w ↔
      (m.deepMap (g.inside f)).eval n e = .ok w) ∧
    ((∀ x ∈ v.nodes, ∃ y, f.eval x e = .ok y ∧ ∀ z ∈ y.nodes, ∃ u, g.eval z e = .ok u) →
      ∃ w, ((m.deepMap f).deepMap g).eval n e = .ok w) ∧
    ∀ x ∈ v.nodes, ∀ ψ, f.eval x e = .error ψ →
      ∃ xs y ys φ, v.nodes = xs ++ y :: ys ∧ (∀ z ∈ xs, ∃ w, f.eval z e = .ok w) ∧
        f.eval y e = .error φ ∧ (m.deepMap f).eval n e = .error φ := by
  have hc := eval_deepMap_deepMap_eq_ok (m := m) (n := n) (e := e) f g
  refine ⟨fun h => ?_, eval_deepMap_self hv, hc, fun h => ?_, fun x hx ψ hψ => ?_⟩
  · obtain ⟨w, hw⟩ := Value.exists_replaceNodes_eq_ok_iff.mpr h
    exact ⟨w, (eval_deepMap_of_eval hv f).trans hw, Value.replaceNodes_eq_ok.mp hw⟩
  · obtain ⟨w, hw⟩ := exists_eval_deepMap_inside hv h
    exact ⟨w, (hc w).mpr hw⟩
  · exact eval_deepMap_eq_error_of_mem hv hx hψ

def shoppingList : Document :=
  ⟨[], .mk (.element (.plain "list") [] []) ""
    [.mk (.element (.plain "item") [] []) "" [] "", .mk .comment "note" [] ""] "", []⟩

def outline : Value :=
  .dict [(.ofString "all", .tuple [.node ⟨[0], shoppingList⟩, .int 2]),
    (.ofString "parts", .list [.node ⟨[0, 0], shoppingList⟩, .node ⟨[0, 1], shoppingList⟩])]

def parts : Evaluator := .plain "parts" fun x _ => .ok (.list (x.elements?.getD []))

def kind : Evaluator := .plain "kind" fun x _ => .ok (.ofString x.typeName)

def elementKind : Evaluator := .plain "elementKind" fun x _ =>
  if x.typeName = "_Element" then .ok (.ofString x.typeName) else .error (.raised x.typeName)

theorem deepMap_replaces_composes_outline :
    (∃ w, ((constant outline).deepMap parts).eval .none none = .ok w ∧
      outline.Replaced (fun x y => parts.eval x none = .ok y) w) ∧
    ((constant outline).deepMap .self).eval .none none = .ok outline.untupled ∧
    (∃ w, (((constant outline).deepMap parts).deepMap kind).eval .none none = .ok w ∧
      ((constant outline).deepMap (kind.inside parts)).eval .none none = .ok w) ∧
    ∃ y φ, elementKind.eval y none = .error φ ∧
      ((constant outline).deepMap elementKind).eval .none none = .error φ := by
  have hv : (constant outline).eval .none none = .ok outline := rfl
  obtain ⟨hr, hs, hc, hw, -⟩ := deepMap_replaces_composes hv parts kind
  obtain ⟨-, -, -, -, herr⟩ := deepMap_replaces_composes hv elementKind kind
  obtain ⟨w, hw⟩ := hw fun x _ => ⟨_, rfl, fun z _ => ⟨_, rfl⟩⟩
  have hn : (.node ⟨[0, 1], shoppingList⟩ : Value) ∈ outline.nodes := by
    simp [outline, Value.nodes, Value.nodesOfEntries, Value.nodesOfAll]
  obtain ⟨-, y, -, φ, -, -, hy, hφ⟩ := herr _ hn (.raised "_Comment") rfl
  exact ⟨hr fun x _ => ⟨_, rfl⟩, hs, ⟨w, hw, (hc w).mp hw⟩, y, φ, hy, hφ⟩

end Matcher

end Quarry
