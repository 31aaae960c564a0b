import Quarry.Proofs.Matcher.Side

namespace Quarry

namespace Value

def Fits (v : Value) (nodes : List Value) : Prop :=
  ∀ vs, v.members? = some vs → vs.length = nodes.length

/-- How many more values there are than nodes. -/
def surplus (v : Value) (nodes : List Value) : Int := v.asList.length - nodes.length

theorem surplus_ne_zero {v : Value} {nodes : List Value} (h : ¬ v.Fits nodes) :
    v.surplus nodes ≠ 0 := by
  simp only [Fits, not_forall] at h
  obtain ⟨vs, hv, hl⟩ := h
  have hs : v.asList = vs := by rw [asList, hv, Option.getD_some]
  rw [surplus, hs]
  omega

end Value

def misalignment (xs ys : List Value) (v w : Value) : Fault :=
  .operation (.misaligned (v.asList.length + w.asList.length) (xs.length + ys.length))

theorem merge_sides (us xs ys : List Value) (v w : Value) :
    merge us (xs ++ ys) (v.asList ++ w.asList) =
      if v.surplus xs + w.surplus ys = 0 then
        .ok (.list (valuesInOrder us (xs ++ ys) (v.asList ++ w.asList)))
      else .error (misalignment xs ys v w) := by
  have hs : v.surplus xs + w.surplus ys = 0 ↔
      (xs ++ ys).length = (v.asList ++ w.asList).length := by
    simp only [Value.surplus, List.length_append]
    omega
  simp only [merge, hs, misalignment, List.length_append]

section

variable {l r : Matcher} {a b : String} {n : Value} {e : Option Extractor}
variable {xs ys us : List Value} {v w : Value}

theorem eval_merged_of_nodes {s t : Root} (hl : l.root? = some s) (hr : r.root? = some t)
    (hx : s.nodes n = .ok xs) (hy : t.nodes n = .ok ys)
    (hu : Query.run n (unionQuery s.query t.query) = .ok us) (hv : l.eval n e = .ok v)
    (hw : r.eval n e = .ok w) :
    (do (← l.merged r).eval n e) = merge us (xs ++ ys) (v.asList ++ w.asList) := by
  have hm : l.merged r = .ok (l.seqOr r) := by simp [Matcher.merged, Matcher.seqOr?, hl, hr]
  have hg : gather l.root? r.root? n = .ok (us, xs ++ ys) := by
    rw [hl, hr]
    exact gather_of_nodes hx hy hu
  rw [hm]
  exact Matcher.eval_seqOr hg hv hw

theorem eval_merged_sides (hl : l.root? = some ⟨a, true⟩) (hr : r.root? = some ⟨b, true⟩)
    (hx : Query.run n a = .ok xs) (hy : Query.run n b = .ok ys)
    (hu : Query.run n (unionQuery a b) = .ok us) (hv : l.eval n e = .ok v)
    (hw : r.eval n e = .ok w) :
    (do (← l.merged r).eval n e) = merge us (xs ++ ys) (v.asList ++ w.asList) := by
  rw [← nodes_of_all] at hx hy
  exact eval_merged_of_nodes hl hr hx hy hu hv hw

theorem merged_refuses_surplus (hl : l.root? = some ⟨a, true⟩) (hr : r.root? = some ⟨b, true⟩)
    (hx : Query.run n a = .ok xs) (hy : Query.run n b = .ok ys)
    (hu : Query.run n (unionQuery a b) = .ok us) (hv : l.eval n e = .ok v)
    (hw : r.eval n e = .ok w) :
    ((do (← l.merged r).eval n e) = .error (misalignment xs ys v w) ↔
      v.surplus xs + w.surplus ys ≠ 0) ∧
    (¬ v.Fits xs → w.surplus ys = 0 →
      (do (← l.merged r).eval n e) = .error (misalignment xs ys v w)) ∧
    (v.surplus xs = 0 → ¬ w.Fits ys →
      (do (← l.merged r).eval n e) = .error (misalignment xs ys v w)) ∧
    (v.surplus xs + w.surplus ys = 0 → ∃ rs, (do (← l.merged r).eval n e) = .ok (.list rs)) := by
  have hm := eval_merged_sides hl hr hx hy hu hv hw
  rw [merge_sides] at hm
  have hne : v.surplus xs + w.surplus ys ≠ 0 →
      (do (← l.merged r).eval n e) = .error (misalignment xs ys v w) := by
    intro h
    rw [hm, if_neg h]
  have heq : v.surplus xs + w.surplus ys = 0 →
      ∃ rs, (do (← l.merged r).eval n e) = .ok (.list rs) := by
    intro h
    rw [hm, if_pos h]
    exact ⟨_, rfl⟩
  refine ⟨⟨fun h h0 => ?_, hne⟩, fun hf h0 => ?_, fun h0 hf => ?_, heq⟩
  · obtain ⟨rs, hrs⟩ := heq h0
    cases h.symm.trans hrs
  · have hs := Value.surplus_ne_zero hf
    exact hne (by omega)
  · have hs := Value.surplus_ne_zero hf
    exact hne (by omega)

end

namespace Side

open Sample

def named (m : Matcher) (names : List String) : Matcher :=
  m.map fun _ => .ok (.list (names.map Value.ofString))

def crowded : Matcher := named elements.matcher ["x", "y", "z"]

def sparse : Matcher := named texts.matcher ["t"]

theorem eval_named {m : Matcher} {n v : Value} {e : Option Extractor} (h : m.eval n e = .ok v)
    (names : List String) :
    (named m names).eval n e = .ok (.list (names.map Value.ofString)) := by
  simp [named, h]

theorem merged_refuses_surplus_crowded :
    (do (← crowded.merged (named texts.matcher ["s", "t"])).eval top none) =
      .error (.operation (.misaligned 5 4)) := by
  obtain ⟨-, hone, -, -⟩ := merged_refuses_surplus (l := crowded)
    (r := named texts.matcher ["s", "t"]) rfl rfl finds_elements.run finds_texts.run
    finds_elements_texts.run (eval_named (eval_elements none) _) (eval_named (eval_texts none) _)
  exact hone (fun h => absurd (h _ rfl) (by decide)) rfl

/-- What the three values of one side are too many, the one value of the other is too few. -/
theorem not_merged_refuses_misfits : ¬ ∀ (l r : Matcher) (a b : String) (n : Node)
    (e : Option Extractor) (xs ys us : List Value) (v w : Value),
    l.root? = some ⟨a, true⟩ → r.root? = some ⟨b, true⟩ →
    Query.run (.node n) a = .ok xs → Query.run (.node n) b = .ok ys →
    Query.run (.node n) (unionQuery a b) = .ok us →
    l.eval (.node n) e = .ok v → r.eval (.node n) e = .ok w → ¬ v.Fits xs ∨ ¬ w.Fits ys →
    (do (← l.merged r).eval (.node n) e) = .error (misalignment xs ys v w) := by
  intro h
  have hv := eval_named (eval_elements none) ["x", "y", "z"]
  have hw := eval_named (eval_texts none) ["t"]
  have hm := h crowded sparse _ _ _ none _ _ _ _ _ rfl rfl finds_elements.run finds_texts.run
    finds_elements_texts.run hv hw (.inl fun hf => absurd (hf _ rfl) (by decide))
  have hs := eval_merged_sides (l := crowded) (r := sparse) rfl rfl finds_elements.run
    finds_texts.run finds_elements_texts.run hv hw
  have h0 : (Value.list (["x", "y", "z"].map .ofString)).surplus childNodes +
      (Value.list (["t"].map .ofString)).surplus textNodes = 0 := rfl
  rw [merge_sides, if_pos h0] at hs
  cases hm.symm.trans hs

end Side

end Quarry
