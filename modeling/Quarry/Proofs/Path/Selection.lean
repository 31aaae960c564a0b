import Quarry.Proofs.Matcher.FirstMatch

namespace Quarry

def Value.line (v : Value) : String := String.ofList (Text.squeezeToLine v.content.toList)

@[simp]
theorem Extractor.apply_oneline (v : Value) : oneline.apply v = .ok (.ofString v.line) := rfl

namespace Path

/-- What a path selects at a node: the matches of a query, the child at an index, and for a matcher
on a query all of its matches or the first one. -/
inductive Selects (n : Value) : Path → List Value → Prop
  | query {q : String} {xs : List Value} (h : Query.run n q = .ok xs) : Selects n (.query q) xs
  | index {i : Nat} {x : Value} (h : childAt n i = .ok x) : Selects n (.index i) [x]
  | multi {q : String} {xs : List Value} (h : Query.run n q = .ok xs) :
      Selects n (.function (.matcher (.multi (.query q)))) xs
  | single {q : String} {xs : List Value} (h : Query.run n q = .ok xs) :
      Selects n (.function (.matcher (.single (.query q)))) (xs.take 1)

/-- Whether the selection comes as a list, even where it is a single node. -/
def listsMatches : Path → Bool
  | .query _ | .function (.matcher (.multi (.query _))) => true
  | _ => false

namespace Selects

variable {n : Value} {p : Path} {xs : List Value} {e : Option Extractor}

theorem eval_multi_of_listsMatches (h : Selects n p xs) (hp : p.listsMatches) :
    (Matcher.multi p).eval n e = Value.list <$> xs.mapM (Extractor.resolve e).apply := by
  cases h with
  | query h => simp [h]
  | multi h => simp [h]
  | index h | single h => cases hp

theorem eval_multi_of_not_listsMatches (h : Selects n p xs) (hp : ¬ p.listsMatches) :
    xs = [] ∧ (Matcher.multi p).eval n e = .ok .none ∨
      ∃ x, xs = [x] ∧ (Matcher.multi p).eval n e = (Extractor.resolve e).apply x := by
  cases h with
  | query h | multi h => exact absurd rfl hp
  | @index i x h =>
    exact .inr ⟨x, rfl, by simp [h]⟩
  | @single q xs h =>
    cases xs with
    | nil => exact .inl ⟨rfl, by simp [h]⟩
    | cons x xs => exact .inr ⟨x, rfl, by simp [h]⟩

section

variable (h : Selects n p xs) (he : Extractor.resolve e = .oneline)
include h he

theorem eval_count_of_listsMatches (hp : p.listsMatches) :
    (Matcher.count p).eval n e = .ok (.int xs.length) ∧
      (Matcher.has p).eval n e = .ok (.bool (0 < xs.length)) := by
  have hr : ∀ x ∈ xs, ∃ y, Extractor.oneline.apply x = .ok y :=
    fun x _ => ⟨_, Extractor.apply_oneline x⟩
  obtain ⟨ws, hws⟩ := Outcome.exists_mapM_eq_ok_iff.mpr hr
  have hl : ws.length = xs.length := (Outcome.forall₂_of_mapM hws).length_eq.symm
  rw [Matcher.eval_count, Matcher.eval_has, h.eval_multi_of_listsMatches hp, he, hws, ← hl]
  exact ⟨rfl, rfl⟩

/-- What comes alone is counted by its characters, and where nothing comes counting fails. -/
theorem eval_count_of_not_listsMatches (hp : ¬ p.listsMatches) :
    xs = [] ∧ (Matcher.count p).eval n e = .error (.noLength "NoneType") ∧
        (Matcher.has p).eval n e = .error (.noLength "NoneType") ∨
      ∃ x, xs = [x] ∧ (Matcher.count p).eval n e = .ok (.int x.line.length) ∧
        (Matcher.has p).eval n e = .ok (.bool (0 < x.line.length)) := by
  rw [Matcher.eval_count, Matcher.eval_has]
  obtain ⟨hx, hm⟩ | ⟨x, hx, hm⟩ := h.eval_multi_of_not_listsMatches hp (e := e)
  · rw [hm]
    exact .inl ⟨hx, rfl, rfl⟩
  · rw [hm, he, Extractor.apply_oneline]
    exact .inr ⟨x, hx, rfl, rfl⟩

theorem eval_count_eq_length_iff :
    (Matcher.count p).eval n e = .ok (.int xs.length) ↔
      p.listsMatches ∨ ∃ x, xs = [x] ∧ x.line.length = 1 := by
  by_cases hp : p.listsMatches
  · simp only [hp, true_or, iff_true]
    exact (h.eval_count_of_listsMatches he hp).1
  · obtain ⟨rfl, hc, -⟩ | ⟨x, rfl, hc, -⟩ := h.eval_count_of_not_listsMatches he hp
    · rw [hc]
      simp only [reduceCtorEq, hp, Bool.false_eq_true, List.ne_cons_self, false_and, exists_const,
        or_self]
    · rw [hc, Except.ok.injEq, Value.int.injEq, Int.natCast_inj]
      simp [hp]

theorem eval_has_eq_pos_iff :
    (Matcher.has p).eval n e = .ok (.bool (0 < xs.length)) ↔
      p.listsMatches ∨ ∃ x, xs = [x] ∧ 0 < x.line.length := by
  by_cases hp : p.listsMatches
  · simp only [hp, true_or, iff_true]
    exact (h.eval_count_of_listsMatches he hp).2
  · obtain ⟨rfl, -, hh⟩ | ⟨x, rfl, -, hh⟩ := h.eval_count_of_not_listsMatches he hp
    · rw [hh]
      simp only [reduceCtorEq, hp, Bool.false_eq_true, List.ne_cons_self, false_and, exists_const,
        or_self]
    · rw [hh, Except.ok.injEq, Value.bool.injEq]
      simp [hp]

end

end Selects

theorem count_has_of_selects {n : Value} {p : Path} {xs : List Value} {e : Option Extractor}
    (h : p.Selects n xs) (he : Extractor.resolve e = .oneline) :
    (p.listsMatches → (Matcher.count p).eval n e = .ok (.int xs.length) ∧
      (Matcher.has p).eval n e = .ok (.bool (0 < xs.length))) ∧
    (¬ p.listsMatches →
      xs = [] ∧ (Matcher.count p).eval n e = .error (.noLength "NoneType") ∧
          (Matcher.has p).eval n e = .error (.noLength "NoneType") ∨
        ∃ x, xs = [x] ∧ (Matcher.count p).eval n e = .ok (.int x.line.length) ∧
          (Matcher.has p).eval n e = .ok (.bool (0 < x.line.length))) ∧
    ((Matcher.count p).eval n e = .ok (.int xs.length) ↔
      p.listsMatches ∨ ∃ x, xs = [x] ∧ x.line.length = 1) ∧
    ((Matcher.has p).eval n e = .ok (.bool (0 < xs.length)) ↔
      p.listsMatches ∨ ∃ x, xs = [x] ∧ 0 < x.line.length) :=
  ⟨h.eval_count_of_listsMatches he, h.eval_count_of_not_listsMatches he,
    h.eval_count_eq_length_iff he, h.eval_has_eq_pos_iff he⟩

def greeting : Document :=
  ⟨[], .mk (.element (.plain "r") [] []) "" [.mk (.element (.plain "a") [] []) "hello" [] ""] "",
    []⟩

def greetingElement : Value := .node ⟨[0, 0], greeting⟩

theorem line_greetingElement : greetingElement.line = "hello" := by cbv

theorem selects_greetingElement :
    (Path.index 0).Selects (.node (.root greeting)) [greetingElement] :=
  .index rfl

theorem count_has_of_selects_numbered :
    (Matcher.count (.query "*")).eval Sample.top none = .ok (.int 2) ∧
    (Matcher.has (.query "*")).eval Sample.top none = .ok (.bool true) ∧
    (Matcher.count (.index 0)).eval (.node (.root greeting)) none ≠ .ok (.int 1) := by
  obtain ⟨hq, -⟩ := count_has_of_selects (.query Sample.finds_elements.run) (e := none) rfl
  obtain ⟨-, -, hi, -⟩ := count_has_of_selects selects_greetingElement (e := none) rfl
  obtain ⟨hc, hh⟩ := hq rfl
  refine ⟨hc, hh, fun h1 => ?_⟩
  obtain hp | ⟨x, hx, hl⟩ := hi.mp h1
  · cases hp
  · cases hx
    rw [line_greetingElement] at hl
    cases hl

/-- A child is one node, however many characters it has. -/
theorem not_count_of_selects : ¬ ∀ (n : Node) (p : Path) (xs : List Value), n.isElement →
    p.Selects (.node n) xs → NodeSet xs →
    (Matcher.count p).eval (.node n) none = .ok (.int xs.length) ∧
      (Matcher.has p).eval (.node n) none = .ok (.bool (0 < xs.length)) := by
  intro h
  have hs : NodeSet [greetingElement] := ⟨by simp [greetingElement, Value.place?], by simp⟩
  obtain ⟨hc, -⟩ := h (.root greeting) _ _ (by decide) selects_greetingElement hs
  obtain hp | ⟨x, hx, hl⟩ := (selects_greetingElement.eval_count_eq_length_iff rfl).mp hc
  · cases hp
  · cases hx
    rw [line_greetingElement] at hl
    cases hl

end Path

end Quarry
