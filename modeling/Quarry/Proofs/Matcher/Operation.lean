import Quarry.Proofs.Matcher.Evaluation
import Quarry.Proofs.Value.Members

namespace Quarry

inductive Operation
  | withExtractor (e : Option Extractor)
  | raw
  | map (f : Value → Outcome Value)
  | each (f : Value → Outcome Value)
  | first
  | asInt
  | asFloat
  | regex (p : Pattern)
  | deepMap (f : Evaluator)

namespace Operation

def apply (m : Matcher) : Operation → Matcher
  | .withExtractor e => m.withExtractor e
  | .raw => m.raw
  | .map f => m.map f
  | .each f => m.map (distribute f)
  | .first => m.first
  | .asInt => m.asInt
  | .asFloat => m.asFloat
  | .regex p => m.regex p
  | .deepMap f => m.deepMap f

def extractor (e : Option Extractor) : Operation → Option Extractor
  | .withExtractor f => some (.resolve f)
  | .raw => some .identity
  | _ => e

def act (e : Option Extractor) : Operation → Value → Outcome Value
  | .withExtractor _ | .raw => .ok
  | .map f => f
  | .each f => distribute f
  | .first => Value.first
  | .asInt => Value.toNumber .int
  | .asFloat => Value.toNumber .float
  | .regex p => p.captureIn
  | .deepMap f => Value.replaceNodes fun x => f.eval x e

@[simp]
theorem eval_apply (o : Operation) (m : Matcher) (n : Value) (e : Option Extractor) :
    (o.apply m).eval n e = m.eval n (o.extractor e) >>= o.act e := by
  cases o <;> simp [apply, extractor, act]

@[simp]
theorem root?_apply (o : Operation) (m : Matcher) : (o.apply m).root? = m.root? := by
  cases o <;> simp [apply, Matcher.root?, Matcher.withExtractor, Matcher.raw, Matcher.first,
    Matcher.asInt, Matcher.asFloat, Matcher.regex]

/-- Whether an operation takes a list member by member. -/
def isElementwise : Operation → Bool
  | .map _ | .first => false
  | _ => true

def member (e : Option Extractor) : Operation → Value → Outcome Value
  | .each f => f
  | o => o.act e

theorem act_list {o : Operation} (ho : o.isElementwise) (e : Option Extractor)
    (vs : List Value) : o.act e (.list vs) = Value.list <$> vs.mapM (o.member e) := by
  cases o with
  | map f | first => cases ho
  | _ => simp [act, member]

theorem length_of_act_list {o : Operation} (ho : o.isElementwise) {e : Option Extractor}
    {vs : List Value} {v : Value} (h : o.act e (.list vs) = .ok v) :
    ∃ ws, v = .list ws ∧ ws.length = vs.length := by
  rw [act_list ho] at h
  obtain ⟨ws, hw, rfl⟩ := Outcome.map_eq_ok.mp h
  exact ⟨ws, rfl, (Outcome.forall₂_of_mapM hw).length_eq.symm⟩

end Operation

namespace Matcher

def after (m : Matcher) (os : List Operation) : Matcher :=
  os.foldl Operation.apply m

@[simp]
theorem after_nil (m : Matcher) : m.after [] = m := rfl

@[simp]
theorem after_cons (m : Matcher) (o : Operation) (os : List Operation) :
    m.after (o :: os) = (o.apply m).after os := rfl

@[simp]
theorem root?_after (m : Matcher) (os : List Operation) : (m.after os).root? = m.root? := by
  induction os generalizing m with
  | nil => rfl
  | cons o os ih => simp [ih]

@[simp]
theorem root?_multiChain (q : String) (ps : List Path) :
    (multiChain (.query q) ps).root? = some ⟨q, true⟩ := by
  cases ps <;> simp [multiChain, raw, root?, Path.root?]

/-- Whatever the extractor, all that a matcher may give at a node are lists of `k` values. -/
def GivesLists (m : Matcher) (n : Value) (k : Nat) : Prop :=
  ∀ e v, m.eval n e = .ok v → ∃ vs, v = .list vs ∧ vs.length = k

theorem givesLists_apply {m : Matcher} {n : Value} {k : Nat} {o : Operation}
    (ho : o.isElementwise) (h : m.GivesLists n k) : (o.apply m).GivesLists n k := by
  intro e v hv
  rw [Operation.eval_apply] at hv
  obtain ⟨u, hu, hv⟩ := Outcome.bind_eq_ok.mp hv
  obtain ⟨us, rfl, hk⟩ := h _ u hu
  obtain ⟨vs, rfl, hl⟩ := Operation.length_of_act_list ho hv
  exact ⟨vs, rfl, hl.trans hk⟩

theorem givesLists_after {m : Matcher} {n : Value} {k : Nat} {os : List Operation}
    (hos : ∀ o ∈ os, o.isElementwise) (h : m.GivesLists n k) : (m.after os).GivesLists n k := by
  induction os generalizing m with
  | nil => exact h
  | cons o os ih =>
    have ho : o.isElementwise := hos o (by simp)
    exact ih (fun p hp => hos p (by simp [hp])) (givesLists_apply ho h)

theorem givesLists_multi {n : Value} {q : String} {xs : List Value}
    (h : Query.run n q = .ok xs) : (multi (.query q)).GivesLists n xs.length := by
  intro e v hv
  rw [eval_multi_query, h, Outcome.ok_bind] at hv
  obtain ⟨vs, hvs, rfl⟩ := Outcome.map_eq_ok.mp hv
  exact ⟨vs, rfl, (Outcome.forall₂_of_mapM hvs).length_eq.symm⟩

/-- Further paths change the values inside the list and not their number. -/
theorem givesLists_multiChain {n : Value} {q : String} {xs : List Value}
    (h : Query.run n q = .ok xs) (ps : List Path) :
    (multiChain (.query q) ps).GivesLists n xs.length := by
  cases ps with
  | nil => exact givesLists_multi h
  | cons p ps =>
    have hr := givesLists_apply (o := .raw) rfl (givesLists_multi h)
    exact givesLists_apply (o := .deepMap (.matcher (multiChain p ps))) rfl hr

end Matcher

end Quarry
