import Quarry.Proofs.Matcher.GivenExtractor

namespace Quarry.Matcher

variable {m t u : Matcher} {n : Value} {e : Option Extractor}

/-- Choices one after the other, each by the value that the matcher chosen before finds. -/
def flatMaps (m : Matcher) (fs : List (Value → Outcome Matcher)) : Matcher :=
  fs.foldl (fun m f => m.flatMap fun v => .ofOutcome (f v)) m

def chosen (f : Value → Outcome Matcher) (fs : List (Value → Outcome Matcher)) (v : Value) :
    Evaluator :=
  .ofOutcome ((f v).map (·.flatMaps fs))

theorem eval_ofOutcome_flatMap (o : Outcome Matcher) (g : Value → Evaluator) (n : Value)
    (e : Option Extractor) :
    (Evaluator.ofOutcome (o.map (·.flatMap g))).eval n e =
      (Evaluator.ofOutcome o).eval n (some .identity) >>= fun v => (g v).eval n e := by
  cases o with
  | error φ => rfl
  | ok t => exact eval_flatMap t n e g

theorem eval_constant_flatMap (v : Value) (f : Value → Evaluator) (n : Value)
    (e : Option Extractor) : ((constant v).flatMap f).eval n e = (f v).eval n e := by
  simp

theorem eval_flatMap_constant (m : Matcher) (n : Value) (e : Option Extractor) :
    (m.flatMap fun v => .matcher (.constant v)).eval n e = m.raw.eval n e := by
  simp

theorem eval_flatMap_flatMap (m : Matcher) (f : Value → Outcome Matcher) (g : Value → Evaluator)
    (n : Value) (e : Option Extractor) :
    ((m.flatMap fun v => .ofOutcome (f v)).flatMap g).eval n e =
      (m.flatMap fun v => .ofOutcome ((f v).map (·.flatMap g))).eval n e := by
  simp only [eval_flatMap, bind_assoc, eval_ofOutcome_flatMap]

theorem eval_ofOutcome_congr {o : Outcome Matcher} {a b : Matcher → Matcher}
    (h : ∀ t, (a t).eval n e = (b t).eval n e) :
    (Evaluator.ofOutcome (o.map a)).eval n e = (Evaluator.ofOutcome (o.map b)).eval n e := by
  cases o with
  | error φ => rfl
  | ok t => exact h t

-- the choice that comes second is grouped with the first, and then with those behind it
theorem eval_flatMaps_cons (m : Matcher) (f : Value → Outcome Matcher)
    (fs : List (Value → Outcome Matcher)) (n : Value) (e : Option Extractor) :
    (m.flatMaps (f :: fs)).eval n e = (m.flatMap (chosen f fs)).eval n e := by
  induction fs generalizing m f n e with
  | nil =>
    have hid : chosen f [] = fun v => .ofOutcome (f v) := by
      funext v
      rw [chosen]
      cases f v <;> rfl
    rw [hid]
    rfl
  | cons g gs ih =>
    calc (m.flatMaps (f :: g :: gs)).eval n e
        = ((m.flatMap fun v => .ofOutcome (f v)).flatMap (chosen g gs)).eval n e := ih _ g n e
      _ = (m.flatMap fun v => .ofOutcome ((f v).map (·.flatMap (chosen g gs)))).eval n e :=
          eval_flatMap_flatMap m f (chosen g gs) n e
      _ = (m.flatMap (chosen f (g :: gs))).eval n e := by
          rw [eval_flatMap, eval_flatMap]
          congr 1
          funext v
          exact eval_ofOutcome_congr fun t => (ih t g n e).symm

theorem flatMap_laws (m : Matcher) (v : Value) (f : Value → Outcome Matcher) (g : Value → Evaluator)
    (n : Value) (e : Option Extractor) :
    ((constant v).flatMap fun x => .ofOutcome (f x)).eval n e =
      (Evaluator.ofOutcome (f v)).eval n e ∧
    (m.flatMap fun x => .matcher (.constant x)).eval n e = m.raw.eval n e ∧
    ((m.flatMap fun x => .ofOutcome (f x)).flatMap g).eval n e =
      (m.flatMap fun x => .ofOutcome ((f x).map (·.flatMap g))).eval n e ∧
    ∀ fs, (m.flatMaps (f :: fs)).eval n e =
      (m.flatMap fun x => .ofOutcome ((f x).map (·.flatMaps fs))).eval n e :=
  ⟨eval_constant_flatMap v _ n e, eval_flatMap_constant m n e, eval_flatMap_flatMap m f g n e,
    fun fs => eval_flatMaps_cons m f fs n e⟩

end Quarry.Matcher
