import Quarry.Proofs.Matcher.Operation
import Quarry.Proofs.Value.Place

namespace Quarry

namespace Operation

def binding? : Operation → Option Extractor
  | .withExtractor (some f) => some f
  | .withExtractor none => some .oneline
  | .raw => some .identity
  | _ => none

def function? : Operation → Option (Value → Outcome Value)
  | .map f => some f
  | .each f => some (distribute f)
  | .first => some Value.first
  | .asInt => some (Value.toNumber .int)
  | .asFloat => some (Value.toNumber .float)
  | .regex p => some p.captureIn
  | .withExtractor _ | .raw | .deepMap _ => none

def isLinear : Operation → Bool
  | .deepMap _ => false
  | _ => true

theorem extractor_eq (o : Operation) (e : Option Extractor) : o.extractor e = o.binding?.or e := by
  cases o with
  | withExtractor f => cases f <;> rfl
  | _ => rfl

theorem function?_of_binding? {o : Operation} (h : o.binding?.isSome) : o.function? = none := by
  cases o with
  | withExtractor f => rfl
  | raw => rfl
  | _ => cases h

theorem binding?_of_function? {o : Operation} (h : o.function?.isSome) : o.binding? = none := by
  cases o with
  | withExtractor f => cases h
  | raw => cases h
  | _ => rfl

theorem act_of_isLinear {o : Operation} (h : o.isLinear) (e : Option Extractor) :
    o.act e = o.function?.getD .ok := by
  cases o with
  | deepMap f => cases h
  | _ => rfl

/-- The extractor that reaches the matcher before some operations: the first that they bind, or
else the one given from outside. -/
def inForce (os : List Operation) (e : Option Extractor) : Option Extractor :=
  (os.findSome? binding?).or e

@[simp]
theorem inForce_cons (o : Operation) (os : List Operation) (e : Option Extractor) :
    inForce (o :: os) e = o.binding?.or (inForce os e) := by
  rw [inForce, List.findSome?_cons]
  cases o.binding? <;> rfl

theorem inForce_append (as bs : List Operation) (e : Option Extractor) :
    inForce (as ++ bs) e = inForce as (inForce bs e) := by
  induction as with
  | nil => rfl
  | cons o as ih => simp [ih]

/-- Where something is bound already, nothing from outside counts. -/
theorem inForce_eq_of_bound {as : List Operation} (h : ∃ a ∈ as, a.binding?.isSome)
    (e e' : Option Extractor) : inForce as e = inForce as e' := by
  obtain ⟨f, hf⟩ := Option.isSome_iff_exists.mp (List.findSome?_isSome_iff.mpr h)
  rw [inForce, inForce, hf, Option.some_or, Option.some_or]

/-- What operations make of a value one after the other, each with the extractor that the later
ones leave in force. -/
def actAll (e : Option Extractor) : List Operation → Value → Outcome Value
  | [], v => .ok v
  | o :: os, v => o.act (inForce os e) v >>= actAll e os

def applyAll (fs : List (Value → Outcome Value)) (v : Value) : Outcome Value :=
  fs.foldlM (fun v f => f v) v

theorem applyAll_append (fs gs : List (Value → Outcome Value)) :
    applyAll (fs ++ gs) = fun v => applyAll fs v >>= applyAll gs :=
  funext fun _ => List.foldlM_append

theorem actAll_of_isLinear {os : List Operation} (h : ∀ o ∈ os, o.isLinear)
    (e : Option Extractor) : actAll e os = applyAll (os.filterMap function?) := by
  induction os with
  | nil => rfl
  | cons o os ih =>
    have ho := act_of_isLinear (h o (by simp)) (inForce os e)
    have hos := ih fun p hp => h p (by simp [hp])
    funext v
    rw [actAll, ho, hos]
    cases hf : o.function? with
    | none => rw [List.filterMap_cons_none hf]; rfl
    | some f => rw [List.filterMap_cons_some hf]; rfl

end Operation

namespace Matcher

open Operation

/-- A chain runs its matcher with the extractor that the whole of it leaves in force. -/
theorem eval_after (m : Matcher) (os : List Operation) (n : Value) (e : Option Extractor) :
    (m.after os).eval n e = m.eval n (inForce os e) >>= actAll e os := by
  induction os generalizing m with
  | nil => exact (bind_pure (m.eval n e)).symm
  | cons o os ih =>
    calc ((o.apply m).after os).eval n e
        = (o.apply m).eval n (inForce os e) >>= actAll e os := ih (o.apply m)
      _ = (m.eval n (o.extractor (inForce os e)) >>= o.act (inForce os e)) >>= actAll e os := by
          rw [eval_apply]
      _ = m.eval n (inForce (o :: os) e) >>= actAll e (o :: os) := by
          rw [extractor_eq, ← inForce_cons, bind_assoc]
          rfl

theorem eval_after_of_isLinear (m : Matcher) {os : List Operation} (h : ∀ o ∈ os, o.isLinear)
    (n : Value) (e : Option Extractor) :
    (m.after os).eval n e = m.eval n (inForce os e) >>= applyAll (os.filterMap function?) := by
  rw [eval_after, actAll_of_isLinear h]

theorem eval_after_congr (m : Matcher) {as bs : List Operation} (ha : ∀ o ∈ as, o.isLinear)
    (hb : ∀ o ∈ bs, o.isLinear) {e : Option Extractor}
    (hf : as.filterMap function? = bs.filterMap function?) (hi : inForce as e = inForce bs e)
    (n : Value) : (m.after as).eval n e = (m.after bs).eval n e := by
  rw [eval_after_of_isLinear m ha, eval_after_of_isLinear m hb, hf, hi]

section

variable {m : Matcher} {as bs : List Operation} {n : Value} {e : Option Extractor}

theorem eval_after_drop {b : Operation} (h : ∀ o ∈ as ++ b :: bs, o.isLinear)
    (hb : b.binding?.isSome) (ha : ∃ a ∈ as, a.binding?.isSome) :
    (m.after (as ++ b :: bs)).eval n e = (m.after (as ++ bs)).eval n e := by
  have hs : (as ++ bs).Sublist (as ++ b :: bs) := (List.sublist_cons_self b bs).append_left as
  apply eval_after_congr m h fun o ho => h o (hs.subset ho)
  · rw [List.filterMap_append, List.filterMap_append,
      List.filterMap_cons_none (function?_of_binding? hb)]
  · rw [inForce_append, inForce_append, inForce_eq_of_bound ha]

theorem eval_after_swap {b g : Operation} (h : ∀ o ∈ as ++ b :: g :: bs, o.isLinear)
    (hb : b.binding?.isSome) (hg : g.function?.isSome) :
    (m.after (as ++ b :: g :: bs)).eval n e = (m.after (as ++ g :: b :: bs)).eval n e := by
  have hp : (as ++ g :: b :: bs).Perm (as ++ b :: g :: bs) :=
    (List.Perm.swap b g bs).append_left as
  have hf := function?_of_binding? hb
  have hn := binding?_of_function? hg
  apply eval_after_congr m h fun o ho => h o (hp.mem_iff.mp ho)
  · simp only [List.filterMap_append, List.filterMap_cons, hf]
  · simp only [inForce_append, inForce_cons, hn, Option.none_or]

theorem eval_after_of_error {os : List Operation} {x : Fault}
    (hx : m.eval n (inForce os e) = .error x) : (m.after os).eval n e = .error x := by
  rw [eval_after, hx]
  rfl

theorem eval_after_of_function_error {g : Operation} {f : Value → Outcome Value} {v : Value}
    {x : Fault} (h : ∀ o ∈ as ++ g :: bs, o.isLinear) (hg : g.function? = some f)
    (hv : m.eval n (inForce (as ++ g :: bs) e) >>= applyAll (as.filterMap function?) = .ok v)
    (hx : f v = .error x) : (m.after (as ++ g :: bs)).eval n e = .error x := by
  rw [eval_after_of_isLinear m h, List.filterMap_append, List.filterMap_cons_some hg,
    applyAll_append, ← bind_assoc, hv]
  exact congrArg (· >>= applyAll (bs.filterMap function?)) hx

end

theorem eval_after_normal_form (m : Matcher) {os : List Operation} (h : ∀ o ∈ os, o.isLinear)
    (n : Value) (e : Option Extractor) :
    (m.after os).eval n e = m.eval n (inForce os e) >>= applyAll (os.filterMap function?) ∧
    (∀ as b bs, os = as ++ b :: bs → b.binding?.isSome → (∃ a ∈ as, a.binding?.isSome) →
      (m.after os).eval n e = (m.after (as ++ bs)).eval n e) ∧
    (∀ as b g bs, os = as ++ b :: g :: bs → b.binding?.isSome → g.function?.isSome →
      (m.after os).eval n e = (m.after (as ++ g :: b :: bs)).eval n e) ∧
    (∀ x, m.eval n (inForce os e) = .error x → (m.after os).eval n e = .error x) ∧
    ∀ as g bs f v x, os = as ++ g :: bs → g.function? = some f →
      m.eval n (inForce os e) >>= applyAll (as.filterMap function?) = .ok v → f v = .error x →
      (m.after os).eval n e = .error x := by
  refine ⟨eval_after_of_isLinear m h n e, ?_, ?_, fun x hx => eval_after_of_error hx, ?_⟩
  · rintro as b bs rfl hb ha
    exact eval_after_drop h hb ha
  · rintro as b g bs rfl hb hg
    exact eval_after_swap h hb hg
  · rintro as g bs f v x rfl hg hv hx
    exact eval_after_of_function_error h hg hv hx

def here : Matcher :=
  .single (.function (.plain "here" fun n e => (Extractor.resolve e).apply n))

def nodeTest : List Operation :=
  [.map fun v => .ok (.tuple [.bool v.isNode, v]), .raw, .withExtractor none, .first]

theorem eval_here_after_nodeTest :
    (∀ o ∈ nodeTest ++ [.first], o.isLinear) ∧
      (here.after nodeTest).eval Sample.top (some .text) = .ok (.bool true) ∧
      (here.after (nodeTest ++ [.first])).eval Sample.top (some .text) =
        .error (.operation (.noFirst "bool")) := by
  have h : ∀ o ∈ nodeTest ++ [.first], o.isLinear := by simp [nodeTest, isLinear]
  have hn : ∀ o ∈ nodeTest, o.isLinear := fun o ho => h o (List.mem_append_left _ ho)
  obtain ⟨hv, -, -, -, -⟩ := eval_after_normal_form here hn Sample.top (some .text)
  obtain ⟨-, -, -, -, hx⟩ := eval_after_normal_form here h Sample.top (some .text)
  exact ⟨h, hv, hx nodeTest .first [] _ (.bool true) _ rfl rfl rfl rfl⟩

end Matcher

end Quarry
