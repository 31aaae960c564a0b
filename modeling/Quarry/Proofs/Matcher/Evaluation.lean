import Quarry.Matcher.Build
import Quarry.Proofs.Outcome

namespace Quarry

variable (m : Matcher) (n : Value) (e : Option Extractor)

@[simp]
theorem Extractor.resolve_none : resolve none = .oneline := rfl

@[simp]
theorem Extractor.resolve_some (f : Extractor) : resolve (some f) = f := rfl

@[simp]
theorem Extractor.identity_apply : identity.apply = .ok := rfl

@[simp]
theorem Evaluator.eval_matcher : (matcher m).eval n e = m.eval n e := rfl

@[simp]
theorem Evaluator.eval_plain (name : String) (run : Value → Option Extractor → Outcome Value) :
    (plain name run).eval n e = run n e := rfl

namespace Path

@[simp]
theorem eval_query (q : String) (f : Extractor) :
    (query q).eval n f = Query.run n q >>= fun
      | [] => .ok .none
      | x :: _ => f.apply x := rfl

@[simp]
theorem eval_index (i : Nat) (f : Extractor) : (index i).eval n f = childAt n i >>= f.apply := rfl

theorem eval_keyed (es : List (Value × Path)) (sequence : Bool) (f : Extractor) :
    (keyed es sequence).eval n f =
      assemble (keyed es sequence).isListShaped <$> evalEntries es n f := rfl

@[simp]
theorem eval_function (g : Evaluator) (f : Extractor) :
    (function g).eval n f = g.eval n (some f) := rfl

end Path

namespace Matcher

@[simp]
theorem eval_multi_query (q : String) :
    (multi (.query q)).eval n e =
      Query.run n q >>= fun vs => Value.list <$> vs.mapM (Extractor.resolve e).apply := rfl

-- a query alone has all of its matches in a list; any other path has its own value
theorem eval_multi {p : Path} (hp : ∀ q, p ≠ .query q) :
    (multi p).eval n e = p.eval n (.resolve e) := by
  cases p with
  | query q => exact absurd rfl (hp q)
  | _ => rfl

@[simp]
theorem eval_multi_index (i : Nat) :
    (multi (.index i)).eval n e = childAt n i >>= (Extractor.resolve e).apply := by
  simp [eval_multi]

@[simp]
theorem eval_multi_function (g : Evaluator) :
    (multi (.function g)).eval n e = g.eval n (some (.resolve e)) := by
  simp [eval_multi]

@[simp]
theorem eval_single (p : Path) : (single p).eval n e = p.eval n (.resolve e) := rfl

@[simp]
theorem eval_constant (v n : Value) (e : Option Extractor) : (constant v).eval n e = .ok v := rfl

@[simp]
theorem eval_bind (f : Extractor) : (m.bind f).eval n e = m.eval n (some f) := rfl

@[simp]
theorem eval_raw : m.raw.eval n e = m.eval n (some .identity) :=
  eval_bind m n e .identity

@[simp]
theorem eval_withExtractor (f : Option Extractor) :
    (m.withExtractor f).eval n e = m.eval n (some (.resolve f)) :=
  eval_bind m n e (.resolve f)

@[simp]
theorem eval_map (f : Value → Outcome Value) : (m.map f).eval n e = m.eval n e >>= f := rfl

@[simp]
theorem eval_first : m.first.eval n e = m.eval n e >>= Value.first :=
  eval_map m n e Value.first

@[simp]
theorem eval_asInt : m.asInt.eval n e = m.eval n e >>= Value.toNumber .int :=
  eval_map m n e (Value.toNumber .int)

@[simp]
theorem eval_asFloat : m.asFloat.eval n e = m.eval n e >>= Value.toNumber .float :=
  eval_map m n e (Value.toNumber .float)

@[simp]
theorem eval_regex (p : Pattern) : (m.regex p).eval n e = m.eval n e >>= p.captureIn :=
  eval_map m n e p.captureIn

@[simp]
theorem eval_has (p : Path) : (has p).eval n e = (multi p).eval n e >>= Value.nonempty :=
  eval_map (multi p) n e Value.nonempty

@[simp]
theorem eval_count (p : Path) : (count p).eval n e = (multi p).eval n e >>= Value.count :=
  eval_map (multi p) n e Value.count

@[simp]
theorem eval_deepMap (f : Evaluator) :
    (m.deepMap f).eval n e = m.eval n e >>= Value.replaceNodes fun x => f.eval x e := rfl

@[simp]
theorem eval_flatMap (f : Value → Evaluator) :
    (m.flatMap f).eval n e = m.eval n (some .identity) >>= fun v => (f v).eval n e := rfl

end Matcher

end Quarry
