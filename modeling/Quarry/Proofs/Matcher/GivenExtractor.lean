import Quarry.Proofs.Matcher.Evaluation

namespace Quarry

section Congruence

variable {m l r : Matcher} {n : Value} {g h : Option Extractor}

theorem Matcher.eval_map_congr (f : Value → Outcome Value) (hm : m.eval n g = m.eval n h) :
    (m.map f).eval n g = (m.map f).eval n h := by
  simp [hm]

theorem Matcher.eval_deepMap_congr {f : Evaluator} (hm : m.eval n g = m.eval n h)
    (hf : ∀ x, f.eval x g = f.eval x h) : (m.deepMap f).eval n g = (m.deepMap f).eval n h := by
  simp [hm, hf]

/-- The value that a bind chooses by does not depend on the extractor at all. -/
theorem Matcher.eval_flatMap_congr (m : Matcher) {f : Value → Evaluator}
    (hf : ∀ v, (f v).eval n g = (f v).eval n h) :
    (m.flatMap f).eval n g = (m.flatMap f).eval n h := by
  simp [hf]

theorem Matcher.eval_seqOr_congr (hl : l.eval n g = l.eval n h) (hr : r.eval n g = r.eval n h) :
    (l.seqOr r).eval n g = (l.seqOr r).eval n h := by
  rw [Matcher.eval, Matcher.eval, hl, hr]

/-- What a function gives for a value that a bind chooses by: a matcher, or a failure. -/
def Evaluator.ofOutcome : Outcome Matcher → Evaluator
  | .ok m => .matcher m
  | .error e => .plain "" fun _ _ => .error e

theorem Matcher.eval_flatMap_ofOutcome_congr (m : Matcher) {f : Value → Outcome Matcher}
    (hf : ∀ v t, f v = .ok t → t.eval n g = t.eval n h) :
    (m.flatMap fun v => .ofOutcome (f v)).eval n g =
      (m.flatMap fun v => .ofOutcome (f v)).eval n h := by
  apply Matcher.eval_flatMap_congr
  intro v
  cases hv : f v with
  | error e => rfl
  | ok t => exact hf v t hv

end Congruence

mutual

def Path.leaves : Path → List Path
  | .keyed es _ => entryLeaves es
  | p => [p]

def entryLeaves : List (Value × Path) → List Path
  | [] => []
  | (_, p) :: es => p.leaves ++ entryLeaves es

end

mutual

/-- Keys only gather what the leaves give. -/
theorem Path.eval_congr {n : Value} {g h : Extractor} :
    (p : Path) → (∀ q ∈ p.leaves, q.eval n g = q.eval n h) → p.eval n g = p.eval n h
  | .keyed es sequence, hq => by
    have he := evalEntries_congr es (by simpa [Path.leaves] using hq)
    rw [Path.eval_keyed, Path.eval_keyed, he]
  | .query q, hq => hq _ (by simp [Path.leaves])
  | .index i, hq => hq _ (by simp [Path.leaves])
  | .function f, hq => hq _ (by simp [Path.leaves])
  | .malformed v, hq => hq _ (by simp [Path.leaves])

theorem evalEntries_congr {n : Value} {g h : Extractor} :
    (es : List (Value × Path)) → (∀ q ∈ entryLeaves es, q.eval n g = q.eval n h) →
      evalEntries es n g = evalEntries es n h
  | [], _ => rfl
  | (k, p) :: es, hq => by
    have hp := Path.eval_congr p fun q hm => hq q (by simp [entryLeaves, hm])
    have he := evalEntries_congr es fun q hm => hq q (by simp [entryLeaves, hm])
    rw [evalEntries, evalEntries, hp, he]

end

def Path.isMatcher : Path → Bool
  | .function (.matcher _) => true
  | _ => false

/-- Matchers that bind an extractor wherever they extract. -/
inductive Closed : Matcher → Prop
  | bind (m : Matcher) (e : Extractor) : Closed (m.bind e)
  | parse (m : Matcher) (markup : Markup) (e : Option Extractor) (config : Config) :
      Closed (m.parse markup e config)
  | map {m : Matcher} (f : Value → Outcome Value) : Closed m → Closed (m.map f)
  | deepMap {m t : Matcher} : Closed m → Closed t → Closed (m.deepMap (.matcher t))
  | flatMap (m : Matcher) {f : Value → Outcome Matcher} :
      (∀ v t, f v = .ok t → Closed t) → Closed (m.flatMap fun v => .ofOutcome (f v))
  | seqOr {l r : Matcher} : Closed l → Closed r → Closed (l.seqOr r)
  | multi {p : Path} : (∀ q ∈ p.leaves, q.isMatcher) →
      (∀ t, .function (.matcher t) ∈ p.leaves → Closed t) → Closed (.multi p)
  | single {p : Path} : (∀ q ∈ p.leaves, q.isMatcher) →
      (∀ t, .function (.matcher t) ∈ p.leaves → Closed t) → Closed (.single p)

theorem eval_leaf_congr {p : Path} {n : Value} (hl : ∀ q ∈ p.leaves, q.isMatcher)
    (ht : ∀ t, .function (.matcher t) ∈ p.leaves → ∀ g h, t.eval n g = t.eval n h)
    (g h : Extractor) : p.eval n g = p.eval n h := by
  apply Path.eval_congr
  intro q hq
  have hm := hl q hq
  cases q with
  | function f =>
    cases f with
    | matcher t => exact ht t hq (some g) (some h)
    | plain name run => cases hm
  | _ => cases hm

theorem eval_eq_of_closed {m : Matcher} (hm : Closed m) (n : Value) (g h : Option Extractor) :
    m.eval n g = m.eval n h := by
  induction hm generalizing n g h with
  | bind m e => rfl
  | parse m markup e config => rfl
  | map f _ ih => exact Matcher.eval_map_congr f (ih n g h)
  | deepMap _ _ ihm iht => exact Matcher.eval_deepMap_congr (ihm n g h) fun x => iht x g h
  | flatMap m _ ih =>
    exact Matcher.eval_flatMap_ofOutcome_congr m fun v t hv => ih v t hv n g h
  | seqOr _ _ ihl ihr => exact Matcher.eval_seqOr_congr (ihl n g h) (ihr n g h)
  | @multi p hl _ ih =>
    have hp : ∀ q, p ≠ .query q := by
      rintro q rfl
      cases hl (.query q) (by simp [Path.leaves])
    rw [Matcher.eval_multi n _ hp, Matcher.eval_multi n _ hp]
    exact eval_leaf_congr hl (fun t ht => ih t ht n) _ _
  | single hl _ ih =>
    rw [Matcher.eval_single, Matcher.eval_single]
    exact eval_leaf_congr hl (fun t ht => ih t ht n) _ _

def paragraph : Value :=
  .node (.root ⟨[], .mk (.element (.plain "p") [] []) "a\nb" [] "", []⟩)

def shownTwice : Matcher :=
  (Matcher.single (.keyed [(.ofString "line", line), (.ofString "all", .keyed [(.int 0, all)] true)]
    false)).map Value.count
where
  line : Path := .function (.matcher ((Matcher.single (.query ".")).withExtractor none))
  all : Path := .function (.matcher (Matcher.multi (.query ".")).raw)

theorem closed_shownTwice : Closed shownTwice := by
  refine .map _ (.single ?_ fun t ht => ?_)
  · simp [Path.leaves, entryLeaves, shownTwice.line, shownTwice.all, Path.isMatcher]
  · simp only [Path.leaves, entryLeaves, shownTwice.line, shownTwice.all, List.append_nil,
      List.cons_append, List.nil_append, List.mem_cons, Path.function.injEq,
      Evaluator.matcher.injEq, List.not_mem_nil, or_false] at ht
    rcases ht with rfl | rfl
    · exact .bind _ _
    · exact .bind _ _

theorem eval_shownTwice :
    Closed shownTwice ∧ shownTwice.eval paragraph none = shownTwice.eval paragraph (some .text) :=
  ⟨closed_shownTwice, eval_eq_of_closed closed_shownTwice paragraph none (some .text)⟩

/-- Matchers whose own evaluators are matchers in turn: whatever they hand their extractor on to
knows what to do when there is none. -/
inductive Resolving : Matcher → Prop
  | multi (p : Path) : Resolving (.multi p)
  | single (p : Path) : Resolving (.single p)
  | constant (v : Value) : Resolving (.constant v)
  | bind (m : Matcher) (e : Extractor) : Resolving (m.bind e)
  | parse (m : Matcher) (markup : Markup) (e : Option Extractor) (config : Config) :
      Resolving (m.parse markup e config)
  | map {m : Matcher} (f : Value → Outcome Value) : Resolving m → Resolving (m.map f)
  | deepMap {m t : Matcher} : Resolving m → Resolving t → Resolving (m.deepMap (.matcher t))
  | flatMap (m : Matcher) {f : Value → Outcome Matcher} :
      (∀ v t, f v = .ok t → Resolving t) → Resolving (m.flatMap fun v => .ofOutcome (f v))
  | seqOr {l r : Matcher} : Resolving l → Resolving r → Resolving (l.seqOr r)

theorem eval_none_of_resolving {m : Matcher} (hm : Resolving m) (n : Value) :
    m.eval n none = m.eval n (some .standard) := by
  induction hm generalizing n with
  | multi p | single p | constant v | bind m e | parse m markup e config => rfl
  | map f _ ih => exact Matcher.eval_map_congr f (ih n)
  | deepMap _ _ ihm iht => exact Matcher.eval_deepMap_congr (ihm n) iht
  | flatMap m _ ih =>
    exact Matcher.eval_flatMap_ofOutcome_congr m fun v t hv => ih v t hv n
  | seqOr _ _ ihl ihr => exact Matcher.eval_seqOr_congr (ihl n) (ihr n)

/-- A matcher, and what comes of it by standing as a path any number of times. -/
inductive Wrapping (m : Matcher) : Matcher → Prop
  | self : Wrapping m m
  | multi {t u : Matcher} : Wrapping m t → Matcher.multi? [.callable (.matcher t)] = .ok u →
      Wrapping m u
  | single {t u : Matcher} : Wrapping m t → Matcher.single? [.callable (.matcher t)] = .ok u →
      Wrapping m u

theorem eval_wrapping {m : Matcher} (hm : Resolving m) {t : Matcher} (ht : Wrapping m t) (n : Value)
    (e : Option Extractor) : t.eval n e = m.eval n e := by
  -- each path resolves what it is given, and the matcher takes no notice of that
  have hr : m.eval n (some (.resolve e)) = m.eval n e := by
    cases e with
    | none => exact (eval_none_of_resolving hm n).symm
    | some f => rfl
  induction ht generalizing e with
  | self => rfl
  | multi _ hu ih =>
    cases hu
    rw [← hr]
    exact ih (some (.resolve e)) rfl
  | single _ hu ih =>
    cases hu
    rw [← hr]
    exact ih (some (.resolve e)) rfl

theorem eval_none_and_wrapping {m : Matcher} (hm : Resolving m) :
    (∀ n, m.eval n none = m.eval n (some .oneline)) ∧
      ∀ t, Wrapping m t → ∀ n e, t.eval n e = m.eval n e :=
  ⟨eval_none_of_resolving hm, fun _ ht n e => eval_wrapping hm ht n e⟩

def shownIfAny : Matcher :=
  (Matcher.multi (.function (.plain "all" fun n _ => .ok n))).flatMap fun v =>
    .ofOutcome (if v.isNode then .ok here else .error .emptySelection)
where
  here : Matcher := (Matcher.multi (.query ".")).deepMap (.matcher (.single (.query ".")))

theorem resolving_shownIfAny : Resolving shownIfAny := by
  refine .flatMap _ fun v t ht => ?_
  split at ht
  · cases ht
    exact .deepMap (.multi _) (.single _)
  · cases ht

theorem eval_shownIfAny : Resolving shownIfAny ∧
    shownIfAny.eval paragraph none = shownIfAny.eval paragraph (some .oneline) ∧
    (Matcher.single (.function (.matcher (.multi (.function (.matcher shownIfAny)))))).eval
      paragraph none = shownIfAny.eval paragraph none := by
  obtain ⟨hn, hw⟩ := eval_none_and_wrapping resolving_shownIfAny
  exact ⟨resolving_shownIfAny, hn paragraph,
    hw _ (.single (.multi .self rfl) rfl) paragraph none⟩

end Quarry
