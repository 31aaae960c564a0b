import Quarry.Proofs.Matcher.Evaluation
import Quarry.Proofs.Value.Replaced

namespace Quarry

namespace Matcher

/-- Chains that apply their rest inside each node that the first path finds. -/
structure Nests (make : Path → Matcher) (chain : Path → List Path → Matcher) : Prop where
  last : ∀ p, chain p [] = make p
  further : ∀ p q qs, chain p (q :: qs) = (raw (make p)).deepMap (.matcher (chain q qs))

theorem nests_multiChain : Nests .multi multiChain := ⟨fun _ => rfl, fun _ _ _ => rfl⟩

theorem nests_singleChain : Nests .single singleChain := ⟨fun _ => rfl, fun _ _ _ => rfl⟩

section

variable (make : Path → Matcher) (e : Option Extractor)

/-- Takes each path in turn to the nodes inside the value so far. The last path is given the
extractor; those before it leave nodes as they are. -/
def walks : List Path → Value → Outcome Value
  | [], v => .ok v
  | [p], v => v.replaceNodes fun x => (make p).eval x e
  | p :: q :: qs, v => do
    walks (q :: qs) (← v.replaceNodes fun x => (make p).eval x (some .identity))

def staged (p : Path) (ps : List Path) (n : Value) : Outcome Value := do
  walks make e ps (← (make p).eval n (some .identity))

inductive Stages : List Path → Value → Value → Prop
  | last {p : Path} {v w : Value} :
      v.Replaced (fun x y => (make p).eval x e = .ok y) w → Stages [p] v w
  | next {p q : Path} {qs : List Path} {u v w : Value} :
      u.Replaced (fun x y => (make p).eval x (some .identity) = .ok y) v →
      Stages (q :: qs) v w → Stages (p :: q :: qs) u w

end

section

variable {make : Path → Matcher} {chain : Path → List Path → Matcher} {e : Option Extractor}
variable {p q : Path} {qs : List Path}

theorem Nests.eval_cons (h : Nests make chain) (n : Value) :
    (chain p (q :: qs)).eval n e =
      (make p).eval n (some .identity) >>= Value.replaceNodes fun x => (chain q qs).eval x e := by
  simp [h.further]

/-- The rest of a chain inside each node is one walk of a stage after another. -/
theorem Nests.replaceNodes_eq_ok (h : Nests make chain) {v w : Value} :
    v.replaceNodes (fun x => (chain q qs).eval x e) = .ok w ↔
      walks make e (q :: qs) v = .ok w := by
  induction qs generalizing q v w with
  | nil => simp only [h.last, walks]
  | cons r rs ih =>
    -- the walk with what comes next inside each node is two walks, by the fusion law
    simp only [h.eval_cons]
    rw [← Value.replaceNodes_bind_eq_ok, walks, Outcome.bind_eq_ok, Outcome.bind_eq_ok]
    simp only [ih]

theorem Nests.eval_eq_ok (h : Nests make chain) {n w : Value} :
    (chain p (q :: qs)).eval n e = .ok w ↔ staged make e p (q :: qs) n = .ok w := by
  rw [h.eval_cons, staged, Outcome.bind_eq_ok, Outcome.bind_eq_ok]
  simp only [h.replaceNodes_eq_ok]

theorem walks_eq_ok {v w : Value} :
    walks make e (q :: qs) v = .ok w ↔ Stages make e (q :: qs) v w := by
  induction qs generalizing q v w with
  | nil =>
    rw [walks, Value.replaceNodes_eq_ok]
    exact ⟨.last, fun | .last h => h⟩
  | cons r rs ih =>
    rw [walks, Outcome.bind_eq_ok]
    simp only [Value.replaceNodes_eq_ok, ih]
    exact ⟨fun ⟨_, hv, hw⟩ => .next hv hw, fun | .next hv hw => ⟨_, hv, hw⟩⟩

end

/-- A matcher gives what some paths give stage by stage, and fails where they fail. -/
structure RunsInStages (m : Matcher) (make : Path → Matcher) (p : Path) (ps : List Path) :
    Prop where
  value : ∀ n e w, m.eval n e = .ok w ↔ staged make e p ps n = .ok w
  failure : ∀ n e, (∃ x, m.eval n e = .error x) ↔ ∃ x, staged make e p ps n = .error x
  stages : ∀ n e w, staged make e p ps n = .ok w ↔
    ∃ v, (make p).eval n (some .identity) = .ok v ∧ Stages make e ps v w

theorem Nests.runsInStages {make : Path → Matcher} {chain : Path → List Path → Matcher}
    (h : Nests make chain) (p q : Path) (qs : List Path) :
    (chain p (q :: qs)).RunsInStages make p (q :: qs) where
  value _ _ _ := h.eval_eq_ok
  failure _ _ := Outcome.error_iff_of_ok_iff fun _ => h.eval_eq_ok
  stages n e w := by
    rw [staged, Outcome.bind_eq_ok]
    simp only [walks_eq_ok]

theorem ofPaths_of_coerced {maker : String} {chain : Path → List Path → Matcher}
    {rs : List RawPath} {p : Path} {ps : List Path} (h : rs.mapM RawPath.toPath = .ok (p :: ps)) :
    ofPaths maker chain rs = .ok (chain p ps) := by
  rw [ofPaths, h]
  rfl

theorem chain_runsInStages {rs : List RawPath} {p q : Path} {qs : List Path}
    (h : rs.mapM RawPath.toPath = .ok (p :: q :: qs)) :
    (∃ m, multi? rs = .ok m ∧ m.RunsInStages .multi p (q :: qs)) ∧
      ∃ m, single? rs = .ok m ∧ m.RunsInStages .single p (q :: qs) :=
  ⟨⟨_, ofPaths_of_coerced h, nests_multiChain.runsInStages p q qs⟩,
    ⟨_, ofPaths_of_coerced h, nests_singleChain.runsInStages p q qs⟩⟩

def table : Value :=
  .node (.root ⟨[], element "table" [element "row" [element "cell" []],
    element "row" [element "cell" []]], []⟩)
where
  element (name : String) (children : List Item) : Item :=
    .mk (.element (.plain name) [] []) "" children ""

def firstCells : List RawPath :=
  [.dict [(.ofString "rows", .list [.callable (.plain "children" members)])], .number 0,
    .dict [(.ofString "cell", .callable (.plain "here" fun n e => (Extractor.resolve e).apply n))]]
where
  members (n : Value) (e : Option Extractor) : Outcome Value := do
    return .list (← (n.elements?.getD []).mapM (Extractor.resolve e).apply)

def nodeKind : Extractor := ⟨"kind", fun v => .ok (.bool v.isNode)⟩

def cellKinds : Value :=
  .dict [(.ofString "rows", .list [cell, cell])]
where
  cell : Value := .dict [(.ofString "cell", .bool true)]

theorem chain_runsInStages_firstCells :
    (∃ p q qs, firstCells.mapM RawPath.toPath = .ok (p :: q :: qs)) ∧
      (do (← multi? firstCells).eval table (some nodeKind)) = .ok cellKinds ∧
      (do (← single? firstCells).eval table (some nodeKind)) = .ok cellKinds := by
  have h : firstCells.mapM RawPath.toPath = .ok (_ :: _ :: _) := rfl
  obtain ⟨⟨m, hm, hv⟩, ⟨s, hs, hw⟩⟩ := chain_runsInStages h
  refine ⟨⟨_, _, _, h⟩, ?_, ?_⟩
  · rw [hm]
    exact (hv.value table (some nodeKind) cellKinds).mpr rfl
  · rw [hs]
    exact (hw.value table (some nodeKind) cellKinds).mpr rfl

end Matcher

end Quarry
