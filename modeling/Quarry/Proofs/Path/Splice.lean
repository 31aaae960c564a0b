import Quarry.Proofs.Matcher.Evaluation
import Quarry.Proofs.Value.Place

namespace Quarry

variable {n : Value} {e : Extractor}

theorem evalEntries_append (es fs : List (Value × Path)) (n : Value) (e : Extractor) :
    evalEntries (es ++ fs) n e = do
      let xs ← evalEntries es n e
      let ys ← evalEntries fs n e
      return xs ++ ys := by
  induction es with
  | nil => exact (bind_pure (evalEntries fs n e)).symm
  | cons k es ih =>
    rw [List.cons_append, evalEntries, evalEntries, ih]
    simp only [bind_assoc, pure_bind, List.append_assoc]

def listValues (es : List (Value × Path)) (n : Value) (e : Extractor) : Outcome (List Value) :=
  List.map Prod.snd <$> evalEntries es n e

theorem Path.eval_sequence (es : List (Value × Path)) (n : Value) (e : Extractor) :
    (Path.keyed es true).eval n e = Value.list <$> listValues es n e := by
  rw [eval_keyed, listValues, Functor.map_map]
  rfl

theorem listValues_append (es fs : List (Value × Path)) (n : Value) (e : Extractor) :
    listValues (es ++ fs) n e = do
      let xs ← listValues es n e
      let ys ← listValues fs n e
      return xs ++ ys := by
  rw [listValues, evalEntries_append]
  simp [listValues]

theorem map_snd_pieces (k : Value) (p : Path) (v : Value) :
    List.map Prod.snd <$> pieces k p v =
      if k.splices then
        match v.members? with
        | some vs => .ok vs
        | none => .error (Fault.path (.spliced p.kind p.text? v.typeName)).reported
      else .ok [v] := by
  by_cases hk : k.splices
  · rw [pieces, if_pos hk, if_pos hk]
    cases v.members? with
    | none => rfl
    | some vs =>
      change Except.ok ((vs.map (k, ·)).map Prod.snd) = Except.ok vs
      simp [Function.comp_def]
  · rw [pieces, if_neg hk, if_neg hk]
    rfl

theorem listValues_single (k : Value) (p : Path) (n : Value) (e : Extractor) :
    listValues [(k, p)] n e = p.eval n e >>= fun v => List.map Prod.snd <$> pieces k p v := by
  rw [listValues, evalEntries]
  cases p.eval n e with
  | error x => rfl
  | ok v =>
    change List.map Prod.snd <$> (do return (← pieces k p v) ++ []) = List.map Prod.snd <$> _
    simp

theorem listValues_single_congr {k l : Value} (h : k.splices = l.splices) (p : Path) :
    listValues [(k, p)] = listValues [(l, p)] := by
  funext n e
  simp only [listValues_single, map_snd_pieces, h]

theorem listValues_nested {k : Value} (hk : k.splices) (es : List (Value × Path)) :
    listValues [(k, .keyed es true)] = listValues es := by
  funext n e
  rw [listValues_single, Path.eval_sequence]
  cases listValues es n e with
  | error x => rfl
  | ok vs => exact (map_snd_pieces k _ (.list vs)).trans (if_pos hk)

theorem Path.exists_list_of_sequence {es : List (Value × Path)} {v : Value}
    (h : (Path.keyed es true).eval n e = .ok v) : ∃ vs, v = .list vs := by
  rw [Path.eval_sequence] at h
  obtain ⟨vs, -, rfl⟩ := Outcome.map_eq_ok.mp h
  exact ⟨vs, rfl⟩

theorem Path.eval_sequence_append (es fs : List (Value × Path)) (n : Value) (e : Extractor) :
    (Path.keyed (es ++ fs) true).eval n e = do
      let v ← (Path.keyed es true).eval n e
      let w ← (Path.keyed fs true).eval n e
      return .list (v.asList ++ w.asList) := by
  simp [Path.eval_sequence, listValues_append, Value.asList, Value.members?]

theorem listValues_inner {k : Value} (hk : k.splices) (as es bs : List (Value × Path)) :
    listValues (as ++ (k, .keyed es true) :: bs) = listValues (as ++ es ++ bs) := by
  funext n e
  rw [← List.singleton_append]
  simp only [listValues_append, listValues_nested hk, bind_assoc, pure_bind, List.append_assoc]

/-- Entries that add the same to a list at every node, or cannot be built for the same reason. -/
def Alike (x y : Outcome (List (Value × Path))) : Prop := listValues <$> x = listValues <$> y

namespace Alike

theorem append {x x' y y' : Outcome (List (Value × Path))} (hx : Alike x x') (hy : Alike y y') :
    Alike (do return (← x) ++ (← y)) (do return (← x') ++ (← y')) := by
  have h : ∀ a b : Outcome (List (Value × Path)),
      listValues <$> (do return (← a) ++ (← b) : Outcome (List (Value × Path))) = do
        let f ← listValues <$> a
        let g ← listValues <$> b
        return fun n e => do return (← f n e) ++ (← g n e) := by
    intro a b
    have hf : ∀ es fs, listValues (es ++ fs) = fun n e => do
        return (← listValues es n e) ++ (← listValues fs n e) :=
      fun es fs => funext fun n => funext fun e => listValues_append es fs n e
    simp [hf]
  unfold Alike
  rw [h, h, hx, hy]

theorem eval {x y : Outcome (List (Value × Path))} (h : Alike x y) (n : Value) (e : Extractor) :
    (do Path.eval (.keyed (← x) true) n e) = (do Path.eval (.keyed (← y) true) n e) := by
  have hl : ∀ z : Outcome (List (Value × Path)), (do Path.eval (.keyed (← z) true) n e) =
      (listValues <$> z >>= fun f => Value.list <$> f n e) := by
    intro z
    simp [Path.eval_sequence]
  rw [hl, hl, h]

end Alike

namespace RawPath

theorem itemsToPaths_append (i : Nat) (ps qs : List RawPath) : itemsToPaths i (ps ++ qs) = do
    return (← itemsToPaths i ps) ++ (← itemsToPaths (i + ps.length) qs) := by
  induction ps generalizing i with
  | nil => exact (bind_pure (itemsToPaths i qs)).symm
  | cons p ps ih =>
    rw [List.cons_append, itemsToPaths, itemsToPaths, ih, List.length_cons, Nat.add_comm ps.length,
      ← Nat.add_assoc]
    simp only [bind_assoc, pure_bind, List.cons_append]

theorem itemsToPaths_single (i : Nat) (p : RawPath) :
    itemsToPaths i [p] = do return [(.int i, ← p.toPath)] := rfl

theorem alike_single (i j : Nat) (p : RawPath) :
    Alike (itemsToPaths i [p]) (itemsToPaths j [p]) := by
  rw [itemsToPaths_single, itemsToPaths_single]
  unfold Alike
  cases p.toPath with
  | error x => rfl
  | ok q => exact congrArg Except.ok (listValues_single_congr (k := .int i) (l := .int j) rfl q)

theorem alike_nested (i : Nat) (ps : List RawPath) :
    Alike (itemsToPaths i [.list ps]) (itemsToPaths 0 ps) := by
  rw [itemsToPaths_single, toPath]
  unfold Alike
  cases itemsToPaths 0 ps with
  | error x => rfl
  | ok es => exact congrArg Except.ok (listValues_nested rfl es)

theorem toPath_list_bind (ps : List RawPath) (n : Value) (e : Extractor) :
    (do (← (RawPath.list ps).toPath).eval n e) =
      (do Path.eval (.keyed (← itemsToPaths 0 ps) true) n e) := by
  rw [toPath]
  simp

mutual

def leaves : RawPath → List RawPath
  | .list ps => allLeaves ps
  | .tuple ps => allLeaves ps
  | p => [p]

def allLeaves : List RawPath → List RawPath
  | [] => []
  | p :: ps => p.leaves ++ allLeaves ps

end

mutual

theorem alike_leaves (i j : Nat) :
    (p : RawPath) → Alike (itemsToPaths i [p]) (itemsToPaths j p.leaves)
  | .list ps => (alike_nested i ps).trans (alike_allLeaves 0 j ps)
  | .tuple ps => (alike_nested i ps).trans (alike_allLeaves 0 j ps)
  | .text s => alike_single i j (.text s)
  | .number k => alike_single i j (.number k)
  | .dict es => alike_single i j (.dict es)
  | .spec p => alike_single i j (.spec p)
  | .callable f => alike_single i j (.callable f)
  | .other v => alike_single i j (.other v)

theorem alike_allLeaves (i j : Nat) :
    (ps : List RawPath) → Alike (itemsToPaths i ps) (itemsToPaths j (allLeaves ps))
  | [] => rfl
  | p :: ps => by
    rw [allLeaves, itemsToPaths_append, ← List.singleton_append, itemsToPaths_append]
    exact (alike_leaves i j p).append (alike_allLeaves _ _ ps)

end

end RawPath

theorem eval_sequence_append_and_flatten :
    (∀ (n : Value) (e : Extractor), (Path.keyed [] true).eval n e = .ok (.list []) ∧
      ∀ es fs : List (Value × Path),
        (∀ v, (Path.keyed es true).eval n e = .ok v → ∃ vs, v = .list vs) ∧
        (Path.keyed (es ++ fs) true).eval n e = do
          let v ← (Path.keyed es true).eval n e
          let w ← (Path.keyed fs true).eval n e
          return .list (v.asList ++ w.asList)) ∧
    (∀ (as : List (Value × Path)) (k : Value) (es bs : List (Value × Path)), k.splices →
      ∀ n e, (Path.keyed (as ++ (k, .keyed es true) :: bs) true).eval n e =
        (Path.keyed (as ++ es ++ bs) true).eval n e) ∧
    ∀ (ps : List RawPath) (n : Value) (e : Extractor),
      (do (← (RawPath.list ps).toPath).eval n e) =
        (do (← (RawPath.list (RawPath.allLeaves ps)).toPath).eval n e) := by
  refine ⟨fun n e => ⟨rfl, fun es fs => ⟨fun v hv => ?_, ?_⟩⟩, fun as k es bs hk n e => ?_,
    fun ps n e => ?_⟩
  · exact Path.exists_list_of_sequence hv
  · rw [Path.eval_sequence_append]
  · rw [Path.eval_sequence, Path.eval_sequence, listValues_inner hk]
  · rw [RawPath.toPath_list_bind, RawPath.toPath_list_bind]
    exact (RawPath.alike_allLeaves 0 0 ps).eval n e

def eachChild : RawPath := .callable (.plain "children" children)
where
  children (n : Value) (e : Option Extractor) : Outcome Value := do
    return .list (← (n.elements?.getD []).mapM (Extractor.resolve e).apply)

def nestedChildren : List RawPath := [.list [eachChild], .tuple [.list [], .list [eachChild]]]

theorem eval_nestedChildren : Value.splices (.int 7) ∧
    (Path.keyed [(.ofString "first", .index 0),
      (.int 7, .keyed [(.ofString "last", .index 1)] true)] true).eval Sample.top .identity =
      (Path.keyed [(.ofString "first", .index 0), (.ofString "last", .index 1)] true).eval
        Sample.top .identity ∧
    (do (← (RawPath.list nestedChildren).toPath).eval Sample.top .identity) =
      .ok (.list (Sample.childNodes ++ Sample.childNodes)) := by
  obtain ⟨-, hi, hf⟩ := eval_sequence_append_and_flatten
  have hs : Value.splices (.int 7) := rfl
  refine ⟨hs, hi [(.ofString "first", .index 0)] (.int 7) [(.ofString "last", .index 1)] [] hs _ _,
    ?_⟩
  rw [hf]
  rfl

end Quarry
