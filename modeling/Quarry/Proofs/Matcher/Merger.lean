import Quarry.Proofs.Matcher.Operation
import Quarry.Proofs.Value.Place

namespace Quarry

/-- What a query language owes to the bar: between queries for sets it stands for their union. -/
structure Query.Unites (n : Value) (a b : String) (xs ys us : List Value) : Prop where
  left : Finds n a xs
  right : Finds n b ys
  both : Finds n (unionQuery a b) us
  mem_iff : ∀ u, u ∈ us ↔ u ∈ xs ∨ u ∈ ys

/-- The value that stands where a node stands among some nodes. -/
def valueAt (nodes values : List Value) (x : Value) : Option Value :=
  (nodes.findIdx? (x.samePlace ·)).bind (values[·]?)

theorem valuesInOrder_eq (union nodes values : List Value) :
    valuesInOrder union nodes values = union.filterMap (valueAt nodes values) := by
  unfold valuesInOrder
  congr 1
  funext x
  unfold valueAt
  cases nodes.findIdx? (x.samePlace ·) <;> rfl

theorem findIdx?_samePlace {xs : List Value} (hx : NodeSet xs) {i : Nat} {x : Value}
    (h : xs[i]? = some x) : xs.findIdx? (x.samePlace ·) = some i := by
  obtain ⟨hi, rfl⟩ := List.getElem?_eq_some_iff.mp h
  have hp : ∀ j (hj : j < xs.length), (xs[j]).place?.isSome :=
    fun j hj => hx.placed _ (List.getElem_mem hj)
  refine List.findIdx?_eq_some_iff_getElem.mpr
    ⟨hi, (Value.samePlace_iff (hp i hi) (hp i hi)).mpr rfl, fun j hj he => ?_⟩
  have hjl : j < xs.length := by omega
  have hij : xs[i] = xs[j] := (Value.samePlace_iff (hp i hi) (hp j hjl)).mp he
  exact List.pairwise_iff_getElem.mp hx.nodup j i hjl hi hj hij.symm

theorem findIdx?_samePlace_eq_none {xs : List Value} (hx : NodeSet xs) {x : Value}
    (hp : x.place?.isSome) (h : x ∉ xs) : xs.findIdx? (x.samePlace ·) = none := by
  rw [List.findIdx?_eq_none_iff]
  intro y hy
  by_contra hs
  have he : x = y := (Value.samePlace_iff hp (hx.placed y hy)).mp (by simpa using hs)
  exact h (he ▸ hy)

theorem valueAt_getElem? {xs : List Value} (hx : NodeSet xs) {i : Nat} {x : Value}
    (h : xs[i]? = some x) (vs : List Value) : valueAt xs vs x = vs[i]? := by
  rw [valueAt, findIdx?_samePlace hx h, Option.bind_some]

theorem valueAt_eq_none {xs : List Value} (hx : NodeSet xs) {x : Value}
    (hp : x.place?.isSome) (h : x ∉ xs) (vs : List Value) : valueAt xs vs x = none := by
  rw [valueAt, findIdx?_samePlace_eq_none hx hp h, Option.bind_none]

theorem valueAt_append {xs vs : List Value} (hl : vs.length = xs.length) (ys ws : List Value)
    (x : Value) :
    valueAt (xs ++ ys) (vs ++ ws) x = (valueAt xs vs x).or (valueAt ys ws x) := by
  unfold valueAt
  rw [List.findIdx?_append]
  cases hi : xs.findIdx? (x.samePlace ·) with
  | some i =>
    have hix : i < xs.length := (List.findIdx?_eq_some_iff_getElem.mp hi).1
    have hiv : i < vs.length := by omega
    simp [List.getElem?_append_left hiv, List.getElem?_eq_getElem hiv]
  | none =>
    cases ys.findIdx? (x.samePlace ·) with
    | none => rfl
    | some j => simp [List.getElem?_append_right, ← hl]

theorem map_some_filterMap {xs : List Value} {g : Value → Option Value}
    (h : ∀ x ∈ xs, (g x).isSome) : (xs.filterMap g).map some = xs.map g := by
  induction xs with
  | nil => rfl
  | cons x xs ih =>
    obtain ⟨v, hv⟩ := Option.isSome_iff_exists.mp (h x (by simp))
    have ht := ih fun y hy => h y (by simp [hy])
    simp [hv, ht]

theorem getElem?_filterMap {xs : List Value} {g : Value → Option Value}
    (h : ∀ x ∈ xs, (g x).isSome) (i : Nat) : (xs.filterMap g)[i]? = xs[i]?.bind g := by
  have he := congrArg (·[i]?) (map_some_filterMap h)
  simp only [List.getElem?_map] at he
  cases hv : (xs.filterMap g)[i]? <;> cases hx : xs[i]? <;> simp_all

theorem length_filterMap {xs : List Value} {g : Value → Option Value}
    (h : ∀ x ∈ xs, (g x).isSome) : (xs.filterMap g).length = xs.length := by
  have he := congrArg List.length (map_some_filterMap h)
  simpa using he

theorem nodes_of_all (q : String) (n : Value) : Root.nodes ⟨q, true⟩ n = Query.run n q :=
  bind_pure (Query.run n q)

theorem gather_of_nodes {n : Value} {a b : Root} {xs ys us : List Value}
    (ha : a.nodes n = .ok xs) (hb : b.nodes n = .ok ys)
    (hu : Query.run n (unionQuery a.query b.query) = .ok us) :
    gather (some a) (some b) n = .ok (us, xs ++ ys) := by
  simp only [gather, hu, ha, hb]
  rfl

theorem gather_of_run {n : Value} {a b : String} {xs ys us : List Value}
    (ha : Query.run n a = .ok xs) (hb : Query.run n b = .ok ys)
    (hu : Query.run n (unionQuery a b) = .ok us) :
    gather (some ⟨a, true⟩) (some ⟨b, true⟩) n = .ok (us, xs ++ ys) := by
  rw [← nodes_of_all] at ha hb
  exact gather_of_nodes ha hb hu

theorem merge_of_length {union nodes values : List Value} (h : nodes.length = values.length) :
    merge union nodes values = .ok (.list (valuesInOrder union nodes values)) :=
  if_pos h

theorem Matcher.eval_seqOr {l r : Matcher} {n : Value} {e : Option Extractor}
    {us nodes : List Value} {v w : Value} (hg : gather l.root? r.root? n = .ok (us, nodes))
    (hl : l.eval n e = .ok v) (hr : r.eval n e = .ok w) :
    (l.seqOr r).eval n e = merge us nodes (v.asList ++ w.asList) := by
  rw [Matcher.eval, hg, hl, hr]
  rfl

/-- A matcher that is rooted in a query and gives a value for each node that the query finds: as a
function, it is defined on these nodes and on no other place. -/
structure Aligned (m : Matcher) (n : Value) (e : Option Extractor) (q : String)
    (xs : List Value) (g : Value → Option Value) : Prop where
  root : m.root? = some ⟨q, true⟩
  finds : Query.Finds n q xs
  value : m.eval n e = .ok (.list (xs.filterMap g))
  defined_iff : ∀ x, x.place?.isSome → ((g x).isSome ↔ x ∈ xs)

namespace Aligned

variable {m l r : Matcher} {n : Value} {e : Option Extractor} {q a b : String}
variable {xs ys us vs : List Value} {f g : Value → Option Value}

theorem isSome (h : Aligned m n e q xs g) {x : Value} (hx : x ∈ xs) : (g x).isSome :=
  (h.defined_iff x (h.finds.nodeSet.placed x hx)).mpr hx

theorem valueAt_eq (h : Aligned m n e q xs g) {x : Value} (hp : x.place?.isSome) :
    valueAt xs (xs.filterMap g) x = g x := by
  by_cases hx : x ∈ xs
  · obtain ⟨i, hi⟩ := List.mem_iff_getElem?.mp hx
    rw [valueAt_getElem? h.finds.nodeSet hi, getElem?_filterMap fun y hy => h.isSome hy, hi]
    rfl
  · rw [valueAt_eq_none h.finds.nodeSet hp hx]
    have hg : ¬ (g x).isSome := fun hs => hx ((h.defined_iff x hp).mp hs)
    exact (Option.not_isSome_iff_eq_none.mp hg).symm

theorem of_list (hr : m.root? = some ⟨q, true⟩) (hf : Query.Finds n q xs)
    (hv : m.eval n e = .ok (.list vs)) (hl : vs.length = xs.length) :
    Aligned m n e q xs (valueAt xs vs) := by
  have hd : ∀ x ∈ xs, (valueAt xs vs x).isSome := by
    intro x hx
    obtain ⟨i, hi⟩ := List.mem_iff_getElem?.mp hx
    obtain ⟨hil, _⟩ := List.getElem?_eq_some_iff.mp hi
    rw [valueAt_getElem? hf.nodeSet hi, List.getElem?_eq_getElem (hl ▸ hil)]
    rfl
  have he : xs.filterMap (valueAt xs vs) = vs := by
    apply List.ext_getElem?
    intro i
    rw [getElem?_filterMap hd]
    cases hi : xs[i]? with
    | some x => exact valueAt_getElem? hf.nodeSet hi vs
    | none =>
      have hil : vs.length ≤ i := hl ▸ List.getElem?_eq_none_iff.mp hi
      exact (List.getElem?_eq_none hil).symm
  refine ⟨hr, hf, he.symm ▸ hv, fun x hp => ⟨fun hs => ?_, hd x⟩⟩
  by_contra hx
  rw [valueAt_eq_none hf.nodeSet hp hx] at hs
  cases hs

/-- A merger of two aligned sides is aligned, and the function of the left side comes first. -/
theorem seqOr (hl : Aligned l n e a xs f) (hr : Aligned r n e b ys g)
    (hu : Query.Unites n a b xs ys us) :
    Aligned (l.seqOr r) n e (unionQuery a b) us fun x => (f x).or (g x) := by
  have hfl := length_filterMap fun x hx => hl.isSome hx
  have hgl := length_filterMap fun y hy => hr.isSome hy
  have hv : valuesInOrder us (xs ++ ys) (xs.filterMap f ++ ys.filterMap g) =
      us.filterMap fun x => (f x).or (g x) := by
    rw [valuesInOrder_eq]
    apply List.filterMap_congr
    intro x hx
    have hp := hu.both.nodeSet.placed x hx
    rw [valueAt_append hfl, hl.valueAt_eq hp, hr.valueAt_eq hp]
  refine ⟨?_, hu.both, ?_, fun x hp => ?_⟩
  · simp [Matcher.root?, hl.root, hr.root]
  · have hg : gather l.root? r.root? n = .ok (us, xs ++ ys) := by
      rw [hl.root, hr.root]
      exact gather_of_run hl.finds.run hr.finds.run hu.both.run
    rw [Matcher.eval_seqOr hg hl.value hr.value, ← hv]
    exact merge_of_length (by simp [Value.asList, Value.members?, hfl, hgl])
  · rw [hu.mem_iff, ← hl.defined_iff x hp, ← hr.defined_iff x hp]
    simp

end Aligned

end Quarry
