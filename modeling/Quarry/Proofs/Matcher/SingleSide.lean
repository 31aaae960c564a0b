import Quarry.Pattern.Compile
import Quarry.Proofs.Matcher.FirstMatch
import Quarry.Proofs.Matcher.Misaligned

namespace Quarry

/-- The values of a merger around a node of its own value: each other node has the value that stands
for it on the other side, if there is one. -/
def valuesAround (as bs nodes values : List Value) (v : Value) : List Value :=
  as.filterMap (valueAt nodes values) ++ v :: bs.filterMap (valueAt nodes values)

section

variable {x v : Value} {ys ws as bs us : List Value}

theorem NodeSet.singleton (hp : x.place?.isSome) : NodeSet [x] := ⟨by simpa using hp, by simp⟩

theorem valueAt_cons (x v : Value) (ys ws : List Value) (u : Value) :
    valueAt (x :: ys) (v :: ws) u = (valueAt [x] [v] u).or (valueAt ys ws u) := by
  have hl : [v].length = [x].length := rfl
  exact valueAt_append hl ys ws u

theorem valueAt_cons_self (hp : x.place?.isSome) (ys ws : List Value) :
    valueAt (x :: ys) (v :: ws) x = some v := by
  have hx : [x][0]? = some x := rfl
  rw [valueAt_cons, valueAt_getElem? (.singleton hp) hx [v]]
  rfl

theorem valueAt_cons_of_ne (hp : x.place?.isSome) {u : Value} (hu : u.place?.isSome) (h : u ≠ x)
    (ys ws : List Value) : valueAt (x :: ys) (v :: ws) u = valueAt ys ws u := by
  have hn : u ∉ [x] := by simpa using h
  rw [valueAt_cons, valueAt_eq_none (.singleton hp) hu hn [v], Option.none_or]

theorem filterMap_valueAt_cons (hs : NodeSet (as ++ x :: bs)) (ys ws : List Value) (v : Value) :
    (as ++ x :: bs).filterMap (valueAt (x :: ys) (v :: ws)) = valuesAround as bs ys ws v := by
  have hp : x.place?.isSome := hs.placed x (by simp)
  -- a set holds the node once, so that its own value comes in no other place
  have hn := List.nodup_middle.mp hs.nodup
  have hne : ∀ u ∈ as ++ bs, valueAt (x :: ys) (v :: ws) u = valueAt ys ws u := by
    intro u hu
    have hm : u ∈ as ++ x :: bs := by
      rw [List.mem_append, List.mem_cons, or_left_comm, ← List.mem_append]
      exact .inr hu
    exact valueAt_cons_of_ne hp (hs.placed u hm) (fun h => (List.nodup_cons.mp hn).1 (h ▸ hu)) ys ws
  rw [List.filterMap_append, List.filterMap_cons_some (valueAt_cons_self hp ys ws), valuesAround,
    List.filterMap_congr fun u hu => hne u (List.mem_append_left bs hu),
    List.filterMap_congr fun u hu => hne u (List.mem_append_right as hu)]

theorem merge_single (hs : NodeSet (as ++ x :: bs)) (hl : ws.length = ys.length) (v : Value) :
    merge (as ++ x :: bs) (x :: ys) (v :: ws) = .ok (.list (valuesAround as bs ys ws v)) := by
  rw [merge_of_length (by simp [hl]), valuesInOrder_eq, filterMap_valueAt_cons hs]

end

theorem nodes_of_first {q : String} {n x : Value} {xs : List Value}
    (hq : Query.run n q = .ok (x :: xs)) (hp : x.place?.isSome) :
    Root.nodes ⟨q, false⟩ n = .ok [x] := by
  have hx : x.asList = [x] := by
    obtain ⟨m, rfl⟩ | ⟨t, o, rfl, -⟩ := Value.isNode_or_hasOwner_of_place? hp
    · rfl
    · rfl
  have hr : Root.nodes ⟨q, false⟩ n = .ok x.asList := by
    simp only [Root.nodes, hq]
    rfl
  rw [hr, hx]

namespace Matcher

variable {q q' : String} {x n : Value} {xs ys us as bs ws : List Value} {v w : Value}
variable {e : Option Extractor} {os : List Operation}

section

variable (hu : Query.Unites n q q' (x :: xs) ys us)
variable (hv : ((single (.query q)).after os).eval n e = .ok v)
variable (hw : (multi (.query q')).eval n e = .ok (.list ws)) (hl : ws.length = ys.length)
include hu hv hw

theorem eval_merged_single :
    (do (← ((single (.query q)).after os).merged (multi (.query q'))).eval n e) =
      merge us ([x] ++ ys) (v.asList ++ ws) := by
  have hp : x.place?.isSome := hu.left.nodeSet.placed x (by simp)
  have hroot : ((single (.query q)).after os).root? = some ⟨q, false⟩ := by
    rw [root?_after]
    rfl
  have hy : Root.nodes ⟨q', true⟩ n = .ok ys := (nodes_of_all q' n).trans hu.right.run
  exact eval_merged_of_nodes hroot (t := ⟨q', true⟩) rfl (nodes_of_first hu.left.run hp) hy
    hu.both.run hv hw

include hl

theorem eval_merged_single_of_one (hs : us = as ++ x :: bs) {u : Value} (ho : v.asList = [u]) :
    (do (← ((single (.query q)).after os).merged (multi (.query q'))).eval n e) =
      .ok (.list (valuesAround as bs ys ws u)) := by
  rw [eval_merged_single hu hv hw, ho]
  subst us
  exact merge_single hu.both.nodeSet hl u

theorem eval_merged_single_of_misfit (hf : ¬ v.Fits [x]) :
    (do (← ((single (.query q)).after os).merged (multi (.query q'))).eval n e) =
      .error (misalignment [x] ys v (.list ws)) := by
  have hsv := Value.surplus_ne_zero hf
  have hsw : (Value.list ws).surplus ys = 0 := by
    simp only [Value.surplus, Value.asList, Value.members?, Option.getD_some]
    omega
  -- the other side fits its nodes, so that nothing there makes up for what is left over here
  have hm := merge_sides us [x] ys v (.list ws)
  rw [if_neg (by omega)] at hm
  exact (eval_merged_single hu hv hw).trans hm

end

theorem merged_single_multi (hu : Query.Unites n q q' (x :: xs) ys us)
    (hv : ((single (.query q)).after os).eval n e = .ok v)
    (hw : (multi (.query q')).eval n e = .ok w) :
    ∃ ws as bs, w = .list ws ∧ ws.length = ys.length ∧ us = as ++ x :: bs ∧
      (v.members? = none →
        (do (← ((single (.query q)).after os).merged (multi (.query q'))).eval n e) =
          .ok (.list (valuesAround as bs ys ws v))) ∧
      (∀ u, v.members? = some [u] →
        (do (← ((single (.query q)).after os).merged (multi (.query q'))).eval n e) =
          .ok (.list (valuesAround as bs ys ws u))) ∧
      ∀ vs, v.members? = some vs → vs.length ≠ 1 →
        (do (← ((single (.query q)).after os).merged (multi (.query q'))).eval n e) =
          .error (misalignment [x] ys v w) := by
  obtain ⟨ws, rfl, hl⟩ := givesLists_multi hu.right.run e w hw
  obtain ⟨as, bs, hs⟩ := List.append_of_mem ((hu.mem_iff x).mpr (.inl (by simp)))
  refine ⟨ws, as, bs, rfl, hl, hs, fun h => ?_, fun u h => ?_, fun vs h hne => ?_⟩
  · have ho : v.asList = [v] := by rw [Value.asList, h, Option.getD_none]
    exact eval_merged_single_of_one hu hv hw hl hs ho
  · have ho : v.asList = [u] := by rw [Value.asList, h, Option.getD_some]
    exact eval_merged_single_of_one hu hv hw hl hs ho
  · exact eval_merged_single_of_misfit hu hv hw hl fun hf => hne (hf vs h)

end Matcher

namespace Side

open Matcher Sample

theorem unites_elements_texts : Query.Unites top "*" "*/text()" childNodes textNodes bothNodes :=
  ⟨finds_elements, finds_texts, finds_elements_texts,
    fun u => by simp [childNodes, textNodes, bothNodes]; grind⟩

theorem eq_nil_of_bothNodes_eq {as bs : List Value} (h : bothNodes = as ++ .node (child 0) :: bs) :
    as = [] ∧ bs = bothNodes.tail := by
  have hn : Value.node (child 0) ∉ bothNodes.tail := by simp [bothNodes, child]
  obtain ⟨has, -, hbs⟩ := (List.append_cons_inj_of_notMem (List.not_mem_nil) hn).mp
    (h : [] ++ .node (child 0) :: bothNodes.tail = as ++ .node (child 0) :: bs)
  exact ⟨has.symm, hbs.symm⟩

theorem eval_multi_texts : (multi (.query "*/text()")).eval top none =
    .ok (.list [.ofString "1", .ofString "2"]) := by
  rw [eval_multi_query, finds_texts.run]
  cbv

theorem compile_digits : ∃ p, Pattern.compile "(\\d)(\\d)?" = .ok p ∧
    p.capture "1" = .list [.ofString "1", .none] := by
  refine ⟨_, rfl, ?_⟩
  cbv

theorem eval_single_regex (p : Pattern) :
    ((single (.query "*")).after [.regex p]).eval top none = .ok (p.capture "1") := by
  have hx : Extractor.oneline.apply (.node (child 0)) = .ok (.ofString "1") := by cbv
  simp only [after_cons, after_nil, Operation.eval_apply, eval_single, Path.eval_query,
    finds_elements.run]
  exact congrArg (· >>= p.captureIn) hx

theorem merged_single_multi_numbered :
    (∃ p, Pattern.compile "(\\d)" = .ok p ∧
      (do (← ((single (.query "*")).after [.regex p]).merged
          (multi (.query "*/text()"))).eval top none) =
        .ok (.list [.ofString "1", .ofString "1", .ofString "2"])) ∧
    ∃ p, Pattern.compile "(\\d)(\\d)?" = .ok p ∧
      (do (← ((single (.query "*")).after [.regex p]).merged
          (multi (.query "*/text()"))).eval top none) =
        .error (.operation (.misaligned 4 3)) := by
  constructor
  · obtain ⟨p, hp, hc⟩ : ∃ p, Pattern.compile "(\\d)" = .ok p ∧
        p.capture "1" = .list [.ofString "1"] := ⟨_, rfl, by cbv⟩
    have hv := eval_single_regex p
    rw [hc] at hv
    obtain ⟨ws, as, bs, hw, -, hs, -, hone, -⟩ :=
      merged_single_multi unites_elements_texts hv eval_multi_texts
    cases hw
    obtain ⟨rfl, rfl⟩ := eq_nil_of_bothNodes_eq hs
    exact ⟨p, hp, hone _ rfl⟩
  · obtain ⟨p, hp, hc⟩ := compile_digits
    have hv := eval_single_regex p
    rw [hc] at hv
    obtain ⟨ws, as, bs, -, -, -, -, -, hmany⟩ :=
      merged_single_multi unites_elements_texts hv eval_multi_texts
    exact ⟨p, hp, hmany _ rfl (by decide)⟩

/-- Two captures of one node are no value of this node, but one too many. -/
theorem not_merged_single_whole : ¬ ∀ (n : Node) (e : Option Extractor) (q q' : String) (x : Value)
    (xs ys us : List Value) (os : List Operation) (v w : Value), n.isElement →
    (∀ o ∈ os, o.isPointwise) → Query.Unites (.node n) q q' (x :: xs) ys us →
    ((single (.query q)).after os).eval (.node n) e = .ok v →
    (multi (.query q')).eval (.node n) e = .ok w →
    ∃ rs, (do (← ((single (.query q)).after os).merged (multi (.query q'))).eval (.node n) e) =
      .ok (.list rs) ∧ v ∈ rs := by
  intro h
  obtain ⟨p, -, hc⟩ := compile_digits
  have hv := eval_single_regex p
  rw [hc] at hv
  obtain ⟨rs, hrs, -⟩ := h _ none _ _ _ _ _ _ _ _ _ (by decide) (by simp [Operation.isPointwise])
    unites_elements_texts hv eval_multi_texts
  have hm := eval_merged_single_of_misfit unites_elements_texts hv eval_multi_texts rfl
    fun hf => absurd (hf _ rfl) (by decide)
  cases hrs.symm.trans hm

end Side

end Quarry
