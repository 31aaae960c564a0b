import Quarry.Proofs.Matcher.Merger

namespace Quarry

/-- A matcher on every match of a query, with further paths inside each match and operations on
the values. -/
structure Side where
  query : String
  inner : List Path
  operations : List Operation
  elementwise : ∀ o ∈ operations, o.isElementwise

def Side.matcher (s : Side) : Matcher :=
  (Matcher.multiChain (.query s.query) s.inner).after s.operations

def Matcher.merged (l r : Matcher) : Outcome Matcher := l.seqOr? (.callable (.matcher r))

theorem Aligned.merged {l r : Matcher} {n : Value} {e : Option Extractor} {a b : String}
    {xs ys : List Value} {f g : Value → Option Value} (hl : Aligned l n e a xs f)
    (hr : Aligned r n e b ys g) : l.merged r = .ok (l.seqOr r) := by
  simp [Matcher.merged, Matcher.seqOr?, hl.root, hr.root]

theorem Aligned.eval_merged {l r : Matcher} {n : Value} {e : Option Extractor} {a b : String}
    {xs ys us : List Value} {f g : Value → Option Value} (hl : Aligned l n e a xs f)
    (hr : Aligned r n e b ys g) (hu : Query.Unites n a b xs ys us) :
    (do (← l.merged r).eval n e) = .ok (.list (us.filterMap fun x => (f x).or (g x))) := by
  rw [hl.merged hr]
  exact (hl.seqOr hr hu).value

theorem Query.Unites.assoc {n : Value} {a b c : String} {xs ys zs ab bc abc : List Value}
    (hab : Unites n a b xs ys ab) (hbc : Unites n b c ys zs bc)
    (habc : Unites n (unionQuery a b) c ab zs abc) :
    Unites n a (unionQuery b c) xs bc abc := by
  have hq : unionQuery a (unionQuery b c) = unionQuery (unionQuery a b) c := by
    simp [unionQuery, String.append_assoc]
  refine ⟨hab.left, hbc.both, hq ▸ habc.both, fun u => ?_⟩
  rw [habc.mem_iff, hab.mem_iff, hbc.mem_iff, or_assoc]

namespace Side

open Sample

variable {n : Value} {e : Option Extractor}

/-- Operations keep the root query and the number of the values, whatever they make of them. -/
theorem aligned (s : Side) {xs : List Value} {v : Value} (hx : Query.Finds n s.query xs)
    (hv : s.matcher.eval n e = .ok v) :
    ∃ vs, v = .list vs ∧ vs.length = xs.length ∧
      Aligned s.matcher n e s.query xs (valueAt xs vs) := by
  have hc := Matcher.givesLists_multiChain hx.run s.inner
  obtain ⟨vs, rfl, hl⟩ := Matcher.givesLists_after s.elementwise hc e v hv
  have hr : s.matcher.root? = some ⟨s.query, true⟩ := by
    simp [matcher]
  exact ⟨vs, rfl, hl, .of_list hr hx hv hl⟩

theorem value_of_node_merged (s t : Side) {xs ys us : List Value} {v w : Value}
    (hu : Query.Unites n s.query t.query xs ys us) (hv : s.matcher.eval n e = .ok v)
    (hw : t.matcher.eval n e = .ok w) :
    ∃ vs ws rs, v = .list vs ∧ vs.length = xs.length ∧ w = .list ws ∧ ws.length = ys.length ∧
      (do (← s.matcher.merged t.matcher).eval n e) = .ok (.list rs) ∧ rs.length = us.length ∧
      ∀ (k : Nat) (x : Value), us[k]? = some x →
        (∀ i : Nat, xs[i]? = some x → rs[k]? = vs[i]?) ∧
        (x ∉ xs → ∀ j : Nat, ys[j]? = some x → rs[k]? = ws[j]?) := by
  obtain ⟨vs, rfl, hvl, hs⟩ := s.aligned hu.left hv
  obtain ⟨ws, rfl, hwl, ht⟩ := t.aligned hu.right hw
  have hm := hs.seqOr ht hu
  have hd := fun x hx => hm.isSome (x := x) hx
  refine ⟨vs, ws, _, rfl, hvl, rfl, hwl, ?_, length_filterMap hd, fun k x hk => ⟨?_, ?_⟩⟩
  · exact hs.eval_merged ht hu
  · intro i hi
    obtain ⟨hil, _⟩ := List.getElem?_eq_some_iff.mp hi
    obtain ⟨y, hy⟩ : ∃ y, vs[i]? = some y := ⟨_, List.getElem?_eq_getElem (hvl ▸ hil)⟩
    rw [getElem?_filterMap hd, hk, Option.bind_some, valueAt_getElem? hu.left.nodeSet hi, hy]
    rfl
  · intro hx j hj
    have hp := hu.both.nodeSet.placed x (List.mem_of_getElem? hk)
    rw [getElem?_filterMap hd, hk, Option.bind_some, valueAt_eq_none hu.left.nodeSet hp hx,
      valueAt_getElem? hu.right.nodeSet hj]
    rfl

def textNodes : List Value := [.str "1" (.text (child 0)), .str "2" (.text (child 1))]

def bothNodes : List Value :=
  [.node (child 0), .str "1" (.text (child 0)), .node (child 1), .str "2" (.text (child 1))]

def elements : Side := ⟨"*", [], [.raw], by simp [Operation.isElementwise]⟩

def numbers : Side :=
  ⟨"*/text() | *", [], [.withExtractor none, .asInt], by simp [Operation.isElementwise]⟩

def textStep : Query.Expr := .step childStep .child .text []

theorem finds_texts_elements : Query.Finds top "*/text() | *" bothNodes := by
  have hp : (Query.Expr.union textStep childStep).eval numbered ⟨.item [0], none⟩ =
      some (.places [.item [0, 0], .text [0, 0], .item [0, 1], .text [0, 1]]) := by cbv
  exact .of_eval (by decide) (by with_unfolding_all rfl) hp rfl rfl (by decide)

theorem finds_all : Query.Finds top "* | */text() | *" bothNodes := by
  have hp : (Query.Expr.union (.union childStep textStep) childStep).eval numbered
      ⟨.item [0], none⟩ =
      some (.places [.item [0, 0], .text [0, 0], .item [0, 1], .text [0, 1]]) := by cbv
  exact .of_eval (by decide) (by with_unfolding_all rfl) hp rfl rfl (by decide)

theorem eval_elements (e : Option Extractor) :
    elements.matcher.eval top e = .ok (.list childNodes) := by
  simp [elements, matcher, Matcher.multiChain, Operation.extractor, Operation.act,
    finds_elements.run]

theorem eval_numbers (e : Option Extractor) :
    numbers.matcher.eval top e = .ok (.list [.int 1, .int 1, .int 2, .int 2]) := by
  simp only [numbers, matcher, Matcher.multiChain, Matcher.after_cons, Matcher.after_nil,
    Operation.eval_apply, Matcher.eval_multi_query, finds_texts_elements.run]
  cbv

theorem value_of_node_merged_numbered : ∃ rs,
    (do (← elements.matcher.merged numbers.matcher).eval top none) = .ok (.list rs) ∧
      rs.length = 4 ∧ rs[0]? = some (.node (child 0)) ∧ rs[3]? = some (.int 2) := by
  have hu : Query.Unites top "*" "*/text() | *" _ _ _ :=
    ⟨finds_elements, finds_texts_elements, finds_all,
      fun u => by simp [childNodes, bothNodes]; grind⟩
  obtain ⟨vs, ws, rs, hv, _, hw, _, hm, hl, hr⟩ :=
    value_of_node_merged elements numbers hu (eval_elements none) (eval_numbers none)
  cases hv
  cases hw
  have h0 := (hr 0 (.node (child 0)) rfl).1 0 rfl
  have h3 := (hr 3 (.str "2" (.text (child 1))) rfl).2 (by simp [childNodes]) 3 rfl
  exact ⟨rs, hm, hl, h0, h3⟩

theorem merged_assoc_and_comm (a b : Side) {xs ys ab : List Value} {v w : Value}
    (hab : Query.Unites n a.query b.query xs ys ab) (ha : a.matcher.eval n e = .ok v)
    (hb : b.matcher.eval n e = .ok w) :
    (∀ (c : Side) (zs bc abc : List Value) (u : Value),
      Query.Unites n b.query c.query ys zs bc →
      Query.Unites n (unionQuery a.query b.query) c.query ab zs abc →
      c.matcher.eval n e = .ok u →
      ∃ rs, (do (← (← a.matcher.merged b.matcher).merged c.matcher).eval n e) = .ok (.list rs) ∧
        (do (← a.matcher.merged (← b.matcher.merged c.matcher)).eval n e) = .ok (.list rs)) ∧
    (∀ ba : List Value, Query.Unites n b.query a.query ys xs ba → (∀ x ∈ xs, x ∉ ys) →
      ∃ rs, (do (← a.matcher.merged b.matcher).eval n e) = .ok (.list rs) ∧
        (do (← b.matcher.merged a.matcher).eval n e) = .ok (.list rs)) := by
  obtain ⟨vs, rfl, _, hA⟩ := a.aligned hab.left ha
  obtain ⟨ws, rfl, _, hB⟩ := b.aligned hab.right hb
  have hAB := hA.seqOr hB hab
  constructor
  · intro c zs bc abc u hbc habc hc
    -- both sides come down to the union of three functions on one set of nodes
    obtain ⟨us, rfl, _, hC⟩ := c.aligned hbc.right hc
    have hL := hAB.eval_merged hC habc
    have hR := hA.eval_merged (hB.seqOr hC hbc) (hab.assoc hbc habc)
    simp only [Option.or_assoc] at hL
    refine ⟨abc.filterMap fun x => (valueAt xs vs x).or
      ((valueAt ys ws x).or (valueAt zs us x)), ?_, ?_⟩
    · rw [hA.merged hB]
      exact hL
    · rw [hB.merged hC]
      exact hR
  · intro ba hba hd
    -- the bar is commutative on sets, and document order leaves one list for each set
    have he : ba = ab := hba.both.nodeSet.eq_of_mem_iff hab.both.nodeSet fun x => by
      rw [hba.mem_iff, hab.mem_iff, or_comm]
    subst ba
    have hf : ab.filterMap (fun x => (valueAt ys ws x).or (valueAt xs vs x)) =
        ab.filterMap fun x => (valueAt xs vs x).or (valueAt ys ws x) := by
      apply List.filterMap_congr
      intro x hx
      have hp := hab.both.nodeSet.placed x hx
      by_cases hxa : x ∈ xs
      · simp [valueAt_eq_none hab.right.nodeSet hp (hd x hxa)]
      · simp [valueAt_eq_none hab.left.nodeSet hp hxa]
    have hR := hB.eval_merged hA hba
    rw [hf] at hR
    exact ⟨_, hA.eval_merged hB hab, hR⟩

def texts : Side :=
  ⟨"*/text()", [], [.withExtractor none, .asInt], by simp [Operation.isElementwise]⟩

def contents : Side := ⟨"*", [], [.asInt], by simp [Operation.isElementwise]⟩

theorem finds_texts : Query.Finds top "*/text()" textNodes := by
  have hp : textStep.eval numbered ⟨.item [0], none⟩ =
      some (.places [.text [0, 0], .text [0, 1]]) := by cbv
  exact .of_eval (by decide) (by with_unfolding_all rfl) hp rfl rfl (by decide)

theorem finds_elements_texts : Query.Finds top "* | */text()" bothNodes := by
  have hp : (Query.Expr.union childStep textStep).eval numbered ⟨.item [0], none⟩ =
      some (.places [.item [0, 0], .text [0, 0], .item [0, 1], .text [0, 1]]) := by cbv
  exact .of_eval (by decide) (by with_unfolding_all rfl) hp rfl rfl (by decide)

theorem eval_texts (e : Option Extractor) :
    texts.matcher.eval top e = .ok (.list [.int 1, .int 2]) := by
  simp only [texts, matcher, Matcher.multiChain, Matcher.after_cons, Matcher.after_nil,
    Operation.eval_apply, Matcher.eval_multi_query, finds_texts.run]
  cbv

theorem eval_contents :
    contents.matcher.eval top none = .ok (.list [.int 1, .int 2]) := by
  simp only [contents, matcher, Matcher.multiChain, Matcher.after_cons, Matcher.after_nil,
    Operation.eval_apply, Matcher.eval_multi_query, finds_elements.run]
  cbv

theorem merged_assoc_and_comm_numbered :
    (∃ rs,
      (do (← (← elements.matcher.merged texts.matcher).merged contents.matcher).eval top none) =
        .ok (.list rs) ∧
      (do (← elements.matcher.merged (← texts.matcher.merged contents.matcher)).eval top none) =
        .ok (.list rs)) ∧
    ∃ rs, (do (← elements.matcher.merged texts.matcher).eval top none) = .ok (.list rs) ∧
      (do (← texts.matcher.merged elements.matcher).eval top none) = .ok (.list rs) := by
  have hab : Query.Unites top "*" "*/text()" _ _ _ :=
    ⟨finds_elements, finds_texts, finds_elements_texts,
      fun u => by simp [childNodes, textNodes, bothNodes]; grind⟩
  have hba : Query.Unites top "*/text()" "*" _ _ _ :=
    ⟨finds_texts, finds_elements, finds_texts_elements,
      fun u => by simp [childNodes, textNodes, bothNodes]; grind⟩
  have habc : Query.Unites top "* | */text()" "*" _ _ _ :=
    ⟨finds_elements_texts, finds_elements, finds_all,
      fun u => by simp [childNodes, bothNodes]; grind⟩
  obtain ⟨hassoc, hcomm⟩ := merged_assoc_and_comm elements texts hab (eval_elements none)
    (eval_texts none)
  have hd : ∀ x ∈ childNodes, x ∉ textNodes := by simp [childNodes, textNodes]
  exact ⟨hassoc contents _ _ _ _ hba habc eval_contents, hcomm _ hba hd⟩

end Side

end Quarry
