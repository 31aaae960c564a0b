import Mathlib
import Quarry.Query
import Quarry.Value.Same

namespace Quarry

theorem Origin.eq_iff {o p : Origin} (ho : o.owner?.isSome) (hp : p.owner?.isSome) :
    o = p ↔ o.owner? = p.owner? ∧ o.attribute? = p.attribute? ∧ o.isText = p.isText ∧
      o.isTail = p.isTail := by
  cases o <;> cases p <;> simp_all [owner?, attribute?, isText, isTail]

namespace Value

def place? : Value → Option Query.Place
  | .node n => some (.item n.path)
  | .str _ (.text n) => some (.text n.path)
  | .str _ (.tail n) => some (.tail n.path)
  | .str _ (.attribute n name) =>
    (n.item?.bind fun i => i.attributes.findIdx? (·.name.expanded = name)).map
      (.attribute n.path)
  | _ => Option.none

theorem isNode_or_hasOwner_of_place? {v : Value} (h : v.place?.isSome) :
    (∃ n, v = .node n) ∨ ∃ s o, v = .str s o ∧ o.owner?.isSome := by
  cases v with
  | node n => exact .inl ⟨n, rfl⟩
  | str s o => exact .inr ⟨s, o, rfl, by cases o <;> simp_all [place?, Origin.owner?]⟩
  | _ => simp [place?] at h

theorem samePlace_str {s t : String} {o p : Origin} (ho : o.owner?.isSome)
    (hp : p.owner?.isSome) : samePlace (.str s o) (.str t p) = true ↔ o = p ∧ s = t := by
  have h : samePlace (.str s o) (.str t p) = (o.owner? = p.owner? && o.attribute? = p.attribute? &&
      o.isText = p.isText && o.isTail = p.isTail && s = t) := by
    cases o <;> cases p <;> simp_all [samePlace, Origin.owner?]
  simp [h, Origin.eq_iff ho hp, and_assoc]

theorem samePlace_iff {v w : Value} (hv : v.place?.isSome) (hw : w.place?.isSome) :
    v.samePlace w = true ↔ v = w := by
  rcases isNode_or_hasOwner_of_place? hv with ⟨m, rfl⟩ | ⟨s, o, rfl, ho⟩ <;>
    rcases isNode_or_hasOwner_of_place? hw with ⟨n, rfl⟩ | ⟨t, p, rfl, hp⟩
  · simp [samePlace]
  · simp [samePlace]
  · simp [samePlace]
  · simp [samePlace_str ho hp, and_comm]

def precedes (v w : Value) : Prop :=
  ∃ p ∈ v.place?, ∃ q ∈ w.place?, p.key < q.key

theorem not_precedes_of_precedes {v w : Value} (h : v.precedes w) : ¬ w.precedes v := by
  obtain ⟨p, hp, q, hq, hpq⟩ := h
  rintro ⟨q', hq', p', hp', hqp⟩
  cases Option.mem_unique hp hp'
  cases Option.mem_unique hq hq'
  exact List.lt_asymm hpq hqp

end Value

/-- Places of a document in document order, each once. -/
structure NodeSet (vs : List Value) : Prop where
  placed : ∀ v ∈ vs, v.place?.isSome
  ordered : vs.Pairwise Value.precedes

namespace NodeSet

theorem nodup {vs : List Value} (h : NodeSet vs) : vs.Nodup := by
  apply h.ordered.imp
  intro v w hvw he
  subst w
  exact Value.not_precedes_of_precedes hvw hvw

theorem of_places {vs : List Value} {ps : List Query.Place}
    (h : vs.map Value.place? = ps.map some) (hp : ps.Pairwise (·.key < ·.key)) : NodeSet vs := by
  induction ps generalizing vs with
  | nil =>
    have hv : vs = [] := by simpa using h
    subst vs
    exact ⟨by simp, .nil⟩
  | cons p ps ih =>
    obtain ⟨v, ws, rfl, hv, hw⟩ := List.map_eq_cons_iff.mp h
    obtain ⟨hps, hp⟩ := List.pairwise_cons.mp hp
    have hs := ih hw hp
    refine ⟨fun w hm => ?_, .cons (fun w hm => ?_) hs.ordered⟩
    · rcases List.mem_cons.mp hm with rfl | hm
      · simp [hv]
      · exact hs.placed w hm
    · have hq : w.place? ∈ ps.map some := hw ▸ List.mem_map_of_mem hm
      obtain ⟨q, hqm, hq⟩ := List.mem_map.mp hq
      exact ⟨p, hv, q, hq.symm, hps q hqm⟩

theorem eq_of_mem_iff {vs ws : List Value} (hv : NodeSet vs) (hw : NodeSet ws)
    (h : ∀ v, v ∈ vs ↔ v ∈ ws) : vs = ws := by
  have hp : vs.Perm ws := (List.perm_ext_iff_of_nodup hv.nodup hw.nodup).mpr h
  exact hp.eq_of_pairwise
    (fun _ _ _ _ hvw hwv => absurd hwv (Value.not_precedes_of_precedes hvw))
    hv.ordered hw.ordered

end NodeSet

structure Query.Finds (n : Value) (q : String) (xs : List Value) : Prop where
  run : Query.run n q = .ok xs
  nodeSet : NodeSet xs

/-- A query that selects places in document order finds the values at these places. -/
theorem Query.Finds.of_eval {n : Node} {q : String} {x : Query.Expr} {ps : List Query.Place}
    {vs : List Value} (hc : q.toList.all Markup.isDocumentChar)
    (hx : Query.Expr.parse? q = some x)
    (hp : x.eval n.document ⟨.item n.path, none⟩ = some (.places ps))
    (hv : ps.filterMap (Query.Place.value? n.document) = vs)
    (hb : vs.map Value.place? = ps.map some) (ho : ps.Pairwise (·.key < ·.key)) :
    Query.Finds (.node n) q vs := by
  have hq : Query.values? n q = some vs := by
    rw [Query.values?, hx, ← hv]
    exact congrArg (· >>= fun r => some (r.values n.document)) hp
  refine ⟨?_, .of_places hb ho⟩
  simp only [Query.run, hc, hq, Bool.not_true, Bool.false_eq_true, if_false]

namespace Sample

def numbered : Document :=
  ⟨[], .mk (.element (.plain "r") [] []) "" [item "a" "1", item "b" "2"] "", []⟩
where
  item (name text : String) : Item := .mk (.element (.plain name) [] []) text [] ""

def top : Value := .node (.root numbered)

def child (i : Nat) : Node := ⟨[0, i], numbered⟩

def childNodes : List Value := [.node (child 0), .node (child 1)]

def childStep : Query.Expr := .step .here .child (.anyName none) []

theorem finds_elements : Query.Finds top "*" childNodes := by
  have hp : childStep.eval numbered ⟨.item [0], none⟩ =
      some (.places [.item [0, 0], .item [0, 1]]) := by cbv
  exact .of_eval (by decide) (by with_unfolding_all rfl) hp rfl rfl (by decide)

end Sample

end Quarry
