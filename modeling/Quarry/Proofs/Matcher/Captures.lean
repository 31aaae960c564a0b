import Mathlib
import Quarry.Proofs.Matcher.Operation
import Quarry.Proofs.Pattern.Groups
import Quarry.Proofs.Value.Replaced

namespace Quarry

open Outcome (FailsLike)

namespace Pattern

/-- What a pattern finds in a text: all captures in the order of the groups or, when groups have
names, the captures of these under their names, in the order of their numbers; nothing where the
pattern does not match. -/
inductive Finds (p : Pattern) (s : String) : Value → Prop
  | noList : p.groupIndex = [] → p.search s = none → Finds p s (.list [])
  | noDict : p.groupIndex ≠ [] → p.search s = none → Finds p s (.dict [])
  | list {caps : List (Option String)} : p.groupIndex = [] → p.search s = some caps →
      Finds p s (.list (caps.map captured))
  | dict {caps : List (Option String)} {gs : List (String × Nat)} {es : List (Value × Value)} :
      p.groupIndex ≠ [] → p.search s = some caps → p.InOrder gs →
      List.Forall₂ (fun g e => ∃ c, caps[g.2]? = some c ∧ (.ofString g.1, captured c) = e) gs es →
      Finds p s (.dict es)

variable {p : Pattern} {groups : Nat} {s : String} {w : Value}

theorem Numbered.entries_eq_iff (hp : p.Numbered groups) {caps : List (Option String)}
    (hs : p.search s = some caps) {es : List (Value × Value)} :
    List.Forall₂ (fun g e => ∃ c, caps[g.2]? = some c ∧ (.ofString g.1, captured c) = e)
      p.names es ↔
      p.names.map (fun g => (.ofString g.1, captured (caps[g.2]?.join))) = es := by
  rw [← List.forall₂_eq_eq_eq, List.forall₂_map_left_iff]
  refine Value.forall₂_congr_of_mem fun g hg e => ?_
  -- a group that has a name is one of those that are there, so its capture is never missing
  have hlt : g.2 < caps.length := by
    rw [hp.length_eq s caps hs]
    exact hp.lt_of_mem_names hg
  simp [List.getElem?_eq_getElem hlt]

theorem capture_of_unnamed (h : p.groupIndex = []) :
    p.capture s = ((p.search s).elim (.list []) fun caps => .list (caps.map captured)) := by
  rw [capture, names_eq_nil.mpr h]
  cases p.search s <;> rfl

theorem capture_of_named (h : p.groupIndex ≠ []) : p.capture s =
    ((p.search s).elim (.dict []) fun caps =>
      .dict (p.names.map fun g => (.ofString g.1, captured (caps[g.2]?.join)))) := by
  obtain ⟨g, gs, hg⟩ := List.exists_cons_of_ne_nil (mt names_eq_nil.mp h)
  rw [capture, hg]
  cases p.search s <;> rfl

theorem Numbered.finds_iff (hp : p.Numbered groups) : p.Finds s w ↔ p.capture s = w := by
  constructor
  · rintro (⟨hn, hs⟩ | ⟨hn, hs⟩ | ⟨hn, hs⟩ | ⟨hn, hs, hgs, he⟩)
    · rw [capture_of_unnamed hn, hs]
      rfl
    · rw [capture_of_named hn, hs]
      rfl
    · rw [capture_of_unnamed hn, hs]
      rfl
    · rw [hp.inOrder_iff.mp hgs] at he
      rw [capture_of_named hn, hs, ← (hp.entries_eq_iff hs).mp he]
      rfl
  · rintro rfl
    by_cases hn : p.groupIndex = []
    · rw [capture_of_unnamed hn]
      cases hs : p.search s with
      | none => exact .noList hn hs
      | some caps => exact .list hn hs
    · rw [capture_of_named hn]
      cases hs : p.search s with
      | none => exact .noDict hn hs
      | some caps => exact .dict hn hs hp.inOrder_names ((hp.entries_eq_iff hs).mpr rfl)

end Pattern

namespace Value

/-- A value with the captures in place of each text: lists and tuples come back as lists, mappings
with the same keys in the same order, and an absent value stays where it is. -/
inductive Captured (p : Pattern) : Value → Value → Prop
  | none : Captured p .none .none
  | text {s : String} {o : Origin} {w : Value} : p.Finds s w → Captured p (.str s o) w
  | dict {es fs : List (Value × Value)} : es.map Prod.fst = fs.map Prod.fst →
      List.Forall₂ (Captured p) (es.map Prod.snd) (fs.map Prod.snd) →
      Captured p (.dict es) (.dict fs)
  | list {vs ws : List Value} : List.Forall₂ (Captured p) vs ws → Captured p (.list vs) (.list ws)
  | tuple {vs ws : List Value} : List.Forall₂ (Captured p) vs ws →
      Captured p (.tuple vs) (.list ws)

namespace Captured

variable {p : Pattern} {w : Value}

theorem dict_iff {es : List (Value × Value)} : Captured p (.dict es) w ↔
    ∃ fs, w = .dict fs ∧ es.map Prod.fst = fs.map Prod.fst ∧
      List.Forall₂ (Captured p) (es.map Prod.snd) (fs.map Prod.snd) := by
  constructor
  · rintro (_ | _ | ⟨hk, hv⟩)
    exact ⟨_, rfl, hk, hv⟩
  · rintro ⟨fs, rfl, hk, hv⟩
    exact .dict hk hv

theorem list_iff {vs : List Value} : Captured p (.list vs) w ↔
    ∃ ws, w = .list ws ∧ List.Forall₂ (Captured p) vs ws := by
  constructor
  · rintro (_ | _ | _ | hv)
    exact ⟨_, rfl, hv⟩
  · rintro ⟨ws, rfl, hv⟩
    exact .list hv

theorem tuple_iff {vs : List Value} : Captured p (.tuple vs) w ↔
    ∃ ws, w = .list ws ∧ List.Forall₂ (Captured p) vs ws := by
  constructor
  · rintro (_ | _ | _ | _ | hv)
    exact ⟨_, rfl, hv⟩
  · rintro ⟨ws, rfl, hv⟩
    exact .tuple hv

end Captured

mutual

def scalars : Value → List Value
  | .list vs | .tuple vs => scalarsOfAll vs
  | .dict es => scalarsOfEntries es
  | v => [v]

def scalarsOfAll : List Value → List Value
  | [] => []
  | v :: vs => scalars v ++ scalarsOfAll vs

def scalarsOfEntries : List (Value × Value) → List Value
  | [] => []
  | (_, v) :: es => scalars v ++ scalarsOfEntries es

end

theorem mem_scalarsOfAll {x : Value} {vs : List Value} :
    x ∈ scalarsOfAll vs ↔ ∃ v ∈ vs, x ∈ v.scalars := by
  induction vs with
  | nil => simp [scalarsOfAll]
  | cons v vs ih => simp [scalarsOfAll, ih]

theorem scalarsOfEntries_eq (es : List (Value × Value)) :
    scalarsOfEntries es = scalarsOfAll (es.map Prod.snd) := by
  induction es with
  | nil => rfl
  | cons e es ih => rw [scalarsOfEntries, ih]; rfl

def isSearchable : Value → Bool
  | .none | .str _ _ => true
  | _ => false

def target (v : Value) : Outcome Unit :=
  if v.isSearchable then .ok () else .error (.operation (.patternTarget v.typeName))

theorem target_of_isSearchable {v : Value} (h : v.isSearchable) : v.target = .ok () := if_pos h

theorem target_of_not_isSearchable {v : Value} (h : v.isSearchable = false) :
    v.target = .error (.operation (.patternTarget v.typeName)) := by
  simp [target, h]

theorem mapM_target_eq_error {vs : List Value} {φ : Fault} : vs.mapM target = .error φ ↔
    ∃ x, vs.find? (fun x => !x.isSearchable) = some x ∧
      .operation (.patternTarget x.typeName) = φ := by
  induction vs with
  | nil => simp [pure, Except.pure]
  | cons v vs ih =>
    cases h : v.isSearchable with
    | true =>
      have hb : (v :: vs).mapM target = vs.mapM target >>= fun us => .ok (() :: us) := by
        rw [List.mapM_cons, target_of_isSearchable h]
        rfl
      rw [List.find?_cons_of_neg (by simp [h]), ← ih, hb]
      exact FailsLike.bind_ok (fun _ => .rfl) _ φ
    | false =>
      rw [List.find?_cons_of_pos (by simp [h]), List.mapM_cons, target_of_not_isSearchable h]
      simp [bind, Except.bind]

end Value

namespace Pattern

open Value (scalars scalarsOfAll scalarsOfEntries target)

variable (p : Pattern)

mutual

theorem captureIn_failsLike : (v : Value) → FailsLike (p.captureIn v) (v.scalars.mapM target)
  | .list vs | .tuple vs => (captureInAll_failsLike vs).bind_ok _
  | .dict es => (captureInEntries_failsLike es).bind_ok _
  | .none | .str _ _ => .singleton (.of_ok _ _)
  | .bool _ | .int _ | .float _ | .bytes _ | .node _ | .foreign _ _ => .singleton (.of_error _)

theorem captureInAll_failsLike :
    (vs : List Value) → FailsLike (p.captureInAll vs) ((scalarsOfAll vs).mapM target)
  | [] => .of_ok _ _
  | v :: vs => (captureIn_failsLike v).append (captureInAll_failsLike vs) _

theorem captureInEntries_failsLike : (es : List (Value × Value)) →
    FailsLike (p.captureInEntries es) ((scalarsOfEntries es).mapM target)
  | [] => .of_ok _ _
  | (_, v) :: es => (captureIn_failsLike v).append (captureInEntries_failsLike es) _

end

variable {p : Pattern} {groups : Nat} {v w : Value}

theorem captureIn_eq_error {φ : Fault} : p.captureIn v = .error φ ↔
    ∃ x, v.scalars.find? (fun x => !x.isSearchable) = some x ∧
      .operation (.patternTarget x.typeName) = φ :=
  (p.captureIn_failsLike v φ).trans Value.mapM_target_eq_error

theorem exists_captureIn_eq_ok_iff :
    (∃ w, p.captureIn v = .ok w) ↔ ∀ x ∈ v.scalars, x.isSearchable := by
  rw [(p.captureIn_failsLike v).exists_ok_iff, Outcome.exists_mapM_eq_ok_iff]
  refine forall₂_congr fun x _ => ?_
  cases h : x.isSearchable with
  | true => simp [Value.target_of_isSearchable h]
  | false => simp [Value.target_of_not_isSearchable h]

theorem captureInEntries_eq_ok {es fs : List (Value × Value)} : p.captureInEntries es = .ok fs ↔
    es.map Prod.fst = fs.map Prod.fst ∧
      List.Forall₂ (fun v w => p.captureIn v = .ok w) (es.map Prod.snd) (fs.map Prod.snd) :=
  entries_eq_ok_iff p.captureInEntries p.captureIn rfl fun _ _ _ => rfl

@[simp]
theorem captureIn_tuple (vs : List Value) :
    p.captureIn (.tuple vs) = Value.list <$> vs.mapM p.captureIn := by
  rw [captureIn, captureInAll_eq_mapM, map_eq_pure_bind]

theorem Numbered.captureIn_eq_ok_iff (hp : p.Numbered groups) :
    p.captureIn v = .ok w ↔ v.Captured p w := by
  induction v using Value.induction generalizing w with
  | node n => constructor <;> rintro ⟨⟩
  | dict es ih =>
    rw [captureIn, Value.Captured.dict_iff, ← map_eq_pure_bind, Outcome.map_eq_ok]
    simp only [captureInEntries_eq_ok, Value.forall₂_congr_of_mem fun v hv w => ih v hv]
    exact exists_congr fun fs => by rw [and_comm, eq_comm]
  | list vs ih =>
    rw [captureIn_list, Value.Captured.list_iff, Outcome.map_eq_ok]
    simp only [Outcome.mapM_eq_ok, Value.forall₂_congr_of_mem fun v hv w => ih v hv]
    exact exists_congr fun ws => by rw [and_comm, eq_comm]
  | tuple vs ih =>
    rw [captureIn_tuple, Value.Captured.tuple_iff, Outcome.map_eq_ok]
    simp only [Outcome.mapM_eq_ok, Value.forall₂_congr_of_mem fun v hv w => ih v hv]
    exact exists_congr fun ws => by rw [and_comm, eq_comm]
  | leaf v hl =>
    cases v with
    | none =>
      constructor
      · intro h
        cases h
        exact .none
      · rintro ⟨⟩
        rfl
    | str s o =>
      rw [captureIn, Except.ok.injEq, ← hp.finds_iff]
      constructor
      · exact .text
      · rintro (_ | h)
        exact h
    | node n | dict es | list vs | tuple vs => cases hl
    | _ => constructor <;> rintro ⟨⟩

theorem isSearchable_captured {c : Option String} : ∀ x ∈ (captured c).scalars, x.isSearchable := by
  cases c <;> simp [captured, Value.ofString, scalars, Value.isSearchable]

theorem Finds.isSearchable {s : String} (h : p.Finds s w) : ∀ x ∈ w.scalars, x.isSearchable := by
  intro x hx
  cases h with
  | noList _ _ => cases hx
  | noDict _ _ => cases hx
  | list _ _ =>
    obtain ⟨v, hv, hx⟩ := Value.mem_scalarsOfAll.mp hx
    obtain ⟨c, -, rfl⟩ := List.mem_map.mp hv
    exact isSearchable_captured x hx
  | dict _ _ _ he =>
    rw [scalars, Value.scalarsOfEntries_eq] at hx
    obtain ⟨v, hv, hx⟩ := Value.mem_scalarsOfAll.mp hx
    obtain ⟨e, he', rfl⟩ := List.mem_map.mp hv
    obtain ⟨g, -, c, -, rfl⟩ := exists_mem_of_forall₂ he he'
    exact isSearchable_captured x hx

end Pattern

namespace Value.Captured

open Value (scalars scalarsOfAll)

variable {p : Pattern} {v w : Value}

theorem isSearchable_all {vs ws : List Value} (h : List.Forall₂ (Captured p) vs ws)
    (ih : ∀ v ∈ vs, ∀ {w}, Captured p v w → ∀ x ∈ w.scalars, x.isSearchable) :
    ∀ x ∈ scalarsOfAll ws, x.isSearchable := by
  intro x hx
  obtain ⟨w, hw, hx⟩ := mem_scalarsOfAll.mp hx
  obtain ⟨v, hv, hvw⟩ := exists_mem_of_forall₂ h hw
  exact ih v hv hvw x hx

theorem isSearchable (h : Captured p v w) : ∀ x ∈ w.scalars, x.isSearchable := by
  induction v using Value.induction generalizing w with
  | node n => cases h
  | dict es ih =>
    obtain ⟨fs, rfl, -, hv⟩ := dict_iff.mp h
    rw [scalars, scalarsOfEntries_eq]
    exact isSearchable_all hv ih
  | list vs ih =>
    obtain ⟨ws, rfl, hv⟩ := list_iff.mp h
    exact isSearchable_all hv ih
  | tuple vs ih =>
    obtain ⟨ws, rfl, hv⟩ := tuple_iff.mp h
    exact isSearchable_all hv ih
  | leaf v hl =>
    cases h with
    | none => simp [scalars, Value.isSearchable]
    | text hf => exact hf.isSearchable
    | dict _ _ | list _ | tuple _ => cases hl

end Value.Captured

namespace Matcher

variable {m : Matcher} {n v w : Value} {e : Option Extractor}

/-- Every pattern that compiles numbers its groups. Such a pattern keeps the shape of a value and
puts captures in the place of its texts, unless some part of the value is neither a text nor
absent; then the first such part is refused. What comes back can be searched again. -/
theorem regex_keeps_shape (h : m.eval n e = .ok v) :
    (∀ text p, Pattern.compile text = .ok p → ∃ groups, p.Numbered groups) ∧
    ∀ p groups, p.Numbered groups →
      (∀ w, (m.regex p).eval n e = .ok w ↔ v.Captured p w) ∧
      ((∃ w, (m.regex p).eval n e = .ok w) ↔ ∀ x ∈ v.scalars, x.isSearchable) ∧
      (∀ φ, (m.regex p).eval n e = .error φ ↔
        ∃ x, v.scalars.find? (fun x => !x.isSearchable) = some x ∧
          .operation (.patternTarget x.typeName) = φ) ∧
      ∀ q w, (m.regex p).eval n e = .ok w → ∃ u, ((m.regex p).regex q).eval n e = .ok u := by
  refine ⟨fun text p => Pattern.numbered_of_compile, fun p groups hp => ?_⟩
  have hr : (m.regex p).eval n e = p.captureIn v := by simp [h]
  rw [hr]
  refine ⟨fun w => hp.captureIn_eq_ok_iff, p.exists_captureIn_eq_ok_iff,
    fun φ => p.captureIn_eq_error, fun q w hw => ?_⟩
  have hc : v.Captured p w := hp.captureIn_eq_ok_iff.mp hw
  rw [eval_regex, hr, hw, Outcome.ok_bind, q.exists_captureIn_eq_ok_iff]
  exact hc.isSearchable

def phones : Value := .dict [(.ofString "home", .tuple [.ofString "1", .none])]

def counts : Value := .list [.ofString "1", .int 2]

/-- A pattern whose index has its second group first. -/
def swapped : Pattern where
  groupIndex := [("minor", 1), ("major", 0)]
  search s := some [some s, none]

theorem numbered_swapped : swapped.Numbered 2 where
  namesGroups := ⟨by decide, by decide, by decide⟩
  length_eq := by
    rintro s caps h
    cases h
    rfl

theorem names_swapped : swapped.names = [("major", 0), ("minor", 1)] :=
  (numbered_swapped.inOrder_iff.mp ⟨by decide, by decide⟩).symm

theorem compile_letter : ∃ p, Pattern.compile "(\\d)(x)?" = .ok p ∧
    p.capture "1" = .list [.ofString "1", .none] := by
  refine ⟨_, rfl, ?_⟩
  cbv

theorem compile_named : ∃ p, Pattern.compile "(\\d)(?P<B>\\d)?" = .ok p ∧ p.names = [("B", 1)] := by
  have h : (Pattern.Expr.parse "(\\d)(?P<B>\\d)?").toOption.map Pattern.Parsed.names =
      some [("B", 1)] := by
    decide +kernel
  unfold Pattern.compile
  cases hp : Pattern.Expr.parse "(\\d)(?P<B>\\d)?" with
  | error flaw =>
    rw [hp] at h
    cases h
  | ok parsed =>
    rw [hp] at h
    refine ⟨_, rfl, ?_⟩
    rw [Pattern.names, Option.some.inj h, List.mergeSort_singleton]

theorem regex_keeps_shape_phones :
    (∃ p, Pattern.compile "(\\d)(x)?" = .ok p ∧ (∃ groups, p.Numbered groups) ∧
      phones.Captured p
        (.dict [(.ofString "home", .list [.list [.ofString "1", .none], .none])])) ∧
    phones.Captured swapped (.dict [(.ofString "home", .list [.dict
      [(.ofString "major", .ofString "1"), (.ofString "minor", .none)], .none])]) ∧
    ∃ p, Pattern.compile "(\\d)(?P<B>\\d)?" = .ok p ∧ p.names = [("B", 1)] ∧
      (∃ w, ((constant phones).regex p).eval .none none = .ok w ∧ phones.Captured p w ∧
        ∃ u, (((constant phones).regex p).regex p).eval .none none = .ok u) ∧
      ((constant counts).regex p).eval .none none = .error (.operation (.patternTarget "int")) := by
  obtain ⟨hcompile, hphones⟩ := regex_keeps_shape (eval_constant phones .none none)
  obtain ⟨-, hcounts⟩ := regex_keeps_shape (eval_constant counts .none none)
  refine ⟨?_, ?_, ?_⟩
  · obtain ⟨p, hp, hone⟩ := compile_letter
    obtain ⟨groups, hg⟩ := hcompile _ p hp
    refine ⟨p, hp, ⟨groups, hg⟩, ((hphones p groups hg).1 _).mp ?_⟩
    rw [eval_regex, eval_constant, ← hone]
    rfl
  · refine ((hphones swapped 2 numbered_swapped).1 _).mp ?_
    rw [eval_regex, eval_constant]
    have hone : swapped.capture "1" =
        .dict [(.ofString "major", .ofString "1"), (.ofString "minor", .none)] := by
      rw [Pattern.capture, names_swapped]
      rfl
    rw [← hone]
    rfl
  · obtain ⟨p, hp, hn⟩ := compile_named
    obtain ⟨groups, hg⟩ := hcompile _ p hp
    obtain ⟨hcaptured, hreturns, -, hagain⟩ := hphones p groups hg
    obtain ⟨-, -, hrefused, -⟩ := hcounts p groups hg
    refine ⟨p, hp, hn, ?_, (hrefused _).mpr ⟨.int 2, rfl, rfl⟩⟩
    obtain ⟨w, hw⟩ := hreturns.mpr (by decide)
    exact ⟨w, hw, (hcaptured w).mp hw, hagain p w hw⟩

end Matcher

end Quarry
