import Quarry.Proofs.Value.Replaced

namespace Quarry.Value

def isNumber : NumberKind → Value → Bool
  | .int, .int _ | .float, .float _ => true
  | _, _ => false

/-- A value with the number of each part in its place: sequences come back as lists, and an absent
value stays where it is. -/
inductive Projected (aim : NumberKind) : Value → Value → Prop
  | none : Projected aim .none .none
  | list {vs ws : List Value} : List.Forall₂ (Projected aim) vs ws →
      Projected aim (.list vs) (.list ws)
  | tuple {vs ws : List Value} : List.Forall₂ (Projected aim) vs ws →
      Projected aim (.tuple vs) (.list ws)
  | number {v w : Value} : v ≠ .none → v.members? = Option.none → v.toNumber aim = .ok w →
      w.isNumber aim → Projected aim v w

mutual

def atoms : Value → List Value
  | .list vs | .tuple vs => atomsOfAll vs
  | v => [v]

def atomsOfAll : List Value → List Value
  | [] => []
  | v :: vs => atoms v ++ atomsOfAll vs

end

def isConvertible : Value → Bool
  | .none | .bool _ | .int _ | .float _ | .str _ _ => true
  | _ => false

variable {aim : NumberKind} {v w : Value}

/-! ### Numbers and texts -/

theorem intOf_eq_ok {r : Except Number.NoInteger Int} (h : intOf r = .ok w) : w.isNumber .int := by
  cases r with
  | ok k =>
    cases h
    rfl
  | error e => cases h

theorem intOf_ne_operation {r : Except Number.NoInteger Int} {f : OperationFault} :
    intOf r ≠ .error (.operation f) := by
  cases r with
  | ok k => exact nofun
  | error e => cases e <;> exact nofun

theorem ofInt_eq_ok {k : Int} (h : ofInt aim k = .ok w) : w.isNumber aim := by
  cases aim with
  | int =>
    cases h
    rfl
  | float =>
    rw [ofInt] at h
    split at h
    · cases h
      rfl
    · cases h

theorem ofInt_ne_operation {k : Int} {f : OperationFault} :
    ofInt aim k ≠ .error (.operation f) := by
  cases aim with
  | int => exact nofun
  | float =>
    rw [ofInt]
    split <;> exact nofun

theorem readFloat_ne_operation {s : String} {f : OperationFault} :
    readFloat s ≠ .error (.operation f) := by
  rw [readFloat]
  split <;> exact nofun

theorem ofText_eq_ok {s : String} (h : ofText aim s = .ok w) : w.isNumber aim := by
  unfold ofText at h
  split at h
  · cases h
    rfl
  · split at h
    · cases h
      rfl
    · obtain ⟨x, -, h⟩ := Outcome.bind_eq_ok.mp h
      exact intOf_eq_ok h
  · cases h
    rfl
  · obtain ⟨x, -, h⟩ := Outcome.bind_eq_ok.mp h
    cases h
    rfl

theorem ofText_ne_operation {s : String} {f : OperationFault} :
    ofText aim s ≠ .error (.operation f) := by
  unfold ofText
  split
  · exact nofun
  · split
    · exact nofun
    · exact Outcome.bind_ne_error readFloat_ne_operation fun _ => intOf_ne_operation
  · exact nofun
  · exact Outcome.bind_ne_error readFloat_ne_operation fun _ => nofun

/-! ### Parts of a value -/

theorem projected_of_toNumber_atom (hm : v.members? = Option.none) (h : toNumber aim v = .ok w) :
    Projected aim v w := by
  cases v with
  | none =>
    cases h
    exact .none
  | bool b => exact .number (by simp) hm h (ofInt_eq_ok h)
  | int k => exact .number (by simp) hm h (ofInt_eq_ok h)
  | float x =>
    refine .number (by simp) hm h ?_
    cases aim with
    | int => exact intOf_eq_ok h
    | float =>
      cases h
      rfl
  | str s o => exact .number (by simp) hm h (ofText_eq_ok h)
  | list vs => cases hm
  | tuple vs => cases hm
  | bytes bs => cases h
  | dict es => cases h
  | node n => cases h
  | foreign kind shown => cases h

theorem toNumber_ne_operation (hc : v.isConvertible) {f : OperationFault} :
    toNumber aim v ≠ .error (.operation f) := by
  cases v with
  | none => exact nofun
  | bool b => exact ofInt_ne_operation
  | int k => exact ofInt_ne_operation
  | float x =>
    cases aim with
    | int => exact intOf_ne_operation
    | float => exact nofun
  | str s o => exact ofText_ne_operation
  | _ => cases hc

theorem toNumber_of_not_convertible (hm : v.members? = Option.none) (hc : v.isConvertible = false) :
    toNumber aim v = .error (.operation (.notNumeric v.typeName aim)) := by
  cases v with
  | none | bool b | int k | float x | str s o => cases hc
  | list vs | tuple vs => cases hm
  | bytes bs | dict es | node n | foreign kind shown => rfl

theorem toNumber_eq_operation_iff (hm : v.members? = Option.none) {f : OperationFault} :
    toNumber aim v = .error (.operation f) ↔
      v.isConvertible = false ∧ f = .notNumeric v.typeName aim := by
  cases hc : v.isConvertible with
  | true => simp [toNumber_ne_operation hc]
  | false => simp [toNumber_of_not_convertible hm hc, eq_comm]

mutual

theorem members?_of_mem_atoms {x : Value} : (v : Value) → x ∈ v.atoms → x.members? = Option.none
  | .list vs, h | .tuple vs, h => members?_of_mem_atomsOfAll vs h
  | .none, h | .bool _, h | .int _, h | .float _, h | .str _ _, h | .bytes _, h | .dict _, h
  | .node _, h | .foreign _ _, h => by
    obtain rfl := List.mem_singleton.mp h
    rfl

theorem members?_of_mem_atomsOfAll {x : Value} :
    (vs : List Value) → x ∈ atomsOfAll vs → x.members? = Option.none
  | [], h => by cases h
  | v :: vs, h => by
    obtain h | h := List.mem_append.mp h
    · exact members?_of_mem_atoms v h
    · exact members?_of_mem_atomsOfAll vs h

end

open Outcome (FailsLike)

mutual

/-- A projection fails like the projections of the parts, one after the other. -/
theorem toNumber_failsLike (aim : NumberKind) :
    (v : Value) → FailsLike (toNumber aim v) (v.atoms.mapM (toNumber aim))
  | .list vs | .tuple vs => (toNumbers_failsLike aim vs).bind_ok _
  | .none | .bool _ | .int _ | .float _ | .str _ _ | .bytes _ | .dict _ | .node _
  | .foreign _ _ => .singleton fun _ => .rfl

theorem toNumbers_failsLike (aim : NumberKind) :
    (vs : List Value) → FailsLike (toNumbers aim vs) ((atomsOfAll vs).mapM (toNumber aim))
  | [] => .of_ok _ _
  | v :: vs => (toNumber_failsLike aim v).append (toNumbers_failsLike aim vs) _

end

mutual

theorem projected_of_toNumber :
    (v w : Value) → toNumber aim v = .ok w → Projected aim v w
  | .list vs, _, h => by
    obtain ⟨ws, hws, hw⟩ := Outcome.bind_eq_ok.mp h
    cases hw
    exact .list (projected_of_toNumbers vs ws hws)
  | .tuple vs, _, h => by
    obtain ⟨ws, hws, hw⟩ := Outcome.bind_eq_ok.mp h
    cases hw
    exact .tuple (projected_of_toNumbers vs ws hws)
  | .none, _, h | .bool _, _, h | .int _, _, h | .float _, _, h | .str _ _, _, h | .bytes _, _, h
  | .dict _, _, h | .node _, _, h | .foreign _ _, _, h => projected_of_toNumber_atom rfl h

theorem projected_of_toNumbers :
    (vs ws : List Value) → toNumbers aim vs = .ok ws → List.Forall₂ (Projected aim) vs ws
  | [], _, h => by
    cases h
    exact .nil
  | v :: vs, _, h => by
    obtain ⟨w, hw, h⟩ := Outcome.bind_eq_ok.mp h
    obtain ⟨ws, hws, h⟩ := Outcome.bind_eq_ok.mp h
    cases h
    exact .cons (projected_of_toNumber v w hw) (projected_of_toNumbers vs ws hws)

end

theorem toNumber_of_isNumber (h : w.isNumber aim) : toNumber aim w = .ok w := by
  cases aim <;> cases w <;> first | rfl | cases h

theorem toNumber_list_self {ws : List Value} (h : ∀ w ∈ ws, toNumber aim w = .ok w) :
    toNumber aim (.list ws) = .ok (.list ws) := by
  rw [toNumber_list, Outcome.mapM_eq_ok.mpr (List.forall₂_same.mpr h)]
  rfl

/-- A projection leaves alone what it gives. -/
theorem Projected.toNumber_eq (h : Projected aim v w) : toNumber aim w = .ok w := by
  induction v using Value.induction generalizing w with
  | list vs ih =>
    cases h with
    | list hvs =>
      refine toNumber_list_self fun w hw => ?_
      obtain ⟨v, hv, hvw⟩ := exists_mem_of_forall₂ hvs hw
      exact ih v hv hvw
    | number _ hm _ _ => cases hm
  | tuple vs ih =>
    cases h with
    | tuple hvs =>
      refine toNumber_list_self fun w hw => ?_
      obtain ⟨v, hv, hvw⟩ := exists_mem_of_forall₂ hvs hw
      exact ih v hv hvw
    | number _ hm _ _ => cases hm
  | node n =>
    cases h with
    | number _ _ _ hw => exact toNumber_of_isNumber hw
  | dict es _ =>
    cases h with
    | number _ _ _ hw => exact toNumber_of_isNumber hw
  | leaf v hl =>
    cases h with
    | none => rfl
    | list _ | tuple _ => cases hl
    | number _ _ _ hw => exact toNumber_of_isNumber hw

theorem exists_toNumber_eq_operation_iff : (∃ f, toNumber aim v = .error (.operation f)) ↔
    ∃ xs x ys, v.atoms = xs ++ x :: ys ∧ (∀ y ∈ xs, ∃ w, toNumber aim y = .ok w) ∧
      (∃ φ, toNumber aim x = .error φ) ∧ x.isConvertible = false := by
  constructor
  · rintro ⟨f, h⟩
    obtain ⟨xs, x, ys, hv, hxs, hx⟩ := Outcome.mapM_eq_error.mp ((toNumber_failsLike aim v _).mp h)
    have hm : x.members? = Option.none := members?_of_mem_atoms v (by simp [hv])
    exact ⟨xs, x, ys, hv, hxs, ⟨_, hx⟩, ((toNumber_eq_operation_iff hm).mp hx).1⟩
  · rintro ⟨xs, x, ys, hv, hxs, -, hc⟩
    have hm : x.members? = Option.none := members?_of_mem_atoms v (by simp [hv])
    refine ⟨.notNumeric x.typeName aim, (toNumber_failsLike aim v _).mpr ?_⟩
    exact Outcome.mapM_eq_error.mpr ⟨xs, x, ys, hv, hxs, toNumber_of_not_convertible hm hc⟩

end Quarry.Value
