import Mathlib.Data.List.Pairwise
import Quarry.Proofs.Outcome
import Quarry.Value.Order

namespace Quarry.Value

inductive OrderKind
  | number
  | text
  | bytes
  | list
  | tuple

def orderKind? : Value → Option OrderKind
  | .bool _ | .int _ | .float _ => some .number
  | .str _ _ => some .text
  | .bytes _ => some .bytes
  | .list _ => some .list
  | .tuple _ => some .tuple
  | .none | .dict _ | .node _ | .foreign _ _ => Option.none

def Alike (a b : Value) : Prop := ∃ k, a.orderKind? = some k ∧ b.orderKind? = some k

/-- Each of the two can be asked whether it comes before the other. -/
def HasOrder (c : Comparison) (a b : Value) : Prop :=
  (∃ r, c.before a b = .ok r) ∧ ∃ r, c.before b a = .ok r

variable {a b v w : Value} {vs ws us : List Value} {c : Comparison} {φ : Fault} {r : Bool}

theorem Alike.symm (h : Alike a b) : Alike b a := h.imp fun _ => And.symm

theorem HasOrder.symm (h : HasOrder c a b) : HasOrder c b a := And.symm h

theorem Alike.trans (hab : Alike a b) (hbv : Alike b v) : Alike a v := by
  obtain ⟨k, ha, hb⟩ := hab
  obtain ⟨l, hb', hv⟩ := hbv
  cases hb.symm.trans hb'
  exact ⟨k, ha, hv⟩

theorem Alike.members? (h : Alike a b) (hs : a.members? = Option.none) :
    b.members? = Option.none := by
  obtain ⟨k, ha, hb⟩ := h
  cases b with
  | list _ | tuple _ =>
    cases hb
    cases a with
    | list _ | tuple _ => cases hs
    | _ => cases ha
  | _ => rfl

end Quarry.Value
