import Quarry.Fault
import Quarry.Number.Leading

namespace Quarry.Value

def ofNoInteger : Number.NoInteger → Fault
  | .notANumber => .notANumber
  | .infinite => .infinite

def intOf (r : Except Number.NoInteger Int) : Outcome Value :=
  match r with
  | .ok n => .ok (.int n)
  | .error e => .error (ofNoInteger e)

def ofInt (aim : NumberKind) (n : Int) : Outcome Value :=
  match aim with
  | .int => .ok (.int n)
  | .float => match Number.ofInt? n with
    | some x => .ok (.float x)
    | Option.none => .error .hugeInteger

def readFloat (s : String) : Outcome Float :=
  match Number.readFloat? s with
  | some x => .ok x
  | Option.none => .error (.notNumeral s)

/-- A text counts as the number it starts with, or else as zero. An integer that cannot be read as
such is that of the floating-point number. -/
def ofText (aim : NumberKind) (s : String) : Outcome Value :=
  match aim, Number.leading? s with
  | .int, Option.none => .ok (.int 0)
  | .int, some d => match Number.readInteger? d.toList with
    | some n => .ok (.int n)
    | Option.none => do intOf (Number.truncate (← readFloat d))
  | .float, Option.none => .ok (.float 0)
  | .float, some d => do return .float (← readFloat d)

mutual

def toNumber (aim : NumberKind) : Value → Outcome Value
  | .none => .ok .none
  | .bool b => ofInt aim b.toInt
  | .int n => ofInt aim n
  | .float x => match aim with
    | .int => intOf (Number.truncate x)
    | .float => .ok (.float x)
  | .str s _ => ofText aim s
  | .list vs => do return .list (← toNumbers aim vs)
  | .tuple vs => do return .list (← toNumbers aim vs)
  | v => .error (.operation (.notNumeric v.typeName aim))

def toNumbers (aim : NumberKind) : List Value → Outcome (List Value)
  | [] => .ok []
  | v :: vs => do
    let w ← toNumber aim v
    let ws ← toNumbers aim vs
    return w :: ws

end

/-- The first member of a sequence or the first value of a mapping, absent from an empty one. -/
def first : Value → Outcome Value
  | .none => .ok .none
  | .dict es => .ok ((es.head?.map Prod.snd).getD .none)
  | .list vs => .ok (vs.head?.getD .none)
  | .tuple vs => .ok (vs.head?.getD .none)
  | v => .error (.operation (.noFirst v.typeName))

def count (v : Value) : Outcome Value :=
  match v.length? with
  | some n => .ok (.int n)
  | Option.none => .error (.noLength v.typeName)

def nonempty (v : Value) : Outcome Value :=
  match v.length? with
  | some n => .ok (.bool (0 < n))
  | Option.none => .error (.noLength v.typeName)

end Quarry.Value
