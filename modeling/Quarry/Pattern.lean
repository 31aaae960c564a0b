import Quarry.Fault

namespace Quarry

/-- A compiled pattern. A search gives one capture per group, absent for a group that took no part
in the match. -/
structure Pattern where
  /-- The named groups with their numbers, which count from zero, in whatever order. -/
  groupIndex : List (String × Nat)
  search : String → Option (List (Option String))

namespace Pattern

def names (p : Pattern) : List (String × Nat) :=
  p.groupIndex.mergeSort fun a b => a.2 ≤ b.2

def captured : Option String → Value
  | none => .none
  | some s => .ofString s

/-- What a pattern finds in a text: the captures of the named groups when there are any, and
otherwise those of all groups; nothing when it does not match. -/
def capture (p : Pattern) (s : String) : Value :=
  match p.names, p.search s with
  | [], none => .list []
  | [], some caps => .list (caps.map captured)
  | _, none => .dict []
  | names, some caps => .dict (names.map fun n => (.ofString n.1, captured (caps[n.2]?.join)))

mutual

def captureIn (p : Pattern) : Value → Outcome Value
  | .none => .ok .none
  | .str s _ => .ok (p.capture s)
  | .dict es => do return .dict (← captureInEntries p es)
  | .list vs => do return .list (← captureInAll p vs)
  | .tuple vs => do return .list (← captureInAll p vs)
  | v => .error (.operation (.patternTarget v.typeName))

def captureInAll (p : Pattern) : List Value → Outcome (List Value)
  | [] => .ok []
  | v :: vs => do
    let w ← captureIn p v
    let ws ← captureInAll p vs
    return w :: ws

def captureInEntries (p : Pattern) : List (Value × Value) → Outcome (List (Value × Value))
  | [] => .ok []
  | (k, v) :: es => do
    let w ← captureIn p v
    let fs ← captureInEntries p es
    return (k, w) :: fs

end

end Pattern

end Quarry
