import Quarry.Pattern.Expr

namespace Quarry.Pattern

/-- An instruction. A fork prefers its first branch; a mark notes the place in the text in a
slot. -/
inductive Instruction
  | accept
  | fork (first second : Nat)
  | mark (slot next : Nat)
  | check (c : Condition) (next : Nat)
  | set (s : CharSet) (next : Nat)
  | byte (next : Nat)
  deriving Repr

instance : Inhabited Instruction := ⟨.accept⟩

structure Code where
  instructions : Array Instruction
  entry : Nat

namespace Code

def push (c : Code) (i : Instruction) : Code :=
  ⟨c.instructions.push i, c.instructions.size⟩

def preferring (greedy : Bool) (body next : Nat) : Instruction :=
  if greedy then .fork body next else .fork next body

def optional (emit : Code → Code) (greedy : Bool) (c : Code) : Code :=
  let body := emit c
  body.push (preferring greedy body.entry c.entry)

def loop (emit : Code → Code) (greedy atFork : Bool) (c : Code) : Code :=
  let back := c.push .accept
  let body := emit back
  ⟨body.instructions.setIfInBounds back.entry (preferring greedy body.entry c.entry),
    if atFork then back.entry else body.entry⟩

def copies (emit : Code → Code) : Nat → Code → Code
  | 0, c => c
  | n + 1, c => emit (copies emit n c)

def optionalCopies (emit : Code → Code) (greedy : Bool) (next : Nat) : Nat → Code → Code
  | 0, c => c
  | n + 1, c =>
    let body := emit (optionalCopies emit greedy next n c)
    body.push (preferring greedy body.entry next)

/-- Any number of rounds. Code that can match nothing is run at least once if it is run at all, so
that an empty round does not hide what a round prefers. -/
def star (emit : Code → Code) (nullable greedy : Bool) (c : Code) : Code :=
  if nullable then optional (loop emit greedy false) greedy c else loop emit greedy true c

end Code

def groupSlot (index : Nat) : Nat := 2 * index + 2

def Expr.emit : Expr → Code → Code
  | .empty, c => c
  | .set s, c => c.push (.set s c.entry)
  | .byte, c => c.push (.byte c.entry)
  | .condition d, c => c.push (.check d c.entry)
  | .both a b, c => a.emit (b.emit c)
  | .either a b, c =>
    let second := b.emit c
    let first := a.emit ⟨second.instructions, c.entry⟩
    first.push (.fork first.entry second.entry)
  | .star e greedy, c => Code.star (fun c => e.emit c) e.nullable greedy c
  | .plus e greedy, c => Code.loop (fun c => e.emit c) greedy false c
  | .optional e greedy, c => Code.optional (fun c => e.emit c) greedy c
  | .counted low none e greedy, c =>
    if low = 0 then Code.star (fun c => e.emit c) e.nullable greedy c
    else Code.copies (fun c => e.emit c) (low - 1) (Code.loop (fun c => e.emit c) greedy false c)
  | .counted low (some high) e greedy, c =>
    Code.copies (fun c => e.emit c) low
      (Code.optionalCopies (fun c => e.emit c) greedy c.entry (high - low) c)
  | .group k e, c =>
    let body := e.emit (c.push (.mark (groupSlot k + 1) c.entry))
    body.push (.mark (groupSlot k) body.entry)

def Expr.program (e : Expr) : Code :=
  e.emit ⟨#[.accept], 0⟩

end Quarry.Pattern
