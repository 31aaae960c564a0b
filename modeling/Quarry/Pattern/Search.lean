import Quarry.Pattern.Program

namespace Quarry.Pattern

/-- A byte of a text: the first one of a character, with the number of its other bytes, or one of
these. -/
inductive Piece
  | lead (c : Char) (more : Nat)
  | inner
  deriving DecidableEq, Repr

def piecesOf (s : List Char) : List Piece :=
  s.flatMap fun c => .lead c (c.utf8Size - 1) :: List.replicate (c.utf8Size - 1) .inner

structure Spot where
  offset : Nat
  before : Option Piece
  after : Option Piece

def Piece.isWord : Piece → Bool
  | .lead c _ => wordChars.contains c.toNat
  | .inner => false

def Condition.holds (s : Spot) : Condition → Bool
  | textStart => s.offset = 0
  | textEnd => s.after.isNone
  | lineStart => s.before.all (· = .lead '\n' 0)
  | lineEnd => s.after.all (· = .lead '\n' 0)
  | wordEdge => s.before.any Piece.isWord != s.after.any Piece.isWord
  | noWordEdge => s.before.any Piece.isWord == s.after.any Piece.isWord

abbrev Slots := List (Option Nat)

structure Thread where
  instruction : Nat
  wait : Nat
  slots : Slots

/-- The threads at a place, the least preferred first, and the instructions followed there. -/
structure Front where
  threads : List Thread
  followed : Array Bool

/-- Follows an instruction to those that take a piece or accept. At most as many instructions as
there are can be followed one through the other. -/
def Front.follow (program : Array Instruction) (s : Spot) :
    Nat → Nat → Slots → Front → Front
  | 0, _, _, f => f
  | fuel + 1, i, slots, f =>
    if f.followed[i]?.getD true then f
    else
      let f : Front := { f with followed := f.followed.setIfInBounds i true }
      match program[i]? with
      | none => f
      | some (.fork a b) => (f.follow program s fuel a slots).follow program s fuel b slots
      | some (.mark slot next) => f.follow program s fuel next (slots.set slot (some s.offset))
      | some (.check c next) => if c.holds s then f.follow program s fuel next slots else f
      | some .accept | some (.set _ _) | some (.byte _) =>
        { f with threads := ⟨i, 0, slots⟩ :: f.threads }

def Front.start (program : Array Instruction) : Front :=
  ⟨[], Array.replicate program.size false⟩

/-- Lets the threads at a place take a piece, the most preferred first, up to one that accepts:
this is then the best match so far, and the less preferred threads are given up. -/
def advance (program : Array Instruction) (piece : Option Piece) (offset : Nat) (next : Spot) :
    List Thread → Front → Option Slots → Front × Option Slots
  | [], f, best => (f, best)
  | t :: ts, f, best =>
    let go (i : Nat) : Front := f.follow program next (program.size + 1) i t.slots
    let stay (i wait : Nat) : Front := { f with threads := ⟨i, wait, t.slots⟩ :: f.threads }
    match t.wait with
    | 1 => advance program piece offset next ts (go t.instruction) best
    | wait + 2 => advance program piece offset next ts (stay t.instruction (wait + 1)) best
    | 0 => match program[t.instruction]?, piece with
      | some .accept, _ => (f, some (t.slots.set 1 (some offset)))
      | some (.byte i), some _ => advance program piece offset next ts (go i) best
      | some (.set s i), some (.lead c more) =>
        let f := if !s.contains c.toNat then f else if more = 0 then go i else stay i more
        advance program piece offset next ts f best
      | _, _ => advance program piece offset next ts f best

/-- Runs a program from a place on. While there is no match a new thread begins at every place,
less preferred than all others. -/
def run (code : Code) (slots : Slots) :
    List Piece → Option Piece → Nat → Front → Option Slots → Option Slots
  | rest, before, offset, f, best =>
    let program := code.instructions
    let here : Spot := ⟨offset, before, rest.head?⟩
    let f := if best.isSome then f
      else f.follow program here (program.size + 1) code.entry (slots.set 0 (some offset))
    match rest with
    | [] => (advance program none offset here f.threads.reverse (.start program) best).2
    | p :: rest =>
      let next : Spot := ⟨offset + 1, some p, rest.head?⟩
      let (g, best) := advance program (some p) offset next f.threads.reverse (.start program) best
      if best.isSome && g.threads.isEmpty then best
      else run code slots rest (some p) (offset + 1) g best

def searchSlots (code : Code) (groups : Nat) (pieces : List Piece) : Option Slots :=
  run code (List.replicate (groupSlot groups) none) pieces none 0 (.start code.instructions) none

/-- The characters that begin within some bytes; a byte inside a character counts by itself where
they begin with it. -/
def charCount : Nat → List Piece → Nat
  | 0, _ => 0
  | _, [] => 0
  | n + 1, .lead _ more :: ps => 1 + charCount (n - more) (ps.drop more)
  | n + 1, .inner :: ps => 1 + charCount n ps
termination_by n => n
decreasing_by all_goals omega

/-- Offsets in characters for offsets in bytes, which are in order: each is counted from the one
before. -/
def charOffsets (pieces : List Piece) : Nat → Nat → List Nat → List (Nat × Nat)
  | _, _, [] => []
  | lastByte, lastChar, b :: bs =>
    let c := lastChar + charCount (b - lastByte) (pieces.drop lastByte)
    (b, c) :: charOffsets pieces b c bs

def firstMatch (code : Code) (groups : Nat) (s : String) : Option (List (Option String)) := do
  let cs := s.toList
  let pieces := piecesOf cs
  let slots ← searchSlots code groups pieces
  let bytes := ((slots.filterMap id).mergeSort (· ≤ ·)).eraseDups
  let offsets := charOffsets pieces 0 0 bytes
  let captured (k : Nat) : Option String := do
    let a ← offsets.lookup (← slots[groupSlot k]?.join)
    let b ← offsets.lookup (← slots[groupSlot k + 1]?.join)
    return String.ofList ((cs.take b).drop a)
  return (List.range groups).map captured

end Quarry.Pattern
