import Quarry.Number.Scaled

namespace Quarry.Number

def Scaled.ofInt (n : Int) : Scaled := .finite (n < 0) n.natAbs 0

/-- Compares `m · 2^q` with `m' · 2^q'` for signed `m` and `m'`. -/
def compareScaled (m : Int) (q : Int) (m' : Int) (q' : Int) : Ordering :=
  let low := min q q'
  compare (m * Int.pow 2 (q - low).toNat) (m' * Int.pow 2 (q' - low).toNat)

def Scaled.compare? : Scaled → Scaled → Option Ordering
  | .notANumber, _ | _, .notANumber => none
  | .infinite s, .infinite t => some (compare t.toNat s.toNat)
  | .infinite s, .finite .. => some (if s then .lt else .gt)
  | .finite .., .infinite t => some (if t then .gt else .lt)
  | .finite s m q, .finite t m' q' => some (compareScaled (withSign s m) q (withSign t m') q')

end Quarry.Number
