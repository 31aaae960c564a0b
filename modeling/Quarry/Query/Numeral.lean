import Quarry.Number.Shortest
import Quarry.Text.Blank

namespace Quarry.Query

def tenTo (e : Int) : Float :=
  Float.pow 10.0 (Float.ofInt e)

def addDigits (x : Float) (ds : List Char) : Float :=
  ds.foldl (fun x d => x * 10.0 + Float.ofNat (d.toNat - 48)) x

def fractionDigits : Nat := 20

def fractionValue (ds : List Char) : Float :=
  let zeros := (ds.takeWhile (· = '0')).length
  let rest := (ds.drop zeros).take fractionDigits
  addDigits 0.0 rest / tenTo (zeros + rest.length : Nat)

/-- The value of the digits of an exponent, which stops growing at a million. -/
def exponentValue (ds : List Char) : Nat :=
  ds.foldl (fun n d => if n < 1000000 then 10 * n + (d.toNat - 48) else n) 0

def splitScale (s : List Char) : Int × List Char :=
  match s with
  | [] => (0, [])
  | c :: t =>
    if c = 'e' ∨ c = 'E' then
      let (negative, u) := match t with
        | '-' :: u => (true, u)
        | '+' :: u => (false, u)
        | _ => (false, t)
      let e := exponentValue (u.takeWhile Char.isDigit)
      (Number.withSign negative e, u.dropWhile Char.isDigit)
    else (0, s)

def splitNumber? (s : List Char) : Option ((Float × Int) × List Char) :=
  let whole := s.takeWhile Char.isDigit
  let x := addDigits 0.0 whole
  match s.dropWhile Char.isDigit with
  | '.' :: t =>
    let fraction := t.takeWhile Char.isDigit
    if whole.isEmpty && fraction.isEmpty then none
    else
      let (e, rest) := splitScale (t.dropWhile Char.isDigit)
      some ((x + fractionValue fraction, e), rest)
  | t =>
    let (e, rest) := splitScale t
    some ((x, e), rest)

def notANumber : Float := 0.0 / 0.0

/-- The number that a whole text writes, between blanks and behind at most one minus. A minus
alone is zero. -/
def readNumber (s : String) : Float :=
  let t := s.toList.dropWhile Text.isMarkupBlank
  match t with
  | [] => notANumber
  | c :: u =>
    if c ≠ '-' ∧ c ≠ '.' ∧ !c.isDigit then notANumber
    else
      let negative := c = '-'
      match splitNumber? (if negative then u else t) with
      | none => notANumber
      | some ((x, e), rest) =>
        if rest.all Text.isMarkupBlank then (if negative then -x else x) * tenTo e
        else notANumber

def withoutEndZeros (s : List Char) : List Char :=
  match s.reverse.dropWhile (· = '0') with
  | '.' :: t => t.reverse
  | t => t.reverse

def fixedText (r : Number.Ratio) (places : Nat) : List Char :=
  let ds := Nat.toDigits 10 (r.scale 10 places).nearest
  let padded := List.replicate (places + 1 - ds.length) '0' ++ ds
  let cut := padded.length - places
  padded.take cut ++ '.' :: padded.drop cut

def significantDigits : Nat := 15

def exponentText (r : Number.Ratio) : List Char :=
  let lead := r.leadingPlace
  let n := (r.scale 10 (significantDigits - 1 - lead)).nearest
  let (n, lead) := if n = Nat.pow 10 significantDigits then (n / 10, lead + 1) else (n, lead)
  let mantissa := match Nat.toDigits 10 n with
    | [] => []
    | d :: ds => d :: '.' :: ds
  withoutEndZeros mantissa ++ (Number.exponentText lead).toList

/-- How many digits stand after the point, for a number between the bounds of positional writing:
as many as make the significant ones, where one leading zero counts for a digit. -/
def decimalPlaces (x : Float) : Nat :=
  let place := (Float.log10 x).toInt64.toInt
  (if 0 < place then (significantDigits : Int) - place - 1 else significantDigits - place).toNat

/-- The text of a number: whole numbers of up to thirty-one bits in full, others positionally
between a hundred-thousandth and a billion, and with an exponent outside. -/
def numberText (x : Float) : String :=
  match Number.scaled x with
  | .notANumber => "NaN"
  | .infinite negative => if negative then "-Infinity" else "Infinity"
  | .finite negative m q =>
    if m = 0 then "0"
    else
      let n := Number.wholePart m q
      let size := x.abs
      let r := (Number.Ratio.mk m 1).scale 2 q
      let body :=
        if Number.isWhole m q && n < 2147483647 then Nat.toDigits 10 n
        else if size > 1e9 || size < 1e-5 then exponentText r
        else withoutEndZeros (fixedText r (decimalPlaces size))
      String.ofList (if negative then '-' :: body else body)

end Quarry.Query
