import Quarry.Number.Numeral
import Quarry.Text.Shape
import Quarry.Text.Squeeze

namespace Quarry.Number

open Text (Shape)

def isSign (c : Char) : Bool := c = '+' || c = '-'

def isPoint (c : Char) : Bool := c = '.'

namespace Leading

def sign : Shape := .optional (.one isSign)

def mantissa : Shape :=
  .either (.both (.runOfSome Char.isDigit) (.optional (.both (.one isPoint) (.run Char.isDigit))))
    (.both (.one isPoint) (.runOfSome Char.isDigit))

def power : Shape :=
  .optional (.both (.one isPowerLetter) (.both sign (.runOfSome Char.isDigit)))

def shape : Shape := .both (.run Text.isSpace) (.both sign (.both mantissa power))

end Leading

/-- The text of the number that a text starts with, without the spaces. -/
def leading? (s : String) : Option String :=
  (Leading.shape.fit? s.toList).map fun t => String.ofList (Text.trimBoth Text.isBlank t)

end Quarry.Number
