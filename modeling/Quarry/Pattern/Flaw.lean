namespace Quarry.Pattern

inductive FlawKind
  | badEscape
  | badRange
  | missingBracket
  | missingParen
  | unexpectedParen
  | trailingBackslash
  | nothingToRepeat
  | repeatSize
  | stackedRepeat
  | badOperator
  | badName
  | cutOff
  deriving DecidableEq, Repr

def FlawKind.text : FlawKind → String
  | badEscape => "invalid escape sequence"
  | badRange => "invalid character class range"
  | missingBracket => "missing ]"
  | missingParen => "missing )"
  | unexpectedParen => "unexpected )"
  | trailingBackslash => "trailing \\"
  | nothingToRepeat => "no argument for repetition operator"
  | repeatSize => "invalid repetition size"
  | stackedRepeat => "bad repetition operator"
  | badOperator => "invalid perl operator"
  | badName => "invalid named capture group"
  | cutOff => "invalid UTF-8"

structure Flaw where
  kind : FlawKind
  fragment : List Char
  deriving DecidableEq, Repr

def Flaw.message (f : Flaw) : String :=
  if f.fragment.isEmpty then f.kind.text else f.kind.text ++ ": " ++ String.ofList f.fragment

def readUpTo (s rest : List Char) : List Char :=
  s.take (s.length - rest.length)

def fail {α : Type} (kind : FlawKind) (fragment : List Char) : Except Flaw α :=
  .error ⟨kind, fragment⟩

end Quarry.Pattern
