import Quarry.Markup.Xml.Declaration

namespace Quarry.Markup.Xml

def balanced : List String → List Token → Bool
  | opened, [] => opened.isEmpty
  | opened, .startTag name _ closed :: ts => balanced (if closed then opened else name :: opened) ts
  | name :: opened, .endTag n :: ts => name = n && balanced opened ts
  | [], .endTag _ :: _ => false
  | opened, _ :: ts => balanced opened ts

def entityDepth : Nat := 40

/-- The tokens of an entity's content, with the entities inside it replaced in turn. -/
def entityTokens? (d : Declarations) : Nat → String → Option (List Token)
  | 0, _ => none
  | fuel + 1, name => do
    match d.entity? name with
    | some (.internal s) =>
      let ts ← tokens? s
      if !balanced [] ts then none
      else
        let parts ← ts.mapM fun t => match t with
          | .reference n => entityTokens? d fuel n
          | .text s => some [.literal s]
          | t => some [t]
        return parts.flatten
    | some .external => return []
    | none => if d.complete then none else some []

def tokenText (ts : List Token) : List Char :=
  ts.flatMap fun
    | .text s | .literal s | .quoted s => s
    | _ => []

/-- The characters that an entity stands for inside an attribute value, where no quote ends it. -/
def entityChars? (d : Declarations) : Nat → String → Option (List Char)
  | 0, _ => none
  | fuel + 1, name => do
    match d.entity? name with
    | some (.internal s) =>
      let (parts, _) ← splitValue? '\x00' (s.length + 2) (s ++ ['\x00'])
      let chars ← parts.mapM fun
        | .char c => some [c]
        | .entity n => entityChars? d fuel n
      return chars.flatten
    | some .external => none
    | none => if d.complete then none else some []

def valueChars? (d : Declarations) (parts : List ValuePart) : Option (List Char) := do
  let chars ← parts.mapM fun
    | .char c => some [c]
    | .entity n => entityChars? d entityDepth n
  return chars.flatten

end Quarry.Markup.Xml
