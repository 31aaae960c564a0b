import Quarry.Markup.Xml.Entity
import Quarry.Tree.Basic

namespace Quarry.Markup.Xml

def xmlSpace : String := "http://www.w3.org/XML/1998/namespace"

def xmlnsSpace : String := "http://www.w3.org/2000/xmlns/"

def splitQualified? (name : String) : Option (Option String × String) :=
  match splitLocalName? name.toList with
  | some (base, []) => some (none, base)
  | some (q, ':' :: rest) => match splitLocalName? rest with
    | some (base, []) => some (some q, base)
    | _ => none
  | _ => none

/-- The namespace of a qualifier, in declarations that stand innermost first. -/
def spaceOf? (bindings : List Binding) (q : String) : Option String :=
  if q = "xml" then some xmlSpace else bindings.lookup (some q)

def defaultSpace (bindings : List Binding) : Option String :=
  match bindings.lookup none with
  | some "" => none
  | r => r

def elementName? (bindings : List Binding) (name : String) : Option Name := do
  match ← splitQualified? name with
  | (none, base) => return ⟨none, defaultSpace bindings, base⟩
  | (some q, base) => return ⟨some q, some (← spaceOf? bindings q), base⟩

def attributeName? (bindings : List Binding) (name : String) : Option Name := do
  match ← splitQualified? name with
  | (none, base) => return ⟨none, none, base⟩
  | (some q, base) => return ⟨some q, some (← spaceOf? bindings q), base⟩

def isReferenceChar (c : Char) : Bool :=
  c.isAlphanum || "-._~:/?#[]@!$&'()*+,;=%".toList.contains c

/-- A declaration of a namespace that is allowed: the reserved namespaces stay with their own
qualifier, and only the default may be emptied. -/
def checkBinding? (b : Binding) : Option (List Binding) :=
  let (q, space) := b
  if space = xmlnsSpace || q = some "xmlns" then none
  else if q = some "xml" then if space = xmlSpace then some [] else none
  else if space = xmlSpace then none
  else if q.isSome && space.isEmpty then none
  else if space.toList.all isReferenceChar then some [b]
  else none

def declares? (name : String) : Option (Option String) :=
  match name.toList with
  | ['x', 'm', 'l', 'n', 's'] => some none
  | 'x' :: 'm' :: 'l' :: 'n' :: 's' :: ':' :: q => some (some (String.ofList q))
  | _ => none

end Quarry.Markup.Xml
