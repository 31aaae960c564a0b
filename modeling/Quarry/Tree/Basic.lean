namespace Quarry

structure Name where
  qualifier : Option String
  space : Option String
  base : String
  deriving DecidableEq, Repr, Inhabited

def Name.plain (base : String) : Name := ⟨none, none, base⟩

def Name.expanded (n : Name) : String :=
  match n.space with
  | none => n.base
  | some s => "\x7b" ++ s ++ "\x7d" ++ n.base

def Name.qualified (n : Name) : String :=
  match n.qualifier with
  | none => n.base
  | some q => q ++ ":" ++ n.base

structure Attribute where
  name : Name
  value : String
  /-- The value identifies the element in its document. -/
  isId : Bool
  deriving DecidableEq, Repr

abbrev Binding := Option String × String

inductive Label
  | element (name : Name) (attributes : List Attribute) (bindings : List Binding)
  | comment
  | instruction (target : String)
  | entity (name : String) (value : String)
  deriving DecidableEq, Repr

/-- An item with the text before its first child, its children, and the text that follows it. The
text of a comment or an instruction is its content. -/
inductive Item
  | mk (label : Label) (text : String) (children : List Item) (tail : String)

namespace Item

mutual

def same : Item → Item → Bool
  | .mk l t cs u, .mk l' t' cs' u' => l = l' && t = t' && sameAll cs cs' && u = u'

def sameAll : List Item → List Item → Bool
  | [], [] => true
  | a :: as, b :: bs => same a b && sameAll as bs
  | _, _ => false

end

mutual

theorem same_iff : (a b : Item) → (same a b = true ↔ a = b)
  | .mk l t cs u, .mk l' t' cs' u' => by
    simp [same, sameAll_iff cs cs', and_assoc]

theorem sameAll_iff : (as bs : List Item) → (sameAll as bs = true ↔ as = bs)
  | [], [] => by simp [sameAll]
  | [], _ :: _ => by simp [sameAll]
  | _ :: _, [] => by simp [sameAll]
  | a :: as, b :: bs => by
    simp [sameAll, same_iff a b, sameAll_iff as bs]

end

instance : DecidableEq Item := fun a b => decidable_of_iff _ (same_iff a b)

def label : Item → Label
  | .mk l _ _ _ => l

def text : Item → String
  | .mk _ t _ _ => t

def children : Item → List Item
  | .mk _ _ cs _ => cs

def tail : Item → String
  | .mk _ _ _ t => t

def withTail (i : Item) (t : String) : Item :=
  .mk i.label i.text i.children t

def isElement (i : Item) : Bool :=
  match i.label with
  | .element .. => true
  | _ => false

def name? (i : Item) : Option Name :=
  match i.label with
  | .element n _ _ => some n
  | _ => none

def attributes (i : Item) : List Attribute :=
  match i.label with
  | .element _ as _ => as
  | _ => []

def bindings (i : Item) : List Binding :=
  match i.label with
  | .element _ _ bs => bs
  | _ => []

def tag (i : Item) : String :=
  match i.label with
  | .element n _ _ => n.expanded
  | .comment => "#comment"
  | .instruction _ => "#pi"
  | .entity _ _ => "#entity"

mutual

/-- The characters inside an item: those of a comment or an instruction are its content, those of
an entity reference what it stands for, and comments inside an element are passed over. -/
def content : Item → String
  | .mk (.element ..) t cs _ => t ++ contents cs
  | .mk (.entity _ v) _ _ _ => v
  | .mk _ t _ _ => t

def contents : List Item → String
  | [] => ""
  | .mk (.element _ _ _) t cs tail :: rest => t ++ contents cs ++ tail ++ contents rest
  | .mk (.entity _ v) _ _ tail :: rest => v ++ tail ++ contents rest
  | .mk _ _ _ tail :: rest => tail ++ contents rest

end

def descend : Item → List Nat → Option Item
  | i, [] => some i
  | i, n :: path =>
    match i.children[n]? with
    | none => none
    | some c => c.descend path

end Item

structure Document where
  before : List Item
  root : Item
  after : List Item
  deriving DecidableEq

def Document.items (d : Document) : List Item :=
  d.before ++ d.root :: d.after

/-- The item at a path whose first index counts the items of the document. -/
def Document.itemAt? (d : Document) : List Nat → Option Item
  | [] => none
  | n :: path => d.items[n]?.bind (·.descend path)

end Quarry
