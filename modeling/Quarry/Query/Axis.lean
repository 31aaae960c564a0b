import Quarry.Query.Expr
import Quarry.Query.Place

namespace Quarry.Query

namespace Place

def siblings (d : Document) (p : Place) : List Place :=
  match p with
  | .attribute .. | .scope .. => []
  | _ => ((p.parent?).map (children d)).getD []

/-- The places that come later, without those inside; for an attribute or a namespace they are
those of its element. -/
def later (d : Document) (p : Place) : List Place :=
  let k := p.carrier.key
  (document.descendants d).filter fun q => k < q.key && !k.isPrefixOf q.key

def earlier (d : Document) (p : Place) : List Place :=
  let k := p.carrier.key
  (document.descendants d).filter fun q => q.key < k && !q.key.isPrefixOf k

end Place

def Axis.places (d : Document) (p : Place) : Axis → List Place
  | .ancestor => p.ancestors
  | .ancestorOrSelf => p :: p.ancestors
  | .attribute => match p with
    | .item path => match d.itemAt? path with
      | some i => (List.range i.attributes.length).map (.attribute path)
      | none => []
    | _ => []
  | .child => p.children d
  | .descendant => p.descendants d
  | .descendantOrSelf => p :: p.descendants d
  | .following => p.later d
  | .followingSibling => (p.siblings d).filter fun q => p.key < q.key
  | .scope => match p with
    | .item path =>
      if (d.itemAt? path).any Item.isElement then
        (List.range (Place.bindings d path).length).map (.scope path)
      else []
    | _ => []
  | .parent => p.parent?.toList
  | .preceding => (p.earlier d).reverse
  | .precedingSibling => ((p.siblings d).filter fun q => q.key < p.key).reverse
  | .self => [p]

def boundSpace? (q : String) : Option String :=
  if q = "xml" then some Markup.Xml.xmlSpace else none

def Axis.isPrincipal (axis : Axis) (d : Document) (p : Place) : Bool :=
  match axis with
  | .attribute => (p.attribute? d).isSome
  | .scope => (p.binding? d).isSome
  | _ => (p.item? d).any Item.isElement

def Place.isNode (d : Document) (p : Place) : Bool :=
  match (p.item? d).map Item.label with
  | some (.entity ..) => false
  | _ => true

/-- Whether the name of a place has a base name and a namespace. A namespace is named by its
qualifier, whatever the space. -/
def Place.hasName (d : Document) (p : Place) (space : Option String) (base : String) : Bool :=
  match p.binding? d with
  | some (q, _) => q = some base
  | none => (p.name? d).any fun n => n.base = base && n.space = space

def Place.inSpace (d : Document) (p : Place) (space : String) : Bool :=
  (p.binding? d).isSome || (p.name? d).any fun n => n.space = some space

/-- A test as a property of places; there is none if a qualifier has no namespace. -/
def Test.onAxis? (axis : Axis) (d : Document) : Test → Option (Place → Bool)
  | .anyName none => some (axis.isPrincipal d)
  | .anyName (some q) => do
    let space ← boundSpace? q
    return fun p => axis.isPrincipal d p && p.inSpace d space
  | .name none base => some fun p => axis.isPrincipal d p && p.hasName d none base
  | .name (some q) base => do
    let space ← boundSpace? q
    return fun p => axis.isPrincipal d p && p.hasName d (some space) base
  | .node => some (Place.isNode d)
  | .text => some fun
    | .text _ | .tail _ => true
    | _ => false
  | .comment => some fun p => (p.item? d).any fun i => i.label = .comment
  | .instruction target => some fun p => match (p.item? d).map Item.label with
    | some (.instruction t) => target.all (· = t)
    | _ => false

end Quarry.Query
