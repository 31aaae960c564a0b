import Quarry.Tree.Basic

namespace Quarry

/-- An item that is still open, with its finished children, the last one first. -/
structure OpenItem where
  label : Label
  text : String
  done : List Item

namespace OpenItem

def start (l : Label) : OpenItem := ⟨l, "", []⟩

def close (o : OpenItem) : Item := .mk o.label o.text o.done.reverse ""

def addItem (o : OpenItem) (i : Item) : OpenItem := { o with done := i :: o.done }

def addText (o : OpenItem) (s : String) : OpenItem :=
  match o.done with
  | [] => { o with text := o.text ++ s }
  | i :: is => { o with done := i.withTail (i.tail ++ s) :: is }

def endsInText (o : OpenItem) : Bool :=
  match o.done with
  | [] => !o.text.isEmpty
  | i :: _ => !i.tail.isEmpty

def startsWithText (o : OpenItem) : Bool := !o.text.isEmpty

def isEmpty (o : OpenItem) : Bool := o.text.isEmpty && o.done.isEmpty

end OpenItem

/-- The open items, and the finished items of the document, the last one first. -/
structure Growth where
  opened : List OpenItem
  top : List Item

namespace Growth

def empty : Growth := ⟨[], []⟩

def addItem (g : Growth) (i : Item) : Growth :=
  match g.opened with
  | [] => { g with top := i :: g.top }
  | o :: os => { g with opened := o.addItem i :: os }

def addText (g : Growth) (s : String) : Growth :=
  match g.opened with
  | [] => g
  | o :: os => { g with opened := o.addText s :: os }

def push (g : Growth) (l : Label) : Growth := { g with opened := .start l :: g.opened }

def pop (g : Growth) : Growth :=
  match g.opened with
  | [] => g
  | o :: os => addItem { g with opened := os } o.close

def depth (g : Growth) : Nat := g.opened.length

def closeAll (g : Growth) : Growth :=
  g.opened.foldl (fun h _ => h.pop) g

/-- The document whose root is the first element, if there is one. -/
def document? (g : Growth) : Option Document :=
  let items := g.closeAll.top.reverse
  match items.span fun i => !i.isElement with
  | (_, []) => none
  | (before, root :: after) => some ⟨before, root, after⟩

end Growth

end Quarry
