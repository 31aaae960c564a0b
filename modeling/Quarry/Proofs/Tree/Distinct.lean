import Mathlib.Data.List.TakeDrop
import Quarry.Tree.Growth

namespace Quarry

def Label.Distinct : Label → Prop
  | .element _ as _ => (as.map (·.name.expanded)).Nodup
  | _ => True

/-- An item in which, at any depth, no element has two attributes of one name. -/
inductive Item.Distinct : Item → Prop
  | mk {l t cs u} (label : l.Distinct) (children : ∀ c ∈ cs, Distinct c) : Distinct (.mk l t cs u)

def Document.Distinct (d : Document) : Prop := ∀ i ∈ d.items, i.Distinct

namespace Item.Distinct

variable {i j : Item}

theorem attributes (h : i.Distinct) : (i.attributes.map (·.name.expanded)).Nodup := by
  obtain ⟨hl, -⟩ := h
  rename_i l t cs u
  cases l with
  | element name as bindings => exact hl
  | _ => exact .nil

theorem withTail (h : i.Distinct) (t : String) : (i.withTail t).Distinct := by
  obtain ⟨hl, hc⟩ := h
  exact .mk hl hc

theorem descend (h : i.Distinct) {path : List Nat} (hj : i.descend path = some j) :
    j.Distinct := by
  induction path generalizing i with
  | nil =>
    cases hj
    exact h
  | cons n path ih =>
    obtain ⟨hl, hc⟩ := h
    rw [Item.descend] at hj
    split at hj
    · cases hj
    · rename_i c hn
      exact ih (hc c (List.mem_of_getElem? hn)) hj

end Item.Distinct

theorem Document.Distinct.itemAt? {d : Document} (h : d.Distinct) {path : List Nat} {i : Item}
    (hi : d.itemAt? path = some i) : i.Distinct := by
  cases path with
  | nil => cases hi
  | cons n path =>
    obtain ⟨j, hj, hi⟩ := Option.bind_eq_some_iff.mp hi
    exact (h j (List.mem_of_getElem? hj)).descend hi

structure OpenItem.Distinct (o : OpenItem) : Prop where
  label : o.label.Distinct
  done : ∀ i ∈ o.done, i.Distinct

structure Growth.Distinct (g : Growth) : Prop where
  opened : ∀ o ∈ g.opened, o.Distinct
  top : ∀ i ∈ g.top, i.Distinct

namespace OpenItem.Distinct

variable {o : OpenItem}

theorem close (h : o.Distinct) : o.close.Distinct :=
  .mk h.label fun i hi => h.done i (List.mem_reverse.mp hi)

theorem addItem (h : o.Distinct) {i : Item} (hi : i.Distinct) : (o.addItem i).Distinct :=
  ⟨h.label, List.forall_mem_cons.mpr ⟨hi, h.done⟩⟩

theorem addText (h : o.Distinct) (s : String) : (o.addText s).Distinct := by
  obtain ⟨l, t, done⟩ := o
  cases done with
  | nil => exact ⟨h.label, h.done⟩
  | cons i is =>
    obtain ⟨hi, his⟩ := List.forall_mem_cons.mp h.done
    exact ⟨h.label, List.forall_mem_cons.mpr ⟨hi.withTail _, his⟩⟩

end OpenItem.Distinct

namespace Growth.Distinct

variable {g : Growth}

theorem empty : Growth.empty.Distinct := ⟨by simp [Growth.empty], by simp [Growth.empty]⟩

theorem addItem (h : g.Distinct) {i : Item} (hi : i.Distinct) : (g.addItem i).Distinct := by
  obtain ⟨opened, top⟩ := g
  cases opened with
  | nil => exact ⟨h.opened, List.forall_mem_cons.mpr ⟨hi, h.top⟩⟩
  | cons o os =>
    obtain ⟨ho, hos⟩ := List.forall_mem_cons.mp h.opened
    exact ⟨List.forall_mem_cons.mpr ⟨ho.addItem hi, hos⟩, h.top⟩

theorem addText (h : g.Distinct) (s : String) : (g.addText s).Distinct := by
  obtain ⟨opened, top⟩ := g
  cases opened with
  | nil => exact h
  | cons o os =>
    obtain ⟨ho, hos⟩ := List.forall_mem_cons.mp h.opened
    exact ⟨List.forall_mem_cons.mpr ⟨ho.addText s, hos⟩, h.top⟩

theorem push (h : g.Distinct) {l : Label} (hl : l.Distinct) : (g.push l).Distinct :=
  ⟨List.forall_mem_cons.mpr ⟨⟨hl, by simp [OpenItem.start]⟩, h.opened⟩, h.top⟩

theorem pop (h : g.Distinct) : g.pop.Distinct := by
  obtain ⟨opened, top⟩ := g
  cases opened with
  | nil => exact h
  | cons o os =>
    obtain ⟨ho, hos⟩ := List.forall_mem_cons.mp h.opened
    have hg : Growth.Distinct ⟨os, top⟩ := ⟨hos, h.top⟩
    exact hg.addItem ho.close

theorem closeAll (h : g.Distinct) : g.closeAll.Distinct := by
  -- the items that are counted are those open at the start, while the growth changes
  have hall : ∀ (os : List OpenItem) (g : Growth), g.Distinct →
      (os.foldl (fun h _ => h.pop) g).Distinct := by
    intro os
    induction os with
    | nil => exact fun _ hg => hg
    | cons o os ih => exact fun _ hg => ih _ hg.pop
  exact hall g.opened g h

theorem document? (h : g.Distinct) {d : Document} (hd : g.document? = some d) : d.Distinct := by
  rw [Growth.document?, List.span_eq_takeWhile_dropWhile] at hd
  split at hd
  · cases hd
  · rename_i before root after hs
    cases hd
    have hi : g.closeAll.top.reverse = before ++ root :: after := by
      rw [← List.takeWhile_append_dropWhile (p := fun i => !i.isElement)
        (l := g.closeAll.top.reverse), (Prod.mk.inj hs).1, (Prod.mk.inj hs).2]
    intro i hm
    rw [Document.items, ← hi] at hm
    exact h.closeAll.top i (List.mem_reverse.mp hm)

end Growth.Distinct

end Quarry
