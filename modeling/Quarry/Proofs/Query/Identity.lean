import Quarry.Proofs.Markup.Distinct
import Quarry.Proofs.Value.Place

namespace Quarry.Query

def Place.IsTreeNode : Place → Prop
  | .item _ | .text _ | .tail _ | .attribute _ _ => True
  | .document | .scope _ _ => False

/-- What some query in a document returns for a node of the tree. -/
structure Found (d : Document) (p : Place) (x : Value) : Prop where
  isTreeNode : p.IsTreeNode
  value : p.value? d = some x
  returned : ∃ n q xs, n.document = d ∧ run (.node n) q = .ok xs ∧ x ∈ xs

def Remembers (x : Value) : Prop := (∃ n, x = .node n) ∨ ∃ s o, x = .str s o ∧ o.owner?.isSome

theorem isTreeNode_of_remembers {d : Document} {p : Place} {x : Value} (h : p.value? d = some x)
    (hx : Remembers x) : p.IsTreeNode := by
  cases p with
  | document => cases h
  | scope path k =>
    obtain ⟨b, -, h⟩ := Option.bind_eq_some_iff.mp h
    cases h
    simp [Remembers] at hx
  | _ => trivial

/-- Whatever a query returns and remembers its node was found there. -/
theorem exists_found {n : Node} {q : String} {xs : List Value} (h : run (.node n) q = .ok xs)
    {x : Value} (hx : x ∈ xs) (hr : Remembers x) : ∃ p, Found n.document p x := by
  have hret : ∃ m q xs, m.document = n.document ∧ run (.node m) q = .ok xs ∧ x ∈ xs :=
    ⟨n, q, xs, rfl, h, hx⟩
  simp only [run] at h
  split at h
  · cases h
  split at h
  · rename_i vs hv
    cases h
    obtain ⟨e, -, hv⟩ := Option.bind_eq_some_iff.mp hv
    obtain ⟨r, -, hv⟩ := Option.bind_eq_some_iff.mp hv
    cases hv
    cases r with
    | places ps =>
      obtain ⟨p, -, hp⟩ := List.mem_filterMap.mp hx
      exact ⟨p, isTreeNode_of_remembers hp hr, hp, hret⟩
    | number y | text s | truth b =>
      obtain rfl := List.mem_singleton.mp hx
      simp [Remembers, Origin.owner?] at hr
  · cases h

theorem findIdx?_attribute {as : List Attribute} (h : (as.map (·.name.expanded)).Nodup) {i : Nat}
    {a : Attribute} (ha : as[i]? = some a) :
    as.findIdx? (·.name.expanded = a.name.expanded) = some i := by
  obtain ⟨hi, rfl⟩ := List.getElem?_eq_some_iff.mp ha
  refine List.findIdx?_eq_some_iff_getElem.mpr ⟨hi, by simp, fun j hj he => ?_⟩
  have hne := List.pairwise_iff_getElem.mp h j i (by simp; omega) (by simpa using hi) hj
  simp_all

theorem Place.place?_of_value? {d : Document} (hd : d.Distinct) {p : Place} {x : Value}
    (hp : p.IsTreeNode) (h : p.value? d = some x) : x.place? = some p := by
  match p, h with
  | .item path, h | .text path, h | .tail path, h =>
    cases h
    rfl
  | .attribute path k, h =>
    obtain ⟨a, ha, h⟩ := Option.bind_eq_some_iff.mp h
    obtain ⟨i, hi, ha⟩ := Option.bind_eq_some_iff.mp ha
    cases h
    have hk := findIdx?_attribute (hd.itemAt? hi).attributes ha
    simp [Value.place?, Node.item?, hi, hk]

theorem Found.place? {d : Document} (hd : d.Distinct) {p : Place} {x : Value}
    (h : Found d p x) : x.place? = some p :=
  Place.place?_of_value? hd h.isTreeNode h.value

theorem Found.samePlace_iff {d : Document} (hd : d.Distinct) {p q : Place} {x y : Value}
    (hx : Found d p x) (hy : Found d q y) : x.samePlace y = true ↔ p = q := by
  have hpx := hx.place? hd
  have hqy := hy.place? hd
  rw [Value.samePlace_iff (by simp [hpx]) (by simp [hqy])]
  constructor
  · rintro rfl
    exact Option.some.inj (hpx.symm.trans hqy)
  · rintro rfl
    exact Option.some.inj (hx.value.symm.trans hy.value)

/-- Identity of place decides whether two results are the same node of a parsed tree, whichever
queries return them, and is an equivalence on such results. -/
theorem samePlace_iff_of_parse {markup : Markup} {v : Value} {config : Config} {root : Node}
    (h : markup.parse v config = .ok (.node root)) :
    (∀ n q xs x, n.document = root.document → run (.node n) q = .ok xs → x ∈ xs → Remembers x →
      ∃ p, Found root.document p x) ∧
    (∀ p q x y, Found root.document p x → Found root.document q y →
      (x.samePlace y = true ↔ p = q)) ∧
    (∀ p x, Found root.document p x → x.samePlace x = true) ∧
    (∀ p q x y, Found root.document p x → Found root.document q y → x.samePlace y = true →
      y.samePlace x = true) ∧
    ∀ p q r x y z, Found root.document p x → Found root.document q y → Found root.document r z →
      x.samePlace y = true → y.samePlace z = true → x.samePlace z = true := by
  have hd := Markup.parse_distinct h
  refine ⟨fun n q xs x hn hxs hx hr => ?_, fun p q x y hx hy => hx.samePlace_iff hd hy,
    fun p x hx => ?_, fun p q x y hx hy hxy => ?_, fun p q r x y z hx hy hz hxy hyz => ?_⟩
  · rw [← hn]
    exact exists_found hxs hx hr
  · exact (hx.samePlace_iff hd hx).mpr rfl
  · have hpq := (hx.samePlace_iff hd hy).mp hxy
    exact (hy.samePlace_iff hd hx).mpr hpq.symm
  · have hpq := (hx.samePlace_iff hd hy).mp hxy
    have hqr := (hy.samePlace_iff hd hz).mp hyz
    exact (hx.samePlace_iff hd hz).mpr (hpq.trans hqr)

def echo : Document :=
  ⟨[], .mk (.element (.plain "a") [⟨.plain "k", "t", false⟩] []) "t"
    [.mk (.element (.plain "b") [] []) "" [] "t"] "", []⟩

def rootPath : List Nat := [0]

def textOfEcho : Value := .str "t" (.text ⟨rootPath, echo⟩)

def tailOfEcho : Value := .str "t" (.tail ⟨[0, 0], echo⟩)

def echoes : List Value := [.str "t" (.attribute ⟨rootPath, echo⟩ "k"), textOfEcho, tailOfEcho]

theorem parse_echo :
    Markup.xml.parse (.ofString "<a k='t'>t<b/>t</a>") .standard = .ok (.node (.root echo)) := by
  have h : Markup.Xml.parse? .standard none (Markup.utf8Bytes "<a k='t'>t<b/>t</a>") =
      some echo := by
    decide +kernel
  have hx : Markup.parseXml (.ofString "<a k='t'>t<b/>t</a>") .standard = .ok echo := by
    refine Outcome.bind_eq_ok.mpr ⟨none, rfl, Outcome.bind_eq_ok.mpr
      ⟨Markup.utf8Bytes "<a k='t'>t<b/>t</a>", rfl, ?_⟩⟩
    rw [h]
    rfl
  rw [Markup.parse, hx]
  rfl

theorem finds_echoes : Finds (.node (.root echo)) "@k | ./text()" echoes := by
  have hp : (Expr.union (.step .here .attribute (.name none "k") [])
      (.step .here .child .text [])).eval echo ⟨.item rootPath, none⟩ =
      some (.places [.attribute rootPath 0, .text rootPath, .tail [0, 0]]) := by cbv
  exact .of_eval (by decide) (by with_unfolding_all rfl) hp rfl rfl (by decide)

theorem finds_nodes_of_echo :
    Finds (.node (.root echo)) "./node()" [textOfEcho, .node ⟨[0, 0], echo⟩, tailOfEcho] := by
  have hp : (Expr.step .here .child .node []).eval echo ⟨.item rootPath, none⟩ =
      some (.places [.text rootPath, .item [0, 0], .tail [0, 0]]) := by cbv
  exact .of_eval (by decide) (by with_unfolding_all rfl) hp rfl rfl (by decide)

theorem samePlace_iff_of_parse_echo :
    Markup.xml.parse (.ofString "<a k='t'>t<b/>t</a>") .standard = .ok (.node (.root echo)) ∧
    (∀ p q x y, Found echo p x → Found echo q y → (x.samePlace y = true ↔ p = q)) ∧
    Found echo (.text rootPath) textOfEcho ∧ Found echo (.tail [0, 0]) tailOfEcho ∧
    textOfEcho.samePlace textOfEcho = true ∧ textOfEcho.samePlace tailOfEcho = false := by
  obtain ⟨-, hiff, hrefl, -⟩ := samePlace_iff_of_parse parse_echo
  have ht : Found echo (.text rootPath) textOfEcho :=
    ⟨trivial, rfl, _, _, _, rfl, finds_echoes.run, by simp [echoes]⟩
  have hu : Found echo (.tail [0, 0]) tailOfEcho :=
    ⟨trivial, rfl, _, _, _, rfl, finds_nodes_of_echo.run, by simp⟩
  refine ⟨parse_echo, hiff, ht, hu, hrefl _ _ ht, ?_⟩
  rw [← Bool.not_eq_true, hiff _ _ _ _ ht hu]
  simp [rootPath]

end Quarry.Query
