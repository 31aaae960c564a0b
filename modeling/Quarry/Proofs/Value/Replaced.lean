import Quarry.Proofs.Value.Members

namespace Quarry

namespace Value

def isLeaf : Value → Bool
  | .node _ | .dict _ | .list _ | .tuple _ => false
  | _ => true

/-- Induction on what a value contains; the keys of a mapping do not count. -/
@[elab_as_elim]
theorem induction {motive : Value → Prop} (node : ∀ n, motive (.node n))
    (dict : ∀ es : List (Value × Value), (∀ v ∈ es.map Prod.snd, motive v) → motive (.dict es))
    (list : ∀ vs : List Value, (∀ v ∈ vs, motive v) → motive (.list vs))
    (tuple : ∀ vs : List Value, (∀ v ∈ vs, motive v) → motive (.tuple vs))
    (leaf : ∀ v : Value, v.isLeaf → motive v) (v : Value) : motive v := by
  refine @Value.rec motive (fun vs => ∀ v ∈ vs, motive v)
    (fun es => ∀ v ∈ es.map Prod.snd, motive v) (fun e => motive e.2) (leaf _ rfl)
    (fun _ => leaf _ rfl) (fun _ => leaf _ rfl) (fun _ => leaf _ rfl) (fun _ _ => leaf _ rfl)
    (fun _ => leaf _ rfl) list tuple dict node (fun _ _ => leaf _ rfl) ?_ ?_ ?_ ?_ ?_ v
  · simp
  · intro w ws hw hws x hx
    rcases List.mem_cons.mp hx with rfl | hx
    · exact hw
    · exact hws x hx
  · simp
  · intro e es he hes x hx
    rcases List.mem_cons.mp hx with rfl | hx
    · exact he
    · exact hes x hx
  · exact fun _ _ _ h => h

/-- A value with something in place of each node inside it: lists and tuples come back as lists,
mappings with the same keys in the same order, and all else is kept. -/
inductive Replaced (r : Value → Value → Prop) : Value → Value → Prop
  | node {n : Node} {w : Value} : r (.node n) w → Replaced r (.node n) w
  | dict {es fs : List (Value × Value)} : es.map Prod.fst = fs.map Prod.fst →
      List.Forall₂ (Replaced r) (es.map Prod.snd) (fs.map Prod.snd) →
      Replaced r (.dict es) (.dict fs)
  | list {vs ws : List Value} : List.Forall₂ (Replaced r) vs ws → Replaced r (.list vs) (.list ws)
  | tuple {vs ws : List Value} : List.Forall₂ (Replaced r) vs ws →
      Replaced r (.tuple vs) (.list ws)
  | leaf {v : Value} : v.isLeaf → Replaced r v v

namespace Replaced

variable {r s : Value → Value → Prop} {w : Value}

theorem node_iff {n : Node} : Replaced r (.node n) w ↔ r (.node n) w := by
  constructor
  · rintro (h | _ | _ | _ | h)
    · exact h
    · cases h
  · exact .node

theorem dict_iff {es : List (Value × Value)} : Replaced r (.dict es) w ↔
    ∃ fs, w = .dict fs ∧ es.map Prod.fst = fs.map Prod.fst ∧
      List.Forall₂ (Replaced r) (es.map Prod.snd) (fs.map Prod.snd) := by
  constructor
  · rintro (_ | ⟨hk, hv⟩ | _ | _ | h)
    · exact ⟨_, rfl, hk, hv⟩
    · cases h
  · rintro ⟨fs, rfl, hk, hv⟩
    exact .dict hk hv

theorem list_iff {vs : List Value} : Replaced r (.list vs) w ↔
    ∃ ws, w = .list ws ∧ List.Forall₂ (Replaced r) vs ws := by
  constructor
  · rintro (_ | _ | hv | _ | h)
    · exact ⟨_, rfl, hv⟩
    · cases h
  · rintro ⟨ws, rfl, hv⟩
    exact .list hv

theorem tuple_iff {vs : List Value} : Replaced r (.tuple vs) w ↔
    ∃ ws, w = .list ws ∧ List.Forall₂ (Replaced r) vs ws := by
  constructor
  · rintro (_ | _ | _ | hv | h)
    · exact ⟨_, rfl, hv⟩
    · cases h
  · rintro ⟨ws, rfl, hv⟩
    exact .tuple hv

theorem leaf_iff {v : Value} (hl : v.isLeaf) : Replaced r v w ↔ v = w := by
  constructor
  · rintro (_ | _ | _ | _ | _)
    · cases hl
    · cases hl
    · cases hl
    · cases hl
    · rfl
  · rintro rfl
    exact .leaf hl

end Replaced

@[simp]
theorem replaceNodes_tuple (f : Value → Outcome Value) (vs : List Value) :
    replaceNodes f (.tuple vs) = Value.list <$> vs.mapM (replaceNodes f) := by
  rw [replaceNodes, replaceInAll_eq_mapM, map_eq_pure_bind]

theorem replaceNodes_leaf (f : Value → Outcome Value) {v : Value} (h : v.isLeaf) :
    replaceNodes f v = .ok v := by
  cases v <;> first | rfl | cases h

theorem replaceInEntries_eq_ok {f : Value → Outcome Value} {es fs : List (Value × Value)} :
    replaceInEntries f es = .ok fs ↔ es.map Prod.fst = fs.map Prod.fst ∧
      List.Forall₂ (fun v w => replaceNodes f v = .ok w) (es.map Prod.snd) (fs.map Prod.snd) :=
  entries_eq_ok_iff (replaceInEntries f) (replaceNodes f) rfl fun _ _ _ => rfl

theorem exists_entries {ks vs : List Value} (h : vs.length = ks.length) :
    ∃ es : List (Value × Value), es.map Prod.fst = ks ∧ es.map Prod.snd = vs :=
  ⟨ks.zip vs, List.map_fst_zip (Nat.le_of_eq h.symm), List.map_snd_zip (Nat.le_of_eq h)⟩

theorem forall₂_congr_of_mem {α β : Type} {R S : α → β → Prop} {vs : List α} {ws : List β}
    (h : ∀ v ∈ vs, ∀ w, R v w ↔ S v w) : List.Forall₂ R vs ws ↔ List.Forall₂ S vs ws := by
  induction vs generalizing ws with
  | nil => simp
  | cons v vs ih =>
    have hv := h v (by simp)
    have hvs : ∀ us, List.Forall₂ R vs us ↔ List.Forall₂ S vs us :=
      fun _ => ih fun u hu => h u (by simp [hu])
    simp only [List.forall₂_cons_left_iff, hv, hvs]

theorem forall₂_comp {R S : Value → Value → Prop} {vs ws : List Value} :
    (∃ us, List.Forall₂ R vs us ∧ List.Forall₂ S us ws) ↔
      List.Forall₂ (fun v w => ∃ u, R v u ∧ S u w) vs ws := by
  constructor
  · rintro ⟨us, hr, hs⟩
    induction hr generalizing ws with
    | nil => cases hs; exact .nil
    | cons hr _ ih =>
      obtain ⟨w, ws', hw, hws, rfl⟩ := List.forall₂_cons_left_iff.mp hs
      exact .cons ⟨_, hr, hw⟩ (ih hws)
  · intro h
    induction h with
    | nil => exact ⟨[], .nil, .nil⟩
    | cons h _ ih =>
      obtain ⟨u, hr, hs⟩ := h
      obtain ⟨us, hrs, hss⟩ := ih
      exact ⟨u :: us, .cons hr hrs, .cons hs hss⟩

/-- A walk succeeds with what its function gives in place of each node. -/
theorem replaceNodes_eq_ok {f : Value → Outcome Value} {v w : Value} :
    replaceNodes f v = .ok w ↔ Replaced (fun x y => f x = .ok y) v w := by
  induction v using Value.induction generalizing w with
  | node n => rw [replaceNodes, Replaced.node_iff]
  | dict es ih =>
    rw [replaceNodes, Replaced.dict_iff, ← map_eq_pure_bind, Outcome.map_eq_ok]
    simp only [replaceInEntries_eq_ok, forall₂_congr_of_mem fun v hv w => ih v hv]
    exact exists_congr fun fs => by rw [and_comm, eq_comm]
  | list vs ih =>
    rw [replaceNodes_list, Replaced.list_iff, Outcome.map_eq_ok]
    simp only [Outcome.mapM_eq_ok, forall₂_congr_of_mem fun v hv w => ih v hv]
    exact exists_congr fun ws => by rw [and_comm, eq_comm]
  | tuple vs ih =>
    rw [replaceNodes_tuple, Replaced.tuple_iff, Outcome.map_eq_ok]
    simp only [Outcome.mapM_eq_ok, forall₂_congr_of_mem fun v hv w => ih v hv]
    exact exists_congr fun ws => by rw [and_comm, eq_comm]
  | leaf v h => rw [replaceNodes_leaf f h, Replaced.leaf_iff h, Except.ok.injEq]

namespace Replaced

variable {r s : Value → Value → Prop}

theorem forall₂_comp_iff {vs ws : List Value}
    (h : ∀ v ∈ vs, ∀ {w}, (∃ u, Replaced r v u ∧ Replaced s u w) ↔
      Replaced (fun x y => ∃ u, r x u ∧ Replaced s u y) v w) :
    (∃ us, List.Forall₂ (Replaced r) vs us ∧ List.Forall₂ (Replaced s) us ws) ↔
      List.Forall₂ (Replaced fun x y => ∃ u, r x u ∧ Replaced s u y) vs ws :=
  forall₂_comp.trans (forall₂_congr_of_mem fun v hv _ => h v hv)

/-- One walk after another is a single walk that goes on into what the first one put in place. -/
theorem comp_iff {v w : Value} : (∃ u, Replaced r v u ∧ Replaced s u w) ↔
    Replaced (fun x y => ∃ u, r x u ∧ Replaced s u y) v w := by
  induction v using Value.induction generalizing w with
  | node n => simp only [node_iff]
  | dict es ih =>
    constructor
    · rintro ⟨_, hu, hw⟩
      obtain ⟨fs, rfl, hf, hfs⟩ := dict_iff.mp hu
      obtain ⟨gs, rfl, hg, hgs⟩ := dict_iff.mp hw
      exact .dict (hf.trans hg) ((forall₂_comp_iff ih).mp ⟨_, hfs, hgs⟩)
    · intro h
      obtain ⟨gs, rfl, hg, hgs⟩ := dict_iff.mp h
      obtain ⟨us, hu, hw⟩ := (forall₂_comp_iff ih).mpr hgs
      have hl : us.length = (es.map Prod.fst).length := by simpa using hu.length_eq.symm
      obtain ⟨fs, hf, rfl⟩ := exists_entries hl
      exact ⟨.dict fs, .dict hf.symm hu, .dict (hf.trans hg) hw⟩
  | list vs ih =>
    constructor
    · rintro ⟨_, hu, hw⟩
      obtain ⟨us, rfl, hus⟩ := list_iff.mp hu
      obtain ⟨ws, rfl, hws⟩ := list_iff.mp hw
      exact .list ((forall₂_comp_iff ih).mp ⟨us, hus, hws⟩)
    · intro h
      obtain ⟨ws, rfl, hws⟩ := list_iff.mp h
      obtain ⟨us, hu, hw⟩ := (forall₂_comp_iff ih).mpr hws
      exact ⟨.list us, .list hu, .list hw⟩
  | tuple vs ih =>
    constructor
    · rintro ⟨_, hu, hw⟩
      obtain ⟨us, rfl, hus⟩ := tuple_iff.mp hu
      obtain ⟨ws, rfl, hws⟩ := list_iff.mp hw
      exact .tuple ((forall₂_comp_iff ih).mp ⟨us, hus, hws⟩)
    · intro h
      obtain ⟨ws, rfl, hws⟩ := tuple_iff.mp h
      obtain ⟨us, hu, hw⟩ := (forall₂_comp_iff ih).mpr hws
      exact ⟨.list us, .tuple hu, .list hw⟩
  | leaf v h =>
    simp only [leaf_iff h, exists_eq_left']

end Replaced

theorem replaceNodes_bind_eq_ok {f g : Value → Outcome Value} {v w : Value} :
    replaceNodes f v >>= replaceNodes g = .ok w ↔
      replaceNodes (fun x => f x >>= replaceNodes g) v = .ok w := by
  simp only [Outcome.bind_eq_ok, replaceNodes_eq_ok]
  exact Replaced.comp_iff

end Value

end Quarry
