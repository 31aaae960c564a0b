import Mathlib.Data.List.Nodup
import Mathlib.Order.Nat
import Quarry.Pattern.Compile
import Quarry.Proofs.Outcome

namespace Quarry.Pattern

/-- Names for some of the groups that there are: no two for one group, and no two groups of one
name. -/
structure NamesGroups (index : List (String × Nat)) (groups : Nat) : Prop where
  nodup_names : (index.map Prod.fst).Nodup
  nodup_numbers : (index.map Prod.snd).Nodup
  lt : ∀ e ∈ index, e.2 < groups

/-- A pattern with so many groups, some of them named; a match has a capture for each of them. -/
structure Numbered (p : Pattern) (groups : Nat) : Prop where
  namesGroups : NamesGroups p.groupIndex groups
  length_eq : ∀ s caps, p.search s = some caps → caps.length = groups

namespace NamesGroups

variable {index : List (String × Nat)} {groups : Nat}

theorem nil : NamesGroups [] 0 := ⟨.nil, .nil, by simp⟩

theorem unnamed (h : NamesGroups index groups) : NamesGroups index (groups + 1) :=
  ⟨h.nodup_names, h.nodup_numbers, fun e he => Nat.lt_succ_of_lt (h.lt e he)⟩

theorem named (h : NamesGroups index groups) {name : String} (hn : ∀ e ∈ index, e.1 ≠ name) :
    NamesGroups (index ++ [(name, groups)]) (groups + 1) := by
  refine ⟨?_, ?_, ?_⟩
  · rw [List.map_append, List.nodup_append]
    refine ⟨h.nodup_names, List.nodup_singleton _, fun a ha b hb => ?_⟩
    obtain ⟨e, he, rfl⟩ := List.mem_map.mp ha
    obtain rfl := List.mem_singleton.mp hb
    exact hn e he
  · rw [List.map_append, List.nodup_append]
    refine ⟨h.nodup_numbers, List.nodup_singleton _, fun a ha b hb => ?_⟩
    obtain ⟨e, he, rfl⟩ := List.mem_map.mp ha
    obtain rfl := List.mem_singleton.mp hb
    exact (h.lt e he).ne
  · intro e he
    obtain he | he := List.mem_append.mp he
    · exact h.unnamed.lt e he
    · obtain rfl := List.mem_singleton.mp he
      exact groups.lt_succ_self

end NamesGroups

/-! ### Order -/

variable {p : Pattern} {groups : Nat}

theorem perm_names (p : Pattern) : p.names.Perm p.groupIndex := List.mergeSort_perm _ _

@[simp]
theorem names_eq_nil : p.names = [] ↔ p.groupIndex = [] := by
  rw [← List.perm_nil, ← List.perm_nil]
  exact ⟨p.perm_names.symm.trans, p.perm_names.trans⟩

theorem pairwise_le_names (p : Pattern) : p.names.Pairwise fun a b => a.2 ≤ b.2 := by
  refine (List.pairwise_mergeSort ?_ ?_ p.groupIndex).imp fun h => of_decide_eq_true h
  · intro a b c hab hbc
    exact decide_eq_true ((of_decide_eq_true hab).trans (of_decide_eq_true hbc))
  · intro a b
    simpa using Nat.le_total a.2 b.2

structure InOrder (p : Pattern) (names : List (String × Nat)) : Prop where
  perm : names.Perm p.groupIndex
  sorted : names.Pairwise fun a b => a.2 < b.2

/-- No two names have one number, so each comes strictly before the next. -/
theorem Numbered.inOrder_names (hp : p.Numbered groups) : p.InOrder p.names := by
  have hd : (p.names.map Prod.snd).Nodup :=
    (p.perm_names.map Prod.snd).nodup_iff.mpr hp.namesGroups.nodup_numbers
  exact ⟨p.perm_names,
    p.pairwise_le_names.imp₂ (fun _ _ => lt_of_le_of_ne) (List.pairwise_map.mp hd)⟩

theorem Numbered.inOrder_iff (hp : p.Numbered groups) {names : List (String × Nat)} :
    p.InOrder names ↔ names = p.names := by
  refine ⟨fun h => ?_, fun h => h ▸ hp.inOrder_names⟩
  have hn := hp.inOrder_names
  exact List.Perm.eq_of_pairwise (fun a b _ _ hab hba => absurd (hab.trans hba) (Nat.lt_irrefl _))
    h.sorted hn.sorted (h.perm.trans hn.perm.symm)

theorem Numbered.lt_of_mem_names (hp : p.Numbered groups) {e : String × Nat} (he : e ∈ p.names) :
    e.2 < groups :=
  hp.namesGroups.lt e (p.perm_names.mem_iff.mp he)

/-! ### Reading -/

namespace Reading

structure SameGroups (r r' : Reading) : Prop where
  groups : r'.groups = r.groups
  names : r'.names = r.names

/-- What reading a piece does to the groups: it leaves them as they are or opens one. -/
inductive Step (r : Reading) : Reading → Prop
  | keep {r' : Reading} : r.SameGroups r' → Step r r'
  | capture (name : Option String) : Step r (r.openCapture name)

variable {r r' : Reading} {s t rest : List Char}

theorem Step.namesGroups (h : r.Step r') (hr : NamesGroups r.names r.groups) :
    NamesGroups r'.names r'.groups := by
  cases h with
  | keep h => rwa [h.groups, h.names]
  | capture name =>
    cases name with
    | none => exact hr.unnamed
    | some name =>
      simp only [openCapture]
      -- a name that is taken stays with the group that has it
      split
      case isTrue => exact hr.unnamed
      case isFalse hn =>
        apply hr.named
        rintro e he rfl
        exact hn (List.any_eq_true.mpr ⟨e, he, by simp⟩)

theorem step_push (r : Reading) (e : Expr) : r.Step (r.push e) := .keep ⟨rfl, rfl⟩

theorem step_close? (h : r.close? = some r') : r.Step r' := by
  unfold close? at h
  split at h
  · cases h
  · cases h
    exact .keep ⟨rfl, rfl⟩

theorem step_repeatLast {op : Repetition} (h : r.repeatLast op s t = .ok (r', rest)) :
    r.Step r' := by
  unfold repeatLast at h
  split at h
  split at h
  · cases h
  simp only at h
  split at h
  · cases h
  split at h
  · cases h
  split at h
  · cases h
  · cases h
    exact .keep ⟨rfl, rfl⟩

theorem sameGroups_quoted (r : Reading) (s : List Char) : r.SameGroups (r.quoted s).1 := by
  fun_induction r.quoted s with
  | case1 r => exact ⟨rfl, rfl⟩
  | case2 r t => exact ⟨rfl, rfl⟩
  | case3 r c t _ ih => exact ⟨ih.groups, ih.names⟩

end Reading

variable {r r' : Reading} {whole s t rest : List Char} {c : Char}

theorem step_readEscape (h : readEscape r s = .ok (r', rest)) : r.Step r' := by
  unfold readEscape at h
  simp only at h
  split at h
  case h_1 | h_2 | h_3 | h_4 | h_5 =>
    cases h
    exact r.step_push _
  case h_6 t _ =>
    obtain rfl := congrArg Prod.fst (Except.ok.inj h)
    have hq := Reading.sameGroups_quoted { r with repeated := none } t
    exact .keep ⟨hq.groups, hq.names⟩
  case h_7 | h_8 =>
    obtain ⟨_, -, h⟩ := Outcome.bind_eq_ok.mp h
    cases h
    exact r.step_push _
  case h_9 =>
    split at h
    · cases h
      exact r.step_push _
    · obtain ⟨_, -, h⟩ := Outcome.bind_eq_ok.mp h
      cases h
      exact r.step_push _

theorem step_readExtension (h : readExtension r s = .ok (r', rest)) : r.Step r' := by
  unfold readExtension at h
  simp only at h
  split at h
  case h_1 | h_2 | h_3 | h_4 => cases h
  case h_5 | h_6 =>
    split at h
    · cases h
    · split at h
      · cases h
        exact .capture _
      · cases h
  case h_7 =>
    obtain ⟨⟨⟨flags, opens⟩, u⟩, -, h⟩ := Outcome.bind_eq_ok.mp h
    split at h <;> cases h <;> exact .keep ⟨rfl, rfl⟩

theorem step_readPiece (h : readPiece whole r c t = .ok (r', rest)) : r.Step r' := by
  unfold readPiece at h
  simp only at h
  split at h
  case h_1 =>
    split at h
    · exact step_readExtension h
    · cases h
      exact .capture none
  case h_2 =>
    split at h
    · cases h
      exact Reading.step_close? ‹_›
    · cases h
  case h_3 | h_4 | h_5 | h_6 | h_13 =>
    cases h
    exact .keep ⟨rfl, rfl⟩
  case h_7 =>
    obtain ⟨_, -, h⟩ := Outcome.bind_eq_ok.mp h
    cases h
    exact r.step_push _
  case h_8 | h_9 | h_10 => exact Reading.step_repeatLast h
  case h_11 =>
    split at h
    · exact Reading.step_repeatLast h
    · cases h
      exact r.step_push _
  case h_12 => exact step_readEscape h

theorem namesGroups_of_readPieces {fuel : Nat} {parsed : Parsed}
    (h : readPieces whole fuel r s = .ok parsed) (hr : NamesGroups r.names r.groups) :
    NamesGroups parsed.names parsed.groups := by
  -- what every piece keeps is kept up to the end of the pattern
  fun_induction readPieces whole fuel r s with
  | case1 =>
    cases h
    exact hr
  | case2 => cases h
  | case3 => cases h
  | case4 fuel r c t ih =>
    obtain ⟨⟨r', rest⟩, hp, h⟩ := Outcome.bind_eq_ok.mp h
    exact ih r' rest h ((step_readPiece hp).namesGroups hr)

/-! ### Searching -/

theorem length_firstMatch {code : Code} {groups : Nat} {s : String} {caps : List (Option String)}
    (h : firstMatch code groups s = some caps) : caps.length = groups := by
  obtain ⟨slots, -, h⟩ := Option.bind_eq_some_iff.mp h
  cases h
  simp

/-- Every pattern that compiles names some of its groups, and has one capture for each group in a
match. -/
theorem numbered_of_compile {text : String} {p : Pattern} (h : compile text = .ok p) :
    ∃ groups, p.Numbered groups := by
  unfold compile at h
  split at h
  case h_1 => cases h
  case h_2 parsed hp =>
    cases h
    exact ⟨parsed.groups, namesGroups_of_readPieces hp .nil, fun _ _ => length_firstMatch⟩

end Quarry.Pattern
