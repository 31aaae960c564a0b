import Quarry.Proofs.Text.Trim

namespace Quarry.Text

variable {p q : Char → Bool} {r : Bool} {s : List Char} {k : Nat} {c : Char}

/-! ### One space for a run -/

theorem mem_collapseFrom (h : c ∈ collapseFrom p r s) : c ∈ s ∧ p c = false ∨ c = ' ' := by
  induction s generalizing r with
  | nil => cases h
  | cons d s ih =>
    rw [collapseFrom] at h
    split_ifs at h with hd hr
    · exact (ih h).imp_left (And.imp_left (List.mem_cons_of_mem _))
    · rcases List.mem_cons.mp h with rfl | h
      · exact .inr rfl
      · exact (ih h).imp_left (And.imp_left (List.mem_cons_of_mem _))
    · rcases List.mem_cons.mp h with rfl | h
      · exact .inl ⟨List.mem_cons_self, by simpa using hd⟩
      · exact (ih h).imp_left (And.imp_left (List.mem_cons_of_mem _))

theorem eq_space_of_mem_collapse (h : c ∈ collapse p s) (hc : p c) : c = ' ' := by
  rcases mem_collapseFrom h with ⟨-, hn⟩ | hs
  · simp [hc] at hn
  · exact hs

theorem collapseFrom_append_cons (hc : p c = false) (r : Bool) (s t : List Char) :
    collapseFrom p r (s ++ c :: t) = collapseFrom p r s ++ c :: collapse p t := by
  induction s generalizing r with
  | nil => simp [collapseFrom, hc, collapse]
  | cons d s ih =>
    simp only [List.cons_append, collapseFrom, ih]
    split_ifs <;> rfl

theorem local_collapse (hpq : ∀ c, p c → q c) (hq : q ' ') : Local q (collapse p) := by
  refine ⟨rfl, fun s c t hc => ?_, fun s hs c hc => ?_⟩
  · have hp : p c = false := by
      by_contra hp
      simp [hpq c (by simpa using hp)] at hc
    exact collapseFrom_append_cons hp false s t
  · rcases mem_collapseFrom hc with ⟨hc, -⟩ | rfl
    · exact hs c hc
    · exact hq

theorem collapseFrom_true_append {a : List Char} (h : ∀ c ∈ a, p c) (s : List Char) :
    collapseFrom p true (a ++ s) = collapseFrom p true s := by
  induction a with
  | nil => rfl
  | cons c a ih =>
    obtain ⟨hc, ha⟩ := List.forall_mem_cons.mp h
    simp [collapseFrom, hc, ih ha]

theorem collapseFrom_append_of_all {a : List Char} (ha : ∀ c ∈ a, p c) (hc : p c) (r : Bool)
    (s : List Char) : collapseFrom p r (a ++ c :: s) = collapseFrom p r (c :: s) := by
  cases a with
  | nil => rfl
  | cons d a =>
    obtain ⟨hd, ha⟩ := List.forall_mem_cons.mp ha
    simp [collapseFrom, hd, hc, collapseFrom_true_append ha]

theorem trimBoth_collapseFrom_true (hq : q ' ') (s : List Char) :
    trimBoth q (collapseFrom p true s) = trimBoth q (collapse p s) := by
  cases s with
  | nil => rfl
  | cons c s =>
    by_cases hc : p c
    · simp [collapse, collapseFrom, hc, trimBoth_eq, hq]
    · simp [collapse, collapseFrom, hc]

-- a run that the smaller class has begun is one of the larger class as well
theorem collapseFrom_collapseFrom (hpq : ∀ c, p c → q c) (hq : q ' ') {r' : Bool}
    (hr : r = true → r' = true) (s : List Char) :
    collapseFrom q r' (collapseFrom p r s) = collapseFrom q r' s := by
  induction s generalizing r r' with
  | nil => rfl
  | cons c s ih =>
    by_cases hc : p c
    · cases r with
      | true => simp [collapseFrom, hc, hpq c hc, hr rfl, ih]
      | false => simp [collapseFrom, hc, hpq c hc, hq, ih]
    · simp [collapseFrom, hc, ih]

theorem collapse_collapse (hpq : ∀ c, p c → q c) (hq : q ' ') (s : List Char) :
    collapse q (collapse p s) = collapse q s :=
  collapseFrom_collapseFrom hpq hq (fun h => h) s

theorem length_collapseFrom_le (p : Char → Bool) (r : Bool) (s : List Char) :
    (collapseFrom p r s).length ≤ s.length := by
  induction s generalizing r with
  | nil => exact le_rfl
  | cons c s ih =>
    have ht := ih true
    have hf := ih false
    rw [collapseFrom]
    split_ifs <;> simp <;> omega

theorem length_collapseFrom_lt (hp : p ' ') (h : [' ', ' '] <:+: s) (r : Bool) :
    (collapseFrom p r s).length < s.length := by
  obtain ⟨a, b, rfl⟩ := h
  induction a generalizing r with
  | nil =>
    have hb := length_collapseFrom_le p true b
    cases r <;> simp [collapseFrom, hp] <;> omega
  | cons c a ih =>
    have ht := ih true
    have hf := ih false
    simp only [List.append_assoc, List.cons_append] at ht hf ⊢
    rw [collapseFrom]
    split_ifs <;> simp at ht hf ⊢ <;> omega

theorem not_infix_of_collapse_eq (hp : p ' ') (h : collapse p s = s) : ¬ [' ', ' '] <:+: s := by
  intro hs
  have hlt := length_collapseFrom_lt hp hs false
  rw [← collapse, h] at hlt
  exact lt_irrefl _ hlt

/-! ### Two line breaks at most -/

theorem mem_limitBreaksFrom (h : c ∈ limitBreaksFrom k s) : c ∈ s := by
  induction s generalizing k with
  | nil => cases h
  | cons d s ih =>
    rw [limitBreaksFrom] at h
    split_ifs at h with hd hk
    · exact List.mem_cons_of_mem _ (ih h)
    all_goals
      rcases List.mem_cons.mp h with rfl | h
      · exact List.mem_cons_self
      · exact List.mem_cons_of_mem _ (ih h)

theorem local_limitBreaks (hq : q '\n') : Local q limitBreaks := by
  refine ⟨rfl, fun s c t hc => ?_, fun s hs c hc => hs c (mem_limitBreaksFrom hc)⟩
  have hn : c ≠ '\n' := by
    rintro rfl
    simp [hq] at hc
  suffices ∀ k, limitBreaksFrom k (s ++ c :: t) = limitBreaksFrom k s ++ c :: limitBreaks t from
    this 0
  induction s with
  | nil => simp [limitBreaksFrom, hn, limitBreaks]
  | cons d s ih =>
    intro k
    simp only [List.cons_append, limitBreaksFrom, ih]
    split_ifs <;> rfl

@[simp]
theorem limitBreaksFrom_limitBreaksFrom (k : Nat) (s : List Char) :
    limitBreaksFrom k (limitBreaksFrom k s) = limitBreaksFrom k s := by
  induction s generalizing k with
  | nil => rfl
  | cons c s ih =>
    by_cases hc : c = '\n'
    · by_cases hk : 2 ≤ k
      · simp [limitBreaksFrom, hc, hk, ih]
      · simp [limitBreaksFrom, hc, hk, ih]
    · simp [limitBreaksFrom, hc, ih]

@[simp]
theorem limitBreaks_limitBreaks (s : List Char) : limitBreaks (limitBreaks s) = limitBreaks s :=
  limitBreaksFrom_limitBreaksFrom 0 s

-- inside a run there is no line break to be counted
theorem limitBreaksFrom_collapseFrom (hp : p '\n' = false) (hr : r = true → k = 0)
    (s : List Char) :
    limitBreaksFrom k (collapseFrom p r s) = collapseFrom p r (limitBreaksFrom k s) := by
  have hsp : ' ' ≠ '\n' := by decide
  induction s generalizing k r with
  | nil => rfl
  | cons c s ih =>
    by_cases hc : c = '\n'
    · subst hc
      by_cases hk : 2 ≤ k
      · cases r with
        | true =>
          have hk0 := hr rfl
          omega
        | false => simp [limitBreaksFrom, collapseFrom, hp, hk, ih]
      · simp [limitBreaksFrom, collapseFrom, hp, hk, ih]
    · by_cases hpc : p c
      · cases r with
        | true => simp [limitBreaksFrom, collapseFrom, hc, hpc, hr rfl, ih]
        | false => simp [limitBreaksFrom, collapseFrom, hc, hpc, hsp, ih]
      · simp [limitBreaksFrom, collapseFrom, hc, hpc, ih]

theorem limitBreaks_collapse (hp : p '\n' = false) (s : List Char) :
    limitBreaks (collapse p s) = collapse p (limitBreaks s) :=
  limitBreaksFrom_collapseFrom hp (fun _ => rfl) s

theorem collapseFrom_limitBreaksFrom (hp : p '\n') (hr : 0 < k → r = true) (s : List Char) :
    collapseFrom p r (limitBreaksFrom k s) = collapseFrom p r s := by
  induction s generalizing k r with
  | nil => rfl
  | cons c s ih =>
    by_cases hc : c = '\n'
    · subst hc
      by_cases hk : 2 ≤ k
      · have hr := hr (by omega)
        simp [limitBreaksFrom, collapseFrom, hp, hk, hr, ih]
      · simp [limitBreaksFrom, collapseFrom, hp, hk, ih]
    · simp [limitBreaksFrom, collapseFrom, hc, ih]

theorem collapse_limitBreaks (hp : p '\n') (s : List Char) :
    collapse p (limitBreaks s) = collapse p s :=
  collapseFrom_limitBreaksFrom hp (fun h => absurd h (lt_irrefl 0)) s

theorem length_limitBreaksFrom_le (k : Nat) (s : List Char) :
    (limitBreaksFrom k s).length ≤ s.length := by
  induction s generalizing k with
  | nil => exact le_rfl
  | cons c s ih =>
    have h0 := ih 0
    have hk := ih k
    have hs := ih (k + 1)
    rw [limitBreaksFrom]
    split_ifs <;> simp <;> omega

theorem length_limitBreaksFrom_lt (h : ['\n', '\n', '\n'] <:+: s) (k : Nat) :
    (limitBreaksFrom k s).length < s.length := by
  obtain ⟨a, b, rfl⟩ := h
  induction a generalizing k with
  | nil =>
    have hb := length_limitBreaksFrom_le (k + 1 + 1) b
    have hb0 := length_limitBreaksFrom_le (k + 1) b
    have hbk := length_limitBreaksFrom_le k b
    simp only [List.nil_append, List.cons_append, limitBreaksFrom]
    split_ifs <;> simp <;> omega
  | cons c a ih =>
    have h0 := ih 0
    have hk := ih k
    have hs := ih (k + 1)
    simp only [List.append_assoc, List.cons_append] at h0 hk hs ⊢
    rw [limitBreaksFrom]
    split_ifs <;> simp at h0 hk hs ⊢ <;> omega

theorem not_infix_of_limitBreaks_eq (h : limitBreaks s = s) : ¬ ['\n', '\n', '\n'] <:+: s := by
  intro hs
  have hlt := length_limitBreaksFrom_lt hs 0
  rw [← limitBreaks, h] at hlt
  exact lt_irrefl _ hlt

end Quarry.Text
