import Quarry.Proofs.Text.Runs

namespace Quarry.Text

variable {p q : Char → Bool} {s : List Char} {x c : Char} {ls : List (List Char)}

theorem splitLines_eq (s : List Char) : splitLines s = s.splitOn '\n' := by
  induction s with
  | nil => simp [splitLines]
  | cons c s ih =>
    rw [splitLines, ih, List.splitOn_cons_eq_if_modifyHead]
    by_cases hc : c = '\n'
    · simp [hc]
    · cases hs : s.splitOn '\n' with
      | nil => simp at hs
      | cons l ls => simp [hc]

theorem joinLines_eq (ls : List (List Char)) : joinLines ls = ['\n'].intercalate ls := by
  induction ls with
  | nil => rfl
  | cons l ls ih =>
    cases ls with
    | nil => simp [joinLines]
    | cons m ls => simp [joinLines, ih, List.intercalate_cons_cons]

theorem trimLines_eq (s : List Char) :
    trimLines s = ['\n'].intercalate ((s.splitOn '\n').map (trimBoth isLineBlank)) := by
  rw [trimLines, joinLines_eq, splitLines_eq]

theorem not_mem_of_mem_splitOn {l : List Char} (h : l ∈ s.splitOn x) : x ∉ l := by
  induction s generalizing l with
  | nil => simp_all
  | cons c s ih =>
    rw [List.splitOn_cons_eq_if_modifyHead] at h
    cases hs : s.splitOn x with
    | nil => simp at hs
    | cons m ms =>
      rw [hs] at h ih
      split_ifs at h with hc
      · rcases List.mem_cons.mp h with rfl | h
        · simp
        · exact ih h
      · rcases List.mem_cons.mp h with rfl | h
        · have hx : c ≠ x := by simpa using hc
          exact List.not_mem_cons_of_ne_of_not_mem hx.symm (ih List.mem_cons_self)
        · exact ih (List.mem_cons_of_mem _ h)

theorem splitOn_intercalate_map {f : List Char → List Char}
    (hf : ∀ l ∈ s.splitOn x, x ∉ f l) :
    ([x].intercalate ((s.splitOn x).map f)).splitOn x = (s.splitOn x).map f := by
  apply List.splitOn_intercalate
  · intro l hl
    obtain ⟨m, hm, rfl⟩ := List.mem_map.mp hl
    exact hf m hm
  · simp

theorem splitOn_trimLines (s : List Char) :
    (trimLines s).splitOn '\n' = (s.splitOn '\n').map (trimBoth isLineBlank) := by
  rw [trimLines_eq]
  exact splitOn_intercalate_map fun l hl h => not_mem_of_mem_splitOn hl (mem_trimBoth h)

theorem trimLines_of_trimmed (h : ∀ l ∈ s.splitOn '\n', Trimmed isLineBlank l) :
    trimLines s = s := by
  rw [trimLines_eq, List.map_congr_left fun l hl => (h l hl).trimBoth_eq, List.map_id',
    List.intercalate_splitOn]

/-! ### Backwards -/

theorem intercalate_concat (h : ls ≠ []) (l : List Char) :
    [x].intercalate (ls ++ [l]) = [x].intercalate ls ++ x :: l := by
  induction ls with
  | nil => exact absurd rfl h
  | cons m ms ih =>
    cases ms with
    | nil => simp [List.intercalate_cons_cons]
    | cons k ks =>
      have hi := ih (by simp)
      simp only [List.cons_append] at hi
      simp [List.intercalate_cons_cons, hi]

theorem reverse_intercalate (x : Char) (ls : List (List Char)) :
    ([x].intercalate ls).reverse = [x].intercalate (ls.reverse.map List.reverse) := by
  induction ls with
  | nil => rfl
  | cons l ls ih =>
    by_cases hls : ls = []
    · simp [hls]
    · rw [List.intercalate_cons_of_ne_nil hls, List.reverse_cons, List.map_append,
        List.map_singleton, intercalate_concat (by simpa using hls), ← ih]
      simp

theorem splitOn_reverse (x : Char) (s : List Char) :
    s.reverse.splitOn x = (s.splitOn x).reverse.map List.reverse := by
  have hs : [x].intercalate (s.splitOn x) = s := List.intercalate_splitOn x
  conv_lhs => rw [← hs, reverse_intercalate]
  apply List.splitOn_intercalate
  · intro l hl
    obtain ⟨m, hm, rfl⟩ := List.mem_map.mp hl
    simpa using not_mem_of_mem_splitOn (List.mem_reverse.mp hm)
  · simp

theorem trimLines_reverse (s : List Char) : trimLines s.reverse = (trimLines s).reverse := by
  rw [trimLines_eq, splitOn_reverse, trimLines_eq, reverse_intercalate, List.map_map,
    ← List.map_reverse, List.map_map]
  congr 2
  funext l
  exact trimBoth_reverse isLineBlank l

/-! ### Character by character -/

theorem trimLines_break (s : List Char) : trimLines ('\n' :: s) = '\n' :: trimLines s := by
  rw [trimLines_eq, List.splitOn_cons_eq_if_modifyHead, if_pos (by decide), List.map_cons,
    List.intercalate_cons_of_ne_nil (by simp), ← trimLines_eq]
  rfl

/-- In front of a line a blank is dropped; any other character keeps some of those behind it. -/
theorem trimLines_cons (hc : c ≠ '\n') (s : List Char) :
    ∃ bs, (∀ b ∈ bs, isLineBlank b) ∧
      trimLines (c :: s) = if isLineBlank c then trimLines s else c :: (bs ++ trimLines s) := by
  rw [trimLines_eq, List.splitOn_cons_eq_if_modifyHead, if_neg (by simpa using hc), trimLines_eq]
  cases hs : s.splitOn '\n' with
  | nil => simp at hs
  | cons l ls =>
    refine ⟨(l.rdropWhile isLineBlank).takeWhile isLineBlank,
      fun b hb => List.mem_takeWhile_imp hb, ?_⟩
    rw [List.modifyHead_cons, List.map_cons, List.map_cons]
    split_ifs with hb
    · rw [trimBoth_eq, List.dropWhile_cons_of_pos hb, ← trimBoth_eq]
    · have hl : trimBoth isLineBlank (c :: l) =
          c :: ((l.rdropWhile isLineBlank).takeWhile isLineBlank ++ trimBoth isLineBlank l) := by
        rw [trimBoth_eq, trimBoth_eq, List.dropWhile_cons_of_neg hb, rdropWhile_dropWhile,
          List.takeWhile_append_dropWhile, rdropWhile_cons, if_neg (by simp [hb])]
      rw [hl]
      cases ls <;> simp [List.intercalate_cons_cons]

theorem dropWhile_trimLines (hl : ∀ c, isLineBlank c → q c) (hq : q '\n') (s : List Char) :
    (trimLines s).dropWhile q = trimLines (s.dropWhile q) := by
  induction s with
  | nil => rfl
  | cons c s ih =>
    by_cases hn : c = '\n'
    · subst hn
      rw [trimLines_break, List.dropWhile_cons_of_pos hq, List.dropWhile_cons_of_pos hq, ih]
    · obtain ⟨bs, hbs, hs⟩ := trimLines_cons hn s
      by_cases hb : isLineBlank c
      · rw [hs, if_pos hb, List.dropWhile_cons_of_pos (hl c hb), ih]
      · by_cases hc : q c
        · rw [hs, if_neg hb, List.dropWhile_cons_of_pos hc, List.dropWhile_cons_of_pos hc,
            List.dropWhile_append_of_pos fun b hm => hl b (hbs b hm), ih]
        · rw [List.dropWhile_cons_of_neg hc, hs, if_neg hb, List.dropWhile_cons_of_neg hc]

theorem trimBoth_trimLines (hl : ∀ c, isLineBlank c → q c) (hq : q '\n') (s : List Char) :
    trimBoth q (trimLines s) = trimLines (trimBoth q s) := by
  rw [trimBoth_eq, dropWhile_trimLines hl hq, rdropWhile_eq, ← trimLines_reverse,
    dropWhile_trimLines hl hq, ← trimLines_reverse, ← rdropWhile_eq, ← trimBoth_eq]

theorem filter_trimLines (hl : ∀ c, isLineBlank c → q c) (s : List Char) :
    (trimLines s).filter (fun c => !q c) = s.filter fun c => !q c := by
  induction s with
  | nil => rfl
  | cons c s ih =>
    by_cases hn : c = '\n'
    · subst hn
      rw [trimLines_break, List.filter_cons, List.filter_cons, ih]
    · obtain ⟨bs, hbs, hs⟩ := trimLines_cons hn s
      have hnil := filter_of_forall (s := bs) fun b hm => hl b (hbs b hm)
      by_cases hb : isLineBlank c
      · simp [hs, hb, hl c hb, ih]
      · simp [hs, hb, hnil, ih, List.filter_cons]

/-! ### Collapsing and trimmed lines -/

theorem collapse_intercalate (hx : p x = false) (ls : List (List Char)) :
    collapse p ([x].intercalate ls) = [x].intercalate (ls.map (collapse p)) := by
  induction ls with
  | nil => rfl
  | cons l ls ih =>
    cases ls with
    | nil => simp
    | cons m ms =>
      rw [List.intercalate_cons_cons, List.append_assoc, List.singleton_append, collapse,
        collapseFrom_append_cons hx, ih]
      simp [List.intercalate_cons_cons, collapse]

theorem splitOn_collapse (hx : p x = false) (hsp : x ≠ ' ') (s : List Char) :
    (collapse p s).splitOn x = (s.splitOn x).map (collapse p) := by
  have hs : [x].intercalate (s.splitOn x) = s := List.intercalate_splitOn x
  conv_lhs => rw [← hs, collapse_intercalate hx]
  apply splitOn_intercalate_map
  intro l hl h
  rcases mem_collapseFrom h with ⟨h, -⟩ | rfl
  · exact not_mem_of_mem_splitOn hl h
  · exact hsp rfl

theorem trimLines_collapse (hp : ∀ c, p c → isLineBlank c) (s : List Char) :
    trimLines (collapse p s) = collapse p (trimLines s) := by
  have hn : p '\n' = false := by
    by_contra hn
    exact absurd (hp _ (by simpa using hn)) (by decide)
  rw [trimLines_eq, trimLines_eq, splitOn_collapse hn (by decide), collapse_intercalate hn,
    List.map_map, List.map_map]
  congr 2
  funext l
  exact (local_collapse hp (by decide)).trimBoth l

-- one more line break behind the text, so that every line has one
theorem intercalate_append (h : ls ≠ []) :
    [x].intercalate ls ++ [x] = ls.flatMap (· ++ [x]) := by
  induction ls with
  | nil => exact absurd rfl h
  | cons l ls ih =>
    cases ls with
    | nil => simp
    | cons m ms =>
      rw [List.intercalate_cons_cons, List.append_assoc, ih (by simp)]
      simp

/-- What is trimmed off the lines would have become part of the space between them. -/
theorem collapseFrom_lines (hpq : ∀ c, p c → q c) (hx : q x) (ls : List (List Char)) :
    collapseFrom q true ((ls.map (trimBoth p)).flatMap (· ++ [x])) =
      collapseFrom q true (ls.flatMap (· ++ [x])) := by
  induction ls with
  | nil => rfl
  | cons l ls ih =>
    obtain ⟨a, b, ha, hb, hl⟩ := exists_trimBoth p l
    have hend : ∀ k r, collapseFrom q r (k ++ x :: (ls.map (trimBoth p)).flatMap (· ++ [x])) =
        collapseFrom q r (k ++ (b ++ x :: ls.flatMap (· ++ [x]))) := by
      intro k
      induction k with
      | nil =>
        intro r
        rw [List.nil_append, List.nil_append,
          collapseFrom_append_of_all (fun c hc => hpq c (hb c hc)) hx]
        simp only [collapseFrom, hx, if_true, ih]
      | cons c k ihk =>
        intro r
        simp only [List.cons_append, collapseFrom, ihk]
    have hfront := collapseFrom_true_append (fun c hc => hpq c (ha c hc))
      (trimBoth p l ++ (b ++ x :: ls.flatMap (· ++ [x])))
    have he := hend (trimBoth p l) true
    rw [← hfront] at he
    conv_rhs => rw [List.flatMap_cons, hl]
    simpa using he

theorem trimBoth_collapse_trimLines (hpq : ∀ c, p c → q c) (hq : q ' ')
    (hp : ∀ c, isLineBlank c → p c) (hn : p '\n') (s : List Char) :
    trimBoth q (collapse p (trimLines s)) = trimBoth q (collapse p s) := by
  have hl := local_collapse hpq hq
  have hend : ∀ u, trimBoth q (collapseFrom p true (u ++ ['\n'])) = trimBoth q (collapse p u) := by
    intro u
    rw [trimBoth_collapseFrom_true hq, hl.trimBoth, trimBoth_concat (hpq _ hn), ← hl.trimBoth]
  have he := collapseFrom_lines hp hn (s.splitOn '\n')
  rw [← intercalate_append (by simp), ← intercalate_append (by simp), ← trimLines_eq,
    List.intercalate_splitOn] at he
  rw [← hend, he, hend]

/-! ### Fewer line breaks -/

theorem splitOn_limitBreaksFrom (k : Nat) (s : List Char) :
    ((limitBreaksFrom k s).splitOn '\n').Sublist (s.splitOn '\n') ∧
      (k < 2 → ((limitBreaksFrom k s).splitOn '\n').head? = (s.splitOn '\n').head?) := by
  induction s generalizing k with
  | nil => simp [limitBreaksFrom]
  | cons c s ih =>
    rw [limitBreaksFrom]
    by_cases hc : c = '\n'
    · by_cases hk : 2 ≤ k
      · simp [hc, hk, List.splitOn_cons_eq_if_modifyHead,
          (ih k).1.trans (List.sublist_cons_self _ _)]
        omega
      · simp [hc, hk, List.splitOn_cons_eq_if_modifyHead, (ih (k + 1)).1]
    · obtain ⟨hs, hh⟩ := ih 0
      cases ht : (limitBreaksFrom 0 s).splitOn '\n' with
      | nil => simp at ht
      | cons l ls =>
        cases hu : s.splitOn '\n' with
        | nil => simp at hu
        | cons m ms =>
          rw [ht, hu] at hs hh
          obtain rfl : l = m := by simpa using hh (by decide)
          simp [hc, List.splitOn_cons_eq_if_modifyHead, ht, hu, List.cons_sublist_cons.mp hs]

theorem trimLines_limitBreaks_trimLines (s : List Char) :
    trimLines (limitBreaks (trimLines s)) = limitBreaks (trimLines s) := by
  apply trimLines_of_trimmed
  intro l hl
  have hm := (splitOn_limitBreaksFrom 0 (trimLines s)).1.subset hl
  rw [splitOn_trimLines] at hm
  obtain ⟨m, -, rfl⟩ := List.mem_map.mp hm
  exact trimmed_trimBoth isLineBlank m

end Quarry.Text
