import Quarry.Proofs.Matcher.Evaluation
import Quarry.Proofs.Text.Lines
import Quarry.Proofs.Value.Members

namespace Quarry

namespace Text

@[simp]
theorem isBlank_space : isBlank ' ' := by decide

@[simp]
theorem isBlank_break : isBlank '\n' := by decide

theorem isBlank_of_isLineBlank {c : Char} (h : isLineBlank c) : isBlank c :=
  isBlank_of_isSpace (isSpace_of_isLineBlank h)

theorem isLineBlank_of_eq_space {c : Char} (h : decide (c = ' ')) : isLineBlank c := by
  simp [isLineBlank, of_decide_eq_true h]

theorem isSpace_of_eq_space {c : Char} (h : decide (c = ' ')) : isSpace c :=
  isSpace_of_isLineBlank (isLineBlank_of_eq_space h)

theorem isBlank_of_eq_space {c : Char} (h : decide (c = ' ')) : isBlank c :=
  isBlank_of_isLineBlank (isLineBlank_of_eq_space h)

def paragraphs (s : List Char) : List Char :=
  collapse isLineBlank (limitBreaks (trimLines s))

theorem local_spaces : Local isBlank (collapse (· = ' ')) :=
  local_collapse (fun _ => isBlank_of_eq_space) isBlank_space

theorem local_line : Local isBlank (collapse isSpace) :=
  local_collapse (fun _ => isBlank_of_isSpace) isBlank_space

theorem local_lineBlanks : Local isBlank (collapse isLineBlank) :=
  local_collapse (fun _ => isBlank_of_isLineBlank) isBlank_space

theorem squeezeParagraphs_def (s : List Char) :
    squeezeParagraphs s = trimBoth isBlank (paragraphs s) := rfl

theorem trimBoth_paragraphs (s : List Char) :
    trimBoth isBlank (paragraphs s) = paragraphs (trimBoth isBlank s) := by
  rw [paragraphs, local_lineBlanks.trimBoth, (local_limitBreaks isBlank_break).trimBoth,
    trimBoth_trimLines (fun _ => isBlank_of_isLineBlank) isBlank_break, ← paragraphs]

theorem filter_paragraphs (s : List Char) :
    (paragraphs s).filter (fun c => !isBlank c) = s.filter fun c => !isBlank c := by
  rw [paragraphs, local_lineBlanks.filter, (local_limitBreaks isBlank_break).filter,
    filter_trimLines fun _ => isBlank_of_isLineBlank]

@[simp]
theorem limitBreaks_paragraphs (s : List Char) : limitBreaks (paragraphs s) = paragraphs s := by
  rw [paragraphs, limitBreaks_collapse (by decide), limitBreaks_limitBreaks]

@[simp]
theorem trimLines_paragraphs (s : List Char) : trimLines (paragraphs s) = paragraphs s := by
  rw [paragraphs, trimLines_collapse fun _ h => h, trimLines_limitBreaks_trimLines]

@[simp]
theorem collapse_paragraphs (s : List Char) :
    collapse isLineBlank (paragraphs s) = paragraphs s :=
  collapse_collapse (fun _ h => h) (by decide) _

@[simp]
theorem paragraphs_paragraphs (s : List Char) : paragraphs (paragraphs s) = paragraphs s := by
  conv_lhs => rw [paragraphs]
  simp

@[simp]
theorem paragraphs_spaces (s : List Char) : paragraphs (collapse (· = ' ') s) = paragraphs s := by
  rw [paragraphs, trimLines_collapse fun _ => isLineBlank_of_eq_space,
    limitBreaks_collapse (by decide),
    collapse_collapse (fun _ => isLineBlank_of_eq_space) (by decide), ← paragraphs]

theorem line_paragraphs (s : List Char) :
    trimBoth isBlank (collapse isSpace (paragraphs s)) = trimBoth isBlank (collapse isSpace s) := by
  rw [paragraphs, collapse_collapse (fun _ => isSpace_of_isLineBlank) (by decide),
    collapse_limitBreaks (by decide)]
  exact trimBoth_collapse_trimLines (p := isSpace) (fun _ => isBlank_of_isSpace) isBlank_space
    (fun _ => isSpace_of_isLineBlank) (by decide) s

/-- Trimming between two squeezings does not count. -/
theorem trimBoth_squeeze {f g : List Char → List Char} {q : Char → Bool}
    (hg : ∀ s, trimBoth q (g s) = g (trimBoth q s))
    (h : ∀ s, trimBoth q (g (f s)) = trimBoth q (g s)) (s : List Char) :
    trimBoth q (g (trimBoth q (f s))) = trimBoth q (g s) := by
  rw [hg, trimBoth_trimBoth, ← hg, h]

theorem squeezeSpaces_squeezeSpaces (s : List Char) :
    squeezeSpaces (squeezeSpaces s) = squeezeSpaces s := by
  apply trimBoth_squeeze local_spaces.trimBoth
  intro s
  rw [collapse_collapse (fun _ h => h) (by decide)]

theorem squeezeToLine_squeezeToLine (s : List Char) :
    squeezeToLine (squeezeToLine s) = squeezeToLine s := by
  apply trimBoth_squeeze local_line.trimBoth
  intro s
  rw [collapse_collapse (fun _ h => h) (by decide)]

theorem squeezeParagraphs_squeezeParagraphs (s : List Char) :
    squeezeParagraphs (squeezeParagraphs s) = squeezeParagraphs s := by
  simp only [squeezeParagraphs_def]
  exact trimBoth_squeeze trimBoth_paragraphs (by simp) s

theorem squeezeToLine_squeezeSpaces (s : List Char) :
    squeezeToLine (squeezeSpaces s) = squeezeToLine s := by
  apply trimBoth_squeeze local_line.trimBoth
  intro s
  rw [collapse_collapse (fun _ => isSpace_of_eq_space) (by decide)]

theorem squeezeToLine_squeezeParagraphs (s : List Char) :
    squeezeToLine (squeezeParagraphs s) = squeezeToLine s := by
  rw [squeezeParagraphs_def]
  apply trimBoth_squeeze local_line.trimBoth
  exact line_paragraphs

theorem squeezeParagraphs_squeezeSpaces (s : List Char) :
    squeezeParagraphs (squeezeSpaces s) = squeezeParagraphs s := by
  simp only [squeezeParagraphs_def]
  exact trimBoth_squeeze trimBoth_paragraphs (by simp) s

/-! ### What is left and what is not -/

theorem filter_squeezeSpaces (s : List Char) :
    (squeezeSpaces s).filter (fun c => !isBlank c) = s.filter fun c => !isBlank c := by
  rw [squeezeSpaces, filter_trimBoth (fun _ h => h), local_spaces.filter]

theorem filter_squeezeToLine (s : List Char) :
    (squeezeToLine s).filter (fun c => !isBlank c) = s.filter fun c => !isBlank c := by
  rw [squeezeToLine, filter_trimBoth (fun _ h => h), local_line.filter]

theorem filter_squeezeParagraphs (s : List Char) :
    (squeezeParagraphs s).filter (fun c => !isBlank c) = s.filter fun c => !isBlank c := by
  rw [squeezeParagraphs_def, filter_trimBoth (fun _ h => h), filter_paragraphs]

theorem squeezeSpaces_eq (s : List Char) :
    squeezeSpaces s = collapse (· = ' ') (trimBoth isBlank s) :=
  local_spaces.trimBoth s

theorem squeezeToLine_eq (s : List Char) :
    squeezeToLine s = collapse isSpace (trimBoth isBlank s) :=
  local_line.trimBoth s

theorem squeezeParagraphs_eq (s : List Char) :
    squeezeParagraphs s = paragraphs (trimBoth isBlank s) :=
  trimBoth_paragraphs s

theorem not_infix_collapse {p : Char → Bool} (hp : p ' ') (s : List Char) :
    ¬ [' ', ' '] <:+: collapse p s :=
  not_infix_of_collapse_eq hp (collapse_collapse (fun _ h => h) hp s)

theorem squeezeSpaces_between {a m b : List Char} {x y : Char} (ha : ∀ c ∈ a, isBlank c)
    (hx : isBlank x = false) (hy : isBlank y = false) (hb : ∀ c ∈ b, isBlank c) :
    ∃ m', squeezeSpaces (a ++ x :: m ++ y :: b) = x :: m' ++ [y] ∧
      m'.filter (fun c => !decide (c = ' ')) = m.filter fun c => !decide (c = ' ') := by
  have ht : Trimmed isBlank (x :: (m ++ [y])) := by
    constructor
    · simpa using hx
    · simpa [List.getLast?_cons] using hy
  have hs : a ++ x :: m ++ y :: b = a ++ (x :: (m ++ [y]) ++ b) := by simp
  refine ⟨collapse (· = ' ') m, ?_, ?_⟩
  · rw [squeezeSpaces_eq, hs, ht.trimBoth_append (by simp) ha hb, local_spaces.cons hx,
      local_spaces.append_cons m y [] hy, local_spaces.nil]
    rfl
  · exact (local_collapse (p := (· = ' ')) (q := (· = ' ')) (fun _ h => h) (by decide)).filter m

end Text

namespace Extractor

open Text

variable {x y : Extractor} {f g : List Char → List Char}

def Squeezes (x : Extractor) (f : List Char → List Char) : Prop :=
  ∀ v, x.apply v = .ok (v.squeezed f)

theorem squeezes_text : text.Squeezes squeezeSpaces := fun _ => rfl

theorem squeezes_oneline : oneline.Squeezes squeezeToLine := fun _ => rfl

theorem squeezes_normalize : normalize.Squeezes squeezeParagraphs := fun _ => rfl

theorem Squeezes.apply_ofString (h : x.Squeezes f) (t : List Char) :
    x.apply (.ofString (String.ofList t)) = .ok (.ofString (String.ofList (f t))) := by
  have hc : (Value.ofString (String.ofList t)).content.toList = t := String.toList_ofList
  rw [h, Value.squeezed, hc]

/-- What an extractor makes of a value: a text that it leaves alone, without blanks at its ends,
that has all other characters of the value in their order. -/
structure Settles (x : Extractor) (v : Value) (t : List Char) : Prop where
  apply : x.apply v = .ok (.ofString (String.ofList t))
  again : x.apply (.ofString (String.ofList t)) = .ok (.ofString (String.ofList t))
  trimmed : Trimmed isBlank t
  kept : t.filter (fun c => !isBlank c) = v.content.toList.filter fun c => !isBlank c

theorem Squeezes.settles (h : x.Squeezes f) (hf : ∀ s, f (f s) = f s)
    (ht : ∀ s, Trimmed isBlank (f s))
    (hk : ∀ s, (f s).filter (fun c => !isBlank c) = s.filter fun c => !isBlank c) (v : Value) :
    x.Settles v (f v.content.toList) where
  apply := h v
  again := by rw [h.apply_ofString, hf]
  trimmed := ht _
  kept := hk _

theorem squeezes_canonical (v : Value) :
    (∃ t, text.Settles v t ∧ ¬ [' ', ' '] <:+: t ∧
      ∀ a x m y b, v.content.toList = a ++ x :: m ++ y :: b → (∀ c ∈ a, isBlank c) →
        isBlank x = false → isBlank y = false → (∀ c ∈ b, isBlank c) →
        ∃ m', t = x :: m' ++ [y] ∧
          m'.filter (fun c => !decide (c = ' ')) = m.filter fun c => !decide (c = ' ')) ∧
    (∃ t, oneline.Settles v t ∧ ¬ [' ', ' '] <:+: t ∧ ∀ c ∈ ['\t', '\n', '\x0C', '\r'], c ∉ t) ∧
    ∃ t, normalize.Settles v t ∧ '\t' ∉ t ∧ ¬ [' ', ' '] <:+: t ∧ ¬ ['\n', '\n', '\n'] <:+: t ∧
      ∀ l ∈ t.splitOn '\n', Trimmed isLineBlank l := by
  refine ⟨⟨_, squeezes_text.settles squeezeSpaces_squeezeSpaces (fun _ => trimmed_trimBoth _ _)
      filter_squeezeSpaces v, ?_, ?_⟩,
    ⟨_, squeezes_oneline.settles squeezeToLine_squeezeToLine (fun _ => trimmed_trimBoth _ _)
      filter_squeezeToLine v, ?_, ?_⟩,
    ⟨_, squeezes_normalize.settles squeezeParagraphs_squeezeParagraphs
      (fun _ => trimmed_trimBoth _ _) filter_squeezeParagraphs v, ?_, ?_, ?_, ?_⟩⟩
  · rw [squeezeSpaces_eq]
    exact not_infix_collapse (by decide) _
  · intro a x m y b hs ha hx hy hb
    rw [hs]
    exact squeezeSpaces_between ha hx hy hb
  · rw [squeezeToLine_eq]
    exact not_infix_collapse (by decide) _
  · intro c hc ht
    rw [squeezeToLine_eq] at ht
    have hall : ['\t', '\n', '\x0C', '\r'].all fun c => isSpace c && c ≠ ' ' := by decide
    have hsp : isSpace c ∧ c ≠ ' ' := by simpa using List.all_eq_true.mp hall c hc
    exact hsp.2 (eq_space_of_mem_collapse ht hsp.1)
  · intro ht
    rw [squeezeParagraphs_eq, paragraphs] at ht
    exact absurd (eq_space_of_mem_collapse ht (by decide)) (by decide)
  · rw [squeezeParagraphs_eq, paragraphs]
    exact not_infix_collapse (by decide) _
  · rw [squeezeParagraphs_eq]
    exact not_infix_of_limitBreaks_eq (limitBreaks_paragraphs _)
  · intro l hl
    rw [squeezeParagraphs_eq, ← trimLines_paragraphs, splitOn_trimLines] at hl
    obtain ⟨m, -, rfl⟩ := List.mem_map.mp hl
    exact trimmed_trimBoth isLineBlank m

/-- Extracting from what another extractor gave is the same as extracting at once, for a value and
for all matches of a query. -/
structure Coarsens (x y : Extractor) : Prop where
  again : ∀ v, (do x.apply (← y.apply v)) = x.apply v
  eval_multi : ∀ q n e, (((Matcher.multi (.query q)).withExtractor (some y)).map
    (distribute x.apply)).eval n e = ((Matcher.multi (.query q)).withExtractor (some x)).eval n e

theorem Squeezes.mapM (h : x.Squeezes f) (vs : List Value) :
    vs.mapM x.apply = .ok (vs.map fun v => v.squeezed f) := by
  rw [funext h]
  exact List.mapM_pure

theorem Squeezes.eval_multi (h : x.Squeezes f) (q : String) (n : Value) (e : Option Extractor) :
    ((Matcher.multi (.query q)).withExtractor (some x)).eval n e =
      Query.run n q >>= fun vs => .ok (.list (vs.map fun v => v.squeezed f)) := by
  simp [h.mapM]

theorem Squeezes.coarsens (hx : x.Squeezes g) (hy : y.Squeezes f) (h : ∀ s, g (f s) = g s) :
    x.Coarsens y := by
  have hv : ∀ v : Value, (v.squeezed f).squeezed g = v.squeezed g := by
    intro v
    have hc : (v.squeezed f).content.toList = f v.content.toList := String.toList_ofList
    rw [Value.squeezed, hc, h, ← Value.squeezed]
  constructor
  · intro v
    calc (do x.apply (← y.apply v)) = x.apply (v.squeezed f) := by rw [hy]; rfl
      _ = x.apply v := by rw [hx, hv, hx]
  · intro q n e
    rw [Matcher.eval_map, hy.eval_multi, hx.eval_multi, bind_assoc]
    congr 1
    funext vs
    calc distribute x.apply (.list (vs.map fun v => v.squeezed f))
        = .ok (.list ((vs.map fun v => v.squeezed f).map fun v => v.squeezed g)) := by
          rw [distribute_list, hx.mapM]
          rfl
      _ = .ok (.list (vs.map fun v => v.squeezed g)) := by simp [hv]

theorem extractors_coarsen :
    oneline.Coarsens text ∧ oneline.Coarsens normalize ∧ normalize.Coarsens text :=
  ⟨squeezes_oneline.coarsens squeezes_text squeezeToLine_squeezeSpaces,
    squeezes_oneline.coarsens squeezes_normalize squeezeToLine_squeezeParagraphs,
    squeezes_normalize.coarsens squeezes_text squeezeParagraphs_squeezeSpaces⟩

end Extractor

end Quarry
