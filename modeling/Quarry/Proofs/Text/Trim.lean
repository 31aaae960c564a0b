import Mathlib.Data.List.DropRight
import Mathlib.Data.List.TakeWhile
import Mathlib.Tactic.SplitIfs
import Quarry.Text.Squeeze

namespace Quarry.Text

variable {p q : Char → Bool} {s : List Char}

def Trimmed (p : Char → Bool) (s : List Char) : Prop :=
  (∀ c ∈ s.head?, p c = false) ∧ ∀ c ∈ s.getLast?, p c = false

theorem trimBoth_eq (p : Char → Bool) (s : List Char) :
    trimBoth p s = (s.dropWhile p).rdropWhile p := rfl

theorem rdropWhile_eq (s : List Char) : s.rdropWhile p = (s.reverse.dropWhile p).reverse := rfl

theorem exists_trimBoth (p : Char → Bool) (s : List Char) :
    ∃ a b, (∀ c ∈ a, p c) ∧ (∀ c ∈ b, p c) ∧ s = a ++ (trimBoth p s ++ b) := by
  refine ⟨s.takeWhile p, (s.dropWhile p).rtakeWhile p, fun c hc => List.mem_takeWhile_imp hc,
    fun c hc => List.mem_rtakeWhile_imp hc, ?_⟩
  rw [trimBoth_eq, List.rdropWhile_append_rtakeWhile, List.takeWhile_append_dropWhile]

theorem mem_trimBoth {c : Char} (h : c ∈ trimBoth p s) : c ∈ s := by
  obtain ⟨a, b, -, -, hs⟩ := exists_trimBoth p s
  rw [hs]
  simp [h]

theorem head?_dropWhile : ∀ c ∈ (s.dropWhile p).head?, p c = false := by
  intro c hc
  have h := List.head?_dropWhile_not p s
  rw [Option.mem_def] at hc
  rwa [hc] at h

theorem dropWhile_of_head? (h : ∀ c ∈ s.head?, p c = false) : s.dropWhile p = s := by
  cases s with
  | nil => rfl
  | cons c s => simp [h c rfl]

theorem rdropWhile_of_getLast? (h : ∀ c ∈ s.getLast?, p c = false) : s.rdropWhile p = s := by
  rw [rdropWhile_eq, dropWhile_of_head?, List.reverse_reverse]
  rwa [List.head?_reverse]

theorem rdropWhile_cons (p : Char → Bool) (c : Char) (s : List Char) :
    (c :: s).rdropWhile p = if p c ∧ s.rdropWhile p = [] then [] else c :: s.rdropWhile p := by
  simp only [rdropWhile_eq, List.reverse_cons, List.dropWhile_append, List.isEmpty_iff,
    List.reverse_eq_nil_iff]
  by_cases hs : s.reverse.dropWhile p = []
  · by_cases hc : p c <;> simp [hs, hc]
  · simp [hs]

theorem rdropWhile_dropWhile (p : Char → Bool) (s : List Char) :
    (s.dropWhile p).rdropWhile p = (s.rdropWhile p).dropWhile p := by
  induction s with
  | nil => rfl
  | cons c s ih =>
    by_cases hc : p c
    · rw [List.dropWhile_cons_of_pos hc, ih, rdropWhile_cons]
      by_cases hs : s.rdropWhile p = []
      · simp [hs, hc]
      · simp [hs, hc]
    · simp [rdropWhile_cons, hc]

theorem trimBoth_reverse (p : Char → Bool) (s : List Char) :
    trimBoth p s.reverse = (trimBoth p s).reverse := by
  rw [trimBoth_eq, rdropWhile_dropWhile, List.rdropWhile_reverse, trimBoth_eq, rdropWhile_eq,
    List.reverse_reverse]

theorem trimBoth_concat {c : Char} (hc : p c) (s : List Char) :
    trimBoth p (s ++ [c]) = trimBoth p s := by
  rw [trimBoth_eq, trimBoth_eq, rdropWhile_dropWhile, rdropWhile_dropWhile,
    List.rdropWhile_concat_pos _ _ _ hc]

theorem trimmed_trimBoth (p : Char → Bool) (s : List Char) : Trimmed p (trimBoth p s) := by
  constructor
  · rw [trimBoth_eq, rdropWhile_dropWhile]
    exact head?_dropWhile
  · rw [trimBoth_eq, rdropWhile_eq, List.getLast?_reverse]
    exact head?_dropWhile

theorem Trimmed.trimBoth_eq (h : Trimmed p s) : trimBoth p s = s := by
  rw [Text.trimBoth_eq, dropWhile_of_head? h.1, rdropWhile_of_getLast? h.2]

@[simp]
theorem trimBoth_trimBoth (p : Char → Bool) (s : List Char) :
    trimBoth p (trimBoth p s) = trimBoth p s :=
  (trimmed_trimBoth p s).trimBoth_eq

theorem Trimmed.trimBoth_append (h : Trimmed p s) (hs : s ≠ []) {a b : List Char}
    (ha : ∀ c ∈ a, p c) (hb : ∀ c ∈ b, p c) : trimBoth p (a ++ (s ++ b)) = s := by
  have hd : (s ++ b).dropWhile p = s ++ b := by
    apply dropWhile_of_head?
    rw [List.head?_append_of_ne_nil s hs]
    exact h.1
  have hr : ∀ c ∈ b.reverse, p c := fun c hc => hb c (List.mem_reverse.mp hc)
  rw [Text.trimBoth_eq, List.dropWhile_append_of_pos ha, hd, rdropWhile_eq, List.reverse_append,
    List.dropWhile_append_of_pos hr, ← rdropWhile_eq, rdropWhile_of_getLast? h.2]

theorem filter_of_forall (h : ∀ c ∈ s, q c) : s.filter (fun c => !q c) = [] :=
  List.filter_eq_nil_iff.mpr fun c hc => by simp [h c hc]

theorem filter_trimBoth (hpq : ∀ c, p c → q c) (s : List Char) :
    (trimBoth p s).filter (fun c => !q c) = s.filter fun c => !q c := by
  obtain ⟨a, b, ha, hb, hs⟩ := exists_trimBoth p s
  have hna := filter_of_forall (s := a) fun c hc => hpq c (ha c hc)
  have hnb := filter_of_forall (s := b) fun c hc => hpq c (hb c hc)
  conv_rhs => rw [hs]
  rw [List.filter_append, List.filter_append, hna, hnb, List.nil_append, List.append_nil]

/-- A function that keeps the characters outside a class, and rewrites what stands between them
part by part within the class. -/
structure Local (q : Char → Bool) (f : List Char → List Char) : Prop where
  nil : f [] = []
  append_cons : ∀ s c t, q c = false → f (s ++ c :: t) = f s ++ c :: f t
  all : ∀ s, (∀ c ∈ s, q c) → ∀ c ∈ f s, q c

namespace Local

variable {f : List Char → List Char}

theorem cons (h : Local q f) {c : Char} (hc : q c = false) (s : List Char) :
    f (c :: s) = c :: f s := by
  have ha := h.append_cons [] c s hc
  rwa [h.nil] at ha

theorem reversed (h : Local q f) : Local q fun s => (f s.reverse).reverse := by
  refine ⟨by simp [h.nil], fun s c t hc => ?_, fun s hs c hc => ?_⟩
  · simp [h.append_cons _ c _ hc]
  · exact h.all s.reverse (by simpa using hs) c (by simpa using hc)

theorem dropWhile (h : Local q f) (s : List Char) : (f s).dropWhile q = f (s.dropWhile q) := by
  have hs := List.takeWhile_append_dropWhile (p := q) (l := s)
  have ha := h.all (s.takeWhile q) fun c hc => List.mem_takeWhile_imp hc
  cases hd : s.dropWhile q with
  | nil =>
    rw [hd, List.append_nil] at hs
    rw [hs] at ha
    rw [h.nil]
    exact List.dropWhile_eq_nil_iff.mpr ha
  | cons c t =>
    have hc : q c = false := head?_dropWhile c (by rw [hd]; rfl)
    rw [hd] at hs
    rw [← hs, h.append_cons _ c t hc, h.cons hc, List.dropWhile_append_of_pos ha,
      List.dropWhile_cons_of_neg (by simp [hc])]

theorem trimBoth (h : Local q f) (s : List Char) : trimBoth q (f s) = f (trimBoth q s) := by
  -- the end is the beginning of the reversed text
  have hr := h.reversed.dropWhile (s.dropWhile q).reverse
  simp only [List.reverse_reverse] at hr
  rw [trimBoth_eq, trimBoth_eq, h.dropWhile, rdropWhile_eq, hr, List.reverse_reverse,
    ← rdropWhile_eq]

theorem filter_append (h : Local q f) {a : List Char} (ha : ∀ c ∈ a, q c) (s : List Char) :
    (f (a ++ s)).filter (fun c => !q c) = s.filter fun c => !q c := by
  induction s generalizing a with
  | nil => rw [List.append_nil, filter_of_forall (h.all a ha), List.filter_nil]
  | cons c s ih =>
    by_cases hc : q c
    · have hac : ∀ d ∈ a ++ [c], q d := by simpa [or_imp, forall_and] using ⟨ha, hc⟩
      have hi := ih hac
      rw [List.append_assoc, List.singleton_append] at hi
      rw [hi, List.filter_cons_of_neg (by simp [hc])]
    · have hi := ih (a := []) (by simp)
      rw [List.nil_append] at hi
      rw [h.append_cons a c s (by simpa using hc), List.filter_append,
        filter_of_forall (h.all a ha), List.nil_append, List.filter_cons, List.filter_cons, hi]

theorem filter (h : Local q f) (s : List Char) :
    (f s).filter (fun c => !q c) = s.filter fun c => !q c :=
  h.filter_append (a := []) (by simp) s

end Local

end Quarry.Text
