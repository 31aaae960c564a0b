import Mathlib.Data.List.Infix
import Mathlib.Data.List.TakeWhile
import Quarry.Number.Leading

namespace Quarry.Number

inductive WritesSign : Bool → List Char → Prop
  | absent : WritesSign false []
  | plus : WritesSign false ['+']
  | minus : WritesSign true ['-']

inductive WritesFraction : Option (List Char) → List Char → Prop
  | absent : WritesFraction none []
  | digits {ds : List Char} (hd : ∀ c ∈ ds, c.isDigit) : WritesFraction (some ds) ('.' :: ds)

inductive WritesPower : Option (Bool × List Char) → List Char → Prop
  | absent : WritesPower none []
  | digits {c : Char} {negative : Bool} {sg ds : List Char} (hc : c = 'e' ∨ c = 'E')
      (hs : WritesSign negative sg) (hne : ds ≠ []) (hd : ∀ d ∈ ds, d.isDigit) :
      WritesPower (some (negative, ds)) (c :: (sg ++ ds))

/-- A sign, digits, a point with digits, and an exponent, of which all but the digits on one side
of the point may be missing. -/
inductive Writes : Numeral → List Char → Prop
  | intro {n : Numeral} {sg fs ps : List Char} (hs : WritesSign n.negative sg)
      (hw : ∀ c ∈ n.whole, c.isDigit) (hf : WritesFraction n.fraction fs)
      (hp : WritesPower n.power ps) (hne : n.whole ≠ [] ∨ n.fraction.getD [] ≠ []) :
      Writes n (sg ++ (n.whole ++ (fs ++ ps)))

section

variable {s t u : List Char}

theorem splitSign_sound {b : Bool} (h : splitSign s = (b, t)) :
    ∃ sg, WritesSign b sg ∧ s = sg ++ t := by
  unfold splitSign at h
  split at h
  · cases h
    exact ⟨_, .minus, rfl⟩
  · cases h
    exact ⟨_, .plus, rfl⟩
  · cases h
    exact ⟨_, .absent, rfl⟩

theorem splitFraction_sound {f : Option (List Char)} (h : splitFraction s = (f, t)) :
    ∃ fs, WritesFraction f fs ∧ s = fs ++ t := by
  unfold splitFraction at h
  split at h
  · rename_i s
    cases h
    refine ⟨_, .digits fun c hc => List.mem_takeWhile_imp hc, ?_⟩
    rw [List.cons_append, List.takeWhile_append_dropWhile]
  · cases h
    exact ⟨_, .absent, rfl⟩

theorem isPowerLetter_iff {c : Char} : isPowerLetter c ↔ c = 'e' ∨ c = 'E' := by
  simp [isPowerLetter]

theorem splitPower_sound {p : Option (Bool × List Char)} (h : splitPower s = (p, t)) :
    ∃ ps, WritesPower p ps ∧ s = ps ++ t := by
  unfold splitPower at h
  split at h
  · rename_i c s
    by_cases hc : isPowerLetter c
    · rw [if_pos hc] at h
      rcases hu : splitSign s with ⟨b, u⟩
      obtain ⟨sg, hs, rfl⟩ := splitSign_sound hu
      simp only [hu] at h
      by_cases hds : u.takeWhile Char.isDigit = []
      · simp only [hds, List.isEmpty_nil, if_true] at h
        cases h
        exact ⟨_, .absent, rfl⟩
      · simp only [List.isEmpty_iff, hds, if_false] at h
        cases h
        refine ⟨_, .digits (isPowerLetter_iff.mp hc) hs hds fun d hd =>
          List.mem_takeWhile_imp hd, ?_⟩
        rw [List.cons_append, List.append_assoc, List.takeWhile_append_dropWhile]
    · rw [if_neg hc] at h
      cases h
      exact ⟨_, .absent, rfl⟩
  · cases h
    exact ⟨_, .absent, rfl⟩

theorem splitNumeral_sound {n : Numeral} (h : splitNumeral s = some (n, t)) :
    ∃ u, Writes n u ∧ s = u ++ t := by
  rcases hx : splitSign s with ⟨b, x⟩
  rcases hy : splitFraction (x.dropWhile Char.isDigit) with ⟨f, y⟩
  rcases hz : splitPower y with ⟨p, z⟩
  obtain ⟨sg, hs, rfl⟩ := splitSign_sound hx
  obtain ⟨fs, hf, hxy⟩ := splitFraction_sound hy
  obtain ⟨ps, hp, rfl⟩ := splitPower_sound hz
  simp only [splitNumeral, hx, hy, hz] at h
  by_cases hne : x.takeWhile Char.isDigit = [] ∧ f.getD [] = []
  · simp [hne] at h
  · simp only [Bool.and_eq_true, List.isEmpty_iff, hne, if_false] at h
    cases h
    refine ⟨_, .intro hs (fun c hc => List.mem_takeWhile_imp hc) hf hp ?_, ?_⟩
    · rwa [not_and_or] at hne
    · have hx := List.takeWhile_append_dropWhile (p := Char.isDigit) (l := x)
      rw [hxy] at hx
      simp only [List.append_assoc, hx]

/-! ### What is written is read -/

theorem takeWhile_digits {p : Char → Bool} (hs : ∀ c ∈ s, p c) :
    (s ++ t).takeWhile p = s ++ t.takeWhile p ∧ (s ++ t).dropWhile p = t.dropWhile p :=
  ⟨List.takeWhile_append_of_pos hs, List.dropWhile_append_of_pos hs⟩

theorem not_isDigit_of_powerLetter {c : Char} (hc : c = 'e' ∨ c = 'E') : c.isDigit = false := by
  obtain rfl | rfl := hc <;> rfl

theorem splitSign_of_isDigit {c : Char} (hc : c.isDigit ∨ c = '.') :
    splitSign (c :: s) = (false, c :: s) := by
  have hm : c ≠ '-' := by
    rintro rfl
    simp [Char.isDigit] at hc
  have hp : c ≠ '+' := by
    rintro rfl
    simp [Char.isDigit] at hc
  simp [splitSign, hm, hp]

theorem splitSign_written {b : Bool} {sg : List Char} (hs : WritesSign b sg) {c : Char}
    (hc : c.isDigit ∨ c = '.') : splitSign (sg ++ c :: s) = (b, c :: s) := by
  cases hs with
  | absent => exact splitSign_of_isDigit hc
  | plus | minus => rfl

theorem splitPower_written {b : Bool} {ds ps : List Char} (hp : WritesPower (some (b, ds)) ps) :
    splitPower (ps ++ t) =
      (some (b, ds ++ t.takeWhile Char.isDigit), t.dropWhile Char.isDigit) := by
  cases hp with
  | @digits c b sg ds hc hs hne hd =>
    obtain ⟨d, ds, rfl⟩ := List.exists_cons_of_ne_nil hne
    have hsign := splitSign_written (s := ds ++ t) hs (.inl (hd d List.mem_cons_self))
    obtain ⟨htake, hdrop⟩ := takeWhile_digits (t := t) hd
    rw [List.cons_append, List.append_assoc, splitPower, if_pos (isPowerLetter_iff.mpr hc)]
    rw [← List.cons_append] at hsign
    simp only [hsign, htake, hdrop]
    rfl

theorem length_splitPower_le : (splitPower s).2.length ≤ s.length := by
  rcases hp : splitPower s with ⟨p, t⟩
  obtain ⟨ps, -, rfl⟩ := splitPower_sound hp
  simp

theorem length_splitFraction_le : (splitFraction s).2.length ≤ s.length := by
  rcases hf : splitFraction s with ⟨f, t⟩
  obtain ⟨fs, -, rfl⟩ := splitFraction_sound hf
  simp

theorem length_dropWhile_le {p : Char → Bool} : (s.dropWhile p).length ≤ s.length :=
  (List.dropWhile_sublist p).length_le

theorem splitNumeral_of_sign {b : Bool} (hs : splitSign s = (b, t))
    (hne : t.takeWhile Char.isDigit ≠ [] ∨
      (splitFraction (t.dropWhile Char.isDigit)).1.getD [] ≠ []) :
    splitNumeral s = some (⟨b, t.takeWhile Char.isDigit,
      (splitFraction (t.dropWhile Char.isDigit)).1,
      (splitPower (splitFraction (t.dropWhile Char.isDigit)).2).1⟩,
      (splitPower (splitFraction (t.dropWhile Char.isDigit)).2).2) := by
  have hcond : ((t.takeWhile Char.isDigit).isEmpty &&
      ((splitFraction (t.dropWhile Char.isDigit)).1.getD []).isEmpty) = false := by
    rw [← not_and_or] at hne
    simpa [← Bool.not_eq_true] using hne
  simp only [splitNumeral, hs, hcond]
  rfl

theorem takeWhile_powerLetter {c : Char} (hc : c = 'e' ∨ c = 'E') :
    (c :: s).takeWhile Char.isDigit = [] ∧ (c :: s).dropWhile Char.isDigit = c :: s := by
  have hd := not_isDigit_of_powerLetter hc
  exact ⟨List.takeWhile_cons_of_neg (by simp [hd]), List.dropWhile_cons_of_neg (by simp [hd])⟩

theorem splitPower_behind_digits {p : Option (Bool × List Char)} {ps : List Char}
    (hp : WritesPower p ps) :
    (splitPower ((ps ++ t).dropWhile Char.isDigit)).2.length ≤ t.length ∧
      (t = [] → (ps ++ t).takeWhile Char.isDigit = [] ∧
        splitPower ((ps ++ t).dropWhile Char.isDigit) = (p, [])) := by
  cases hp with
  | absent =>
    refine ⟨length_splitPower_le.trans length_dropWhile_le, ?_⟩
    rintro rfl
    exact ⟨rfl, rfl⟩
  | @digits c b sg ds hc hs hne hd =>
    have hw := splitPower_written (t := t) (.digits hc hs hne hd)
    obtain ⟨htake, hdrop⟩ := takeWhile_powerLetter (s := sg ++ ds ++ t) hc
    rw [List.cons_append] at hw ⊢
    rw [htake, hdrop, hw]
    refine ⟨length_dropWhile_le, ?_⟩
    rintro rfl
    simp

theorem splitSign_of_written {b : Bool} {sg w fs : List Char} {f : Option (List Char)}
    (hs : WritesSign b sg) (hw : ∀ c ∈ w, c.isDigit) (hf : WritesFraction f fs)
    (hne : w ≠ [] ∨ f.getD [] ≠ []) :
    splitSign (sg ++ (w ++ (fs ++ t))) = (b, w ++ (fs ++ t)) := by
  cases w with
  | nil =>
    cases hf with
    | absent => simp at hne
    | digits hd => exact splitSign_written hs (.inr rfl)
  | cons c w => exact splitSign_written hs (.inl (hw c List.mem_cons_self))

/-- What reading makes of a text behind the whole digits: `more` of them, a fraction and the rest.
Where something follows the written parts it may lengthen them, but not shorten them. -/
structure ReadsOn (f : Option (List Char)) (p : Option (Bool × List Char)) (s t : List Char) : Prop
    where
  rest : (splitPower (splitFraction (s.dropWhile Char.isDigit)).2).2.length ≤ t.length
  fraction : f.getD [] ≠ [] → (splitFraction (s.dropWhile Char.isDigit)).1.getD [] ≠ []
  exact : t = [] → s.takeWhile Char.isDigit = [] ∧
    (splitFraction (s.dropWhile Char.isDigit)).1 = f ∧
    splitPower (splitFraction (s.dropWhile Char.isDigit)).2 = (p, [])

theorem readsOn_written {f : Option (List Char)} {p : Option (Bool × List Char)}
    {fs ps : List Char} (hf : WritesFraction f fs) (hp : WritesPower p ps) :
    ReadsOn f p (fs ++ (ps ++ t)) t := by
  obtain ⟨hlen, hnil⟩ := splitPower_behind_digits (t := t) hp
  cases hf with
  | @digits ds hd =>
    obtain ⟨htake, hdrop⟩ := takeWhile_digits (t := ps ++ t) hd
    have hsplit : splitFraction (('.' :: ds ++ (ps ++ t)).dropWhile Char.isDigit) =
        (some (ds ++ (ps ++ t).takeWhile Char.isDigit), (ps ++ t).dropWhile Char.isDigit) := by
      rw [List.cons_append, List.dropWhile_cons_of_neg (by decide), splitFraction, htake, hdrop]
    refine ⟨by rwa [hsplit], fun hds => ?_, fun ht => ?_⟩
    · rw [hsplit]
      exact fun h0 => hds (List.append_eq_nil_iff.mp h0).1
    · obtain ⟨h1, h2⟩ := hnil ht
      rw [hsplit, h1, h2, List.append_nil]
      exact ⟨rfl, rfl, rfl⟩
  | absent =>
    rw [List.nil_append]
    cases hp with
    | absent =>
      refine ⟨?_, fun h => absurd rfl h, ?_⟩
      · exact length_splitPower_le.trans (length_splitFraction_le.trans length_dropWhile_le)
      · rintro rfl
        exact ⟨rfl, rfl, rfl⟩
    | @digits c _ sg ds hc _ _ _ =>
      obtain ⟨htake, hdrop⟩ := takeWhile_powerLetter (s := sg ++ ds ++ t) hc
      have hsplit : splitFraction (c :: (sg ++ ds ++ t)) = (none, c :: (sg ++ ds ++ t)) := by
        obtain rfl | rfl := hc <;> rfl
      rw [List.cons_append] at hlen hnil ⊢
      rw [hdrop] at hlen hnil
      refine ⟨by rwa [hdrop, hsplit], fun h => absurd rfl h, fun ht => ?_⟩
      rw [hdrop, hsplit]
      exact ⟨htake, rfl, (hnil ht).2⟩

/-- Of a text that begins with a written numeral at least that much is split off, and all of it if
nothing follows. -/
theorem splitNumeral_written {n : Numeral} (h : Writes n u) :
    ∃ m r, splitNumeral (u ++ t) = some (m, r) ∧ r.length ≤ t.length ∧ (t = [] → m = n) := by
  obtain ⟨b, w, f, p⟩ := n
  obtain @⟨sg, fs, ps, hs, hw, hf, hp, hne⟩ := h
  dsimp only at hs hw hf hp hne
  have hsign := splitSign_of_written (t := ps ++ t) hs hw hf hne
  have hon := readsOn_written (t := t) hf hp
  obtain ⟨htake, hdrop⟩ := takeWhile_digits (t := fs ++ (ps ++ t)) hw
  have hnum := splitNumeral_of_sign hsign
  rw [htake, hdrop] at hnum
  simp only [List.append_assoc]
  refine ⟨_, _, hnum (hne.imp (fun hw0 h0 => hw0 (List.append_eq_nil_iff.mp h0).1) hon.fraction),
    hon.rest, fun ht => ?_⟩
  obtain ⟨h1, h2, h3⟩ := hon.exact ht
  rw [h1, h2, h3, List.append_nil]

end

end Quarry.Number
