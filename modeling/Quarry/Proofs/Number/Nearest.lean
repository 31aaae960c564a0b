import Quarry.Proofs.Number.Ratio

namespace Quarry.Number

def IsDouble (x : ℚ) : Prop :=
  ∃ m q : ℤ, |m| < 2 ^ 53 ∧ -1074 ≤ q ∧ q ≤ 971 ∧ x = m * 2 ^ q

def IsEvenDouble (x : ℚ) : Prop :=
  ∃ m q : ℤ, |2 * m| < 2 ^ 53 ∧ -1074 ≤ q ∧ q ≤ 971 ∧ x = (2 * m : ℤ) * 2 ^ q

/-- `y` is a floating-point number nearest to `x`, and of two the even one. -/
structure IsNearest (x y : ℚ) : Prop where
  double : IsDouble y
  least : ∀ z, IsDouble z → |x - y| ≤ |x - z|
  even : ∀ z, IsDouble z → z ≠ y → |x - z| = |x - y| → IsEvenDouble y

/-- From here on the nearest floating-point number is infinite: half a last bit above the largest
finite one. -/
def overflow : ℚ := 2 ^ (1024 : ℤ) - 2 ^ (970 : ℤ)

theorem overflow_eq : overflow = (2 ^ 54 - 1) * 2 ^ (970 : ℤ) := by
  rw [overflow, sub_mul, one_mul, show (1024 : ℤ) = (54 : ℕ) + 970 from rfl,
    zpow_add₀ two_ne_zero, zpow_natCast]

variable {x y z : ℚ}

theorem IsEvenDouble.isDouble (h : IsEvenDouble x) : IsDouble x := by
  obtain ⟨m, q, h⟩ := h
  exact ⟨2 * m, q, h⟩

theorem IsDouble.neg (h : IsDouble x) : IsDouble (-x) := by
  obtain ⟨m, q, hm, h1, h2, rfl⟩ := h
  refine ⟨-m, q, ?_, h1, h2, ?_⟩
  · rwa [abs_neg]
  · push_cast
    ring

theorem IsEvenDouble.neg (h : IsEvenDouble x) : IsEvenDouble (-x) := by
  obtain ⟨m, q, hm, h1, h2, rfl⟩ := h
  refine ⟨-m, q, ?_, h1, h2, ?_⟩
  · rwa [mul_neg, abs_neg]
  · push_cast
    ring

theorem IsNearest.neg (h : IsNearest x y) : IsNearest (-x) (-y) := by
  have habs : ∀ z, |-x - z| = |x - -z| := fun z => by
    rw [← abs_neg, neg_sub, sub_neg_eq_add, sub_neg_eq_add, add_comm]
  refine ⟨h.double.neg, fun z hz => ?_, fun z hz hne heq => ?_⟩
  · rw [habs, habs, neg_neg]
    exact h.least _ hz.neg
  · rw [habs, habs, neg_neg] at heq
    exact (h.even _ hz.neg (fun h0 => hne (by rw [← h0, neg_neg])) heq).neg

theorem IsNearest.eq_of_isDouble (h : IsNearest x y) (hx : IsDouble x) : y = x := by
  have hle := h.least x hx
  rw [sub_self, abs_zero] at hle
  have := abs_nonpos_iff.mp hle
  linarith

theorem isDouble_between {m n p q : ℤ} (hm : |2 * m| < 2 ^ 53) (hp : -1074 ≤ p) (hp' : p ≤ 971)
    (hpq : p ≤ q) (hlt : ((2 * m : ℤ) : ℚ) * 2 ^ p < (2 * n : ℤ) * 2 ^ q) :
    ∃ w, IsDouble w ∧ ((2 * m : ℤ) : ℚ) * 2 ^ p < w ∧ w < (2 * n : ℤ) * 2 ^ q := by
  obtain ⟨i, rfl⟩ := Int.le.dest hpq
  have hpos := Ratio.two_zpow_pos p
  have hz : ((2 * n : ℤ) : ℚ) * 2 ^ (p + i) = (2 * (n * 2 ^ i) : ℤ) * 2 ^ p := by
    push_cast
    rw [zpow_add₀ two_ne_zero, zpow_natCast]
    ring
  rw [hz] at hlt ⊢
  have hlt' : 2 * m < 2 * (n * 2 ^ i) := by
    exact_mod_cast lt_of_mul_lt_mul_right hlt hpos.le
  rw [abs_lt] at hm
  refine ⟨(2 * m + 1 : ℤ) * 2 ^ p, ⟨2 * m + 1, p, ?_, hp, hp', rfl⟩, ?_, ?_⟩
  · rw [abs_lt]
    omega
  · exact mul_lt_mul_of_pos_right (by exact_mod_cast Int.lt_succ _) hpos
  · exact mul_lt_mul_of_pos_right (by exact_mod_cast (by omega : 2 * m + 1 < 2 * (n * 2 ^ i))) hpos

theorem IsEvenDouble.exists_between (hy : IsEvenDouble y) (hz : IsEvenDouble z) (hlt : y < z) :
    ∃ w, IsDouble w ∧ y < w ∧ w < z := by
  obtain ⟨m, p, hm, hp, hp', rfl⟩ := hy
  obtain ⟨n, q, hn, hq, hq', rfl⟩ := hz
  by_cases hpq : p ≤ q
  · exact isDouble_between hm hp hp' hpq hlt
  · have hneg : ((2 * -n : ℤ) : ℚ) * 2 ^ q < (2 * -m : ℤ) * 2 ^ p := by
      push_cast at hlt ⊢
      linarith
    obtain ⟨w, hw, h1, h2⟩ := isDouble_between (by rwa [mul_neg, abs_neg]) hq hq' (by omega) hneg
    refine ⟨-w, hw.neg, ?_, ?_⟩ <;> push_cast at h1 h2 ⊢ <;> linarith

/-- There is only one nearest number. -/
theorem IsNearest.unique (hy : IsNearest x y) (hz : IsNearest x z) : y = z := by
  by_contra hne
  have heq : |x - y| = |x - z| := le_antisymm (hy.least z hz.double) (hz.least y hy.double)
  have hy' := hy.even z hz.double (Ne.symm hne) heq.symm
  have hz' := hz.even y hy.double hne heq
  -- Two numbers are equally near from either side, and between them there is a nearer one.
  have hmid : ∀ {u v}, IsNearest x u → IsEvenDouble u → IsEvenDouble v → u < v →
      |x - u| = |x - v| → False := by
    intro u v hu hu' hv' huv habs
    obtain ⟨w, hw, h1, h2⟩ := hu'.exists_between hv' huv
    have hle := hu.least w hw
    obtain h | h := abs_eq_abs.mp habs
    · linarith
    · have hx : |x - w| < x - u := by
        rw [abs_lt]
        constructor <;> linarith
      rw [abs_of_nonneg (by linarith : 0 ≤ x - u)] at hle
      linarith
  obtain hlt | hlt := lt_or_gt_of_ne hne
  · exact hmid hy hy' hz' hlt heq
  · exact hmid hz hz' hy' hlt heq.symm

theorem IsDouble.abs_lt_overflow (h : IsDouble x) : |x| < overflow := by
  obtain ⟨m, q, hm, -, hq, rfl⟩ := h
  have hm' : |(m : ℚ)| ≤ 2 ^ 53 - 1 := by exact_mod_cast (by omega : |m| ≤ 2 ^ 53 - 1)
  have hpow : (2 : ℚ) ^ q ≤ 2 ^ (971 : ℤ) := zpow_le_zpow_right₀ one_le_two hq
  have htop : (2 : ℚ) ^ (971 : ℤ) = 2 * 2 ^ (970 : ℤ) := Ratio.two_zpow_succ 970
  have hpos := Ratio.two_zpow_pos 970
  rw [abs_mul, abs_of_pos (Ratio.two_zpow_pos q), overflow_eq]
  calc |(m : ℚ)| * 2 ^ q ≤ (2 ^ 53 - 1) * 2 ^ (971 : ℤ) :=
        mul_le_mul hm' hpow (Ratio.two_zpow_pos q).le (by norm_num)
    _ = (2 ^ 54 - 2) * 2 ^ (970 : ℤ) := by
        rw [htop]
        ring
    _ < (2 ^ 54 - 1) * 2 ^ (970 : ℤ) := by
        apply mul_lt_mul_of_pos_right _ hpos
        norm_num

/-- In units of a smaller place every floating-point number is a whole number. -/
theorem isDouble_units {q : ℤ} (h : IsDouble z) : (∃ j : ℤ, z = j * 2 ^ q) ∨
    -1074 < q ∧ |z| < 2 ^ 52 * 2 ^ q := by
  obtain ⟨m, p, hm, hp, -, rfl⟩ := h
  by_cases hle : q ≤ p
  · obtain ⟨n, rfl⟩ := Int.le.dest hle
    refine .inl ⟨m * 2 ^ n, ?_⟩
    push_cast
    rw [zpow_add₀ two_ne_zero, zpow_natCast]
    ring
  · refine .inr ⟨by omega, ?_⟩
    have hm' : |(m : ℚ)| < 2 ^ 53 := by exact_mod_cast hm
    have hpow : 2 * (2 : ℚ) ^ p ≤ 2 ^ q := by
      rw [← Ratio.two_zpow_succ]
      exact zpow_le_zpow_right₀ one_le_two (by omega)
    rw [abs_mul, abs_of_pos (Ratio.two_zpow_pos p)]
    calc |(m : ℚ)| * 2 ^ p < 2 ^ 53 * 2 ^ p := mul_lt_mul_of_pos_right hm' (Ratio.two_zpow_pos p)
      _ = 2 ^ 52 * (2 * 2 ^ p) := by ring
      _ ≤ 2 ^ 52 * 2 ^ q := mul_le_mul_of_nonneg_left hpow (by positivity)

theorem isNearest_zero (h : |x| < 2 ^ (-1075 : ℤ)) : IsNearest x 0 := by
  have hzero : IsEvenDouble 0 := ⟨0, 0, by norm_num, by norm_num, by norm_num, by norm_num⟩
  refine ⟨hzero.isDouble, fun z hz => ?_, fun _ _ _ _ => hzero⟩
  rw [sub_zero]
  obtain ⟨j, rfl⟩ | ⟨h0, -⟩ := isDouble_units (q := -1074) hz
  · by_cases hj : j = 0
    · simp [hj]
    · have h1 : (1 : ℚ) ≤ |(j : ℚ)| := by exact_mod_cast Int.one_le_abs hj
      have hunit : (2 : ℚ) ^ (-1075 + 1 : ℤ) = 2 * 2 ^ (-1075 : ℤ) := Ratio.two_zpow_succ (-1075)
      rw [show (-1075 + 1 : ℤ) = -1074 by norm_num] at hunit
      have hpos := Ratio.two_zpow_pos (-1075)
      have hfar : 2 * 2 ^ (-1075 : ℤ) ≤ |(j : ℚ) * 2 ^ (-1074 : ℤ)| := by
        rw [abs_mul, abs_of_pos (Ratio.two_zpow_pos _), hunit]
        nlinarith
      have htri := abs_sub_abs_le_abs_sub ((j : ℚ) * 2 ^ (-1074 : ℤ)) x
      rw [abs_sub_comm _ x] at htri
      linarith
  · exact absurd h0 (by norm_num)

section

variable {q : ℤ} {k : ℕ}

theorem units_apart (hhalf : |x - k * 2 ^ q| ≤ 2 ^ q / 2) {j : ℤ} (hj : j ≠ k) :
    2 ^ q / 2 ≤ |x - j * 2 ^ q| := by
  have h1 : (1 : ℚ) ≤ |(j : ℚ) - k| := by exact_mod_cast Int.one_le_abs (sub_ne_zero.mpr hj)
  have hpos := Ratio.two_zpow_pos q
  have hapart : 2 ^ q ≤ |((j : ℚ) - k) * 2 ^ q| := by
    rw [abs_mul, abs_of_pos hpos]
    exact le_mul_of_one_le_left hpos.le h1
  have htri := abs_sub (x - k * 2 ^ q) (x - j * 2 ^ q)
  rw [show x - k * 2 ^ q - (x - j * 2 ^ q) = ((j : ℚ) - k) * 2 ^ q by ring] at htri
  linarith

theorem units_least (hhalf : |x - k * 2 ^ q| ≤ 2 ^ q / 2) (j : ℤ) :
    |x - k * 2 ^ q| ≤ |x - j * 2 ^ q| := by
  by_cases hj : j = k
  · rw [hj, Int.cast_natCast]
  · exact hhalf.trans (units_apart hhalf hj)

theorem isDouble_intCast {j : ℤ} (hj : |j| ≤ 2 ^ 53) : IsDouble j := by
  by_cases htop : |j| = 2 ^ 53
  · have hpos : |(2 ^ 53 : ℤ)| = 2 ^ 53 := abs_of_pos (by norm_num)
    obtain rfl | rfl := abs_eq_abs.mp (htop.trans hpos.symm)
    · exact ⟨1, 53, by norm_num, by norm_num, by norm_num, by norm_num⟩
    · exact ⟨-1, 53, by norm_num, by norm_num, by norm_num, by norm_num⟩
  · exact ⟨j, 0, by omega, by norm_num, by norm_num, by simp⟩

def Fits (q : ℤ) (k : ℕ) : Prop :=
  q ≤ 970 ∨ q = 971 ∧ k < 2 ^ 53

theorem isDouble_of_units (hq : -1074 ≤ q) (hk : k ≤ 2 ^ 53) (hfit : Fits q k) :
    IsDouble (k * 2 ^ q) ∧ (Even k → IsEvenDouble (k * 2 ^ q)) := by
  by_cases hfull : k = 2 ^ 53
  · have hq' : q ≤ 970 := by
      obtain h | h := hfit
      · exact h
      · omega
    have hev : IsEvenDouble (k * 2 ^ q) := by
      refine ⟨2 ^ 51, q + 1, by norm_num, by omega, by omega, ?_⟩
      rw [hfull, Ratio.two_zpow_succ]
      push_cast
      ring
    exact ⟨hev.isDouble, fun _ => hev⟩
  · have hq' : q ≤ 971 := by
      obtain h | h := hfit
      · omega
      · exact h.1.le
    have hlt : |(k : ℤ)| < 2 ^ 53 := by
      rw [Nat.abs_cast]
      omega
    refine ⟨⟨k, q, hlt, hq, hq', by rw [Int.cast_natCast]⟩, ?_⟩
    rintro ⟨m, rfl⟩
    refine ⟨m, q, ?_, hq, hq', ?_⟩
    · rwa [two_mul]
    · push_cast
      ring

/-- A whole number of units is nearest, if it is nearest among those, has its place among the
floating-point numbers, and no smaller unit is there for numbers of this size. -/
theorem isNearest_of_units (hdouble : IsDouble (k * 2 ^ q))
    (heven : |x - k * 2 ^ q| = 2 ^ q / 2 → IsEvenDouble (k * 2 ^ q))
    (hlow : q = -1074 ∨ 2 ^ 52 * 2 ^ q ≤ x) (hhalf : |x - k * 2 ^ q| ≤ 2 ^ q / 2) :
    IsNearest x (k * 2 ^ q) := by
  -- Where units are smaller the numbers are too small to be nearest.
  have hbelow : ∀ z, -1074 < q → |z| < 2 ^ 52 * 2 ^ q → |x - k * 2 ^ q| < |x - z| := by
    intro z hq hz
    have hx := hlow.resolve_left hq.ne'
    have hzlt := lt_of_le_of_lt (le_abs_self z) hz
    calc |x - k * 2 ^ q| ≤ |x - (2 ^ 52 : ℤ) * 2 ^ q| := units_least hhalf (2 ^ 52)
      _ = x - 2 ^ 52 * 2 ^ q := by
          push_cast
          exact abs_of_nonneg (sub_nonneg.mpr hx)
      _ < x - z := by linarith
      _ ≤ |x - z| := le_abs_self _
  refine ⟨hdouble, fun z hz => ?_, fun z hz hne heq => ?_⟩
  · obtain ⟨j, rfl⟩ | ⟨hq, hz⟩ := isDouble_units (q := q) hz
    · exact units_least hhalf j
    · exact (hbelow z hq hz).le
  · obtain ⟨j, rfl⟩ | ⟨hq, hz⟩ := isDouble_units (q := q) hz
    · have hj : j ≠ k := by
        rintro rfl
        exact hne (by rw [Int.cast_natCast])
      exact heven (le_antisymm hhalf (heq ▸ units_apart hhalf hj))
    · exact absurd heq (hbelow z hq hz).ne'

end

end Quarry.Number
