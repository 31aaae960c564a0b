import Quarry.Proofs.Number.Bits
import Quarry.Proofs.Number.Nearest

namespace Quarry.Number

def magnitude (bits : Nat) : ℚ :=
  if bits < fractionSize then bits * 2 ^ (-1074 : ℤ)
  else (fractionSize + bits % fractionSize : Nat) * 2 ^ (((bits / fractionSize : Nat) : ℤ) - 1075)

/-- A positive number is rounded to the number with these bits. -/
structure RoundsTo (x : ℚ) (bits : Nat) : Prop where
  bounded : bits ≤ infinityBits
  finite : x < overflow → bits < infinityBits ∧ IsNearest x (magnitude bits)
  infinite : overflow ≤ x → bits = infinityBits

theorem cast_fractionSize : ((fractionSize : Nat) : ℚ) = 2 ^ 52 := by
  norm_num [fractionSize]

section

variable {q : ℤ} {k : ℕ}

theorem magnitude_units (hq : -1074 ≤ q) (hlow : q = -1074 ∨ fractionSize ≤ k)
    (hk : k ≤ 2 * fractionSize) :
    magnitude ((q + 1074).toNat * fractionSize + k) = k * 2 ^ q := by
  obtain ⟨a, rfl⟩ : ∃ a : ℕ, q = a - 1074 := ⟨(q + 1074).toNat, by omega⟩
  have hpos : 0 < fractionSize := by decide
  rw [show ((a : ℤ) - 1074 + 1074).toNat = a by omega]
  by_cases hsmall : k < fractionSize
  · obtain rfl : a = 0 := by omega
    rw [Nat.zero_mul, Nat.zero_add, magnitude, if_pos hsmall]
    rfl
  · obtain ⟨f, rfl⟩ := Nat.exists_eq_add_of_le (not_lt.mp hsmall)
    have hbits : a * fractionSize + (fractionSize + f) = f + (a + 1) * fractionSize := by ring
    rw [hbits, magnitude, if_neg, Nat.add_mul_mod_self_right, Nat.add_mul_div_right _ _ hpos]
    · by_cases hf : f < fractionSize
      · rw [Nat.mod_eq_of_lt hf, Nat.div_eq_of_lt hf]
        congr 2
        push_cast
        ring
      · obtain rfl : f = fractionSize := by omega
        rw [Nat.mod_self, Nat.div_self hpos]
        push_cast
        rw [show (1 + ((a : ℤ) + 1) - 1075) = (a - 1074) + 1 by ring, Ratio.two_zpow_succ]
        ring
    · rw [Nat.add_mul]
      omega

theorem lt_infinityBits_iff (hlow : q = -1074 ∨ fractionSize ≤ k)
    (hk : k ≤ 2 * fractionSize) :
    (q + 1074).toNat * fractionSize + k < infinityBits ↔ Fits q k := by
  have hsize : fractionSize = 2 ^ 52 := rfl
  have hinf : infinityBits = 2047 * 2 ^ 52 := rfl
  rw [hsize] at hlow hk ⊢
  rw [hinf, Fits]
  omega

end

namespace Ratio

variable {r : Ratio}

theorem lastBit_spec (hn : 0 < r.num) (hd : 0 < r.den) :
    -1074 ≤ r.lastBit ∧ (r.lastBit = -1074 ∨ 2 ^ 52 * 2 ^ r.lastBit ≤ r.value) ∧
      r.value < 2 ^ 53 * 2 ^ r.lastBit := by
  obtain ⟨hlow, hhigh⟩ := leadingBit_spec hn hd
  have hpow : ∀ i : ℕ, (2 : ℚ) ^ i * 2 ^ r.lastBit = 2 ^ (i + r.lastBit) := fun i => by
    rw [zpow_add₀ two_ne_zero, zpow_natCast]
  rw [hpow, hpow]
  refine ⟨le_max_right _ _, ?_, hhigh.trans_le (zpow_le_zpow_right₀ one_le_two ?_)⟩
  · by_cases h : r.lastBit = -1074
    · exact .inl h
    · refine .inr ((zpow_le_zpow_right₀ one_le_two ?_).trans hlow)
      rw [lastBit] at h ⊢
      omega
  · rw [lastBit]
    omega

abbrev units (r : Ratio) : ℕ := (r.scale 2 (-r.lastBit)).nearest

theorem units_spec (hd : 0 < r.den) :
    |r.value - r.units * 2 ^ r.lastBit| ≤ 2 ^ r.lastBit / 2 ∧
      (|r.value - r.units * 2 ^ r.lastBit| = 2 ^ r.lastBit / 2 → Even r.units) := by
  have hpos := two_zpow_pos r.lastBit
  obtain ⟨hhalf, heven⟩ := nearest_spec (scale_den_pos (e := -r.lastBit) two_pos hd)
  have hscale : |r.value - r.units * 2 ^ r.lastBit| =
      |(r.scale 2 (-r.lastBit)).value - r.units| * 2 ^ r.lastBit := by
    rw [← abs_of_pos hpos, ← abs_mul, abs_of_pos hpos, sub_mul, scale_value, mul_assoc,
      Nat.cast_ofNat, ← zpow_add₀ two_ne_zero, neg_add_cancel, zpow_zero, mul_one]
  rw [hscale, div_eq_mul_one_div, mul_comm (2 ^ r.lastBit)]
  refine ⟨mul_le_mul_of_nonneg_right hhalf hpos.le, fun h => heven ?_⟩
  exact mul_right_cancel₀ hpos.ne' h

theorem units_bounds (hn : 0 < r.num) (hd : 0 < r.den) :
    (r.lastBit = -1074 ∨ fractionSize ≤ r.units) ∧ r.units ≤ 2 * fractionSize := by
  obtain ⟨-, hlow, hhigh⟩ := lastBit_spec hn hd
  obtain ⟨h1, h2⟩ := abs_le.mp (units_spec hd).1
  have hpos := two_zpow_pos r.lastBit
  constructor
  · refine hlow.imp_right fun hlow => ?_
    have hlt : ((fractionSize : ℕ) : ℚ) < r.units + 1 := by
      rw [cast_fractionSize]
      apply lt_of_mul_lt_mul_right _ hpos.le
      linarith
    exact Nat.lt_succ_iff.mp (by exact_mod_cast hlt)
  · have hlt : (r.units : ℚ) < (2 * fractionSize + 1 : ℕ) := by
      push_cast
      rw [cast_fractionSize]
      apply lt_of_mul_lt_mul_right _ hpos.le
      linarith
    exact Nat.lt_succ_iff.mp (by exact_mod_cast hlt)

/-- At the last place below the infinity half a unit decides, and the even number of units is the
infinite one. -/
theorem lt_overflow_iff_of_top {x u : ℚ} {k : ℕ} (hu : 0 < u) (hhalf : |x - k * (2 * u)| ≤ u)
    (heven : |x - k * (2 * u)| = u → Even k) : x < (2 ^ 54 - 1) * u ↔ k < 2 ^ 53 := by
  obtain ⟨h1, h2⟩ := abs_le.mp hhalf
  constructor
  · intro hx
    have hlt : (k : ℚ) < 2 ^ 53 := by
      apply lt_of_mul_lt_mul_right _ hu.le
      linarith
    exact_mod_cast hlt
  · intro hk
    have hle : (k : ℚ) ≤ 2 ^ 53 - 1 := by exact_mod_cast (by omega : (k : ℤ) ≤ 2 ^ 53 - 1)
    have hmul : k * u ≤ (2 ^ 53 - 1) * u := mul_le_mul_of_nonneg_right hle hu.le
    by_contra hx
    have hk' : (k : ℚ) = 2 ^ 53 - 1 := by
      apply mul_right_cancel₀ hu.ne'
      linarith
    have hx' : x - k * (2 * u) = u := by linarith
    have hev := heven (by rw [hx', abs_of_pos hu])
    have hnat : k + 1 = 2 ^ 53 := by exact_mod_cast (by linarith : (k : ℚ) + 1 = 2 ^ 53)
    rw [Nat.even_iff] at hev
    omega

theorem lt_overflow_iff (hn : 0 < r.num) (hd : 0 < r.den) :
    r.value < overflow ↔ Fits r.lastBit r.units := by
  obtain ⟨-, hlow, hhigh⟩ := lastBit_spec hn hd
  obtain ⟨hhalf, heven⟩ := units_spec hd
  have hpos := two_zpow_pos 970
  rw [overflow_eq]
  rcases lt_trichotomy r.lastBit 971 with hq | hq | hq
  · have hpow : (2 : ℚ) ^ r.lastBit ≤ 2 ^ (970 : ℤ) := zpow_le_zpow_right₀ one_le_two (by omega)
    refine iff_of_true ?_ (.inl (by omega))
    generalize (2 : ℚ) ^ (970 : ℤ) = u at hpow hpos ⊢
    linarith
  · have hunit : (2 : ℚ) ^ r.lastBit = 2 * 2 ^ (970 : ℤ) := by
      rw [hq]
      exact two_zpow_succ 970
    rw [hunit, mul_div_cancel_left₀ _ two_ne_zero] at hhalf heven
    rw [lt_overflow_iff_of_top hpos hhalf heven, Fits]
    omega
  · have hpow : 4 * (2 : ℚ) ^ (970 : ℤ) ≤ 2 ^ r.lastBit := by
      calc 4 * (2 : ℚ) ^ (970 : ℤ) = 2 ^ (970 + 1 + 1 : ℤ) := by
            rw [two_zpow_succ, two_zpow_succ]
            ring
        _ ≤ 2 ^ r.lastBit := zpow_le_zpow_right₀ one_le_two (by omega)
    refine iff_of_false ?_ ?_
    · have hx := hlow.resolve_left (by omega)
      generalize (2 : ℚ) ^ (970 : ℤ) = u at hpow hpos ⊢
      linarith
    · rw [Fits]
      omega

/-- The bits are those of the nearest number. -/
theorem roundsTo_nearestBits (hn : 0 < r.num) (hd : 0 < r.den) :
    RoundsTo r.value r.nearestBits := by
  obtain ⟨hq, hlow, -⟩ := lastBit_spec hn hd
  obtain ⟨hlow', hk⟩ := units_bounds hn hd
  obtain ⟨hhalf, heven⟩ := units_spec hd
  have hinf := lt_infinityBits_iff hlow' hk
  have hbits : r.nearestBits =
      min infinityBits ((r.lastBit + 1074).toNat * fractionSize + r.units) := rfl
  refine ⟨hbits ▸ min_le_left _ _, fun h => ?_, fun h => ?_⟩
  · have hfit := (lt_overflow_iff hn hd).mp h
    have hlt := hinf.mpr hfit
    rw [hbits, min_eq_right hlt.le, magnitude_units hq hlow' hk]
    obtain ⟨hdouble, hev⟩ := isDouble_of_units hq hk hfit
    exact ⟨hlt, isNearest_of_units hdouble (fun h0 => hev (heven h0)) hlow hhalf⟩
  · have hfit := mt (lt_overflow_iff hn hd).mpr (not_lt.mpr h)
    rw [hbits, min_eq_left (not_lt.mp (mt hinf.mp hfit))]

end Ratio

section

variable {digits : ℕ} {exponent : ℤ}

theorem ten_zpow_pos (e : ℤ) : (0 : ℚ) < 10 ^ e := zpow_pos (by norm_num) e

theorem two_pow_le_ten_pow {a b : ℕ} (h : 2 ^ a ≤ 10 ^ b) : (2 : ℚ) ^ (a : ℤ) ≤ 10 ^ (b : ℤ) := by
  rw [zpow_natCast, zpow_natCast]
  exact_mod_cast h

theorem overflow_le (hd : 0 < digits) (he : 310 < exponent) :
    overflow ≤ digits * (10 : ℚ) ^ exponent := by
  have hd' : (1 : ℚ) ≤ digits := by exact_mod_cast hd
  calc overflow ≤ 2 ^ ((1024 : ℕ) : ℤ) := sub_le_self _ (Ratio.two_zpow_pos _).le
    _ ≤ 10 ^ ((311 : ℕ) : ℤ) := two_pow_le_ten_pow (by decide +kernel)
    _ ≤ 10 ^ exponent := zpow_le_zpow_right₀ (by norm_num) he
    _ ≤ digits * 10 ^ exponent := le_mul_of_one_le_left (ten_zpow_pos _).le hd'

theorem roundsTo_infinityBits (hd : 0 < digits) (he : 310 < exponent) :
    RoundsTo (digits * 10 ^ exponent) infinityBits :=
  ⟨le_rfl, fun h => absurd h (not_lt.mpr (overflow_le hd he)), fun _ => rfl⟩

theorem roundsTo_zero_of_lt {x : ℚ} (hnn : 0 ≤ x) (hx : x < 2 ^ (-1075 : ℤ)) : RoundsTo x 0 := by
  have hzero : magnitude 0 = 0 := by
    rw [magnitude, if_pos (by decide), Nat.cast_zero, zero_mul]
  refine ⟨Nat.zero_le _, fun _ => ⟨by decide, ?_⟩, fun h => ?_⟩
  · rw [hzero]
    apply isNearest_zero
    rwa [abs_of_nonneg hnn]
  · have hlow : (2 : ℚ) ^ (-1075 : ℤ) ≤ 2 ^ (970 : ℤ) :=
      zpow_le_zpow_right₀ one_le_two (by norm_num)
    have hover : (2 : ℚ) ^ (970 : ℤ) ≤ overflow := by
      rw [overflow_eq]
      exact le_mul_of_one_le_left (Ratio.two_zpow_pos _).le (by norm_num)
    exact absurd (h.trans_lt hx) (not_lt.mpr (hlow.trans hover))

theorem roundsTo_zero (he : exponent < -400 - Nat.log2 digits) :
    RoundsTo (digits * 10 ^ exponent) 0 := by
  have hd : (digits : ℚ) ≤ 10 * 10 ^ (Nat.log2 digits : ℤ) := by
    have hlt : digits < 2 ^ (Nat.log2 digits + 1) := Nat.lt_log2_self
    have hle : 2 ^ (Nat.log2 digits + 1) ≤ 10 ^ (Nat.log2 digits + 1) :=
      Nat.pow_le_pow_left (by norm_num) _
    rw [zpow_natCast, ← pow_succ']
    exact_mod_cast hlt.le.trans hle
  apply roundsTo_zero_of_lt (by positivity)
  calc digits * (10 : ℚ) ^ exponent
      ≤ 10 * 10 ^ (Nat.log2 digits : ℤ) * 10 ^ exponent :=
        mul_le_mul_of_nonneg_right hd (ten_zpow_pos _).le
    _ = 10 ^ (1 + Nat.log2 digits + exponent : ℤ) := by
        rw [zpow_add₀ (by norm_num), zpow_add₀ (by norm_num), zpow_one]
    _ ≤ 10 ^ (-(400 : ℕ) : ℤ) := zpow_le_zpow_right₀ (by norm_num) (by omega)
    _ ≤ 2 ^ (-(1076 : ℕ) : ℤ) := by
        rw [zpow_neg, zpow_neg]
        exact inv_anti₀ (Ratio.two_zpow_pos _) (two_pow_le_ten_pow (by decide +kernel))
    _ < 2 ^ (-1075 : ℤ) := zpow_lt_zpow_right₀ one_lt_two (by norm_num)

def signed (negative : Bool) (x : ℚ) : ℚ := if negative then -x else x

theorem IsNearest.signed {b : Bool} {x y : ℚ} (h : IsNearest x y) :
    IsNearest (signed b x) (signed b y) := by
  cases b with
  | false => exact h
  | true => exact h.neg

theorem ofDecimal_eq (b : Bool) (digits : ℕ) (exponent : ℤ) :
    ∃ bits, ofDecimal b digits exponent = Float.ofBits (withSignBit b bits).toUInt64 ∧
      RoundsTo (digits * 10 ^ exponent) bits := by
  refine ⟨_, rfl, ?_⟩
  by_cases h0 : digits = 0
  · rw [if_pos h0, h0, Nat.cast_zero, zero_mul]
    exact roundsTo_zero_of_lt le_rfl (Ratio.two_zpow_pos _)
  rw [if_neg h0]
  by_cases hhigh : 310 < exponent
  · rw [if_pos hhigh]
    exact roundsTo_infinityBits (Nat.pos_of_ne_zero h0) hhigh
  rw [if_neg hhigh]
  by_cases hlow : exponent < -400 - Nat.log2 digits
  · rw [if_pos hlow]
    exact roundsTo_zero hlow
  rw [if_neg hlow]
  have hvalue : ((Ratio.mk digits 1).scale 10 exponent).value = digits * (10 : ℚ) ^ exponent := by
    rw [Ratio.scale_value, Ratio.value, Nat.cast_one, div_one, Nat.cast_ofNat]
  rw [← hvalue]
  exact Ratio.roundsTo_nearestBits (Ratio.scale_num_pos (by norm_num) (Nat.pos_of_ne_zero h0))
    (Ratio.scale_den_pos (by norm_num) one_pos)

/-- The decimal is rounded correctly, and its sign is kept. -/
theorem scaled_ofDecimal (b : Bool) (digits : ℕ) (exponent : ℤ) :
    (digits * (10 : ℚ) ^ exponent < overflow →
      ∃ m q, scaled (ofDecimal b digits exponent) = .finite b m q ∧
        IsNearest (signed b (digits * 10 ^ exponent)) (signed b (m * 2 ^ q))) ∧
    (overflow ≤ digits * (10 : ℚ) ^ exponent →
      scaled (ofDecimal b digits exponent) = .infinite b) := by
  obtain ⟨bits, hbits, hround⟩ := ofDecimal_eq b digits exponent
  rw [hbits, scaled_ofBits hround.bounded]
  refine ⟨fun h => ?_, fun h => if_pos (hround.infinite h)⟩
  obtain ⟨hlt, hnear⟩ := hround.finite h
  rw [if_neg hlt.ne]
  by_cases hsmall : bits < fractionSize
  · rw [if_pos hsmall]
    rw [magnitude, if_pos hsmall] at hnear
    exact ⟨_, _, rfl, hnear.signed⟩
  · rw [if_neg hsmall]
    rw [magnitude, if_neg hsmall] at hnear
    exact ⟨_, _, rfl, hnear.signed⟩

end

end Quarry.Number
