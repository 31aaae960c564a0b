import Quarry.Proofs.Number.Leading
import Quarry.Proofs.Number.Rounding

namespace Quarry.Number

/-- The integer part of a rational number: the fraction is cut off, toward zero. -/
def towardZero (x : ℚ) : ℤ := if 0 ≤ x then ⌊x⌋ else ⌈x⌉

@[simp]
theorem towardZero_neg (x : ℚ) : towardZero (-x) = -towardZero x := by
  rcases lt_trichotomy x 0 with hx | rfl | hx
  · rw [towardZero, towardZero, if_pos (by linarith), if_neg (not_le.mpr hx), Int.floor_neg]
  · simp [towardZero]
  · rw [towardZero, towardZero, if_neg (by linarith), if_pos hx.le, Int.ceil_neg]

@[simp]
theorem towardZero_intCast (k : ℤ) : towardZero k = k := by
  rw [towardZero, Int.floor_intCast, Int.ceil_intCast, ite_self]

theorem signed_intCast (b : Bool) (n : ℕ) : signed b n = (withSign b n : ℤ) := by
  cases b <;> simp [signed, withSign]

theorem wholePart_eq_floor (m : ℕ) (q : ℤ) : (wholePart m q : ℤ) = ⌊(m : ℚ) * 2 ^ q⌋ := by
  by_cases hq : 0 ≤ q
  · obtain ⟨k, rfl⟩ := Int.eq_ofNat_of_zero_le hq
    rw [wholePart, if_pos hq, Int.toNat_natCast, zpow_natCast, Nat.pow_eq]
    exact_mod_cast (Int.floor_natCast (R := ℚ) (m * 2 ^ k)).symm
  · obtain ⟨k, rfl⟩ := Int.exists_eq_neg_ofNat (by omega : q ≤ 0)
    rw [wholePart, if_neg hq, neg_neg, Int.toNat_natCast, Nat.pow_eq, zpow_neg, zpow_natCast,
      ← div_eq_mul_inv]
    have h := Rat.floor_natCast_div_natCast m (2 ^ k)
    push_cast at h ⊢
    exact h.symm

theorem truncate_finite (b : Bool) (m : ℕ) (q : ℤ) :
    (Scaled.finite b m q).truncate = .ok (towardZero (signed b (m * 2 ^ q))) := by
  have hnn : (0 : ℚ) ≤ m * 2 ^ q := by positivity
  have hpos : towardZero (m * 2 ^ q) = wholePart m q := by
    rw [towardZero, if_pos hnn, wholePart_eq_floor]
  cases b with
  | false => rw [Scaled.truncate, signed, if_neg (by simp), hpos]; rfl
  | true => rw [Scaled.truncate, signed, if_pos rfl, towardZero_neg, hpos]; rfl

theorem digitsValue_append (a b : List Char) :
    digitsValue (a ++ b) = digitsValue a * 10 ^ b.length + digitsValue b := by
  induction b using List.reverseRecOn with
  | nil => simp [digitsValue]
  | append_singleton b d ih =>
    have hsnoc : ∀ ds, digitsValue (ds ++ [d]) = 10 * digitsValue ds + (d.toNat - 48) := by
      intro ds
      simp [digitsValue]
    rw [← List.append_assoc, hsnoc, hsnoc, ih, List.length_append, List.length_singleton]
    ring

@[simp]
theorem abs_signed (b : Bool) (x : ℚ) : |signed b x| = |x| := by
  cases b with
  | false => rfl
  | true => exact abs_neg x

namespace Numeral

/-- The number that a numeral denotes: its digits before and behind the point, times the power of
ten, with its sign. -/
def value (n : Numeral) : ℚ :=
  signed n.negative ((digitsValue n.whole +
    digitsValue (n.fraction.getD []) / 10 ^ (n.fraction.getD []).length) * 10 ^ n.powerValue)

variable {n : Numeral}

theorem value_eq (n : Numeral) :
    n.value = signed n.negative (n.digits * 10 ^ n.exponent) := by
  have hten : ∀ k : ℕ, (10 : ℚ) ^ k ≠ 0 := fun k => pow_ne_zero k (by norm_num)
  rw [value, digits, exponent, digitsValue_append, zpow_sub₀ (by norm_num), zpow_natCast]
  congr 1
  push_cast
  field_simp

/-- What cutting off leaves of the nearest floating-point number. -/
theorem truncate_toFloat (n : Numeral) :
    (|n.value| < overflow → ∃ y, IsNearest n.value y ∧ truncate n.toFloat = .ok (towardZero y)) ∧
      (overflow ≤ |n.value| → truncate n.toFloat = .error .infinite) := by
  have hnn : (0 : ℚ) ≤ n.digits * 10 ^ n.exponent := by positivity
  obtain ⟨hfin, hinf⟩ := scaled_ofDecimal n.negative n.digits n.exponent
  rw [value_eq, abs_signed, abs_of_nonneg hnn, truncate, toFloat]
  constructor
  · intro h
    obtain ⟨m, q, hs, hy⟩ := hfin h
    exact ⟨_, hy, by rw [hs, truncate_finite]⟩
  · intro h
    rw [hinf h]
    rfl

theorem value_of_integer (hf : n.fraction = none) (hp : n.power = none) : n.value = n.plain := by
  rw [value, powerValue, hf, hp, plain, ← signed_intCast]
  simp [digitsValue]

end Numeral

/-- A full stop behind an integer, with or without a zero, and an exponent of zero. -/
inductive Trailing : List Char → Prop
  | point : Trailing ['.']
  | zeroFraction : Trailing ['.', '0']
  | zeroPower : Trailing ['e', '0']

theorem Writes.append_trailing {n : Numeral} {u w : List Char} (h : Writes n u)
    (hf : n.fraction = none) (hp : n.power = none) (hw : Trailing w) :
    ∃ m, Writes m (u ++ w) ∧ m.value = n.value := by
  obtain ⟨b, ds, f, p⟩ := n
  obtain rfl : f = none := hf
  obtain rfl : p = none := hp
  obtain @⟨sg, fs, ps, hs, hd, hfs, hps, hne⟩ := h
  dsimp only at hs hd hne
  cases hfs
  cases hps
  have hds : ds ≠ [] := hne.resolve_right fun h => h rfl
  have hzero : ∀ c ∈ ['0'], c.isDigit := List.forall_mem_singleton.mpr rfl
  rw [List.append_nil, List.append_nil, List.append_assoc]
  cases hw with
  | point =>
    refine ⟨_, .intro (n := ⟨b, ds, some [], none⟩) hs hd (.digits (by simp)) .absent
      (.inl hds), ?_⟩
    simp [Numeral.value, Numeral.powerValue, digitsValue]
  | zeroFraction =>
    refine ⟨_, .intro (n := ⟨b, ds, some ['0'], none⟩) hs hd (.digits hzero) .absent
      (.inl hds), ?_⟩
    simp [Numeral.value, Numeral.powerValue, digitsValue]
  | zeroPower =>
    refine ⟨_, .intro (n := ⟨b, ds, none, some (false, ['0'])⟩) hs hd .absent
      (.digits (.inl rfl) .absent (by simp) hzero) (.inl hds), ?_⟩
    simp [Numeral.value, Numeral.powerValue, digitsValue, withSign]

end Quarry.Number
