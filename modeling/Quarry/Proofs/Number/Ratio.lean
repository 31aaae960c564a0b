import Mathlib.Algebra.Order.Field.Power
import Mathlib.Algebra.Order.Floor.Semifield
import Mathlib.Data.Rat.Floor
import Mathlib.Tactic.FieldSimp
import Mathlib.Tactic.Linarith
import Mathlib.Tactic.Positivity
import Mathlib.Tactic.Ring
import Quarry.Number.Rounding

namespace Quarry.Number.Ratio

def value (r : Ratio) : ℚ := r.num / r.den

variable {r : Ratio}

theorem scale_den_pos {b : Nat} {e : Int} (hb : 0 < b) (hr : 0 < r.den) :
    0 < (r.scale b e).den := by
  by_cases he : 0 ≤ e
  · rwa [scale, if_pos he]
  · rw [scale, if_neg he]
    exact Nat.mul_pos hr (Nat.pow_pos hb)

theorem scale_num_pos {b : Nat} {e : Int} (hb : 0 < b) (hr : 0 < r.num) :
    0 < (r.scale b e).num := by
  by_cases he : 0 ≤ e
  · rw [scale, if_pos he]
    exact Nat.mul_pos hr (Nat.pow_pos hb)
  · rwa [scale, if_neg he]

theorem scale_value {b : Nat} {e : Int} :
    (r.scale b e).value = r.value * (b : ℚ) ^ e := by
  by_cases he : 0 ≤ e
  · obtain ⟨k, rfl⟩ := Int.eq_ofNat_of_zero_le he
    simp only [scale, if_pos he, value, Int.toNat_natCast, zpow_natCast, Nat.pow_eq, Nat.cast_mul,
      Nat.cast_pow]
    ring
  · obtain ⟨k, rfl⟩ := Int.exists_eq_neg_ofNat (by omega : e ≤ 0)
    simp only [scale, if_neg he, value, neg_neg, Int.toNat_natCast, zpow_neg, zpow_natCast,
      Nat.pow_eq, Nat.cast_mul, Nat.cast_pow]
    rw [div_mul_eq_div_div, div_eq_mul_inv _ ((b : ℚ) ^ k)]

theorem value_eq_div_add (hd : 0 < r.den) :
    r.value = (r.num / r.den : Nat) + (r.num % r.den : Nat) / (r.den : ℚ) := by
  have hd' : (r.den : ℚ) ≠ 0 := by exact_mod_cast hd.ne'
  rw [value, div_eq_iff hd', add_mul, div_mul_cancel₀ _ hd']
  exact_mod_cast (Nat.div_add_mod' r.num r.den).symm

theorem nearest_spec (hd : 0 < r.den) :
    |r.value - r.nearest| ≤ 1 / 2 ∧ (|r.value - r.nearest| = 1 / 2 → Even r.nearest) := by
  have hd' : (0 : ℚ) < r.den := by exact_mod_cast hd
  have hmod : ((r.num % r.den : Nat) : ℚ) < r.den := by exact_mod_cast Nat.mod_lt _ hd
  rw [value_eq_div_add hd, nearest]
  generalize r.num / r.den = n
  generalize r.num % r.den = m at hmod ⊢
  have htwice : (2 * m < r.den ↔ (m / r.den : ℚ) < 1 / 2) ∧
      (2 * m = r.den ↔ (m / r.den : ℚ) = 1 / 2) := by
    rw [div_lt_iff₀ hd', div_eq_iff hd'.ne']
    constructor
    · rw [← Nat.cast_lt (α := ℚ)]
      push_cast
      constructor <;> intro h <;> linarith
    · rw [← Nat.cast_inj (R := ℚ)]
      push_cast
      constructor <;> intro h <;> linarith
  have hlt : (m / r.den : ℚ) < 1 := (div_lt_one hd').mpr hmod
  have hnn : 0 ≤ (m / r.den : ℚ) := by positivity
  simp only [htwice.1, htwice.2, Bool.or_eq_true, Bool.and_eq_true, decide_eq_true_eq]
  generalize (m / r.den : ℚ) = x at hlt hnn ⊢
  by_cases hx : x < 1 / 2 ∨ x = 1 / 2 ∧ n % 2 = 0
  · rw [if_pos hx, add_sub_cancel_left, abs_of_nonneg hnn]
    refine ⟨?_, fun h => ?_⟩
    · obtain h | h := hx
      · exact h.le
      · exact h.1.le
    · obtain h' | h' := hx
      · exact absurd h h'.ne
      · exact Nat.even_iff.mpr h'.2
  · rw [if_neg hx]
    push_cast
    rw [add_sub_add_left_eq_sub, abs_of_neg (by linarith), neg_sub]
    rw [not_or, not_lt, not_and] at hx
    refine ⟨by linarith, fun h => ?_⟩
    have := hx.2 (by linarith)
    exact Nat.even_iff.mpr (by omega)

theorem two_zpow_pos (e : Int) : (0 : ℚ) < 2 ^ e := zpow_pos two_pos e

theorem two_zpow_succ (e : Int) : (2 : ℚ) ^ (e + 1) = 2 * 2 ^ e := by
  rw [zpow_add_one₀ two_ne_zero, mul_comm]

theorem log2_bounds {n : Nat} (hn : 0 < n) :
    (2 : ℚ) ^ (Nat.log2 n : Int) ≤ n ∧ (n : ℚ) < 2 ^ ((Nat.log2 n : Int) + 1) := by
  constructor
  · rw [zpow_natCast]
    exact_mod_cast Nat.log2_self_le hn.ne'
  · rw [← Nat.cast_succ, zpow_natCast]
    exact_mod_cast Nat.lt_log2_self

/-- The logarithms tell the place of the leading bit up to one place. -/
theorem value_between (hn : 0 < r.num) (hd : 0 < r.den) :
    (2 : ℚ) ^ ((Nat.log2 r.num : Int) - Nat.log2 r.den - 1) ≤ r.value ∧
      r.value < (2 : ℚ) ^ ((Nat.log2 r.num : Int) - Nat.log2 r.den + 1) := by
  obtain ⟨hn1, hn2⟩ := log2_bounds hn
  obtain ⟨hd1, hd2⟩ := log2_bounds hd
  have hd' : (0 : ℚ) < r.den := by exact_mod_cast hd
  rw [value, le_div_iff₀ hd', div_lt_iff₀ hd']
  constructor
  · calc (2 : ℚ) ^ ((Nat.log2 r.num : Int) - Nat.log2 r.den - 1) * r.den
        ≤ 2 ^ ((Nat.log2 r.num : Int) - Nat.log2 r.den - 1) * 2 ^ ((Nat.log2 r.den : Int) + 1) :=
          mul_le_mul_of_nonneg_left hd2.le (two_zpow_pos _).le
      _ = 2 ^ (Nat.log2 r.num : Int) := by
          rw [← zpow_add₀ two_ne_zero]
          congr 1
          omega
      _ ≤ r.num := hn1
  · calc (r.num : ℚ) < 2 ^ ((Nat.log2 r.num : Int) + 1) := hn2
      _ = 2 ^ ((Nat.log2 r.num : Int) - Nat.log2 r.den + 1) * 2 ^ (Nat.log2 r.den : Int) := by
          rw [← zpow_add₀ two_ne_zero]
          congr 1
          omega
      _ ≤ 2 ^ ((Nat.log2 r.num : Int) - Nat.log2 r.den + 1) * r.den :=
          mul_le_mul_of_nonneg_left hd1 (two_zpow_pos _).le

theorem le_value_iff (e : Int) (hd : 0 < r.den) :
    (r.scale 2 (-e)).den ≤ (r.scale 2 (-e)).num ↔ (2 : ℚ) ^ e ≤ r.value := by
  have hd' : (0 : ℚ) < (r.scale 2 (-e)).den := by exact_mod_cast scale_den_pos two_pos hd
  rw [← Nat.cast_le (α := ℚ), ← one_le_div hd']
  change 1 ≤ (r.scale 2 (-e)).value ↔ _
  rw [scale_value, Nat.cast_ofNat, zpow_neg, ← div_eq_mul_inv, one_le_div (two_zpow_pos e)]

theorem leadingBit_spec (hn : 0 < r.num) (hd : 0 < r.den) :
    (2 : ℚ) ^ r.leadingBit ≤ r.value ∧ r.value < (2 : ℚ) ^ (r.leadingBit + 1) := by
  obtain ⟨hlow, hhigh⟩ := value_between hn hd
  simp only [leadingBit]
  by_cases h : (2 : ℚ) ^ ((Nat.log2 r.num : Int) - Nat.log2 r.den) ≤ r.value
  · rw [if_pos ((le_value_iff _ hd).mpr h)]
    exact ⟨h, hhigh⟩
  · rw [if_neg (mt (le_value_iff _ hd).mp h), sub_add_cancel]
    exact ⟨hlow, not_le.mp h⟩

end Quarry.Number.Ratio
