import Mathlib
import Quarry.Number.Rounding

namespace Quarry.Number

open Float.Model Float.Model.UnpackedFloat

theorem toBits_ofBits {a : UInt64}
    (h : a.toNat / fractionSize % exponentSize = 2047 → a.toNat % fractionSize = 0) :
    (Float.ofBits a).toBits = a := by
  have hdefined : @isNaNBits Format.binary64 a.toBitVec = false := by
    rw [isNaNBits, decide_eq_false_iff_not, not_and_not_right]
    intro he
    rw [unpackExponent_def] at he
    rw [unpackMantissa_def]
    have hexp := congrArg BitVec.toNat he
    rw [BitVec.extractLsb'_toNat, Nat.shiftRight_eq_div_pow] at hexp
    apply BitVec.eq_of_toNat_eq
    rw [BitVec.extractLsb'_toNat]
    exact h hexp
  change UInt64.ofBitVec (UnpackedFloat.pack Format.binary64
    (UnpackedFloat.unpack Format.binary64 a.toBitVec)) = a
  rw [pack_unpack, hdefined]
  rfl

section

variable {b : Bool} {bits : Nat}

theorem withSignBit_parts (h : bits < signBit) :
    decide (exponentSize * fractionSize ≤ withSignBit b bits) = b ∧
      withSignBit b bits / fractionSize % exponentSize = bits / fractionSize ∧
      withSignBit b bits % fractionSize = bits % fractionSize := by
  have he : bits / fractionSize < exponentSize :=
    Nat.div_lt_of_lt_mul (by rwa [Nat.mul_comm])
  have hpos : 0 < fractionSize := by decide
  cases b with
  | false =>
    rw [show withSignBit false bits = bits from Nat.zero_add bits]
    exact ⟨decide_eq_false (Nat.not_le.mpr h), Nat.mod_eq_of_lt he, rfl⟩
  | true =>
    rw [show withSignBit true bits = bits + exponentSize * fractionSize from Nat.add_comm _ _,
      Nat.add_mul_div_right _ _ hpos, Nat.add_mod_right, Nat.add_mul_mod_self_right]
    exact ⟨decide_eq_true (Nat.le_add_left _ _), Nat.mod_eq_of_lt he, rfl⟩

theorem toNat_withSignBit (h : bits < signBit) :
    (withSignBit b bits).toUInt64.toNat = withSignBit b bits := by
  have hsign : signBit = 2 ^ 63 := rfl
  apply Nat.mod_eq_of_lt
  cases b with
  | false => exact (by omega : 0 + bits < 2 ^ 64)
  | true => exact (by omega : signBit + bits < 2 ^ 64)

theorem scaled_ofBits (h : bits ≤ infinityBits) :
    scaled (Float.ofBits (withSignBit b bits).toUInt64) =
      if bits = infinityBits then .infinite b
      else if bits < fractionSize then .finite b bits (-1074)
      else .finite b (fractionSize + bits % fractionSize)
        ((bits / fractionSize : Nat) - 1075) := by
  have hlt : bits < signBit := Nat.lt_of_le_of_lt h (by decide)
  obtain ⟨hs, he, hf⟩ := withSignBit_parts (b := b) hlt
  have hbits : bits / fractionSize * fractionSize + bits % fractionSize = bits :=
    Nat.div_add_mod' bits fractionSize
  have hsize : infinityBits = 2047 * fractionSize := rfl
  have hkeep : (Float.ofBits (withSignBit b bits).toUInt64).toBits =
      (withSignBit b bits).toUInt64 := by
    apply toBits_ofBits
    rw [toNat_withSignBit hlt, he, hf]
    intro htop
    rw [htop] at hbits
    omega
  simp only [scaled, hkeep, toNat_withSignBit hlt, hs, he, hf]
  by_cases hinf : bits = infinityBits
  · subst hinf
    rfl
  · have htop : bits / fractionSize ≠ 2047 := by
      intro h0
      rw [h0] at hbits
      omega
    rw [if_neg htop, if_neg hinf]
    by_cases hsmall : bits < fractionSize
    · rw [if_pos (Nat.div_eq_of_lt hsmall), if_pos hsmall, Nat.mod_eq_of_lt hsmall]
    · have hne : bits / fractionSize ≠ 0 := by
        intro h0
        exact hsmall ((Nat.div_eq_zero_iff_lt (by decide)).mp h0)
      rw [if_neg hne, if_neg hsmall]

end

end Quarry.Number
