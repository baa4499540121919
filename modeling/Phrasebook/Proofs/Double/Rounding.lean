import Mathlib

/-!
# Rounding to doubles

Doubles compute by rounding: a result is first worked out as a mantissa of any length with an
exponent, and then its mantissa is cut to 53 bits. Rounding up may make it one bit longer again, so
the cut is made twice. Little of this matters for the size of a result. Its exponent is the one that
`fit` tells from the length of the mantissa, or the next; and a part of the mantissa that starts
below the last bit to keep, and below the one that decides on rounding, is lost (`round_absorb`).
-/

namespace Phrasebook.Double

open Float.Model Float.Model.UnpackedFloat

/-- The exponent that a number has as a double, unless it is too large: its mantissa then has 53
bits, or the number is a subnormal one. -/
def fit (m : ℕ) (e : ℤ) : ℤ := max (m.log2 - 52 + e) (-1074)

theorem targetExponent_eq (m : ℕ) (e : ℤ) :
    Format.binary64.targetExponent (totalExponent m e) = fit m e := by
  have hbits : Format.binary64.mantissaBits = 53 := rfl
  have hmin : Format.binary64.minExponent = -1074 := rfl
  rw [Format.targetExponent, totalExponent, hbits, hmin, fit]
  congr 1
  omega

theorem log2_of_bounds {m : ℕ} (hlow : 2 ^ 52 ≤ m) (hhigh : m < 2 ^ 53) : m.log2 = 52 := by
  rw [Nat.log2_eq_iff (by omega)]
  exact ⟨hlow, hhigh⟩

/-- A mantissa of 53 bits fits as it is. -/
theorem fit_of_bounds {m : ℕ} (hlow : 2 ^ 52 ≤ m) (hhigh : m < 2 ^ 53) (e : ℤ) :
    fit m e = max e (-1074) := by
  rw [fit, log2_of_bounds hlow hhigh]
  omega

theorem mantissa_repeat (em : ExtendedMantissa) (n : ℕ) :
    (n.repeat ExtendedMantissa.shiftRightOne em).mantissa = em.mantissa >>> n := by
  induction n with
  | zero => rfl
  | succ n ih =>
    rw [Nat.repeat, ExtendedMantissa.shiftRightOne, ih, Nat.shiftRight_succ]

theorem roundBit_repeat (em : ExtendedMantissa) (n : ℕ) :
    ((n + 1).repeat ExtendedMantissa.shiftRightOne em).roundBit =
      ((em.mantissa >>> n) % 2 != 0) := by
  rw [Nat.repeat, ExtendedMantissa.shiftRightOne, mantissa_repeat]

theorem mantissa_shiftRight (em : ExtendedMantissa) (n : ℕ) :
    (em >>> n).mantissa = em.mantissa >>> n := mantissa_repeat em n

theorem mantissa_ofMantissaAndAccuracy (m : ℕ) (acc : Accuracy) :
    (ExtendedMantissa.ofMantissaAndAccuracy m acc).mantissa = m := by
  rcases acc with _ | (_ | _ | _) <;> rfl

theorem roundedMantissa_bounds (em : ExtendedMantissa) :
    em.mantissa ≤ em.roundedMantissa ∧ em.roundedMantissa ≤ em.mantissa + 1 := by
  rcases em with ⟨m, _ | _, _ | _⟩ <;>
    simp only [ExtendedMantissa.roundedMantissa, ExtendedMantissa.accuracy,
      Accuracy.roundToNearestEven] <;>
    omega

theorem roundedMantissa_of_roundBit {em : ExtendedMantissa} (h : em.roundBit = false) :
    em.roundedMantissa = em.mantissa := by
  rcases em with ⟨m, _ | _, _ | _⟩
  · rfl
  · rfl
  · cases h
  · cases h

/-! ## The two steps of rounding -/

/-- The part of a mantissa that is kept. -/
def cut (m : ℕ) (e : ℤ) : ℕ := m >>> (fit m e - e).toNat

/-- The mantissa after the first step, which cuts it to 53 bits and rounds. -/
def rounded (m : ℕ) (e : ℤ) (acc : Accuracy) : ℕ :=
  (ExtendedMantissa.ofMantissaAndAccuracy m acc >>> (fit m e - e).toNat).roundedMantissa

theorem rounded_bounds (m : ℕ) (e : ℤ) (acc : Accuracy) :
    cut m e ≤ rounded m e acc ∧ rounded m e acc ≤ cut m e + 1 := by
  have hbounds := roundedMantissa_bounds
    (ExtendedMantissa.ofMantissaAndAccuracy m acc >>> (fit m e - e).toNat)
  rwa [mantissa_shiftRight, mantissa_ofMantissaAndAccuracy] at hbounds

/-- Rounding up may give one bit too many, so there is a second step. -/
theorem roundWithAccuracy_eq (sign : Sign) (m : ℕ) (e : ℤ) (acc : Accuracy) :
    roundWithAccuracy .binary64 sign m e acc =
      if h : cut (rounded m e acc) (max e (fit m e)) = 0 then .zero sign
      else .finite sign (cut (rounded m e acc) (max e (fit m e)))
        (max (max e (fit m e)) (fit (rounded m e acc) (max e (fit m e))))
        (Nat.pos_of_ne_zero h) := by
  have hexponent : ∀ x y : ℤ, x + ((y - x).toNat : ℤ) = max x y := by
    intro x y
    omega
  simp only [roundWithAccuracy, shiftToTargetExponent, shiftToExponent, targetExponent_eq,
    hexponent, mantissa_shiftRight, mantissa_ofMantissaAndAccuracy]
  rfl

theorem cut_lt (m : ℕ) (e : ℤ) : cut m e < 2 ^ 53 := by
  have hm : m < 2 ^ (m.log2 + 1) := Nat.lt_log2_self
  have hshift : m.log2 + 1 ≤ 53 + (fit m e - e).toNat := by
    rw [fit]
    omega
  rw [cut, Nat.shiftRight_eq_div_pow, Nat.div_lt_iff_lt_mul (Nat.two_pow_pos _), ← Nat.pow_add]
  exact hm.trans_le (Nat.pow_le_pow_right (by decide) hshift)

theorem cut_of_le {m : ℕ} {e : ℤ} (h : fit m e ≤ e) : cut m e = m := by
  have hzero : (fit m e - e).toNat = 0 := by omega
  rw [cut, hzero, Nat.shiftRight_zero]

theorem log2_rounded_le (m : ℕ) (e : ℤ) (acc : Accuracy) : (rounded m e acc).log2 ≤ 53 := by
  have hle : rounded m e acc ≤ 2 ^ 53 :=
    (rounded_bounds m e acc).2.trans (cut_lt m e)
  by_cases hzero : rounded m e acc = 0
  · rw [hzero]
    decide
  · exact Nat.lt_succ_iff.mp ((Nat.log2_lt hzero).mpr (hle.trans_lt (by decide)))

theorem fit_rounded_le (m : ℕ) (e : ℤ) (acc : Accuracy) :
    fit (rounded m e acc) (max e (fit m e)) ≤ max e (fit m e) + 1 := by
  have hlog := log2_rounded_le m e acc
  have hmin : -1074 ≤ fit m e := le_max_right _ _
  generalize rounded m e acc = r at hlog ⊢
  generalize fit m e = t at hmin ⊢
  rw [fit]
  omega

/-- What is rounded is zero or a number whose exponent is higher by at most one. -/
theorem roundWithAccuracy_cases (sign : Sign) (m : ℕ) (e : ℤ) (acc : Accuracy) :
    roundWithAccuracy .binary64 sign m e acc = .zero sign ∨
      ∃ m' e' h, roundWithAccuracy .binary64 sign m e acc = .finite sign m' e' h ∧
        e' ≤ max e (fit m e) + 1 := by
  rw [roundWithAccuracy_eq]
  split
  · exact Or.inl rfl
  · rename_i hpos
    exact Or.inr ⟨_, _, Nat.pos_of_ne_zero hpos, rfl,
      max_le (Int.le_add_one le_rfl) (fit_rounded_le m e acc)⟩

/-- What is rounded has a mantissa of 53 bits, unless it is too small for that. -/
theorem roundWithAccuracy_normal (sign : Sign) {m : ℕ} {e : ℤ} (acc : Accuracy)
    (he : e ≤ fit m e) (hfit : -1074 < fit m e) :
    ∃ m' e' h, roundWithAccuracy .binary64 sign m e acc = .finite sign m' e' h ∧
      2 ^ 52 ≤ m' ∧ m' < 2 ^ 53 ∧ fit m e ≤ e' ∧ e' ≤ fit m e + 1 := by
  have hlog : fit m e = m.log2 - 52 + e := by
    rw [fit] at hfit ⊢
    omega
  have hshift : (fit m e - e).toNat + 52 = m.log2 := by omega
  have hm : m ≠ 0 := by
    rintro rfl
    rw [Nat.log2_zero] at hshift
    omega
  have hlow : 2 ^ 52 ≤ cut m e := by
    rw [cut, Nat.shiftRight_eq_div_pow, Nat.le_div_iff_mul_le (Nat.two_pow_pos _), ← Nat.pow_add,
      Nat.add_comm, hshift]
    exact Nat.log2_self_le hm
  have hbounds := rounded_bounds m e acc
  have hhigh := cut_lt m e
  rw [roundWithAccuracy_eq, max_eq_right he]
  generalize rounded m e acc = r at hbounds ⊢
  generalize fit m e = t at *
  by_cases hcarry : r = 2 ^ 53
  · have hfits : fit r t = t + 1 := by
      rw [fit, hcarry, Nat.log2_two_pow]
      omega
    have hhalf : cut r t = 2 ^ 52 := by
      have hone : (fit r t - t).toNat = 1 := by omega
      rw [cut, hone, hcarry]
      decide
    rw [dif_neg (by rw [hhalf]; decide)]
    exact ⟨_, _, _, rfl, hhalf.ge, hhalf.trans_lt (by decide), le_max_left _ _, by omega⟩
  · have hfits : fit r t = t := by
      rw [fit_of_bounds (by omega) (by omega)]
      omega
    have hkept : cut r t = r := cut_of_le hfits.le
    rw [dif_neg (by omega)]
    exact ⟨_, _, _, rfl, by omega, by omega, le_max_left _ _, by omega⟩

/-! ## Numbers of any exponent -/

/-- What is added below the mantissa does not change its length. -/
theorem log2_shiftLeft_add {m w n : ℕ} (hm : m ≠ 0) (hw : w < 2 ^ n) :
    (m <<< n + w).log2 = m.log2 + n := by
  have hpos : 0 < m * 2 ^ n := Nat.mul_pos (Nat.pos_of_ne_zero hm) (Nat.two_pow_pos n)
  have hleast : 2 ^ m.log2 * 2 ^ n ≤ m * 2 ^ n := Nat.mul_le_mul_right _ (Nat.log2_self_le hm)
  have hmost : (m + 1) * 2 ^ n ≤ 2 ^ (m.log2 + 1) * 2 ^ n :=
    Nat.mul_le_mul_right _ Nat.lt_log2_self
  rw [Nat.shiftLeft_eq, Nat.log2_eq_iff (by omega), Nat.pow_add, Nat.add_right_comm, Nat.pow_add]
  rw [Nat.add_mul, Nat.one_mul] at hmost
  omega

theorem log2_shiftLeft {m : ℕ} (hm : m ≠ 0) (n : ℕ) : (m <<< n).log2 = m.log2 + n :=
  log2_shiftLeft_add hm (Nat.two_pow_pos n)

theorem shiftLeft_add_shiftRight {w n : ℕ} (hw : w < 2 ^ n) (m : ℕ) : (m <<< n + w) >>> n = m := by
  rw [Nat.shiftLeft_eq, Nat.shiftRight_eq_div_pow, Nat.mul_comm,
    Nat.mul_add_div (Nat.two_pow_pos n), Nat.div_eq_of_lt hw, Nat.add_zero]

/-- A lower exponent with a longer mantissa makes the same number. -/
theorem fit_shiftLeft {m : ℕ} (hm : m ≠ 0) (e : ℤ) (n : ℕ) : fit (m <<< n) (e - n) = fit m e := by
  rw [fit, fit, log2_shiftLeft hm]
  omega

theorem round_eq (sign : Sign) (m : ℕ) (e : ℤ) :
    UnpackedFloat.round .binary64 sign m e =
      roundWithAccuracy .binary64 sign (m <<< (e - fit m e).toNat)
        (e - ((e - fit m e).toNat : ℤ)) .exact := by
  rw [UnpackedFloat.round, targetExponent_eq, decreaseExponent]

theorem round_cases (sign : Sign) {m : ℕ} (hm : m ≠ 0) (e : ℤ) :
    UnpackedFloat.round .binary64 sign m e = .zero sign ∨
      ∃ m' e' h, UnpackedFloat.round .binary64 sign m e = .finite sign m' e' h ∧
        e' ≤ fit m e + 1 := by
  have hcases := roundWithAccuracy_cases sign (m <<< (e - fit m e).toNat)
    (e - ((e - fit m e).toNat : ℤ)) .exact
  have hle : e - ((e - fit m e).toNat : ℤ) ≤ fit m e := by omega
  rwa [← round_eq, fit_shiftLeft hm, max_eq_right hle] at hcases

theorem round_normal (sign : Sign) {m : ℕ} (hm : m ≠ 0) {e : ℤ} (hfit : -1074 < fit m e) :
    ∃ m' e' h, UnpackedFloat.round .binary64 sign m e = .finite sign m' e' h ∧
      2 ^ 52 ≤ m' ∧ m' < 2 ^ 53 ∧ fit m e ≤ e' ∧ e' ≤ fit m e + 1 := by
  have hfit' := fit_shiftLeft hm e (e - fit m e).toNat
  have hnormal := roundWithAccuracy_normal sign (m := m <<< (e - fit m e).toNat)
    (e := e - ((e - fit m e).toNat : ℤ)) .exact (by omega) (by omega)
  rwa [← round_eq, hfit'] at hnormal

/-- Nothing is rounded up when the first bit that is cut off is not set. -/
theorem rounded_eq_shiftRight {m n : ℕ} {e : ℤ} {acc : Accuracy}
    (hn : (fit m e - e).toNat = n + 1) (hbit : (m >>> n) % 2 = 0) :
    rounded m e acc = m >>> (n + 1) := by
  have hround : (ExtendedMantissa.ofMantissaAndAccuracy m acc >>> (n + 1)).roundBit = false := by
    have hrepeat := roundBit_repeat (ExtendedMantissa.ofMantissaAndAccuracy m acc) n
    rw [mantissa_ofMantissaAndAccuracy, hbit] at hrepeat
    exact hrepeat
  rw [rounded, hn, roundedMantissa_of_roundBit hround, mantissa_shiftRight,
    mantissa_ofMantissaAndAccuracy]

/-- A number that is small beside another one is lost when it is added. -/
theorem round_absorb {m w n : ℕ} {e : ℤ} (hlow : 2 ^ 52 ≤ m) (hhigh : m < 2 ^ 53)
    (hw : w < 2 ^ 53) (hn : 53 ≤ n) (he : -1074 ≤ e) (hm : 0 < m) :
    UnpackedFloat.round .binary64 .positive (m <<< (n + 1) + w) e =
      .finite .positive m (e + (n + 1 : ℕ)) hm := by
  have hsmall : w < 2 ^ n := hw.trans_le (Nat.pow_le_pow_right (by decide) hn)
  have hsmaller : w < 2 ^ (n + 1) := hsmall.trans (Nat.pow_lt_pow_right (by decide) n.lt_succ_self)
  have hcut := shiftLeft_add_shiftRight hsmaller m
  have hlog := log2_shiftLeft_add hm.ne' hsmaller
  have hbit : ((m <<< (n + 1) + w) >>> n) % 2 = 0 := by
    have htwice : m <<< (n + 1) = (2 * m) <<< n := by
      rw [Nat.shiftLeft_succ, Nat.shiftLeft_eq, Nat.shiftLeft_eq, Nat.mul_assoc]
    rw [htwice, shiftLeft_add_shiftRight hsmall, Nat.mul_mod_right]
  generalize m <<< (n + 1) + w = sum at *
  have hfit : fit sum e = e + (n + 1 : ℕ) := by
    rw [fit, hlog, log2_of_bounds hlow hhigh]
    omega
  have hshift : (fit sum e - e).toNat = n + 1 := by omega
  have hkeep : (e - fit sum e).toNat = 0 := by omega
  have hrounded : rounded sum e .exact = m := by
    rw [rounded_eq_shiftRight hshift hbit, hcut]
  have hagain : fit m (fit sum e) = fit sum e := by
    rw [fit_of_bounds hlow hhigh]
    omega
  have hkept : cut m (fit sum e) = m := cut_of_le hagain.le
  have hmax : max e (fit sum e) = fit sum e := by omega
  rw [← hfit]
  simp only [round_eq, hkeep, Nat.shiftLeft_zero, Int.ofNat_zero, Int.sub_zero,
    roundWithAccuracy_eq, hrounded, hmax, hagain, hkept, max_self, dif_neg hm.ne']

end Phrasebook.Double
