import Phrasebook.Proofs.Double.Packing

/-!
# Sums and quotients of doubles

How large a sum or a quotient of doubles gets, and how doubles compare. Two things are wanted. A sum
of many small numbers must not become infinite: while the sum is small one more number cannot make
it large, and once it is large one more number is lost in it (`Within.add`). And doubles that are
numbers must compare like a linear order, which they do by their `place`.
-/

namespace Phrasebook.Double

open Float.Model Float.Model.UnpackedFloat

/-! ## Sums -/

theorem shiftLeft_pos {m : ℕ} (hm : 0 < m) (n : ℕ) : 0 < m <<< n := by
  rw [Nat.shiftLeft_eq]
  exact Nat.mul_pos hm (Nat.two_pow_pos n)

/-- The mantissa of a sum, where both numbers get the lower exponent. -/
def sumMantissa (m n : ℕ) (e f : ℤ) : ℕ := m <<< (e - min e f).toNat + n <<< (f - min e f).toNat

section

variable {m n : ℕ} {e f : ℤ}

theorem sumMantissa_pos (hm : 0 < m) : 0 < sumMantissa m n e f :=
  Nat.lt_of_lt_of_le (shiftLeft_pos hm _) (Nat.le_add_right _ _)

theorem normalize_natCast (hm : m ≠ 0) (e : ℤ) :
    UnpackedFloat.normalize .binary64 (m : ℤ) e .positive =
      UnpackedFloat.round .binary64 .positive m e := by
  have hcompare : compare (m : ℤ) 0 = .gt :=
    compare_gt_iff_gt.mpr (Int.natCast_pos.mpr (Nat.pos_of_ne_zero hm))
  rw [UnpackedFloat.normalize, hcompare]
  rfl

theorem add_finite (hm : 0 < m) (hn : 0 < n) :
    UnpackedFloat.add .binary64 (.finite .positive m e hm) (.finite .positive n f hn) =
      UnpackedFloat.round .binary64 .positive (sumMantissa m n e f) (min e f) :=
  normalize_natCast (sumMantissa_pos hm).ne' (min e f)

theorem shiftLeft_lt {bits : ℕ} (hm : m < 2 ^ bits) {k l : ℕ} (hle : k ≤ l) :
    m <<< k < 2 ^ (bits + l) := by
  rw [Nat.shiftLeft_eq, Nat.pow_add]
  exact (Nat.mul_lt_mul_of_pos_right hm (Nat.two_pow_pos k)).trans_le
    (Nat.mul_le_mul_left _ (Nat.pow_le_pow_right (by decide) hle))

theorem log2_sumMantissa_le (hm : m < 2 ^ 53) (hn : n < 2 ^ 53) (hpos : 0 < m) :
    ((sumMantissa m n e f).log2 : ℤ) + min e f ≤ max e f + 53 := by
  have hleft : m <<< (e - min e f).toNat < 2 ^ (53 + (max e f - min e f).toNat) :=
    shiftLeft_lt hm (by omega)
  have hright : n <<< (f - min e f).toNat < 2 ^ (53 + (max e f - min e f).toNat) :=
    shiftLeft_lt hn (by omega)
  have hsum : sumMantissa m n e f < 2 ^ (53 + (max e f - min e f).toNat + 1) := by
    rw [Nat.pow_succ, Nat.mul_two]
    exact Nat.add_lt_add hleft hright
  have hlog := (Nat.log2_lt (sumMantissa_pos hpos).ne').mpr hsum
  omega

/-- The sum of two numbers has an exponent that is higher by two at most. -/
theorem atMost_add (hm : 0 < m) (hn : 0 < n) (hm' : m < 2 ^ 53) (hn' : n < 2 ^ 53)
    (he : -1074 ≤ e) :
    AtMost (max e f + 2)
      (UnpackedFloat.add .binary64 (.finite .positive m e hm) (.finite .positive n f hn)) := by
  rw [add_finite hm hn]
  have hlog := log2_sumMantissa_le (e := e) (f := f) hm' hn' hm
  rcases round_cases .positive (sumMantissa_pos hm).ne' (min e f) with
    hround | ⟨m', e', h', hround, hle⟩
  · rw [hround]
    exact trivial
  · rw [hround]
    rw [fit] at hle
    show e' ≤ max e f + 2
    omega

/-- A number far below another one is lost in the sum. -/
theorem add_absorb (hm : 0 < m) (hn : 0 < n) (hlow : 2 ^ 52 ≤ m) (hm' : m < 2 ^ 53)
    (hn' : n < 2 ^ 53) (hgap : f + 54 ≤ e) (hf : -1074 ≤ f) :
    UnpackedFloat.add .binary64 (.finite .positive m e hm) (.finite .positive n f hn) =
      .finite .positive m e hm := by
  obtain ⟨k, hk⟩ : ∃ k, (e - min e f).toNat = k + 1 := ⟨(e - f).toNat - 1, by omega⟩
  have hmin : min e f = f := by omega
  have hsum : sumMantissa m n e f = m <<< (k + 1) + n := by
    rw [sumMantissa, hk, hmin, Int.sub_self, Int.toNat_zero, Nat.shiftLeft_zero]
  have hexponent : f + (k + 1 : ℕ) = e := by omega
  rw [add_finite hm hn, hsum, hmin, round_absorb hlow hm' hn' (by omega) hf hm]
  simp only [hexponent]

/-- What is added to a number of 53 bits leaves it 53 bits and makes it no smaller. -/
theorem isNormal_add (hm : 0 < m) (hn : 0 < n) (hlow : 2 ^ 52 ≤ m) (hm' : m < 2 ^ 53)
    (hn' : n < 2 ^ 53) (he : -1074 < e) :
    IsNormal e (max e f + 2)
      (UnpackedFloat.add .binary64 (.finite .positive m e hm) (.finite .positive n f hn)) := by
  have hpos := sumMantissa_pos (n := n) (e := e) (f := f) hm
  have hmost := log2_sumMantissa_le (e := e) (f := f) hm' hn' hm
  have hleast : e + 52 ≤ ((sumMantissa m n e f).log2 : ℤ) + min e f := by
    have hle : m <<< (e - min e f).toNat ≤ sumMantissa m n e f := Nat.le_add_right _ _
    have hlog : 52 + (e - min e f).toNat ≤ (sumMantissa m n e f).log2 := by
      rw [Nat.le_log2 hpos.ne', Nat.pow_add]
      rw [Nat.shiftLeft_eq] at hle
      exact (Nat.mul_le_mul_right _ hlow).trans hle
    omega
  have hfit : fit (sumMantissa m n e f) (min e f) =
      ((sumMantissa m n e f).log2 : ℤ) - 52 + min e f := by
    rw [fit]
    omega
  rw [add_finite hm hn]
  exact (isNormal_round hpos.ne' (by omega)).mono (by omega) (by omega)

end

/-! ## Sums of doubles -/

/-- The double is a number that is not negative and whose exponent is at most `top`. -/
def Within (top : ℤ) (x : Float) : Prop := AtMost top x.toModel.unpack

theorem AtMost.cases {top : ℤ} {u : UnpackedFloat} (h : AtMost top u) :
    (∃ sign, u = .zero sign) ∨ ∃ m e hm, u = .finite .positive m e hm ∧ e ≤ top := by
  rcases u with _ | _ | sign | ⟨_ | _, m, e, hm⟩
  · exact h.elim
  · exact h.elim
  · exact Or.inl ⟨sign, rfl⟩
  · exact h.elim
  · exact Or.inr ⟨m, e, hm, rfl, h⟩

theorem bounds_of_unpack {x : Float} {sign : Sign} {m : ℕ} {e : ℤ} {hm : 0 < m}
    (h : x.toModel.unpack = .finite sign m e hm) :
    m < 2 ^ 53 ∧ (2 ^ 52 ≤ m ∨ e = -1074) ∧ -1074 ≤ e ∧ e ≤ 971 := bounds_of_unpack_eq_finite h

theorem unpack_add (x y : Float) :
    (x + y).toModel.unpack = UnpackedFloat.unpack .binary64 (UnpackedFloat.pack .binary64
      (UnpackedFloat.add .binary64 x.toModel.unpack y.toModel.unpack)) := rfl

/-- **A sum of small numbers never overflows**, however many they are: once it is large, adding a
small number does not change it. -/
theorem Within.add {x y : Float} (hx : Within 971 x) (hy : Within (-42) y) :
    Within 971 (x + y) := by
  have hsum : AtMost 971 (UnpackedFloat.add .binary64 x.toModel.unpack y.toModel.unpack) := by
    rcases hx.cases with ⟨sign, hzero⟩ | ⟨m, e, hm, hfinite, he⟩
    · rcases hy.cases with ⟨sign', hzero'⟩ | ⟨n, f, hn, hfinite', hf⟩
      · rw [hzero, hzero']
        rcases sign with _ | _ <;> rcases sign' with _ | _ <;> exact trivial
      · rw [hzero, hfinite']
        exact le_trans hf (by decide)
    · rcases hy.cases with ⟨sign', hzero'⟩ | ⟨n, f, hn, hfinite', hf⟩
      · rw [hfinite, hzero']
        exact he
      · obtain ⟨hm', hlow, hleast, -⟩ := bounds_of_unpack hfinite
        obtain ⟨hn', -, hleast', -⟩ := bounds_of_unpack hfinite'
        rw [hfinite, hfinite']
        by_cases hlarge : 12 ≤ e
        · rw [add_absorb hm hn (by omega) hm' hn' (by omega) hleast']
          exact he
        · exact (atMost_add hm hn hm' hn' hleast).mono (by omega)
  exact hsum.unpack_pack (by decide) (by decide)

/-! ## Quotients -/

theorem div_finite {m n : ℕ} {e f : ℤ} (hm : 0 < m) (hn : 0 < n) :
    UnpackedFloat.div .binary64 (.finite .positive m e hm) (.finite .positive n f hn) =
      roundWithAccuracy .binary64 .positive (divCore .binary64 m e n f).1
        (divCore .binary64 m e n f).2.1 (divCore .binary64 m e n f).2.2 := rfl

/-- A number divided by a positive one is a number. -/
theorem isNaN_div {top : ℤ} {u : UnpackedFloat} (hu : AtMost top u) {n : ℕ} {f : ℤ} (hn : 0 < n) :
    (UnpackedFloat.div .binary64 u (.finite .positive n f hn)).isNaN = false := by
  rcases hu.cases with ⟨sign, rfl⟩ | ⟨m, e, hm, rfl, -⟩
  · rfl
  · rw [div_finite]
    rcases roundWithAccuracy_cases .positive (divCore .binary64 m e n f).1
        (divCore .binary64 m e n f).2.1 (divCore .binary64 m e n f).2.2 with
      hround | ⟨m', e', h', hround, -⟩
    · rw [hround]
      rfl
    · rw [hround]
      rfl

theorem fit_divCore_le {m n : ℕ} {e f : ℤ} (hm : m < 2 ^ 53) (hleast : -1074 ≤ e - f) :
    fit (divCore .binary64 m e n f).1 (divCore .binary64 m e n f).2.1 ≤ e - f := by
  have hexponent : (divCore .binary64 m e n f).2.1 ≤ e - f := min_le_left _ _
  have hquotient : (divCore .binary64 m e n f).1 =
      (m <<< (e - f - (divCore .binary64 m e n f).2.1).toNat) / n := rfl
  generalize (divCore .binary64 m e n f).2.1 = t at hexponent hquotient ⊢
  have hlt : (divCore .binary64 m e n f).1 < 2 ^ (53 + (e - f - t).toNat) := by
    rw [hquotient]
    exact (Nat.div_le_self _ _).trans_lt (shiftLeft_lt hm le_rfl)
  have hlog : (divCore .binary64 m e n f).1.log2 < 53 + (e - f - t).toNat := by
    by_cases hzero : (divCore .binary64 m e n f).1 = 0
    · rw [hzero, Nat.log2_zero]
      omega
    · exact (Nat.log2_lt hzero).mpr hlt
  rw [fit]
  omega

/-- The exponent of a quotient is the difference of the exponents, or less, or one more. -/
theorem atMost_div {m n : ℕ} {e f : ℤ} (hm : 0 < m) (hn : 0 < n) (hm' : m < 2 ^ 53)
    (hleast : -1074 ≤ e - f) :
    AtMost (e - f + 1)
      (UnpackedFloat.div .binary64 (.finite .positive m e hm) (.finite .positive n f hn)) := by
  have hexponent : (divCore .binary64 m e n f).2.1 ≤ e - f := min_le_left _ _
  have hfit := fit_divCore_le (n := n) hm' hleast
  rw [div_finite]
  rcases roundWithAccuracy_cases .positive (divCore .binary64 m e n f).1
      (divCore .binary64 m e n f).2.1 (divCore .binary64 m e n f).2.2 with
    hround | ⟨m', e', h', hround, hle⟩
  · rw [hround]
    exact trivial
  · rw [hround]
    show e' ≤ e - f + 1
    omega

/-! ## Counts -/

theorem unpack_ofNat_of_lt {n : ℕ} (h : n < 2 ^ 53) :
    (Float.ofNat n).toModel.unpack = UnpackedFloat.unpack .binary64 (UnpackedFloat.pack .binary64
      (UnpackedFloat.mul .binary64 (n.toUInt64.toFloat).toModel.unpack
        (.finite .positive (2 ^ 52) (-52) (by decide)))) := by
  have hfast : n < 2 ^ 53 ∧ 0 ≤ 22 := ⟨h, Nat.zero_le _⟩
  have hnat : Float.ofNat n = n.toUInt64.toFloat * 1.0 := by
    show Float.ofScientific n false 0 = _
    rw [Float.ofScientific, dif_pos hfast]
    rfl
  rw [hnat]
  rfl

theorem unpack_ofNat_of_le {n : ℕ} (h : 2 ^ 53 ≤ n) :
    (Float.ofNat n).toModel.unpack = UnpackedFloat.unpack .binary64 (UnpackedFloat.pack .binary64
      (roundWithAccuracy .binary64 .positive (n <<< 53) (-53) .exact)) := by
  have hslow : ¬(n < 2 ^ 53 ∧ 0 ≤ 22) := fun hfast ↦ absurd hfast.1 (Nat.not_lt.mpr h)
  have hround : UnpackedFloat.ofScientific .binary64 n 0 =
      roundWithAccuracy .binary64 .positive (n <<< 53) (-53) .exact := by
    have hmost : ¬(0 : ℤ) > 2 ^ Format.binary64.exponentBits := by decide
    have hleast : ¬(0 : ℤ) < -((2 ^ Format.binary64.exponentBits : ℤ) + n.log2) := by
      have hpow : (2 ^ Format.binary64.exponentBits : ℤ) = 2048 := rfl
      omega
    rw [UnpackedFloat.ofScientific, dif_neg (by omega), if_neg hmost, if_neg hleast,
      if_pos le_rfl, UnpackedFloat.mul]
    simp only [Int.toNat_zero, Nat.pow_zero, Nat.mul_one, Int.add_zero]
    rfl
  have hnat : Float.ofNat n = .ofModel (.ofScientific n 0) := by
    show Float.ofScientific n false 0 = _
    rw [Float.ofScientific, dif_neg hslow]
    rfl
  rw [hnat, ← hround]
  rfl

/-- The double for a count below 2 to the 53 is exact. -/
theorem isNormal_toFloat {n : ℕ} (hpos : n ≠ 0) (hlt : n < 2 ^ 53) :
    IsNormal (-52) 1 (n.toUInt64.toFloat).toModel.unpack := by
  have hcount : n.toUInt64.toNat = n := UInt64.toNat_ofNat_of_lt' (hlt.trans (by decide))
  have hword : (n.toUInt64.toFloat).toModel.unpack = UnpackedFloat.unpack .binary64
      (UnpackedFloat.pack .binary64 (UnpackedFloat.round .binary64 .positive n 0)) := by
    rw [← normalize_natCast hpos 0]
    show UnpackedFloat.unpack .binary64 (UnpackedFloat.pack .binary64
      (UnpackedFloat.normalize .binary64 (n.toUInt64.toNat : ℤ) 0 .positive)) = _
    rw [hcount]
  have hlog : n.log2 < 53 := (Nat.log2_lt hpos).mpr hlt
  have hfit : fit n 0 = n.log2 - 52 := by
    rw [fit]
    omega
  rw [hword]
  refine IsNormal.unpack_pack (by decide) (by decide) ?_
  exact (isNormal_round hpos (by omega)).mono (by omega) (by omega)

/-- The double for a count is a positive number of the size that it should have. -/
theorem isNormal_ofNat {n : ℕ} (hpos : n ≠ 0) (hlt : n < 2 ^ 64) :
    IsNormal (-52) 12 (Float.ofNat n).toModel.unpack := by
  by_cases hfast : n < 2 ^ 53
  · obtain ⟨m, e, hm, hfinite, hlow, hhigh, hle, hge⟩ := isNormal_toFloat hpos hfast
    have hproduct : fit (m <<< 52) (e + -52) = e := by
      rw [fit, log2_shiftLeft hm.ne', log2_of_bounds hlow hhigh]
      omega
    rw [Nat.shiftLeft_eq] at hproduct
    rw [unpack_ofNat_of_lt hfast, hfinite]
    refine IsNormal.unpack_pack (by decide) (by decide) ?_
    exact (isNormal_roundWithAccuracy .exact (by omega) (by omega)).mono (by omega) (by omega)
  · have hlog : n.log2 < 64 := (Nat.log2_lt hpos).mpr hlt
    have hfit : fit (n <<< 53) (-53) = n.log2 - 52 := by
      rw [fit, log2_shiftLeft hpos]
      omega
    rw [unpack_ofNat_of_le (Nat.le_of_not_lt hfast)]
    refine IsNormal.unpack_pack (by decide) (by decide) ?_
    exact (isNormal_roundWithAccuracy .exact (by omega) (by omega)).mono (by omega) (by omega)

/-! ## Comparison -/

/-- Where a number stands: by sign, then by exponent, then by mantissa. -/
def place : UnpackedFloat → ℤ ×ₗ ℤ ×ₗ ℤ
  | .infinity .negative => toLex (-2, toLex (0, 0))
  | .finite .negative m e _ => toLex (-1, toLex (-e, -m))
  | .notANumber | .zero _ => toLex (0, toLex (0, 0))
  | .finite .positive m e _ => toLex (1, toLex (e, m))
  | .infinity .positive => toLex (2, toLex (0, 0))

theorem then_compare_eq_lt_iff (e f : ℤ) (m n : ℕ) :
    (compare e f).then (compare m n) = .lt ↔ e < f ∨ e = f ∧ m < n := by
  rw [Ordering.then_eq_lt, compare_lt_iff_lt, compare_eq_iff_eq, compare_lt_iff_lt]

theorem then_compare_eq_gt_iff (e f : ℤ) (m n : ℕ) :
    (compare e f).then (compare m n) = .gt ↔ f < e ∨ e = f ∧ n < m := by
  rw [Ordering.then_eq_gt, compare_gt_iff_gt, compare_eq_iff_eq, compare_gt_iff_gt]

theorem compare_sign_eq_lt_iff (s t : Sign) :
    compare s t = .lt ↔ s = .negative ∧ t = .positive := by
  rcases s with _ | _ <;> rcases t with _ | _ <;> simp [compare]

/-- Among numbers, infinite ones included, the comparison is that of places. -/
theorem lt_iff_place_unpacked {u v : UnpackedFloat} (hu : u.isNaN = false) (hv : v.isNaN = false) :
    u.lt v = true ↔ place u < place v := by
  -- the two cases with a finite number of one sign on both sides are the ones with something to say
  rcases u with ⟨_ | _⟩ | _ | _ | ⟨_ | _, m, e, hm⟩ <;>
    rcases v with ⟨_ | _⟩ | _ | _ | ⟨_ | _, n, f, hn⟩ <;>
    simp_all [UnpackedFloat.isNaN, UnpackedFloat.lt, UnpackedFloat.compare, place,
      Prod.Lex.toLex_lt_toLex, then_compare_eq_lt_iff, then_compare_eq_gt_iff,
      compare_sign_eq_lt_iff]

theorem lt_iff_place {x y : Float} (hx : x.toModel.unpack.isNaN = false)
    (hy : y.toModel.unpack.isNaN = false) :
    x < y ↔ place x.toModel.unpack < place y.toModel.unpack := by
  rw [← lt_iff_place_unpacked hx hy]
  exact decide_eq_true_iff

theorem le_iff {x y : Float} : x ≤ y ↔ x.toModel.unpack.le y.toModel.unpack = true :=
  decide_eq_true_iff

/-- A number divided by a positive one is a number. -/
theorem isNaN_div_of_pos {top top' : ℤ} {x y : Float} (hx : Within top x) (hy : Within top' y)
    (hpos : 0 < y) : (x / y).toModel.unpack.isNaN = false := by
  have hzero : (0 : Float).toModel.unpack = .zero .positive := rfl
  obtain ⟨sign, hy⟩ | ⟨n, f, hn, hy, -⟩ := hy.cases
  · have hlt : (0 : Float).toModel.unpack.lt y.toModel.unpack = true := of_decide_eq_true hpos
    rw [hzero, hy] at hlt
    exact absurd hlt Bool.false_ne_true
  · have hdiv : (UnpackedFloat.div .binary64 x.toModel.unpack y.toModel.unpack).isNaN = false := by
      rw [hy]
      exact isNaN_div hx hn
    exact isNaN_unpack_pack hdiv

/-- A double between zero and 1024 has an exponent of the size of 1024 at most. -/
theorem within_of_le {x : Float} (hleast : 0 ≤ x) (hmost : x ≤ 1024) : Within (-42) x := by
  have hzero : (0 : Float).toModel.unpack = .zero .positive := rfl
  have hlarge : (1024 : Float).toModel.unpack = .finite .positive (2 ^ 52) (-42) (by decide) := rfl
  rw [le_iff, hzero] at hleast
  rw [le_iff, hlarge] at hmost
  rw [Within]
  rcases hx : x.toModel.unpack with ⟨_ | _⟩ | _ | _ | ⟨_ | _, m, e, hm⟩
  all_goals rw [hx] at hleast hmost
  · exact absurd hleast Bool.false_ne_true
  · exact absurd hmost Bool.false_ne_true
  · exact absurd hleast Bool.false_ne_true
  · exact trivial
  · exact absurd hleast Bool.false_ne_true
  · show e ≤ -42
    by_contra hgt
    have hcompare : compare e (-42) = .gt := compare_gt_iff_gt.mpr (by omega)
    have hle : ((compare e (-42)).then (compare m (2 ^ 52))).isLE = true := hmost
    rw [hcompare] at hle
    exact absurd hle Bool.false_ne_true

theorem one_le_of_isNormal {most : ℤ} {x : Float} (h : IsNormal (-52) most x.toModel.unpack) :
    1 ≤ x := by
  have hone : (1 : Float).toModel.unpack = .finite .positive (2 ^ 52) (-52) (by decide) := rfl
  obtain ⟨m, e, hm, hx, hlow, -, hle, -⟩ := h
  rw [le_iff, hone, hx]
  show ((compare (-52) e).then (compare (2 ^ 52) m)).isLE = true
  rw [← Bool.not_eq_false, Ordering.isLE_eq_false, then_compare_eq_gt_iff]
  omega

theorem isFinite_of_unpack {x : Float} {sign : Sign} {m : ℕ} {e : ℤ} {hm : 0 < m}
    (h : x.toModel.unpack = .finite sign m e hm) : x.isFinite = true := by
  show x.toModel.unpack.isFinite = true
  rw [h]
  rfl

theorem isFinite_of_isNormal {least most : ℤ} {x : Float}
    (h : IsNormal least most x.toModel.unpack) : x.isFinite = true := by
  obtain ⟨m, e, hm, hx, -⟩ := h
  exact isFinite_of_unpack hx

/-- One and a quotient of two counts make a finite number that is not less than one. -/
theorem one_le_one_add_div {n k : ℕ} (hn : n ≠ 0) (hk : k ≠ 0) (hn' : n < 2 ^ 64)
    (hk' : k < 2 ^ 64) :
    1 ≤ Float.ofNat 1 + Float.ofNat n / Float.ofNat k ∧
      (Float.ofNat 1 + Float.ofNat n / Float.ofNat k).isFinite = true := by
  have hone : (Float.ofNat 1).toModel.unpack =
      .finite .positive (2 ^ 52) (-52) (by decide) := rfl
  have hquotient : Within 65 (Float.ofNat n / Float.ofNat k) := by
    obtain ⟨m, e, hm, hx, -, hm', hle, hge⟩ := isNormal_ofNat hn hn'
    obtain ⟨l, f, hl, hy, -, hl', hle', hge'⟩ := isNormal_ofNat hk hk'
    have hdiv : AtMost 65 (UnpackedFloat.div .binary64 (Float.ofNat n).toModel.unpack
        (Float.ofNat k).toModel.unpack) := by
      rw [hx, hy]
      exact (atMost_div hm hl hm' (by omega)).mono (by omega)
    exact hdiv.unpack_pack (by decide) (by decide)
  have hsum : IsNormal (-52) 67
      (Float.ofNat 1 + Float.ofNat n / Float.ofNat k).toModel.unpack := by
    rw [unpack_add, hone]
    refine IsNormal.unpack_pack (by decide) (by decide) ?_
    rcases hquotient.cases with ⟨sign, hzero⟩ | ⟨m, e, hm, hfinite, he⟩
    · rw [hzero]
      exact ⟨2 ^ 52, -52, by decide, rfl, le_rfl, by decide, le_rfl, by decide⟩
    · obtain ⟨hm', -, -, -⟩ := bounds_of_unpack hfinite
      rw [hfinite]
      exact (isNormal_add (by decide) hm le_rfl (by decide) hm' (by decide)).mono le_rfl (by omega)
  exact ⟨one_le_of_isNormal hsum, isFinite_of_isNormal hsum⟩

/-! ## Finite doubles -/

theorem isFinite_iff {x : Float} : x.isFinite = true ↔ x.isNaN = false ∧ x.isInf = false := by
  show x.toModel.unpack.isFinite = true ↔
    x.toModel.unpack.isNaN = false ∧ x.toModel.unpack.isInf = false
  cases x.toModel.unpack with
  | infinity | notANumber | zero | finite =>
    simp [UnpackedFloat.isFinite, UnpackedFloat.isNaN, UnpackedFloat.isInf]

theorem unpack_neg (x : Float) :
    x.neg.toModel.unpack = UnpackedFloat.unpack .binary64 (UnpackedFloat.pack .binary64
      (UnpackedFloat.neg x.toModel.unpack)) := rfl

/-- The double for a whole number of 64 bits, with a sign or without, is finite. -/
theorem isFinite_ofInt {n : ℤ} (hlow : -2 ^ 64 < n) (hhigh : n < 2 ^ 64) :
    (Float.ofInt n).isFinite = true := by
  cases n with
  | ofNat n =>
    by_cases hzero : n = 0
    · subst hzero
      rfl
    · have hlt : n < 2 ^ 64 := Int.ofNat_lt.mp hhigh
      exact isFinite_of_isNormal (isNormal_ofNat hzero hlt)
  | negSucc n =>
    have hlt : n + 1 < 2 ^ 64 := by omega
    obtain ⟨m, e, hm, hx, hm', hm'', hleast, hmost⟩ := isNormal_ofNat n.succ_ne_zero hlt
    have hneg : (Float.ofInt (Int.negSucc n)).toModel.unpack = .finite .negative m e hm := by
      show (Float.ofNat (n + 1)).neg.toModel.unpack = _
      rw [unpack_neg, hx]
      exact unpack_pack_normal .negative hm' hm'' (by omega) (by omega) hm
    exact isFinite_of_unpack hneg

end Phrasebook.Double
