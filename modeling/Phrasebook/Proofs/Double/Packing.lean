import Phrasebook.Proofs.Double.Rounding

/-!
# Doubles and their bits

A double is 64 bits: a sign, an exponent and a mantissa whose first bit is left out unless the
number is subnormal. Arithmetic unpacks its arguments and packs its results. A number of 53 bits
survives the way into the bits and back as it is, and a subnormal one does not get larger by it.
That is enough to follow a bound on the exponent through a computation: `AtMost` bounds numbers from
above, zero and subnormal ones included, and `IsNormal` from both sides.
-/

namespace Phrasebook.Double

open Float.Model Float.Model.UnpackedFloat

theorem toNat_one_append (v : BitVec 52) : (1#1 ++ v).toNat = 2 ^ 52 + v.toNat := by
  rw [BitVec.toNat_append, ← Nat.shiftLeft_add_eq_or_of_lt v.isLt]
  rfl

theorem unpack_packComponents (sign : Sign) (exponent : BitVec 11) (mantissa : BitVec 52) :
    UnpackedFloat.unpack .binary64 (packComponents .binary64 sign exponent mantissa) =
      if exponent = -1#11 then
        if mantissa = 0#52 then .infinity sign else .notANumber
      else if exponent = 0#11 then
        if h : mantissa = 0#52 then .zero sign
        else .finite sign mantissa.toNat (-1074)
          (Nat.pos_of_ne_zero fun hzero ↦ h (BitVec.eq_of_toNat_eq hzero))
      else .finite sign (1#1 ++ mantissa).toNat (exponent.toNat - 1075)
        (by rw [toNat_one_append]; omega) := by
  have hbias : ((Format.binary64.exponentBias : ℕ) : ℤ) = 1023 := rfl
  simp only [UnpackedFloat.unpack, unpackMantissa_packComponents, unpackExponent_packComponents,
    unpackSign_packComponents, Sign.ofBitVec_toBitVec, hbias]
  split
  · rfl
  · split
    · rename_i hzero
      subst hzero
      rfl
    · rfl

theorem pack_finite (sign : Sign) (m : ℕ) (e : ℤ) (h : 0 < m) :
    UnpackedFloat.pack .binary64 (.finite sign m e h) =
      if 2047 ≤ (e + 1075).toNat then packedInfinity .binary64 sign
      else packComponents .binary64 sign
        (if m.log2 = 52 then BitVec.ofNat 11 (e + 1075).toNat else 0#11) (BitVec.ofNat 52 m) := by
  have hbias : e + ((Format.binary64.exponentBias : ℕ) : ℤ) + (52 : ℕ) = e + 1075 := by
    have hvalue : ((Format.binary64.exponentBias : ℕ) : ℤ) = 1023 := rfl
    omega
  have hbits : Format.binary64.mantissaBits = 53 := rfl
  simp only [UnpackedFloat.pack, hbias, hbits]
  by_cases hlarge : 2047 ≤ (e + 1075).toNat
  · rw [if_pos hlarge, if_pos (Nat.succ_le_succ hlarge)]
  · rw [if_neg hlarge, if_neg (by omega)]
    by_cases hlog : m.log2 = 52
    · rw [if_pos hlog, if_pos (by omega)]
    · rw [if_neg hlog, if_neg (by omega)]

/-- The largest exponent is that of the infinite. -/
theorem ne_neg_one {word : BitVec 11} (h : word.toNat < 2047) : word ≠ -1#11 := by
  rintro rfl
  exact absurd h (by decide)

theorem exists_packComponents (sign : Sign) (m : ℕ) {e : ℤ} (h : 0 < m)
    (hsmall : (e + 1075).toNat < 2047) :
    ∃ word : BitVec 11, UnpackedFloat.pack .binary64 (.finite sign m e h) =
        packComponents .binary64 sign word (BitVec.ofNat 52 m) ∧
      word.toNat ≤ (e + 1075).toNat := by
  refine ⟨_, by rw [pack_finite, if_neg (by omega)], ?_⟩
  split
  · rw [BitVec.toNat_ofNat]
    exact Nat.mod_le _ _
  · exact Nat.zero_le _

/-- A number whose mantissa has 53 bits stays what it is. -/
theorem unpack_pack_normal (sign : Sign) {m : ℕ} {e : ℤ} (hlow : 2 ^ 52 ≤ m) (hhigh : m < 2 ^ 53)
    (hleast : -1074 ≤ e) (hmost : e ≤ 971) (h : 0 < m) :
    UnpackedFloat.unpack .binary64 (UnpackedFloat.pack .binary64 (.finite sign m e h)) =
      .finite sign m e h := by
  have hlog : m.log2 = 52 := log2_of_bounds hlow hhigh
  have hvalue : (BitVec.ofNat 11 (e + 1075).toNat).toNat = (e + 1075).toNat := by
    rw [BitVec.toNat_ofNat, Nat.mod_eq_of_lt (by omega)]
  have hzero : BitVec.ofNat 11 (e + 1075).toNat ≠ 0#11 := by
    intro heq
    rw [heq] at hvalue
    simp at hvalue
    omega
  have hmantissa : (1#1 ++ BitVec.ofNat 52 m).toNat = m := by
    rw [toNat_one_append, BitVec.toNat_ofNat]
    omega
  have hexponent : ((e + 1075).toNat : ℤ) - 1075 = e := by omega
  simp only [pack_finite, if_neg (by omega : ¬2047 ≤ (e + 1075).toNat), if_pos hlog,
    unpack_packComponents, if_neg (ne_neg_one (hvalue.trans_lt (by omega))),
    if_neg hzero, hmantissa, hvalue, hexponent]

/-- What a double may be: its mantissa has at most 53 bits, and fewer only if the exponent is the
least. -/
theorem bounds_of_unpack_eq_finite {b : BitVec 64} {sign : Sign} {m : ℕ} {e : ℤ} {h : 0 < m}
    (hb : UnpackedFloat.unpack .binary64 b = .finite sign m e h) :
    m < 2 ^ 53 ∧ (2 ^ 52 ≤ m ∨ e = -1074) ∧ -1074 ≤ e ∧ e ≤ 971 := by
  have hbias : ((Format.binary64.exponentBias : ℕ) : ℤ) = 1023 := rfl
  simp only [UnpackedFloat.unpack, hbias] at hb
  split at hb
  · split at hb
    · cases hb
    · cases hb
  · rename_i hones
    split at hb
    · rename_i hzero
      split at hb
      · cases hb
      · obtain ⟨-, rfl, rfl⟩ := UnpackedFloat.finite.inj hb
        rw [hzero]
        have hlt : (@unpackMantissa .binary64 b).toNat < 2 ^ 52 := BitVec.isLt _
        refine ⟨hlt.trans (by decide), Or.inr rfl, by decide, by decide⟩
    · rename_i hzero
      obtain ⟨-, rfl, rfl⟩ := UnpackedFloat.finite.inj hb
      have hlt : (@unpackMantissa .binary64 b).toNat < 2 ^ 52 := BitVec.isLt _
      have hexponent : (@unpackExponent .binary64 b).toNat < 2 ^ 11 := BitVec.isLt _
      have hpos : (@unpackExponent .binary64 b).toNat ≠ 0 :=
        fun heq ↦ hzero (BitVec.eq_of_toNat_eq heq)
      have hmost : (@unpackExponent .binary64 b).toNat ≠ 2047 :=
        fun heq ↦ hones (BitVec.eq_of_toNat_eq heq)
      have happend := toNat_one_append (@unpackMantissa .binary64 b)
      have hwidth : ((Format.binary64.mantissaBitsWithoutImplicit : ℕ) : ℤ) = 52 := rfl
      refine ⟨?_, Or.inl ?_, ?_, ?_⟩ <;> omega

/-! ## Numbers up to an exponent -/

/-- A number that is not negative and whose exponent is at most `top`. -/
def AtMost (top : ℤ) : UnpackedFloat → Prop
  | .zero _ => True
  | .finite .positive _ e _ => e ≤ top
  | _ => False

theorem AtMost.mono {low top : ℤ} (hle : low ≤ top) {u : UnpackedFloat} (h : AtMost low u) :
    AtMost top u := by
  rcases u with _ | _ | _ | ⟨_ | _, m, e, hm⟩
  · exact h
  · exact h
  · exact h
  · exact h
  · exact le_trans h hle

theorem AtMost.unpack_pack {top : ℤ} (hleast : -1074 ≤ top) (hmost : top ≤ 971) {u : UnpackedFloat}
    (h : AtMost top u) :
    AtMost top (UnpackedFloat.unpack .binary64 (UnpackedFloat.pack .binary64 u)) := by
  rcases u with _ | _ | sign | ⟨_ | _, m, e, hm⟩
  · exact h.elim
  · exact h.elim
  · rcases sign with _ | _ <;> exact trivial
  · exact h.elim
  · have he : e ≤ top := h
    obtain ⟨word, hpack, hword⟩ := exists_packComponents .positive m hm
      (by omega : (e + 1075).toNat < 2047)
    rw [hpack, unpack_packComponents, if_neg (ne_neg_one (by omega))]
    split
    · split
      · exact trivial
      · exact hleast
    · rename_i hzero
      have hpos : word.toNat ≠ 0 := fun heq ↦ hzero (BitVec.eq_of_toNat_eq heq)
      show (word.toNat : ℤ) - 1075 ≤ top
      omega

/-- Packing makes nothing undefined. -/
theorem isNaN_unpack_pack {u : UnpackedFloat} (h : u.isNaN = false) :
    (UnpackedFloat.unpack .binary64 (UnpackedFloat.pack .binary64 u)).isNaN = false := by
  rcases u with sign | _ | sign | ⟨sign, m, e, hm⟩
  · rcases sign with _ | _ <;> rfl
  · cases h
  · rcases sign with _ | _ <;> rfl
  · by_cases hsmall : (e + 1075).toNat < 2047
    · obtain ⟨word, hpack, hword⟩ := exists_packComponents sign m hm hsmall
      rw [hpack, unpack_packComponents, if_neg (ne_neg_one (by omega))]
      split
      · split
        · rfl
        · rfl
      · rfl
    · rw [pack_finite, if_pos (by omega)]
      rcases sign with _ | _ <;> rfl

/-! ## Numbers of 53 bits -/

/-- A positive number whose mantissa has 53 bits and whose exponent lies between `least` and
`most`. -/
def IsNormal (least most : ℤ) (u : UnpackedFloat) : Prop :=
  ∃ m e h, u = .finite .positive m e h ∧ 2 ^ 52 ≤ m ∧ m < 2 ^ 53 ∧ least ≤ e ∧ e ≤ most

theorem IsNormal.unpack_pack {least most : ℤ} (hleast : -1074 ≤ least) (hmost : most ≤ 971)
    {u : UnpackedFloat} (h : IsNormal least most u) :
    IsNormal least most
      (UnpackedFloat.unpack .binary64 (UnpackedFloat.pack .binary64 u)) := by
  obtain ⟨m, e, hm, rfl, hlow, hhigh, hle, hge⟩ := h
  exact ⟨m, e, hm, unpack_pack_normal .positive hlow hhigh (hleast.trans hle) (hge.trans hmost) hm,
    hlow, hhigh, hle, hge⟩

theorem IsNormal.mono {least most lower higher : ℤ} {u : UnpackedFloat}
    (h : IsNormal least most u) (hlower : lower ≤ least) (hhigher : most ≤ higher) :
    IsNormal lower higher u := by
  obtain ⟨m, e, hm, rfl, hlow, hhigh, hle, hge⟩ := h
  exact ⟨m, e, hm, rfl, hlow, hhigh, hlower.trans hle, hge.trans hhigher⟩

/-- Rounding makes a number of 53 bits of every number that is not too small for it. -/
theorem isNormal_round {m : ℕ} (hm : m ≠ 0) {e : ℤ} (hfit : -1074 < fit m e) :
    IsNormal (fit m e) (fit m e + 1) (UnpackedFloat.round .binary64 .positive m e) :=
  round_normal .positive hm hfit

theorem isNormal_roundWithAccuracy {m : ℕ} {e : ℤ} (acc : Accuracy) (he : e ≤ fit m e)
    (hfit : -1074 < fit m e) :
    IsNormal (fit m e) (fit m e + 1) (roundWithAccuracy .binary64 .positive m e acc) :=
  roundWithAccuracy_normal .positive acc he hfit

end Phrasebook.Double
