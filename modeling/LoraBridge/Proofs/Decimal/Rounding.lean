import Mathlib

/-! # How doubles are rounded

  A product of two doubles, or a whole number of 64 bits, is rounded to a mantissa of 53 bits.
  Rounding is followed here from the bits that are shifted out up to the double that is packed,
  for numbers of one and more. All that has to be known in the end is how much larger than the
  number the double may be.

  - `shifted_spec`: what is left of a mantissa when bits are shifted out of it, and what the bit
    behind it says of them.
  - `Large`: a double of at least one. `Large.unpack_pack` says that it survives in its 64 bits.
  - `exists_large`: what is not beyond the `limit` is rounded to such a double, which is larger by
    a factor of `growth` at most.
  - `AtMost.mul`, `atMost_toFloat`: what follows for products and for whole numbers.
-/

namespace LoraBridge.Rounding

open Float.Model Float.Model.UnpackedFloat

variable {m n k : Nat} {e : Int} {x y : Float} {r s : ℚ}

/-! ### Bits that are shifted out -/

/-- A mantissa of which `n` bits have been shifted out. -/
def shifted (m n : Nat) : ExtendedMantissa :=
  n.repeat ExtendedMantissa.shiftRightOne ⟨m, false, false⟩

/-- The round bit is only set if the bits that were shifted out are at least half of one. -/
theorem shifted_spec (m n : Nat) :
    (shifted m n).mantissa = m / 2 ^ n ∧
      ((shifted m n).roundBit = true → 2 ^ n ≤ 2 * (m % 2 ^ n)) := by
  induction n with
  | zero =>
    constructor
    · simp [shifted, Nat.repeat]
    · intro h
      cases h
  | succ n ih =>
    obtain ⟨ih, -⟩ := ih
    have hstep : shifted m (n + 1) = (shifted m n).shiftRightOne := rfl
    have hmod : m % 2 ^ (n + 1) = m % 2 ^ n + 2 ^ n * (m / 2 ^ n % 2) := Nat.mod_pow_succ
    rw [hstep, ExtendedMantissa.shiftRightOne, ih]
    refine ⟨by rw [Nat.div_div_eq_div_mul, Nat.pow_succ], fun hbit => ?_⟩
    -- the bit that is shifted out last is the one that counts
    have hodd : m / 2 ^ n % 2 = 1 := by
      have hnonzero : m / 2 ^ n % 2 ≠ 0 := by simpa using hbit
      omega
    rw [hmod, hodd, Nat.pow_succ]
    omega

theorem shifted_mantissa (m n : Nat) : (shifted m n).mantissa = m / 2 ^ n := (shifted_spec m n).1

theorem roundedMantissa_cases (em : ExtendedMantissa) :
    em.roundedMantissa = em.mantissa ∨
      em.roundBit = true ∧ em.roundedMantissa = em.mantissa + 1 := by
  obtain ⟨m, round, sticky⟩ := em
  cases round with
  | false => cases sticky <;> exact .inl rfl
  | true =>
    cases sticky with
    | true => exact .inr ⟨rfl, rfl⟩
    | false =>
      have hround : ExtendedMantissa.roundedMantissa ⟨m, true, false⟩ = m + m % 2 := rfl
      rw [hround]
      rcases Nat.mod_two_eq_zero_or_one m with h | h
      · exact .inl (by rw [h]; rfl)
      · exact .inr ⟨rfl, by rw [h]⟩

theorem le_rounded (m n : Nat) : m / 2 ^ n ≤ (shifted m n).roundedMantissa := by
  have hmantissa := shifted_mantissa m n
  rcases roundedMantissa_cases (shifted m n) with h | ⟨-, h⟩ <;> omega

/-- Rounding adds at most half of one. -/
theorem rounded_le (m n : Nat) :
    2 * (2 ^ n * (shifted m n).roundedMantissa) ≤ 2 * m + 2 ^ n := by
  obtain ⟨hmantissa, hround⟩ := shifted_spec m n
  have hdiv := Nat.div_add_mod m (2 ^ n)
  rcases roundedMantissa_cases (shifted m n) with h | ⟨hbit, h⟩
  · rw [h, hmantissa]
    omega
  · have hhalf := hround hbit
    rw [h, hmantissa, Nat.mul_add]
    omega

/-! ### Numbers of bits -/

theorem le_log2 (h : 2 ^ k ≤ m) : k ≤ m.log2 := by
  have hm : m ≠ 0 := by
    rintro rfl
    exact absurd h (by simp)
  exact (Nat.le_log2 hm).mpr h

theorem log2_eq (hlo : 2 ^ k ≤ m) (hhi : m < 2 ^ (k + 1)) : m.log2 = k := by
  have hm : m ≠ 0 := by
    rintro rfl
    exact absurd hlo (by simp)
  exact (Nat.log2_eq_iff hm).mpr ⟨hlo, hhi⟩

theorem log2_shiftLeft (hm : m ≠ 0) : (m <<< k).log2 = m.log2 + k := by
  obtain ⟨hlo, hhi⟩ := (Nat.log2_eq_iff hm).mp rfl
  refine log2_eq ?_ ?_
  · rw [Nat.shiftLeft_eq, Nat.pow_add]
    exact Nat.mul_le_mul_right _ hlo
  · rw [Nat.shiftLeft_eq, Nat.add_right_comm, Nat.pow_add]
    exact Nat.mul_lt_mul_of_pos_right hhi (Nat.two_pow_pos k)

/-! ### Rounding to 53 bits -/

/-- A mantissa of at least 53 bits is shifted to 53 bits. -/
theorem shiftToTargetExponent_eq (hm : 52 ≤ m.log2) (he : 0 ≤ m.log2 + e) :
    shiftToTargetExponent .binary64 m e .exact =
      (shifted m (m.log2 - 52), e + (m.log2 - 52 : Nat)) := by
  have hbits : (Format.binary64.mantissaBits : Int) = 53 := rfl
  have hmin : Format.binary64.minExponent = -1074 := rfl
  have hamount : (Format.binary64.targetExponent (totalExponent m e) - e).toNat =
      m.log2 - 52 := by
    rw [Format.targetExponent, totalExponent, hbits, hmin]
    omega
  rw [shiftToTargetExponent, shiftToExponent, hamount]
  rfl

/-- Rounding may give one bit too many, but then it is the only one. -/
theorem shift_rounded (hlo : 2 ^ 52 ≤ n) (hhi : n ≤ 2 ^ 53) :
    2 ^ 52 ≤ n / 2 ^ (n.log2 - 52) ∧ n / 2 ^ (n.log2 - 52) < 2 ^ 53 ∧
      2 ^ (n.log2 - 52) * (n / 2 ^ (n.log2 - 52)) = n := by
  by_cases hn : n = 2 ^ 53
  · subst hn
    decide +kernel
  · have hlog : n.log2 = 52 := log2_eq hlo (by omega)
    rw [hlog]
    omega

/-- A number of one or more, written with at least 53 bits, is rounded to 53 bits. What is added
    is at most half of the last of them. -/
theorem roundWithAccuracy_eq (hm : 52 ≤ m.log2) (he : 0 ≤ m.log2 + e) :
    ∃ (k n : Nat) (hn : 0 < n),
      roundWithAccuracy .binary64 .positive m e .exact = .finite .positive n (e + k) hn ∧
      m.log2 ≤ k + 52 ∧ 2 ^ 52 ≤ n ∧ n < 2 ^ 53 ∧
      2 * (2 ^ k * n) ≤ 2 * m + 2 ^ (m.log2 - 52) := by
  have hpos : m ≠ 0 := by
    rintro rfl
    exact absurd hm (by decide)
  obtain ⟨hlow, hhigh⟩ := (Nat.log2_eq_iff hpos).mp rfl
  have hfirst := shiftToTargetExponent_eq hm he
  obtain ⟨k, hk⟩ : ∃ k, m.log2 = k + 52 := ⟨m.log2 - 52, by omega⟩
  rw [hk, Nat.add_sub_cancel] at hfirst ⊢
  rw [hk] at hlow hhigh
  rw [Nat.pow_add, Nat.mul_comm] at hlow
  rw [Nat.add_assoc, Nat.pow_add] at hhigh
  -- what is left of the mantissa has 53 bits, or is the least number of 54
  have hfloor := le_rounded m k
  have hround := rounded_le m k
  generalize hn : (shifted m k).roundedMantissa = n at hfloor hround
  have hlo : 2 ^ 52 ≤ n :=
    Nat.le_trans ((Nat.le_div_iff_mul_le (Nat.two_pow_pos k)).mpr hlow) hfloor
  have hhi : n ≤ 2 ^ 53 := by
    by_contra hmore
    have hmul : 2 ^ k * (2 ^ 53 + 1) ≤ 2 ^ k * n := Nat.mul_le_mul_left _ (by omega)
    omega
  -- so the shift that follows loses nothing
  have hlog : 52 ≤ n.log2 := le_log2 hlo
  have hsecond := shiftToTargetExponent_eq hlog (e := e + k) (by omega)
  obtain ⟨hlo', hhi', hmul⟩ := shift_rounded hlo hhi
  refine ⟨k + (n.log2 - 52), n / 2 ^ (n.log2 - 52), by omega, ?_, by omega, hlo', hhi', ?_⟩
  · simp only [roundWithAccuracy, hfirst, hn, hsecond, shifted_mantissa]
    rw [dif_neg (by omega)]
    congr 1
    push_cast
    omega
  · rwa [Nat.pow_add, Nat.mul_assoc, hmul]

/-! ### Doubles of at least one -/

/-- A double of at least one: all 53 bits of its mantissa are in use. -/
structure Large where
  mantissa : Nat
  exponent : Int
  mantissa_ge : 2 ^ 52 ≤ mantissa
  mantissa_lt : mantissa < 2 ^ 53
  exponent_ge : -52 ≤ exponent
  exponent_le : exponent ≤ 971

namespace Large

theorem mantissa_pos (l : Large) : 0 < l.mantissa :=
  Nat.lt_of_lt_of_le (Nat.two_pow_pos 52) l.mantissa_ge

/-- The double with its sign. -/
def unpacked (l : Large) : UnpackedFloat := .finite .positive l.mantissa l.exponent l.mantissa_pos

/-- The number that the double stands for. -/
def value (l : Large) : ℚ := l.mantissa * 2 ^ l.exponent

theorem value_pos (l : Large) : 0 < l.value := by
  have hpos := l.mantissa_pos
  unfold value
  positivity

end Large

theorem unpackSign_packComponents {spec : Format} {sign : Sign}
    {exponent : BitVec spec.exponentBits} {mantissa : BitVec spec.mantissaBitsWithoutImplicit} :
    unpackSign (packComponents spec sign exponent mantissa) = sign.toBitVec := by
  ext i hi
  obtain rfl : i = 0 := by omega
  simp [unpackSign, packComponents, BitVec.getLsbD_append, BitVec.getElem_append]

/-- The first bit of the mantissa is not kept, as it is always set. -/
theorem unpack_packComponents {b : Nat} (hlo : 0 < b) (hhi : b < 2047) (hm : 2 ^ 52 ≤ m)
    (hm' : m < 2 ^ 53) (hpos : 0 < m) :
    UnpackedFloat.unpack .binary64 (packComponents .binary64 .positive (BitVec.ofNat 11 b)
      (BitVec.ofNat 52 m)) = .finite .positive m (b - 1075) hpos := by
  have hbias : (Format.binary64.exponentBias : Int) = 1023 := rfl
  have hexponent : (BitVec.ofNat 11 b).toNat = b := by
    rw [BitVec.toNat_ofNat, Nat.mod_eq_of_lt (by omega)]
  have hones : BitVec.ofNat 11 b ≠ -1#11 := by
    intro heq
    have hvalue := congrArg BitVec.toNat heq
    rw [hexponent] at hvalue
    exact absurd hvalue (by simp; omega)
  have hzero : BitVec.ofNat 11 b ≠ 0#11 := by
    intro heq
    have hvalue := congrArg BitVec.toNat heq
    rw [hexponent] at hvalue
    exact absurd hvalue (by simp; omega)
  have hmantissa : (1#1 ++ BitVec.ofNat 52 m).toNat = m := by
    rw [BitVec.toNat_append, ← Nat.shiftLeft_add_eq_or_of_lt (BitVec.isLt _), BitVec.toNat_ofNat,
      BitVec.toNat_ofNat]
    omega
  rw [UnpackedFloat.unpack]
  simp only [unpackExponent_packComponents, unpackMantissa_packComponents,
    unpackSign_packComponents]
  rw [if_neg hones, if_neg hzero]
  congr 1
  rw [hbias, hexponent]
  omega

theorem Large.unpack_pack (l : Large) : (pack l.unpacked).unpack = l.unpacked := by
  obtain ⟨m, e, hm, hm', he, he'⟩ := l
  have hlog : m.log2 = 52 := log2_eq hm hm'
  have hbias : (Format.binary64.exponentBias : Int) = 1023 := rfl
  have hbits : Format.binary64.mantissaBits = 53 := rfl
  obtain ⟨b, hb⟩ : ∃ b : Nat, e + 1075 = b := ⟨(e + 1075).toNat, by omega⟩
  have hpack : UnpackedFloat.pack .binary64 (unpacked ⟨m, e, hm, hm', he, he'⟩) =
      packComponents .binary64 .positive (BitVec.ofNat _ b) (BitVec.ofNat _ m) := by
    have hbiased : (e + Format.binary64.exponentBias + (52 : Nat)).toNat = b := by
      rw [hbias]
      omega
    have hfits : ¬ 2 ^ 11 ≤ b + 1 := by omega
    rw [unpacked, UnpackedFloat.pack]
    simp only [hbiased, hlog, hbits]
    rw [if_neg hfits, if_pos trivial]
  show UnpackedFloat.unpack .binary64 (UnpackedFloat.pack .binary64 _) = _
  rw [hpack, unpack_packComponents (by omega) (by omega) hm hm' (by omega), unpacked]
  congr 1
  show (b : Int) - 1075 = e
  omega

/-! ### By how much a number grows -/

/-- Rounding multiplies a number by at most this. -/
def growth : ℚ := 1 + 1 / 2 ^ 53

theorem one_lt_growth : 1 < growth := by
  unfold growth
  norm_num

theorem growth_pos : 0 < growth := one_lt_growth.trans' one_pos

/-- The least power of two that is beyond all doubles. -/
def limit : ℚ := 2 ^ (1024 : ℤ)

theorem zpow_lt_limit_iff : (2 : ℚ) ^ e < limit ↔ e < 1024 :=
  zpow_lt_zpow_iff_right₀ one_lt_two

theorem zpow_le_limit (he : e ≤ 1024) : (2 : ℚ) ^ e ≤ limit :=
  zpow_le_zpow_right₀ one_le_two he

/-- A number of one or more is rounded to a double, unless that double would be too large. -/
theorem exists_large (hm : 52 ≤ m.log2) (he : 0 ≤ m.log2 + e)
    (hmax : m * 2 ^ e * growth < limit) :
    ∃ l : Large, roundWithAccuracy .binary64 .positive m e .exact = l.unpacked ∧
      l.value ≤ m * 2 ^ e * growth := by
  obtain ⟨k, n, hn, hrounded, hk, hlo, hhi, hround⟩ := roundWithAccuracy_eq hm he
  have hvalue : (n : ℚ) * 2 ^ (e + k) ≤ m * 2 ^ e * growth := by
    -- half of the last bit is no more than the mantissa divided by `2 ^ 53`
    have hpos : m ≠ 0 := by
      rintro rfl
      exact absurd hm (by decide)
    have hbits : 2 ^ (m.log2 - 52) * 2 ^ 52 ≤ m := by
      rw [← Nat.pow_add, Nat.sub_add_cancel hm]
      exact Nat.log2_self_le hpos
    have hnat : 2 ^ k * n * 2 ^ 53 ≤ m * (2 ^ 53 + 1) := by linarith
    have hcast : (2 : ℚ) ^ k * n * 2 ^ 53 ≤ m * (2 ^ 53 + 1) := by exact_mod_cast hnat
    have hscaled : (2 : ℚ) ^ k * n ≤ m * growth := by
      rw [growth]
      linarith
    calc (n : ℚ) * 2 ^ (e + k) = 2 ^ e * (2 ^ k * n) := by
          rw [zpow_add₀ two_ne_zero, zpow_natCast]
          ring
      _ ≤ 2 ^ e * (m * growth) := by gcongr
      _ = m * 2 ^ e * growth := by ring
  have hexponent : e + k ≤ 971 := by
    have hlt : (2 : ℚ) ^ (52 + (e + k)) < limit :=
      calc (2 : ℚ) ^ (52 + (e + k)) = 2 ^ 52 * 2 ^ (e + k) := by
            rw [zpow_add₀ two_ne_zero]
            rfl
        _ ≤ n * 2 ^ (e + k) := by
          gcongr
          exact_mod_cast hlo
        _ < limit := lt_of_le_of_lt hvalue hmax
    have hsum := zpow_lt_limit_iff.mp hlt
    omega
  exact ⟨⟨n, e + k, hlo, hhi, by omega, hexponent⟩, hrounded, hvalue⟩

/-- Whether a double is at least one and at most `r`. -/
def AtMost (x : Float) (r : ℚ) : Prop :=
  ∃ l : Large, x.toModel.unpack = l.unpacked ∧ l.value ≤ r

theorem AtMost.isInf (h : AtMost x r) : x.isInf = false := by
  obtain ⟨l, hl, -⟩ := h
  rw [Float.isInf, Float.Model.isInf, hl]
  rfl

theorem atMost_pack (hm : 52 ≤ m.log2) (he : 0 ≤ m.log2 + e) (hmax : m * 2 ^ e * growth < limit) :
    AtMost (.ofModel (pack (roundWithAccuracy .binary64 .positive m e .exact)))
      (m * 2 ^ e * growth) := by
  obtain ⟨l, hl, hvalue⟩ := exists_large hm he hmax
  refine ⟨l, ?_, hvalue⟩
  rw [hl]
  exact l.unpack_pack

/-! ### Products and whole numbers -/

/-- A product of two doubles is rounded once. -/
theorem AtMost.mul (hx : AtMost x r) (hy : AtMost y s) (hmax : r * s * growth < limit) :
    AtMost (x * y) (r * s * growth) := by
  obtain ⟨l, hl, hlr⟩ := hx
  obtain ⟨l', hl', hls⟩ := hy
  have hproduct : x * y = .ofModel (pack (roundWithAccuracy .binary64 .positive
      (l.mantissa * l'.mantissa) (l.exponent + l'.exponent) .exact)) := by
    have hmul : x * y =
        .ofModel (pack (UnpackedFloat.mul .binary64 x.toModel.unpack y.toModel.unpack)) := rfl
    rw [hmul, hl, hl']
    rfl
  have hvalue : ((l.mantissa * l'.mantissa : Nat) : ℚ) * 2 ^ (l.exponent + l'.exponent) =
      l.value * l'.value := by
    rw [Large.value, Large.value, zpow_add₀ two_ne_zero]
    push_cast
    ring
  have hle : l.value * l'.value * growth ≤ r * s * growth :=
    mul_le_mul_of_nonneg_right
      (mul_le_mul hlr hls l'.value_pos.le (l.value_pos.le.trans hlr)) growth_pos.le
  have hlog : 104 ≤ (l.mantissa * l'.mantissa).log2 := by
    have hmul : 2 ^ 52 * 2 ^ 52 ≤ l.mantissa * l'.mantissa :=
      Nat.mul_le_mul l.mantissa_ge l'.mantissa_ge
    exact le_log2 hmul
  have hone := l.exponent_ge
  have hone' := l'.exponent_ge
  have hround := atMost_pack (m := l.mantissa * l'.mantissa) (e := l.exponent + l'.exponent)
    (by omega) (by omega) (by rw [hvalue]; exact lt_of_le_of_lt hle hmax)
  rw [hvalue, ← hproduct] at hround
  obtain ⟨product, hpacked, hpackedLe⟩ := hround
  exact ⟨product, hpacked, hpackedLe.trans hle⟩

/-- A whole number is first given 53 bits, if it has less. -/
theorem round_whole (m : Nat) :
    UnpackedFloat.round .binary64 .positive m 0 =
      roundWithAccuracy .binary64 .positive (m <<< (52 - m.log2)) (-(52 - m.log2 : Nat))
        .exact := by
  have hbits : (Format.binary64.mantissaBits : Int) = 53 := rfl
  have hmin : Format.binary64.minExponent = -1074 := rfl
  have hamount : (0 - Format.binary64.targetExponent (totalExponent m 0)).toNat =
      52 - m.log2 := by
    rw [Format.targetExponent, totalExponent, hbits, hmin]
    omega
  rw [UnpackedFloat.round]
  simp only [decreaseExponent, hamount]
  rw [Int.zero_sub]

theorem toFloat_eq (hm : 0 < m) (hword : m < 2 ^ 64) :
    m.toUInt64.toFloat = .ofModel (pack (roundWithAccuracy .binary64 .positive
      (m <<< (52 - m.log2)) (-(52 - m.log2 : Nat)) .exact)) := by
  have hnat : m.toUInt64.toNat = m := UInt64.toNat_ofNat_of_lt' hword
  have hcompare : compare (m : Int) 0 = .gt := by
    rw [Int.compare_eq_gt]
    omega
  rw [← round_whole m, UInt64.toFloat, Float.Model.ofUInt64, UnpackedFloat.ofUInt64,
    UnpackedFloat.ofNat, UnpackedFloat.ofInt, UnpackedFloat.normalize, hnat, hcompare]
  rfl

theorem atMost_toFloat (hm : 0 < m) (hword : m < 2 ^ 64) (hmax : m * growth < limit) :
    AtMost m.toUInt64.toFloat (m * growth) := by
  have hvalue : ((m <<< (52 - m.log2) : Nat) : ℚ) * 2 ^ (-(52 - m.log2 : Nat) : Int) = m := by
    rw [Nat.shiftLeft_eq, zpow_neg, zpow_natCast]
    push_cast
    field_simp
  have hlog : (m <<< (52 - m.log2)).log2 = m.log2 + (52 - m.log2) :=
    log2_shiftLeft (Nat.pos_iff_ne_zero.mp hm)
  have hround := atMost_pack (m := m <<< (52 - m.log2)) (e := -(52 - m.log2 : Nat)) (by omega)
    (by omega) (by rwa [hvalue])
  rwa [hvalue, ← toFloat_eq hm hword] at hround

end LoraBridge.Rounding
