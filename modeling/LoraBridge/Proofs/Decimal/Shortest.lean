import LoraBridge.Decimal.Layout
import LoraBridge.Proofs.Decimal.Rounding

/-! # How large the shortest decimals are

  The decimal that is written for a double lies in the interval of the reals that round to it, so
  it is at most halfway to the next double. That keeps it away from the limit, beyond which there
  are no doubles, by more than three roundings can bridge. Only for the three largest doubles
  this is not enough, and their decimals are known by name.

  - `shortest_le`: the decimal is positive, and at most halfway to the next double.
  - `shortest_below`: it is away from the limit, or one of the last three.
  - `render?_isSome`: the doubles that have a text are the finite ones.
-/

namespace LoraBridge.Decimal

open Rounding

variable {i : Interval} {m d n : Nat} {q k : Int}

/-! ### The decimal is in the interval -/

theorem Interval.le_of_holds (h : i.holds d = true) :
    i.low ≤ d * i.denominator ∧ d * i.denominator ≤ i.high := by
  rw [holds] at h
  split at h
  · simpa using h
  · obtain ⟨hlow, hhigh⟩ : i.low < d * i.denominator ∧ d * i.denominator < i.high := by
      simpa using h
    exact ⟨hlow.le, hhigh.le⟩

theorem Interval.holds_of_nearest? (h : i.nearest? = some d) : i.holds d = true := by
  simp only [nearest?] at h
  split at h
  · cases h
  · next hleft _ => cases h; exact hleft
  · next _ hright => cases h; exact hright
  · next hleft hright => split_ifs at h <;> cases h <;> assumption

/-- What the search gives is in the interval. -/
theorem holds_of_search (h : search i n k = some (d, q)) : (i.inUnits q).holds d = true := by
  induction n generalizing k with
  | zero => cases h
  | succ n ih =>
    rw [search] at h
    split at h
    · next d' hnearest =>
      cases h
      exact Interval.holds_of_nearest? hnearest
    · exact ih h

/-- A power in two parts, one of which is one. -/
theorem zpow_mul_pow_toNat {b : ℚ} (hb : b ≠ 0) (e : Int) :
    b ^ e * b ^ (-e).toNat = b ^ e.toNat := by
  rw [← zpow_natCast, ← zpow_natCast, ← zpow_add₀ hb]
  congr 1
  omega

theorem le_of_holds_inUnits (hm : 0 < m) (h : ((Interval.of m q).inUnits k).holds d = true) :
    0 < d ∧ d * (10 : ℚ) ^ k ≤ (4 * m + 2) * 2 ^ (q - 2) := by
  obtain ⟨hlow, hhigh⟩ := Interval.le_of_holds h
  simp only [Interval.of, Interval.inUnits, Nat.pow_eq] at hlow hhigh
  constructor
  · -- zero is not in the interval, because its lower end is positive
    by_contra hzero
    obtain rfl : d = 0 := by omega
    rw [Nat.zero_mul] at hlow
    have hpos : 0 < (4 * m - if m = 2 ^ 52 ∧ q > -1074 then 1 else 2) *
        2 ^ (q - 2).toNat * 10 ^ (-k).toNat := by
      refine Nat.mul_pos (Nat.mul_pos ?_ (by positivity)) (by positivity)
      split <;> omega
    omega
  · have hcast : (d : ℚ) * (2 ^ (2 - q).toNat * 10 ^ k.toNat) ≤
        (4 * m + 2) * 2 ^ (q - 2).toNat * 10 ^ (-k).toNat := by exact_mod_cast hhigh
    have htwo := zpow_mul_pow_toNat (b := 2) two_ne_zero (q - 2)
    have hten := zpow_mul_pow_toNat (b := 10) (by norm_num) k
    rw [neg_sub] at htwo
    rw [← htwo, ← hten] at hcast
    have hpos : (0 : ℚ) < 2 ^ (2 - q).toNat * 10 ^ (-k).toNat := by positivity
    refine le_of_mul_le_mul_right ?_ hpos
    linarith

/-- The shortest decimal is positive, and at most halfway to the next double. If the search
    gave nothing it would be the mantissa alone. -/
theorem shortest_le (hm : 0 < m) (h : shortest m q = (d, k)) :
    0 < d ∧ (d * (10 : ℚ) ^ k ≤ (4 * m + 2) * 2 ^ (q - 2) ∨ d * (10 : ℚ) ^ k = m) := by
  unfold shortest at h
  cases hsearch : search (Interval.of m q) 24 (coarsest m q) with
  | some found =>
    rw [hsearch] at h
    obtain rfl : found = (d, k) := h
    obtain ⟨hpos, hle⟩ := le_of_holds_inUnits hm (holds_of_search hsearch)
    exact ⟨hpos, .inl hle⟩
  | none =>
    rw [hsearch] at h
    cases h
    exact ⟨hm, .inr (by simp)⟩

/-! ### How far it is from the limit -/

theorem scaled_lt_limit {a : ℚ} (ha : a * growth ^ 3 < 2 ^ n) (hq : q + n ≤ 1024) :
    a * 2 ^ q * growth ^ 3 < limit :=
  calc a * 2 ^ q * growth ^ 3 = a * growth ^ 3 * 2 ^ q := by ring
    _ < 2 ^ n * 2 ^ q := by gcongr
    _ = 2 ^ (q + n) := by rw [zpow_add₀ two_ne_zero, zpow_natCast, mul_comm]
    _ ≤ limit := zpow_le_limit hq

/-- Halfway to the next double three roundings are possible, unless the double is one of the three
    largest. -/
theorem halfway_lt_limit (hm : m < 2 ^ 53) (hq : q ≤ 971)
    (hlast : ¬ (q = 971 ∧ 2 ^ 53 - 3 ≤ m)) :
    (4 * m + 2) * (2 : ℚ) ^ (q - 2) * growth ^ 3 < limit := by
  have hgrowth : 0 ≤ growth ^ 3 := (pow_pos growth_pos 3).le
  by_cases heq : q = 971
  · have hle : (m : ℚ) + 4 ≤ 2 ^ 53 := by
      have hnat : m + 4 ≤ 2 ^ 53 := by omega
      exact_mod_cast hnat
    have hfar : (4 * m + 2) * growth ^ 3 < 2 ^ 55 :=
      calc (4 * m + 2) * growth ^ 3 ≤ (2 ^ 55 - 14) * growth ^ 3 := by
            gcongr
            linarith
        _ < 2 ^ 55 := by norm_num [growth]
    exact scaled_lt_limit hfar (by omega)
  · have hle : (m : ℚ) ≤ 2 ^ 53 := by exact_mod_cast hm.le
    have hfar : (4 * m + 2) * growth ^ 3 < 2 ^ 56 :=
      calc (4 * m + 2) * growth ^ 3 ≤ (2 ^ 55 + 2) * growth ^ 3 := by
            gcongr
            linarith
        _ < 2 ^ 56 := by norm_num [growth]
    exact scaled_lt_limit hfar (by omega)

/-- The digits of the three largest doubles, from the largest on. -/
def lastDigits (i : Fin 3) : Nat := 17976931348623157 - 2 * i

theorem lastDigits_le (i : Fin 3) : lastDigits i ≤ 17976931348623157 := Nat.sub_le _ _

theorem shortest_last (i : Fin 3) : shortest (2 ^ 53 - 1 - i) 971 = (lastDigits i, 292) := by
  revert i
  decide +kernel

theorem shortest_below (hm : 0 < m) (hm' : m < 2 ^ 53) (hq : q ≤ 971)
    (h : shortest m q = (d, k)) :
    d * (10 : ℚ) ^ k * growth ^ 3 < limit ∨ ∃ i, d = lastDigits i ∧ k = 292 := by
  by_cases hlast : q = 971 ∧ 2 ^ 53 - 3 ≤ m
  · obtain ⟨rfl, hge⟩ := hlast
    obtain ⟨i, rfl⟩ : ∃ i : Fin 3, m = 2 ^ 53 - 1 - i := ⟨⟨2 ^ 53 - 1 - m, by omega⟩, by
      show m = 2 ^ 53 - 1 - (2 ^ 53 - 1 - m)
      omega⟩
    rw [shortest_last i] at h
    cases h
    exact .inr ⟨i, rfl, rfl⟩
  · left
    have hgrowth : 0 ≤ growth ^ 3 := (pow_pos growth_pos 3).le
    rcases (shortest_le hm h).2 with hle | heq
    · exact lt_of_le_of_lt (mul_le_mul_of_nonneg_right hle hgrowth) (halfway_lt_limit hm' hq hlast)
    · have hle : (m : ℚ) ≤ 2 ^ 53 := by exact_mod_cast hm'.le
      have hfar : m * growth ^ 3 < 2 ^ 54 :=
        calc m * growth ^ 3 ≤ 2 ^ 53 * growth ^ 3 := by gcongr
          _ < 2 ^ 54 := by norm_num [growth]
      have hlt := scaled_lt_limit (q := 0) hfar (by omega)
      rwa [zpow_zero, mul_one, ← heq] at hlt

/-! ### Finite doubles -/

theorem Double.ofBits_finite {bits : Nat} {negative : Bool}
    (h : Double.ofBits bits = .finite negative m q) : 0 < m ∧ m < 2 ^ 53 ∧ q ≤ 971 := by
  simp only [Double.ofBits, Nat.pow_eq] at h
  split_ifs at h <;> cases h <;> omega

open Float.Model Float.Model.UnpackedFloat

theorem isFinite_unpack (b : BitVec 64) :
    (UnpackedFloat.unpack .binary64 b).isFinite = true ↔
      @unpackExponent .binary64 b ≠ -1#11 := by
  rw [UnpackedFloat.unpack]
  split_ifs <;> simp_all [UnpackedFloat.isFinite]

theorem toNat_unpackExponent (b : BitVec 64) :
    (@unpackExponent .binary64 b).toNat = b.toNat / 2 ^ 52 % 2 ^ 11 := by
  simp [unpackExponent, Nat.shiftRight_eq_div_pow]

/-- The exponent of a double that is not finite has all its bits set. -/
theorem isFinite_iff (x : Float) :
    x.isFinite = true ↔ x.toBits.toNat / 2 ^ 52 % 2 ^ 11 ≠ 2 ^ 11 - 1 := by
  have hexponent : @unpackExponent .binary64 x.toBits.toBitVec = -1#11 ↔
      x.toBits.toNat / 2 ^ 52 % 2 ^ 11 = 2 ^ 11 - 1 := by
    rw [← BitVec.toNat_inj, toNat_unpackExponent]
    rfl
  exact (isFinite_unpack x.toBits.toBitVec).trans hexponent.not

/-- The doubles that have a text are the finite ones. -/
theorem Layout.render?_isSome (l : Layout) (x : Float) : (l.render? x).isSome = x.isFinite := by
  have hfinite := isFinite_iff x
  rw [Bool.eq_iff_iff, hfinite]
  simp only [Layout.render?, Double.ofFloat, Double.ofBits, Nat.pow_eq]
  split_ifs <;> simp_all

end LoraBridge.Decimal
