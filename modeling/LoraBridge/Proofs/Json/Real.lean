import LoraBridge.Proofs.Decimal.Shortest
import LoraBridge.Proofs.Json.Numeral
import LoraBridge.Proofs.Json.Value

/-! # Doubles as they are written and read

  A double is read from its digits by a product or a quotient with a power of ten, which may be
  a little larger than the double was. The text of the largest doubles could be beyond all doubles
  then, and would be refused. It is not: what is written for a finite double is always read. What
  is written for all others is not.

  - `power_eq`: the powers of ten are rounded once.
  - `exists_toReal`: digits are read as a double unless their number is next to the limit, and
    `exists_toReal_last` looks at the three doubles that are.
  - `readReal_writeReal`: a double is read from its text exactly if it is finite.
-/

namespace LoraBridge.Json

open Rounding
open Text (charsBytes)
open Float.Model Float.Model.UnpackedFloat

variable {m n d : Nat} {e k : Int} {negative : Bool} {rest : Bytes}

/-! ### Powers of ten -/

/-- Small powers are taken from a table, which agrees with the rule for all others. -/
theorem power_eq (n : Nat) : power n = .ofModel (.ofScientific 1 n) := by
  have htable : ∀ i : Fin 23, power i = .ofModel (.ofScientific 1 i.val) := by
    decide +kernel
  by_cases hn : n ≤ 22
  · exact htable ⟨n, by omega⟩
  · rw [power, Float.ofScientific, dif_neg (by omega)]
    rfl

theorem ofScientific_eq (hn : n ≤ 308) :
    Float.Model.ofScientific 1 n = pack (roundWithAccuracy .binary64 .positive
      (2 ^ 53 * 10 ^ n) (-53) .exact) := by
  have hbits : (2 ^ Format.binary64.exponentBits : Int) = 2048 := rfl
  rw [Float.Model.ofScientific, UnpackedFloat.ofScientific, dif_neg (by decide),
    if_neg (by rw [hbits]; omega), if_neg (by rw [hbits]; omega),
    if_pos (Int.natCast_nonneg n)]
  rfl

theorem atMost_power (hn : n ≤ 308) (hmax : 10 ^ n * growth < limit) :
    AtMost (power n) (10 ^ n * growth) := by
  have hvalue : ((2 ^ 53 * 10 ^ n : Nat) : ℚ) * 2 ^ (-53 : Int) = 10 ^ n := by
    push_cast
    rw [zpow_neg]
    field_simp
    norm_num
  have hlog : 53 ≤ (2 ^ 53 * 10 ^ n).log2 :=
    le_log2 (Nat.le_mul_of_pos_right _ (Nat.pow_pos (by decide)))
  have hround := atMost_pack (m := 2 ^ 53 * 10 ^ n) (e := -53) (by omega) (by omega)
    (by rwa [hvalue])
  rwa [hvalue, ← ofScientific_eq hn, ← power_eq] at hround

/-- There are 309 powers of ten among the doubles. -/
theorem le_of_pow_lt_limit (h : (10 : ℚ) ^ n < limit) : n ≤ 308 := by
  by_contra hn
  have hbig : limit ≤ (10 : ℚ) ^ 309 := by
    have hlimit : limit = (2 : ℚ) ^ 1024 := zpow_natCast 2 1024
    have hsmall : (2 : ℚ) ^ 93 ≤ 10 ^ 28 := by norm_num
    calc limit = 2 * (2 ^ 93) ^ 11 := by rw [hlimit, ← pow_mul, ← pow_succ']
      _ ≤ 10 * (10 ^ 28) ^ 11 := by gcongr; norm_num
      _ = 10 ^ 309 := by rw [← pow_mul, ← pow_succ']
  have hpow : (10 : ℚ) ^ 309 ≤ 10 ^ n := pow_le_pow_right₀ (by norm_num) (by omega)
  exact absurd (h.trans_le hbig) (not_lt.mpr hpow)

/-! ### Doubles from digits -/

/-- To the left the point can always be moved. -/
theorem exists_scale?_of_neg (x : Float) (he : e < 0) : ∃ y, scale? x e = some y := by
  fun_induction scale? x e with
  | case1 x e hsmall hright => omega
  | case2 x e hsmall hright => omega
  | case3 x e hsmall hright => exact ⟨_, rfl⟩
  | case4 x e hlarge hzero => exact ⟨_, rfl⟩
  | case5 x e hlarge hzero hright => omega
  | case6 x e hlarge hzero hright ih => exact ih (by omega)

theorem scale?_right {x : Float} (hn : n ≤ 308) (h : (x * power n).isInf = false) :
    scale? x n = some (x * power n) := by
  rw [scale?, if_pos (by omega), if_pos (Int.natCast_nonneg n), Int.natAbs_natCast]
  simp [h]

/-- The digits, the power and their product are rounded, each once. -/
theorem isInf_mul_power (hm : 0 < m) (hword : m ≤ wordMax)
    (hmax : m * 10 ^ n * growth ^ 3 < limit) :
    n ≤ 308 ∧ (m.toUInt64.toFloat * power n).isInf = false := by
  have hgrowth := one_lt_growth
  have hone : (1 : ℚ) ≤ m := by exact_mod_cast hm
  have hten : (1 : ℚ) ≤ 10 ^ n := one_le_pow₀ (by norm_num)
  have hsquare : (1 : ℚ) ≤ growth ^ 2 := one_le_pow₀ hgrowth.le
  have hleft : m * growth < limit :=
    calc (m : ℚ) * growth = m * 1 * growth * 1 := by ring
      _ ≤ m * 10 ^ n * growth * growth ^ 2 := by gcongr
      _ = m * 10 ^ n * growth ^ 3 := by ring
      _ < limit := hmax
  have hright : 10 ^ n * growth < limit :=
    calc 10 ^ n * growth = 1 * 10 ^ n * growth * 1 := by ring
      _ ≤ m * 10 ^ n * growth * growth ^ 2 := by gcongr
      _ = m * 10 ^ n * growth ^ 3 := by ring
      _ < limit := hmax
  have hn : n ≤ 308 :=
    le_of_pow_lt_limit (lt_of_le_of_lt (le_mul_of_one_le_right (by positivity) hgrowth.le) hright)
  have hproduct : m * growth * (10 ^ n * growth) * growth < limit := by
    rwa [show m * growth * (10 ^ n * growth) * growth = m * 10 ^ n * growth ^ 3 by ring]
  have hword' : m < 2 ^ 64 := Nat.lt_of_le_of_lt hword (by decide)
  exact ⟨hn, ((atMost_toFloat hm hword' hleft).mul (atMost_power hn hright) hproduct).isInf⟩

theorem toReal_of_scale? {y : Float} (h : scale? m.toUInt64.toFloat e = some y) :
    ∃ x, toReal negative m e = .ok (.real x) := by
  rw [toReal, h]
  exact ⟨_, rfl⟩

/-- Digits are read as a double unless their number is next to the limit. -/
theorem exists_toReal (hm : 0 < m) (hword : m ≤ wordMax)
    (hmax : m * (10 : ℚ) ^ e * growth ^ 3 < limit) : ∃ x, toReal negative m e = .ok (.real x) := by
  rcases lt_or_ge e 0 with he | he
  · obtain ⟨y, hy⟩ := exists_scale?_of_neg m.toUInt64.toFloat he
    exact toReal_of_scale? hy
  · obtain ⟨n, rfl⟩ := Int.eq_ofNat_of_zero_le he
    rw [zpow_natCast] at hmax
    obtain ⟨hn, hfinite⟩ := isInf_mul_power hm hword hmax
    exact toReal_of_scale? (scale?_right hn hfinite)

/-- The three largest doubles are next to the limit, so their digits are multiplied here. -/
theorem exists_toReal_last (i : Fin 3) :
    ∃ x, toReal negative (Decimal.lastDigits i) 292 = .ok (.real x) := by
  have hproduct : ∀ i : Fin 3,
      ((Decimal.lastDigits i).toUInt64.toFloat * power 292).isInf = false := by
    decide +kernel
  exact toReal_of_scale? (scale?_right (n := 292) (by decide) (hproduct i))

/-! ### Numerals of decimals -/

/-- A numeral that is read as the double of all its digits. -/
theorem Numeral.taken_of_le {n : Numeral} (h : n.digitsValue ≤ wordMax) :
    n.taken = (n.digitsValue, []) := accumulate_of_le h

/-- What is taken of a numeral is at most what it writes. -/
theorem Numeral.Writes.taken_le {n : Numeral} (h : n.Writes d k) (hd : 0 < d) :
    0 < n.taken.1 ∧ n.taken.1 ≤ wordMax ∧
      n.taken.1 * (10 : ℚ) ^ (n.place + n.taken.2.length) ≤ d * 10 ^ k := by
  obtain ⟨zeros, hvalue, hplace, -⟩ := h.decimal
  obtain ⟨hword, -, hle, hpos⟩ := accumulate_le h.whole_le n.fractionDigits
  have hdigits : 0 < n.digitsValue := by
    rw [hvalue]
    exact Nat.mul_pos hd (Nat.pow_pos (by decide))
  refine ⟨hpos hdigits, hword, ?_⟩
  have hten : (10 : ℚ) ≠ 0 := by norm_num
  have hcast : (n.taken.1 : ℚ) * 10 ^ n.taken.2.length ≤ n.digitsValue := by exact_mod_cast hle
  have hall : (n.digitsValue : ℚ) = d * 10 ^ zeros := by exact_mod_cast hvalue
  calc n.taken.1 * (10 : ℚ) ^ (n.place + n.taken.2.length)
      = n.taken.1 * 10 ^ n.taken.2.length * 10 ^ n.place := by
        rw [zpow_add₀ hten, zpow_natCast]
        ring
    _ ≤ n.digitsValue * 10 ^ n.place := by gcongr
    _ = d * 10 ^ k := by
      rw [hall, hplace, zpow_sub₀ hten, zpow_natCast]
      field_simp

/-- A numeral is read if what it writes is not next to the limit, or one of the last decimals. -/
theorem Numeral.Writes.exists_toReal {n : Numeral} (h : n.Writes d k) (hd : 0 < d)
    (hbelow : d * (10 : ℚ) ^ k * growth ^ 3 < limit ∨ ∃ i, d = Decimal.lastDigits i ∧ k = 292) :
    ∃ x, toReal negative n.taken.1 (n.place + n.taken.2.length) = .ok (.real x) := by
  rcases hbelow with hbelow | ⟨i, rfl, rfl⟩
  · obtain ⟨hpos, hword, hle⟩ := h.taken_le hd
    have hgrowth : 0 ≤ growth ^ 3 := (pow_pos growth_pos 3).le
    exact Json.exists_toReal hpos hword
      (lt_of_le_of_lt (mul_le_mul_of_nonneg_right hle hgrowth) hbelow)
  · -- so large a number has no zeros after its digits, and they all fit
    obtain ⟨zeros, hvalue, hplace, hzeros⟩ := h.decimal
    obtain rfl : zeros = 0 := by
      by_contra hne
      exact absurd (hzeros hne) (by decide)
    rw [Nat.pow_zero, Nat.mul_one] at hvalue
    have hfits : n.digitsValue ≤ wordMax :=
      hvalue ▸ Nat.le_trans (Decimal.lastDigits_le i) (by decide)
    rw [Numeral.taken_of_le hfits, hvalue, hplace]
    exact exists_toReal_last i

/-- Zero is read wherever its point is. -/
theorem Numeral.Writes.exists_toReal_zero {n : Numeral} (h : n.Writes 0 0) :
    ∃ x, toReal negative n.taken.1 (n.place + n.taken.2.length) = .ok (.real x) := by
  obtain ⟨zeros, hvalue, hplace, -⟩ := h.decimal
  rw [Nat.zero_mul] at hvalue
  rw [Numeral.taken_of_le (hvalue ▸ Nat.zero_le _), hvalue, hplace]
  cases zeros with
  | zero => exact toReal_of_scale? (scale?_right (n := 0) (by decide) (by decide))
  | succ zeros =>
    obtain ⟨y, hy⟩ := exists_scale?_of_neg (0 : Nat).toUInt64.toFloat
      (e := 0 - (zeros + 1 : Nat) + ([] : Bytes).length) (by rw [List.length_nil]; omega)
    exact toReal_of_scale? hy

/-! ### The text of a double -/

theorem charsBytes_sign (negative : Bool) (t : List Char) :
    charsBytes (if negative then '-' :: t else t) = signBytes negative ++ charsBytes t := by
  have hminus : String.utf8EncodeChar '-' = [45] := by decide
  cases negative with
  | false => rfl
  | true => simp [signBytes, hminus]

/-- The text of a finite double is a numeral that is read. -/
theorem exists_numeral_real {x : Float} (hx : x.isFinite = true) :
    ∃ n : Numeral, n.bytes = charsBytes (writeReal x) ∧ n.whole.value ≤ wordMax ∧
      (n.fraction? ≠ none ∨ n.exponent? ≠ none) ∧
      ∃ y, toReal n.negative n.taken.1 (n.place + n.taken.2.length) = .ok (.real y) := by
  rw [← Decimal.Layout.render?_isSome .document, Decimal.Layout.render?] at hx
  rw [writeReal, Decimal.Layout.render?]
  cases hmeaning : Decimal.Double.ofFloat x with
  | finite negative m q =>
    obtain ⟨hm, hm', hq⟩ := Decimal.Double.ofBits_finite hmeaning
    rcases hshortest : Decimal.shortest m q with ⟨d, k⟩
    obtain ⟨hd, -⟩ := Decimal.shortest_le hm hshortest
    have hbelow := Decimal.shortest_below hm hm' hq hshortest
    obtain ⟨n, hbytes, hwrites⟩ := exists_numeral negative hd k
    refine ⟨n, ?_, hwrites.whole_le, hwrites.isReal, hwrites.exists_toReal hd hbelow⟩
    simp only [hshortest, Option.getD_some]
    rw [charsBytes_sign, hbytes]
  | zero negative =>
    obtain ⟨n, hbytes, hwrites⟩ : ∃ n : Numeral,
        n.bytes = signBytes negative ++ charsBytes ['0', '.', '0'] ∧ n.Writes 0 0 :=
      exists_pointed negative .zero .zero (by decide) (.inr rfl) 1 rfl rfl fun _ => by decide
    refine ⟨n, ?_, hwrites.whole_le, hwrites.isReal, hwrites.exists_toReal_zero⟩
    simp only [Option.getD_some]
    rw [charsBytes_sign, hbytes]
    rfl
  | infinite negative =>
    rw [hmeaning] at hx
    cases hx
  | notANumber =>
    rw [hmeaning] at hx
    cases hx

theorem readReal_null : Gives readReal Value.null.bytes none := by
  refine gives_none fun b s hspace hb => ?_
  obtain rfl : b = 110 := hb
  rw [readReal, skipSpace_cons hspace]
  rfl

/-- A double is read from its text exactly if it is finite. -/
theorem readReal_writeReal (x : Float) :
    ∃ y? : Option Float, Gives readReal (charsBytes (writeReal x)) y? ∧
      y?.isSome = x.isFinite := by
  cases hx : x.isFinite with
  | true =>
    obtain ⟨n, hbytes, hwhole, hreal, y, hy⟩ := exists_numeral_real hx
    refine ⟨some y, ?_, rfl⟩
    obtain ⟨b, more, hcons, hb⟩ := n.exists_cons
    have hspace : Skip.isSpace b = false := (Value.Begins.isSpace (v := .number n) (b := b) hb).1
    have hread := readNumber_real n hwhole hreal stops_nil
    rw [hy, List.append_nil, hcons] at hread
    refine readReal_of_eq_ok ?_
    rw [← hbytes, hcons, readReal, skipSpace_cons hspace]
    simp only [atNumber_cons hb, if_true, hread]
    rfl
  | false =>
    have hnone : Decimal.Layout.document.render? x = none := by
      rw [← Option.not_isSome_iff_eq_none, Decimal.Layout.render?_isSome, hx]
      decide
    have htext : charsBytes (writeReal x) = Value.null.bytes := by
      rw [writeReal, hnone]
      decide
    refine ⟨none, ?_, rfl⟩
    rw [htext]
    exact readReal_null

end LoraBridge.Json
