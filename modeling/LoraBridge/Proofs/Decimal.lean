import LoraBridge.Decimal.Unsigned
import LoraBridge.Proofs.Utf8
import Mathlib.Data.List.Induction

/-! # How natural numbers are written

  A natural number in a setting or an address has one shortest form, and may have zeros and a plus
  sign before it. Reading takes all of these forms and nothing else.

  - `Decimal.natOfDigits?_eq_some_iff`: digits are zeros and the shortest form of their number.
  - `Decimal.readUnsigned?_eq_some_iff`: what is read as a number.
-/

namespace LoraBridge.Decimal

open Text (isDigit_toDigits toNat_of_isDigit)

variable {ds s : List Char} {d : Char} {n max : Nat}

/-! ### Digits -/

theorem ofDigits_eq (ds : List Char) : ofDigits ds = Nat.ofDigitChars 10 ds 0 := by
  rw [Nat.ofDigitChars_eq_foldl, ofDigits]
  congr 1
  funext n c
  rw [Nat.mul_comm]

theorem ofDigits_concat (ds : List Char) (d : Char) :
    ofDigits (ds ++ [d]) = ofDigits ds * 10 + (d.toNat - '0'.toNat) := by
  rw [ofDigits, ofDigits, List.foldl_append]
  rfl

theorem value_lt (hd : d.isDigit = true) : d.toNat - '0'.toNat < 10 := by
  have := toNat_of_isDigit hd
  show d.toNat - 48 < 10
  omega

/-- A digit is the shortest form of its value. -/
theorem toDigits_digit (hd : d.isDigit = true) : Nat.toDigits 10 (d.toNat - '0'.toNat) = [d] := by
  have hchar : ∀ k : Fin 10, Nat.digitChar k = Char.ofNat ('0'.toNat + k) := by decide
  have hvalue : '0'.toNat + (d.toNat - '0'.toNat) = d.toNat :=
    Nat.add_sub_cancel' (toNat_of_isDigit hd).1
  rw [Nat.toDigits_of_lt_base (value_lt hd), hchar ⟨_, value_lt hd⟩, hvalue, Char.ofNat_toNat]

theorem ofDigits_zeros_append (k n : Nat) :
    ofDigits (List.replicate k '0' ++ Nat.toDigits 10 n) = n := by
  rw [ofDigits_eq, Nat.ofDigitChars_append, Nat.ofDigitChars_replicate_zero, Nat.mul_zero,
    Nat.ofDigitChars_ten_toDigits]

/-- Digits are some zeros and the shortest form of their number. -/
theorem exists_zeros (hnil : ds ≠ []) (hds : ∀ c ∈ ds, c.isDigit = true) :
    ∃ k, ds = List.replicate k '0' ++ Nat.toDigits 10 (ofDigits ds) := by
  -- by induction from the last digit, which the number ends with
  induction ds using List.reverseRecOn with
  | nil => exact absurd rfl hnil
  | append_singleton ds d ih =>
    have hd : d.isDigit = true := hds d (by simp)
    rw [ofDigits_concat]
    by_cases hsingle : ds = []
    · subst hsingle
      refine ⟨0, ?_⟩
      rw [show ofDigits [] = 0 from rfl, Nat.zero_mul, Nat.zero_add, toDigits_digit hd]
      rfl
    · obtain ⟨k, hk⟩ := ih hsingle fun c hc => hds c (List.mem_append_left _ hc)
      by_cases hzero : ofDigits ds = 0
      · -- so far there have been zeros alone
        rw [hzero, Nat.toDigits_zero, ← List.replicate_succ'] at hk
        refine ⟨k + 1, ?_⟩
        rw [hzero, Nat.zero_mul, Nat.zero_add, toDigits_digit hd, ← hk]
      · refine ⟨k, ?_⟩
        rw [Nat.mul_comm, ← Nat.toDigits_append_toDigits (by decide) (Nat.pos_of_ne_zero hzero)
          (value_lt hd), toDigits_digit hd, ← List.append_assoc, ← hk]

theorem natOfDigits?_eq_some_iff :
    natOfDigits? ds = some n ↔ ∃ k, ds = List.replicate k '0' ++ Nat.toDigits 10 n := by
  simp only [natOfDigits?, Option.ite_none_right_eq_some, Bool.and_eq_true, List.all_eq_true,
    Bool.not_eq_true', List.isEmpty_eq_false_iff, Option.some.injEq]
  constructor
  · rintro ⟨⟨hnil, hds⟩, rfl⟩
    exact exists_zeros hnil hds
  · rintro ⟨k, rfl⟩
    refine ⟨⟨by simp [Nat.toDigits_ne_nil], fun c hc => ?_⟩, ofDigits_zeros_append k n⟩
    rcases List.mem_append.mp hc with hc | hc
    · rw [(List.mem_replicate.mp hc).2]
      decide
    · exact isDigit_toDigits n c hc

/-! ### Numbers -/

/-- Whether a text writes a natural number: in its decimal digits, perhaps after zeros, and these
    perhaps after a plus sign. -/
def Writes (s : List Char) (n : Nat) : Prop :=
  ∃ sign k, (sign = [] ∨ sign = ['+']) ∧ s = sign ++ List.replicate k '0' ++ Nat.toDigits 10 n

theorem writes_toDigits (n : Nat) : Writes (Nat.toDigits 10 n) n :=
  ⟨[], 0, .inl rfl, rfl⟩

theorem writes_iff_of_no_sign (h : s.head? ≠ some '+') :
    Writes s n ↔ ∃ k, s = List.replicate k '0' ++ Nat.toDigits 10 n := by
  constructor
  · rintro ⟨sign, k, rfl | rfl, rfl⟩
    · exact ⟨k, rfl⟩
    · exact absurd rfl h
  · rintro ⟨k, rfl⟩
    exact ⟨[], k, .inl rfl, rfl⟩

theorem writes_sign_iff :
    Writes ('+' :: s) n ↔ ∃ k, s = List.replicate k '0' ++ Nat.toDigits 10 n := by
  constructor
  · rintro ⟨sign, k, rfl | rfl, h⟩
    · -- without a sign of its own it would begin with a digit
      have hplus : '+' ∈ List.replicate k '0' ++ Nat.toDigits 10 n := by
        rw [← List.nil_append (List.replicate k '0'), ← h]
        exact List.mem_cons_self
      rcases List.mem_append.mp hplus with hmem | hmem
      · cases (List.mem_replicate.mp hmem).2
      · cases isDigit_toDigits n _ hmem
    · exact ⟨k, by simpa using h⟩
  · rintro ⟨k, rfl⟩
    exact ⟨['+'], k, .inr rfl, rfl⟩

/-- What is read as a number that is not too large. -/
theorem readUnsigned?_eq_some_iff : readUnsigned? max s = some n ↔ Writes s n ∧ n ≤ max := by
  unfold readUnsigned?
  rw [Option.filter_eq_some_iff, decide_eq_true_iff]
  refine and_congr_left fun _ => ?_
  split
  · rw [natOfDigits?_eq_some_iff, writes_sign_iff]
  · next hplus =>
    rw [natOfDigits?_eq_some_iff, writes_iff_of_no_sign]
    intro h
    obtain ⟨rest, rfl⟩ := List.head?_eq_some_iff.mp h
    exact hplus rest rfl

end LoraBridge.Decimal
