import LoraBridge.Decimal.Layout
import LoraBridge.Proofs.Json.Number
import Mathlib.Tactic.Ring

/-! # Numerals of doubles

  A numeral with a fraction or an exponent is a double. Of its digits as many are taken as fit 64
  bits, and the rest is left to the exponent, so what is taken is never more than what is written.

  - `accumulate_le`: what is known of the digits that are taken.
  - `readNumber_real`: which double a numeral is read as.
  - `Numeral.Writes` says that a numeral writes a decimal. `exists_numeral`: so does the text of a
    decimal, in each of its layouts.
-/

namespace LoraBridge.Json

open Text (charsBytes charsBytes_digits isDigit_toDigits head?_toDigits toNat_of_isDigit)

variable {rest : Bytes} {cs : List Char} {negative : Bool} {d n : Nat} {k : Int}

/-! ### Digits that are taken -/

/-- The number that is written by the digits of `n` and some more. -/
def numberFrom (n : Nat) (ds : Bytes) : Nat := ds.foldl (fun n d => n * 10 + digitValue d) n

theorem mul_pow_le_numberFrom (n : Nat) (ds : Bytes) : n * 10 ^ ds.length ≤ numberFrom n ds := by
  induction ds generalizing n with
  | nil => simp [numberFrom]
  | cons d ds ih =>
    calc n * 10 ^ (ds.length + 1) = n * 10 * 10 ^ ds.length := by ring
      _ ≤ (n * 10 + digitValue d) * 10 ^ ds.length := Nat.mul_le_mul_right _ (by omega)
      _ ≤ numberFrom n (d :: ds) := ih _

/-- The digits that are taken fit, and do not write more than all digits do. If all digits do not
    write zero, then neither do these. -/
theorem accumulate_le (hn : n ≤ wordMax) (ds : Bytes) :
    (accumulate n ds).1 ≤ wordMax ∧ (accumulate n ds).2.length ≤ ds.length ∧
      (accumulate n ds).1 * 10 ^ (accumulate n ds).2.length ≤ numberFrom n ds ∧
      (0 < numberFrom n ds → 0 < (accumulate n ds).1) := by
  induction ds generalizing n with
  | nil => exact ⟨hn, Nat.le_refl 0, by simp [accumulate, numberFrom], id⟩
  | cons d ds ih =>
    rw [accumulate]
    split
    · next hfits =>
      obtain ⟨hword, hlength, hle, hpos⟩ := ih hfits
      exact ⟨hword, Nat.le_succ_of_le hlength, hle, hpos⟩
    · next hfits =>
      refine ⟨hn, Nat.le_refl _, mul_pow_le_numberFrom n (d :: ds), fun _ => ?_⟩
      have hd : digitValue d ≤ 255 :=
        Nat.le_trans (Nat.sub_le _ _) (Nat.le_of_lt_succ d.toNat_lt)
      have hmax : wordMax = 18446744073709551615 := rfl
      show 0 < n
      omega

/-! ### What numerals write -/

/-- By how many places an exponent moves the point. -/
def Exponent.value (e : Exponent) : Int :=
  if e.sign? = some 45 then -(e.digits.value : Int) else e.digits.value

namespace Numeral

/-- The digits after the point. -/
def fractionDigits (n : Numeral) : Bytes := n.fraction?.elim [] Digits.bytes

/-- By how many places the point is moved. -/
def exponentValue (n : Numeral) : Int := n.exponent?.elim 0 Exponent.value

/-- The number of all digits, as if there were no point. -/
def digitsValue (n : Numeral) : Nat := numberFrom n.whole.value n.fractionDigits

/-- The place of the last digit. -/
def place (n : Numeral) : Int := n.exponentValue - n.fractionDigits.length

/-- The number of the digits that are taken, and those that are left. -/
def taken (n : Numeral) : Nat × Bytes := accumulate n.whole.value n.fractionDigits

end Numeral

/-! ### Exponents -/

theorem readExponentDigits_digits (ds : Digits) (h : Stops rest) (negative : Bool) :
    readExponentDigits negative (ds.bytes ++ rest) =
      .ok (if negative then -(ds.value : Int) else ds.value, rest) := by
  obtain ⟨d, more, hcons, hd, -⟩ := ds.exists_cons
  have hspan := spanDigits_append ds.isDigit h.not_digit
  rw [hcons, List.cons_append] at hspan ⊢
  simp only [readExponentDigits, if_pos hd, hspan]
  rw [← hcons]
  rfl

theorem readExponent_bytes (e : Exponent) (h : Stops rest) :
    readExponent (e.sign?.toList ++ e.digits.bytes ++ rest) = .ok (e.value, rest) := by
  have hdigits := readExponentDigits_digits e.digits h
  rw [readExponent_eq, Exponent.value]
  cases hsign : e.sign? with
  | none =>
    obtain ⟨d, more, hcons, hd, -⟩ := e.digits.exists_cons
    have hplus : d ≠ 43 := by
      rintro rfl
      cases hd
    have hminus : d ≠ 45 := by
      rintro rfl
      cases hd
    have hunsigned : exponentSign (e.digits.bytes ++ rest) = (false, e.digits.bytes ++ rest) := by
      rw [hcons]
      exact exponentSign_digit hplus hminus _
    rw [Option.toList_none, List.nil_append, hunsigned]
    exact hdigits false
  | some b =>
    rcases e.isSign b hsign with rfl | rfl
    · exact hdigits false
    · exact hdigits true

theorem atExponent_bytes (e : Exponent) (rest : Bytes) : atExponent (e.bytes ++ rest) = true := by
  rcases e.isLetter with hletter | hletter <;> simp [Exponent.bytes, atExponent, hletter]

/-- A number that is a double ends with its exponent, if it has one. -/
theorem finishReal_exponent (n : Numeral) (m : Nat) (e : Int) (h : Stops rest) :
    finishReal negative m e (n.exponentBytes ++ rest) =
      (toReal negative m (e + n.exponentValue)).map fun x => (x, rest) := by
  rw [finishReal, Numeral.exponentBytes, Numeral.exponentValue]
  cases n.exponent? with
  | none =>
    rw [Option.elim_none, List.nil_append, atExponent_of_stops h, if_neg (by decide),
      Option.elim_none, Int.add_zero]
    cases toReal negative m e <;> rfl
  | some exponent =>
    have hread : readExponent (exponent.bytes ++ rest).tail = .ok (exponent.value, rest) :=
      readExponent_bytes exponent h
    rw [Option.elim_some, if_pos (atExponent_bytes exponent rest), hread, Option.elim_some]
    simp only [bind, Except.bind]
    cases toReal negative m (e + exponent.value) <;> rfl

/-! ### Fractions -/

/-- Digits end where an exponent begins. -/
theorem not_digit_exponent (n : Numeral) (h : Stops rest) :
    ∀ b ∈ (n.exponentBytes ++ rest).head?, isDigit b = false := by
  rw [Numeral.exponentBytes]
  cases n.exponent? with
  | none => exact h.not_digit
  | some exponent =>
    rintro b ⟨⟩
    rcases exponent.isLetter with hletter | hletter <;> (rw [hletter]; rfl)

theorem readFraction_digits (n : Numeral) (ds : Digits) (m : Nat) (h : Stops rest) :
    readFraction negative m 0 (ds.bytes ++ (n.exponentBytes ++ rest)) =
      (toReal negative (accumulate m ds.bytes).1
        (n.exponentValue - (ds.bytes.length - (accumulate m ds.bytes).2.length : Nat))).map
        fun x => (x, rest) := by
  have hspan := spanDigits_append ds.isDigit (not_digit_exponent n h)
  obtain ⟨d, more, hcons, -, -⟩ := ds.exists_cons
  rw [hcons] at hspan ⊢
  simp only [readFraction, hspan]
  rw [finishReal_exponent n _ _ h]
  congr 2
  omega

theorem afterWhole_exponent (n : Numeral) (hexponent : n.exponent? ≠ none) (m : Nat)
    (h : Stops rest) :
    afterWhole negative m [] (n.exponentBytes ++ rest) =
      (toReal negative m n.exponentValue).map fun x => (x, rest) := by
  have hat : atExponent (n.exponentBytes ++ rest) = true := by
    obtain ⟨exponent, hsome⟩ := Option.ne_none_iff_exists'.mp hexponent
    rw [Numeral.exponentBytes, hsome]
    exact atExponent_bytes exponent rest
  rw [afterWhole.eq_def]
  split
  · next heq =>
    rw [heq] at hat
    cases hat
  · rw [hat, if_neg (by decide), finishReal_exponent n _ _ h, List.length_nil]
    congr 2
    omega

/-- A numeral with a fraction or an exponent is the double of the digits that are taken. -/
theorem readNumber_real (n : Numeral) (hwhole : n.whole.value ≤ wordMax)
    (hreal : n.fraction? ≠ none ∨ n.exponent? ≠ none) (h : Stops rest) :
    readNumber (n.bytes ++ rest) =
      (toReal n.negative n.taken.1 (n.place + n.taken.2.length)).map fun x => (x, rest) := by
  have haccumulate : accumulate 0 n.whole.bytes = (n.whole.value, []) := accumulate_of_le hwhole
  rw [readNumber_numeral n h, haccumulate, Numeral.tailBytes, Numeral.fractionBytes,
    Numeral.taken, Numeral.place, Numeral.fractionDigits]
  cases hfraction : n.fraction? with
  | none =>
    have hexponent : n.exponent? ≠ none := hreal.resolve_left (not_not_intro hfraction)
    refine (afterWhole_exponent n hexponent n.whole.value h).trans ?_
    simp [accumulate]
  | some ds =>
    obtain ⟨-, hlength, -, -⟩ := accumulate_le hwhole ds.bytes
    have hpoint : afterWhole n.negative n.whole.value []
        (46 :: (ds.bytes ++ (n.exponentBytes ++ rest))) =
        readFraction n.negative n.whole.value 0 (ds.bytes ++ (n.exponentBytes ++ rest)) := rfl
    simp only [Option.elim_some, List.cons_append, List.append_assoc]
    rw [hpoint, readFraction_digits n ds _ h]
    congr 2
    omega

/-! ### Digits as characters -/

/-- At least one digit, as characters. -/
structure DigitText where
  chars : List Char
  ne_nil : chars ≠ []
  isDigit : ∀ c ∈ chars, c.isDigit = true

namespace DigitText

/-- A zero. -/
def zero : DigitText where
  chars := ['0']
  ne_nil := List.cons_ne_nil _ _
  isDigit := by
    intro c hc
    rw [List.mem_singleton.mp hc]
    decide

@[simp] theorem chars_zero : zero.chars = ['0'] := rfl

/-- The digits of a number. -/
def ofNat (n : Nat) : DigitText := ⟨Nat.toDigits 10 n, Nat.toDigits_ne_nil, isDigit_toDigits n⟩

/-- The digits as bytes. -/
def digits (t : DigitText) : Digits where
  bytes := charsBytes t.chars
  ne_nil := by
    rw [charsBytes_digits t.isDigit]
    simpa using t.ne_nil
  isDigit := isDigit_charsBytes t.isDigit

theorem bytes_digits (t : DigitText) : t.digits.bytes = charsBytes t.chars := rfl

theorem numberFrom_digits (t : DigitText) (n : Nat) :
    numberFrom n t.digits.bytes = Nat.ofDigitChars 10 t.chars n := by
  rw [bytes_digits, numberFrom, charsBytes_digits t.isDigit, foldl_digits t.isDigit]

theorem value_digits (t : DigitText) : t.digits.value = Nat.ofDigitChars 10 t.chars 0 :=
  t.numberFrom_digits 0

theorem length_digits (t : DigitText) : t.digits.bytes.length = t.chars.length := by
  rw [bytes_digits, charsBytes_digits t.isDigit, List.length_map]

end DigitText

/-- So many digits write a number below that power of ten. -/
theorem ofDigitChars_lt (h : ∀ c ∈ cs, c.isDigit = true) (n : Nat) :
    Nat.ofDigitChars 10 cs n < (n + 1) * 10 ^ cs.length := by
  induction cs generalizing n with
  | nil => simp
  | cons c cs ih =>
    obtain ⟨hc, hcs⟩ := List.forall_mem_cons.mp h
    have hrange := toNat_of_isDigit hc
    have hstep : 10 * n + (c.toNat - '0'.toNat) + 1 ≤ (n + 1) * 10 := by
      show 10 * n + (c.toNat - 48) + 1 ≤ (n + 1) * 10
      omega
    calc Nat.ofDigitChars 10 (c :: cs) n
        < (10 * n + (c.toNat - '0'.toNat) + 1) * 10 ^ cs.length := ih hcs _
      _ ≤ (n + 1) * 10 * 10 ^ cs.length := Nat.mul_le_mul_right _ hstep
      _ = (n + 1) * 10 ^ (cs.length + 1) := by ring

/-- Sixteen digits fit 64 bits. -/
theorem DigitText.value_le (t : DigitText) (hlength : t.chars.length ≤ 16) :
    t.digits.value ≤ wordMax := by
  have hlt := ofDigitChars_lt t.isDigit 0
  have hpow : 10 ^ t.chars.length ≤ 10 ^ 16 := Nat.pow_le_pow_right (by decide) hlength
  have hmax : 10 ^ 16 ≤ wordMax := by decide
  rw [t.value_digits]
  omega

/-! ### Decimals as numerals -/

/-- A numeral that writes `d * 10 ^ k` in such a way that it is read as a double. There may be
    zeros behind the digits of `d`, but only if `k` is small. -/
structure Numeral.Writes (n : Numeral) (d : Nat) (k : Int) : Prop where
  whole_le : n.whole.value ≤ wordMax
  isReal : n.fraction? ≠ none ∨ n.exponent? ≠ none
  decimal : ∃ zeros : Nat, n.digitsValue = d * 10 ^ zeros ∧ n.place = k - zeros ∧
    (zeros ≠ 0 → k < 16)

/-- A sign as it stands in a text. -/
def signBytes (negative : Bool) : Bytes := if negative then [45] else []

/-- Digits with a point between them. -/
theorem exists_pointed (negative : Bool) (whole fraction : DigitText)
    (hlength : whole.chars.length ≤ 16)
    (hzero : whole.chars.head? ≠ some '0' ∨ whole.chars = ['0']) (zeros : Nat)
    (hvalue : Nat.ofDigitChars 10 (whole.chars ++ fraction.chars) 0 = d * 10 ^ zeros)
    (hplace : (fraction.chars.length : Int) = zeros - k) (hzeros : zeros ≠ 0 → k < 16) :
    ∃ n : Numeral, n.bytes = signBytes negative ++
      charsBytes (whole.chars ++ '.' :: fraction.chars) ∧ n.Writes d k := by
  have hnoZero : ∀ b rest, whole.digits.bytes ≠ 48 :: b :: rest := by
    intro b rest
    rcases hzero with hhead | hsingle
    · exact charsBytes_ne_zero whole.isDigit hhead (b :: rest)
    · intro heq
      rw [whole.bytes_digits, hsingle] at heq
      cases heq
  refine ⟨⟨negative, whole.digits, hnoZero, some fraction.digits, none⟩, ?_,
    whole.value_le hlength, .inl (Option.some_ne_none _), zeros, ?_, ?_, hzeros⟩
  · have hpoint : String.utf8EncodeChar '.' = [46] := by decide
    simp [Numeral.bytes, Numeral.signBytes, signBytes, Numeral.fractionBytes,
      Numeral.exponentBytes, DigitText.digits, hpoint]
  · rw [← hvalue, Nat.ofDigitChars_append, ← fraction.numberFrom_digits, ← whole.value_digits]
    rfl
  · show 0 - (fraction.digits.bytes.length : Int) = k - zeros
    rw [fraction.length_digits]
    omega

/-- A whole number: its digits, some zeros, and a fraction of zero. -/
theorem exists_whole (negative : Bool) (t : DigitText) (hhead : t.chars.head? ≠ some '0')
    (hvalue : Nat.ofDigitChars 10 t.chars 0 = d) (zeros : Nat)
    (hlength : t.chars.length + zeros ≤ 16) :
    ∃ n : Numeral, n.bytes = signBytes negative ++
      charsBytes (t.chars ++ List.replicate zeros '0' ++ ['.', '0']) ∧ n.Writes d zeros := by
  have hdigits : ∀ c ∈ t.chars ++ List.replicate zeros '0', c.isDigit = true := by
    intro c hc
    rcases List.mem_append.mp hc with hc | hc
    · exact t.isDigit c hc
    · rw [List.eq_of_mem_replicate hc]
      decide
  have hpos : 0 < t.chars.length := List.length_pos_iff.mpr t.ne_nil
  refine exists_pointed negative ⟨_, by simp [t.ne_nil], hdigits⟩ .zero ?_ (.inl ?_)
    (zeros + 1) ?_ ?_ ?_
  · simpa using hlength
  · rwa [List.head?_append, Option.or_of_isSome (by simp [t.ne_nil])]
  · rw [DigitText.chars_zero, List.append_assoc, ← List.replicate_succ', Nat.ofDigitChars_append,
      hvalue, Nat.ofDigitChars_replicate_zero, Nat.mul_comm]
  · simp
  · intro _
    omega

/-- A number with its point between its digits. -/
theorem exists_split (negative : Bool) (t : DigitText) (hhead : t.chars.head? ≠ some '0')
    (hvalue : Nat.ofDigitChars 10 t.chars 0 = d) (place : Nat) (hpos : 0 < place)
    (hplace : place < t.chars.length) (hlength : place ≤ 16) (hk : k = place - t.chars.length) :
    ∃ n : Numeral, n.bytes = signBytes negative ++
      charsBytes (t.chars.take place ++ '.' :: t.chars.drop place) ∧ n.Writes d k := by
  have htake : t.chars.take place ≠ [] := by
    rw [ne_eq, List.take_eq_nil_iff, not_or]
    exact ⟨by omega, t.ne_nil⟩
  have hdrop : t.chars.drop place ≠ [] := by
    rw [ne_eq, List.drop_eq_nil_iff]
    omega
  refine exists_pointed negative
    ⟨t.chars.take place, htake, fun c hc => t.isDigit c (List.mem_of_mem_take hc)⟩
    ⟨t.chars.drop place, hdrop, fun c hc => t.isDigit c (List.mem_of_mem_drop hc)⟩
    ?_ (.inl ?_) 0 ?_ ?_ (absurd rfl)
  · rw [List.length_take]
    omega
  · rwa [List.head?_take, if_neg (by omega)]
  · rwa [List.take_append_drop, Nat.pow_zero, Nat.mul_one]
  · rw [List.length_drop]
    omega

/-- A number below one. -/
theorem exists_small (negative : Bool) (t : DigitText)
    (hvalue : Nat.ofDigitChars 10 t.chars 0 = d) (zeros : Nat)
    (hk : k = -(zeros + t.chars.length)) :
    ∃ n : Numeral, n.bytes = signBytes negative ++
      charsBytes ('0' :: '.' :: List.replicate zeros '0' ++ t.chars) ∧ n.Writes d k := by
  have hdigits : ∀ c ∈ List.replicate zeros '0' ++ t.chars, c.isDigit = true := by
    intro c hc
    rcases List.mem_append.mp hc with hc | hc
    · rw [List.eq_of_mem_replicate hc]
      decide
    · exact t.isDigit c hc
  refine exists_pointed negative .zero ⟨_, by simp [t.ne_nil], hdigits⟩ (by decide) (.inr rfl)
    0 ?_ ?_ (absurd rfl)
  · have hzeros : Nat.ofDigitChars 10 ('0' :: List.replicate zeros '0') 0 = 0 := by
      rw [← List.replicate_succ, Nat.ofDigitChars_replicate_zero, Nat.mul_zero]
    have hjoin : ['0'] ++ (List.replicate zeros '0' ++ t.chars) =
        ('0' :: List.replicate zeros '0') ++ t.chars := rfl
    rw [DigitText.chars_zero, hjoin, Nat.ofDigitChars_append, hzeros, hvalue, Nat.pow_zero,
      Nat.mul_one]
  · rw [List.length_append, List.length_replicate]
    omega

/-- An exponent as it is written. -/
def Exponent.ofInt (e : Int) : Exponent where
  letter := 101
  isLetter := .inl rfl
  sign? := some (if e < 0 then 45 else 43)
  isSign := by
    intro b hb
    obtain rfl := Option.some.inj hb
    split <;> simp
  digits := .ofNat e.natAbs

theorem Exponent.value_ofInt (e : Int) : (Exponent.ofInt e).value = e := by
  have hdigits : (Exponent.ofInt e).digits.value = e.natAbs := Digits.value_ofNat e.natAbs
  rw [Exponent.value, hdigits, Exponent.ofInt]
  by_cases he : e < 0
  · simp only [if_pos he, if_true]
    omega
  · simp only [if_neg he]
    rw [if_neg (by decide)]
    omega

theorem charsBytes_exponentText (e : Int) :
    charsBytes (Decimal.exponentText e) = (Exponent.ofInt e).bytes := by
  have hletter : String.utf8EncodeChar 'e' = [101] := by decide
  have hplus : String.utf8EncodeChar '+' = [43] := by decide
  have hminus : String.utf8EncodeChar '-' = [45] := by decide
  by_cases he : e < 0 <;>
    simp [Decimal.exponentText, Exponent.bytes, Exponent.ofInt, Digits.ofNat, hletter, hplus,
      hminus, he]

/-- A number with one digit before the point and an exponent. -/
theorem exists_exponential (negative : Bool) (c : Char) (rest : List Char)
    (h : ∀ x ∈ c :: rest, x.isDigit = true) (hvalue : Nat.ofDigitChars 10 (c :: rest) 0 = d)
    (e : Int) (hk : k = e - rest.length) :
    ∃ n : Numeral, n.bytes = signBytes negative ++
      charsBytes ((if rest = [] then [c] else c :: '.' :: rest) ++ Decimal.exponentText e) ∧
      n.Writes d k := by
  obtain ⟨hc, hrest⟩ := List.forall_mem_cons.mp h
  obtain ⟨whole, hwhole⟩ : ∃ t : DigitText, t.chars = [c] :=
    ⟨⟨[c], List.cons_ne_nil _ _, by simpa using hc⟩, rfl⟩
  have hsingle : whole.digits.bytes = [UInt8.ofNat c.toNat] := by
    rw [whole.bytes_digits, charsBytes_digits whole.isDigit, hwhole]
    rfl
  have hnoZero : ∀ b more, whole.digits.bytes ≠ 48 :: b :: more := by
    intro b more heq
    rw [hsingle] at heq
    cases (List.cons.inj heq).2
  have hwholeLe : whole.digits.value ≤ wordMax := whole.value_le (by simp [hwhole])
  have hrestValue : Nat.ofDigitChars 10 rest whole.digits.value = d := by
    rw [whole.value_digits, hwhole, ← hvalue]
    rfl
  by_cases hnil : rest = []
  · subst hnil
    refine ⟨⟨negative, whole.digits, hnoZero, none, some (.ofInt e)⟩, ?_, hwholeLe,
      .inr (Option.some_ne_none _), 0, ?_, ?_, absurd rfl⟩
    · simp [Numeral.bytes, Numeral.signBytes, signBytes, Numeral.fractionBytes,
        Numeral.exponentBytes, whole.bytes_digits, hwhole, charsBytes_exponentText]
    · rw [Nat.pow_zero, Nat.mul_one]
      exact hrestValue
    · show (Exponent.ofInt e).value - 0 = k - 0
      rw [Exponent.value_ofInt, hk, List.length_nil]
      omega
  · obtain ⟨fraction, hfraction⟩ : ∃ t : DigitText, t.chars = rest := ⟨⟨rest, hnil, hrest⟩, rfl⟩
    refine ⟨⟨negative, whole.digits, hnoZero, some fraction.digits, some (.ofInt e)⟩, ?_,
      hwholeLe, .inr (Option.some_ne_none _), 0, ?_, ?_, absurd rfl⟩
    · have hpoint : String.utf8EncodeChar '.' = [46] := by decide
      simp [Numeral.bytes, Numeral.signBytes, signBytes, Numeral.fractionBytes,
        Numeral.exponentBytes, whole.bytes_digits, fraction.bytes_digits, hwhole, hfraction,
        charsBytes_exponentText, hpoint, hnil]
    · rw [← hfraction, ← fraction.numberFrom_digits] at hrestValue
      rw [Nat.pow_zero, Nat.mul_one]
      exact hrestValue
    · show (Exponent.ofInt e).value - (fraction.digits.bytes.length : Int) = k - 0
      rw [Exponent.value_ofInt, fraction.length_digits, hfraction, hk]
      omega

/-- What is written for a decimal is a numeral that writes it. -/
theorem exists_numeral (negative : Bool) (hd : 0 < d) (k : Int) :
    ∃ n : Numeral, n.bytes = signBytes negative ++
      charsBytes (Decimal.Layout.document.positive d k) ∧ n.Writes d k := by
  obtain ⟨t, ht⟩ : ∃ t : DigitText, t.chars = Nat.toDigits 10 d :=
    ⟨.ofNat d, rfl⟩
  have hhead : t.chars.head? ≠ some '0' := ht ▸ head?_toDigits d hd
  have hvalue : Nat.ofDigitChars 10 t.chars 0 = d := by rw [ht, Nat.ofDigitChars_ten_toDigits]
  have hlength : 0 < t.chars.length := List.length_pos_iff.mpr t.ne_nil
  rw [Decimal.Layout.positive, ← ht]
  by_cases hpositional : Decimal.Layout.document.isPositional (k + t.chars.length - 1) = true
  · obtain ⟨hlow, hhigh⟩ : -5 ≤ k + t.chars.length - 1 ∧ k + t.chars.length - 1 < 16 := by
      simpa [Decimal.Layout.document] using hpositional
    simp only [if_pos hpositional]
    -- there may be zeros after the digits, a point between them, or zeros before them
    by_cases hk : 0 ≤ k
    · rw [if_pos hk]
      obtain ⟨zeros, rfl⟩ := Int.eq_ofNat_of_zero_le hk
      exact exists_whole negative t hhead hvalue zeros (by omega)
    · rw [if_neg hk]
      by_cases he : 0 ≤ k + t.chars.length - 1
      · rw [if_pos he]
        exact exists_split negative t hhead hvalue _ (by omega) (by omega) (by omega) (by omega)
      · rw [if_neg he]
        exact exists_small negative t hvalue _ (by omega)
  · simp only [if_neg hpositional]
    have hdigits := t.isDigit
    generalize t.chars = digits at *
    cases digits with
    | nil => cases hlength
    | cons c rest =>
      have hk : k = k + (c :: rest).length - 1 - rest.length := by
        rw [List.length_cons]
        omega
      obtain ⟨n, hbytes, hwrites⟩ := exists_exponential negative c rest hdigits hvalue _ hk
      refine ⟨n, ?_, hwrites⟩
      rw [hbytes]
      cases rest <;> rfl

end LoraBridge.Json
