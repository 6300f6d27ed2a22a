import LoraBridge.Instant.Parser
import LoraBridge.Instant.Printer
import LoraBridge.Proofs.Utf8

/-! # Instants are read as they were written

  Every part of a written instant is read by itself: its digits end where a separator, the letter
  between date and time or the mark of UTC follows. The mark leaves the local time where it is.

  - `parse_render` holds of every instant, years of any sign and length included.
  - What is read is the instant that was written, and so it is with leap seconds. There is one
    exception: a fraction of a thousand million nanoseconds or more is written with the number of
    the next second, which only the last second of a minute does not have (`normalized`).
-/

namespace LoraBridge.Instant

open Text (isDigit_toDigits toNat_of_isDigit)

variable {c : Char} {ds rest : List Char} {n width limit : Nat}

/-! ### Digits -/

theorem numberOf_eq (ds : List Char) : numberOf ds = Nat.ofDigitChars 10 ds 0 := by
  have hfold : ∀ (ds : List Char) (n : Nat),
      ds.foldl (fun n c => n * 10 + (c.toNat - 48)) n = Nat.ofDigitChars 10 ds n := by
    intro ds
    induction ds with
    | nil => exact fun _ => rfl
    | cons d ds ih =>
      intro n
      rw [List.foldl_cons, ih, Nat.mul_comm]
      rfl
  exact hfold ds 0

theorem isDigit_padded (width n : Nat) : ∀ c ∈ padded width n, c.isDigit = true := by
  intro c hc
  rcases List.mem_append.mp hc with hc | hc
  · rw [(List.mem_replicate.mp hc).2]
    decide
  · exact isDigit_toDigits n c hc

theorem numberOf_padded (width n : Nat) : numberOf (padded width n) = n := by
  rw [numberOf_eq, padded, Nat.ofDigitChars_append, Nat.ofDigitChars_replicate_zero, Nat.mul_zero,
    Nat.ofDigitChars_ten_toDigits]

theorem length_padded (hwidth : 0 < width) (hn : n < Nat.pow 10 width) :
    (padded width n).length = width := by
  have hlength := (Nat.length_toDigits_le_iff (b := 10) (by decide) hwidth).mpr hn
  simp only [padded, List.length_append, List.length_replicate]
  omega

theorem padded_ne_nil (width n : Nat) : padded width n ≠ [] := by
  simp [padded, Nat.toDigits_ne_nil]

theorem padded_exists_cons (width n : Nat) :
    ∃ d ds, padded width n = d :: ds ∧ d.isDigit = true := by
  obtain ⟨d, ds, hcons⟩ := List.exists_cons_of_ne_nil (padded_ne_nil width n)
  exact ⟨d, ds, hcons, isDigit_padded width n d (by rw [hcons]; exact List.mem_cons_self)⟩

/-- The digits that a text begins with end where there are enough of them or another character
    follows. -/
theorem splitDigits_append (hds : ∀ c ∈ ds, c.isDigit = true) (hlength : ds.length ≤ n)
    (hend : ds.length = n ∨ ∀ c ∈ rest.head?, c.isDigit = false) :
    splitDigits n (ds ++ rest) = (ds, rest) := by
  induction n generalizing ds with
  | zero =>
    obtain rfl := List.length_eq_zero_iff.mp (Nat.le_zero.mp hlength)
    rfl
  | succ n ih =>
    cases ds with
    | nil =>
      cases rest with
      | nil => rfl
      | cons c rest =>
        have hc : c.isDigit = false := by
          rcases hend with h | h
          · cases h
          · exact h c rfl
        simp [splitDigits, hc]
    | cons d ds =>
      obtain ⟨hd, hds⟩ := List.forall_mem_cons.mp hds
      have htail := ih hds (Nat.le_of_succ_le_succ hlength)
        (hend.imp_left fun h => Nat.succ.inj h)
      rw [List.cons_append, splitDigits, if_pos hd, htail]

theorem readNumber_padded (hlength : (padded width n).length ≤ limit)
    (hend : (padded width n).length = limit ∨ ∀ c ∈ rest.head?, c.isDigit = false) :
    readNumber limit (padded width n ++ rest) = .ok (n, rest) := by
  have hsplit := splitDigits_append (isDigit_padded width n) hlength hend
  have hnumber := numberOf_padded width n
  obtain ⟨d, ds, hcons⟩ := List.exists_cons_of_ne_nil (padded_ne_nil width n)
  rw [hcons] at hsplit hnumber ⊢
  rw [readNumber.eq_def, hsplit, ← hnumber]
  rfl

theorem trimLeft_cons (hc : Text.isBlank c = false) : Text.trimLeft (c :: rest) = c :: rest :=
  List.dropWhile_cons_of_neg (by simp [hc])

theorem isBlank_of_isDigit (hc : c.isDigit = true) : Text.isBlank c = false := by
  have hrange := toNat_of_isDigit hc
  simp [Text.isBlank]
  omega

/-! ### Parts of an instant -/

theorem readSeparator_cons (hc : Text.isBlank c = false) :
    readSeparator c (c :: rest) = .ok rest := by
  rw [readSeparator, trimLeft_cons hc]
  exact if_pos rfl

/-- A number of two digits is read whatever follows. -/
theorem readField_padded (lo hi : Nat) (hn : n < 100) (hrange : lo ≤ n ∧ n ≤ hi) :
    readField lo hi (padded 2 n ++ rest) = .ok (n, rest) := by
  have hlength : (padded 2 n).length = 2 := length_padded (by decide) hn
  have htrim : Text.trimLeft (padded 2 n ++ rest) = padded 2 n ++ rest := by
    obtain ⟨d, ds, hcons, hd⟩ := padded_exists_cons 2 n
    rw [hcons, List.cons_append, trimLeft_cons (isBlank_of_isDigit hd)]
  rw [readField, htrim, readNumber_padded (by omega) (.inl hlength)]
  exact if_pos hrange

theorem readYear_minus {s : List Char} (hread : readNumber s.length s = .ok (n, rest))
    (hn : n ≤ 2147483647) : readYear ('-' :: s) = .ok (-(n : Int), rest) := by
  have hrange : -2147483648 ≤ -(n : Int) ∧ -(n : Int) ≤ 2147483647 := by omega
  simp only [readYear, trimLeft_cons (c := '-') (by decide), hread, bind, Except.bind, pure,
    Except.pure]
  exact if_pos hrange

theorem readYear_plus {s : List Char} (hread : readNumber s.length s = .ok (n, rest))
    (hn : n ≤ 2147483647) : readYear ('+' :: s) = .ok ((n : Int), rest) := by
  have hrange : -2147483648 ≤ (n : Int) ∧ (n : Int) ≤ 2147483647 := by omega
  simp only [readYear, trimLeft_cons (c := '+') (by decide), hread, bind, Except.bind, pure,
    Except.pure]
  exact if_pos hrange

theorem readYear_digit {s : List Char} (hc : c.isDigit = true)
    (hread : readNumber 4 (c :: s) = .ok (n, rest)) (hn : n ≤ 2147483647) :
    readYear (c :: s) = .ok ((n : Int), rest) := by
  have hrange : -2147483648 ≤ (n : Int) ∧ (n : Int) ≤ 2147483647 := by omega
  have hminus : c ≠ '-' := by rintro rfl; cases hc
  have hplus : c ≠ '+' := by rintro rfl; cases hc
  simp only [readYear, trimLeft_cons (isBlank_of_isDigit hc)]
  split
  · next heq => exact absurd (List.cons.inj heq).1 hminus
  · next heq => exact absurd (List.cons.inj heq).1 hplus
  · simp only [hread, bind, Except.bind, pure, Except.pure]
    exact if_pos hrange

/-- A year is read where its hyphen follows. -/
theorem readYear_renderYear {year : Int} (hyear : -262143 ≤ year ∧ year ≤ 262142)
    (rest : List Char) : readYear (renderYear year ++ '-' :: rest) = .ok (year, '-' :: rest) := by
  have hsigned : readNumber (padded 4 year.natAbs ++ '-' :: rest).length
      (padded 4 year.natAbs ++ '-' :: rest) = .ok (year.natAbs, '-' :: rest) := by
    refine readNumber_padded (by simp) (.inr ?_)
    rintro c ⟨⟩
    decide
  rw [renderYear]
  split
  · next hplain =>
    have hyear : year.toNat < 10000 := by omega
    have hlength : (padded 4 year.toNat).length = 4 := length_padded (by decide) hyear
    have hread : readNumber 4 (padded 4 year.toNat ++ '-' :: rest) =
        .ok (year.toNat, '-' :: rest) := readNumber_padded (by omega) (.inl hlength)
    obtain ⟨d, ds, hcons, hd⟩ := padded_exists_cons 4 year.toNat
    rw [hcons, List.cons_append] at hread ⊢
    rw [readYear_digit hd hread (by omega), Int.toNat_of_nonneg hplain.1]
  · by_cases hneg : year < 0
    · rw [if_pos hneg, List.cons_append, readYear_minus hsigned (by omega)]
      congr
      omega
    · rw [if_neg hneg, List.cons_append, readYear_plus hsigned (by omega)]
      congr
      omega

/-- A fraction is read where the mark of UTC follows. -/
theorem readFraction_renderFraction (hn : n < 1000000000) :
    readFraction (renderFraction n ++ ['Z']) = .ok (n, ['Z']) := by
  have hdigits : ∀ width m, width ≤ 9 → 0 < width → m < 10 ^ width →
      readFraction ('.' :: padded width m ++ ['Z']) = .ok (m * 10 ^ (9 - width), ['Z']) := by
    intro width m hwidth hpos hm
    have hlength := length_padded hpos hm
    have hend : (padded width m).length = 9 ∨ ∀ c ∈ ['Z'].head?, c.isDigit = false := by
      right
      rintro c ⟨⟩
      decide
    have hread := readNumber_padded (by omega) hend
    have hsplit := splitDigits_append (isDigit_padded width m) (by omega) hend
    simp only [List.cons_append, readFraction, hread, hsplit, bind, Except.bind, numberOf_padded,
      hlength]
    rfl
  rw [renderFraction]
  -- no digits, or three, six or nine of them
  split
  · next hzero => rw [hzero]; rfl
  · split
    · next hmillis =>
      rw [hdigits 3 (n / 1000000) (by decide) (by decide) (by omega)]
      congr
      omega
    · split
      · next hmicros =>
        rw [hdigits 6 (n / 1000) (by decide) (by decide) (by omega)]
        congr
        omega
      · rw [hdigits 9 n (by decide) (by decide) (by omega)]
        congr
        omega

/-! ### The instant -/

theorem ofFields?_self (t : Instant) :
    ofFields? t.year t.month t.day t.hour t.minute t.second t.nanos = some t :=
  dif_pos t.valid

/-- The mark of UTC leaves a local time where it is. -/
theorem ofLocal_zero (t : Instant) : ofLocal t 0 = .ok t := by
  obtain ⟨-, -, -, hhour, hminute, -⟩ := t.valid
  -- the day neither begins too late nor ends too early
  have hshift : t.shift? (-0) = some t := by
    have hlo : ¬ ((t.hour * 60 + t.minute : Int) + -0 < 0) := by omega
    have hhi : ¬ (1440 ≤ (t.hour * 60 + t.minute : Int) + -0) := by omega
    have hhours : (((t.hour * 60 + t.minute : Int) + -0) % 1440 / 60).toNat = t.hour := by omega
    have hminutes : (((t.hour * 60 + t.minute : Int) + -0) % 1440 % 60).toNat = t.minute := by
      omega
    simp only [shift?, if_neg hlo, if_neg hhi, hhours, hminutes]
    exact ofFields?_self t
  rw [ofLocal, if_pos (by decide), hshift]

/-- The instant as it is read back. A fraction of a thousand million nanoseconds or more counts to
    the next second, if the minute has another one. -/
def normalized (t : Instant) : Instant :=
  if h : 1000000000 ≤ t.nanos ∧ t.second ≠ 59 then
    { t with
      second := t.second + 1
      nanos := t.nanos - 1000000000
      valid := by
        obtain ⟨hyear, hmonth, hday, hhour, hminute, hsecond, hnanos⟩ := t.valid
        exact ⟨hyear, hmonth, hday, hhour, hminute, by omega, by omega⟩ }
  else t

theorem normalized_of_lt {t : Instant} (h : t.nanos < 1000000000) : t.normalized = t :=
  dif_neg fun hcarried => absurd hcarried.1 (Nat.not_le.mpr h)

theorem normalized_of_leapSecond {t : Instant} (h : t.second = 59) : t.normalized = t :=
  dif_neg fun hcarried => hcarried.2 h

/-- What is written of an instant is the local time that is read. A fraction of a thousand million
    nanoseconds or more is written with the number of the next second, and 60 is the number of a
    leap second. -/
theorem localTime?_written (t : Instant) :
    localTime? t.year t.month t.day t.hour t.minute
      (if t.nanos < 1000000000 then t.second else t.second + 1) (t.nanos % 1000000000) =
        some t.normalized := by
  obtain ⟨-, -, -, -, -, hsecond, hnanos⟩ := t.valid
  by_cases hplain : t.nanos < 1000000000
  · rw [if_pos hplain, Nat.mod_eq_of_lt hplain, localTime?, if_neg (by omega), ofFields?_self,
      normalized_of_lt hplain]
  · rw [if_neg hplain, localTime?]
    by_cases hlast : t.second = 59
    · -- second 60 is read as second 59 and a thousand million nanoseconds
      have hfraction : t.nanos % 1000000000 + 1000000000 = t.nanos := by omega
      rw [if_pos (by omega), hfraction, ← hlast, ofFields?_self, normalized_of_leapSecond hlast]
    · -- what is written is an ordinary fraction of the next second
      have hcarried : 1000000000 ≤ t.nanos ∧ t.second ≠ 59 := ⟨Nat.not_lt.mp hplain, hlast⟩
      have hfraction : t.nanos % 1000000000 = t.nanos - 1000000000 := by omega
      rw [if_neg (by omega), hfraction, normalized, dif_pos hcarried]
      exact dif_pos _

/-- Every instant is read as it was written, up to the second that a long fraction counts to. -/
theorem parse_render (t : Instant) : parse t.render = .ok t.normalized := by
  obtain ⟨hyear, hmonth, hday, hhour, hminute, hsecond, hnanos⟩ := t.valid
  have hlastDay : Calendar.daysIn t.year t.month ≤ 31 := by
    unfold Calendar.daysIn
    split
    · split <;> decide
    · split <;> decide
  have hday' : 1 ≤ t.day ∧ t.day ≤ 31 := by omega
  have hhour' : 0 ≤ t.hour ∧ t.hour ≤ 23 := by omega
  have hminute' : 0 ≤ t.minute ∧ t.minute ≤ 59 := by omega
  have hsecond' : (if t.nanos < 1000000000 then t.second else t.second + 1) ≤ 60 := by
    split <;> omega
  have hfraction : t.nanos % 1000000000 < 1000000000 := Nat.mod_lt _ (by decide)
  have hzone : readZone (Text.trimLeft ['Z']) = .ok (0, []) := rfl
  rw [parse, render]
  simp only [List.append_assoc, List.cons_append, bind, Except.bind, readYear_renderYear hyear,
    readSeparator_cons (c := '-') (by decide), readSeparator_cons (c := ':') (by decide),
    readField_padded 1 12 (by omega) hmonth, readField_padded 1 31 (by omega) hday',
    readField_padded 0 23 (by omega) hhour', readField_padded 0 59 (by omega) hminute',
    readField_padded 0 60 (by omega) ⟨Nat.zero_le _, hsecond'⟩,
    readMiddle, readFraction_renderFraction hfraction, hzone, localTime?_written]
  exact ofLocal_zero t.normalized

end LoraBridge.Instant
