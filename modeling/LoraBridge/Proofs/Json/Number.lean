import LoraBridge.Proofs.Json.Reading
import LoraBridge.Proofs.Utf8

/-! # Reading numbers

  What is read for a number depends on how it is written. Digits alone are a whole number, as long
  as it fits 64 bits. With a fraction or an exponent a number is a double, whatever its value.

  - `readNumber_plain`: digits with or without a sign.
  - `readNumber_ne_whole`: everything else is a double, or refused.
  - `readNumber_isLocal`: a number is read from its own characters alone, whatever follows.
  - `Numeral.ofInt`: whole numbers as they are written.
-/

namespace LoraBridge.Json

open Text (charsBytes charsBytes_digits toNat_digit isDigit_toDigits head?_toDigits
  toNat_of_isDigit)

variable {ds s rest : Bytes} {negative : Bool} {m n : Nat} {e : Int} {x : Number}

/-! ### Digits -/

theorem le_foldl_digits (ds : Bytes) (n : Nat) :
    n ≤ ds.foldl (fun n d => n * 10 + digitValue d) n := by
  induction ds generalizing n with
  | nil => exact Nat.le_refl n
  | cons d ds ih => exact Nat.le_trans (by omega) (ih (n * 10 + digitValue d))

/-- Digits whose number fits are all taken. -/
theorem accumulate_of_le (h : ds.foldl (fun n d => n * 10 + digitValue d) n ≤ wordMax) :
    accumulate n ds = (ds.foldl (fun n d => n * 10 + digitValue d) n, []) := by
  induction ds generalizing n with
  | nil => rfl
  | cons d ds ih =>
    have hfits : n * 10 + digitValue d ≤ wordMax := Nat.le_trans (le_foldl_digits ds _) h
    rw [accumulate, if_pos hfits]
    exact ih h

/-- Of digits whose number does not fit some are left. -/
theorem accumulate_of_lt (hn : n ≤ wordMax)
    (h : wordMax < ds.foldl (fun n d => n * 10 + digitValue d) n) : (accumulate n ds).2 ≠ [] := by
  induction ds generalizing n with
  | nil => exact absurd hn (Nat.not_le.mpr h)
  | cons d ds ih =>
    rw [accumulate]
    split
    · next hfits => exact ih hfits h
    · exact List.cons_ne_nil d ds

/-- The first of some digits. -/
theorem Digits.exists_cons (ds : Digits) :
    ∃ d rest, ds.bytes = d :: rest ∧ Json.isDigit d = true ∧
      ∀ b ∈ rest, Json.isDigit b = true := by
  obtain ⟨d, rest, h⟩ := List.exists_cons_of_ne_nil ds.ne_nil
  have hall := ds.isDigit
  rw [h, List.forall_mem_cons] at hall
  exact ⟨d, rest, h, hall.1, hall.2⟩

/-- A number begins with a sign or a digit. -/
theorem Numeral.exists_cons (n : Numeral) :
    ∃ b more, n.bytes = b :: more ∧ (b = 45 ∨ Json.isDigit b = true) := by
  obtain ⟨d, more, hcons, hd, -⟩ := n.whole.exists_cons
  cases hneg : n.negative with
  | true => exact ⟨45, _, by simp only [Numeral.bytes, Numeral.signBytes, hneg]; rfl, .inl rfl⟩
  | false =>
    exact ⟨d, _, by simp only [Numeral.bytes, Numeral.signBytes, hneg, hcons]; rfl, .inr hd⟩

/-! ### After the digits before the point -/

/-- Goes on after the digits before the point: those that fit have been taken, and some may be
    left. -/
def afterWhole (negative : Bool) (taken : Nat) (left : Bytes) : Reader Number
  | 46 :: rest => readFraction negative taken left.length rest
  | rest =>
    if left.isEmpty && !atExponent rest then .ok (toWhole negative taken, rest)
    else finishReal negative taken left.length rest

theorem readUnsigned_eq (hnil : ds ≠ []) (hzero : ∀ b more, ds ≠ 48 :: b :: more)
    (hspan : spanDigits s = (ds, rest)) :
    readUnsigned negative s = afterWhole negative (accumulate 0 ds).1 (accumulate 0 ds).2 rest := by
  simp only [readUnsigned, hspan]
  split
  · exact absurd rfl hnil
  · exact absurd rfl hnil
  · next b more => exact absurd rfl (hzero b more)
  · rfl

theorem readNumber_sign (n : Numeral) (rest : Bytes) :
    readNumber (n.signBytes ++ n.whole.bytes ++ rest) =
      readUnsigned n.negative (n.whole.bytes ++ rest) := by
  cases hneg : n.negative with
  | true => simp [Numeral.signBytes, hneg, readNumber]
  | false =>
    obtain ⟨d, more, hcons, hd, -⟩ := n.whole.exists_cons
    have hne : d ≠ 45 := by
      rintro rfl
      cases hd
    simp only [Numeral.signBytes, hneg, hcons]
    simp [readNumber, hne]

theorem toReal_ne_whole {k : Int} : toReal negative m e ≠ .ok (.whole k) := by
  unfold toReal
  split <;> simp

theorem finishReal_ne_whole {k : Int} : finishReal negative m e s ≠ .ok (.whole k, rest) := by
  unfold finishReal
  split
  · cases readExponent s.tail with
    | error f => simp [bind, Except.bind]
    | ok p =>
      cases hreal : toReal negative m (e + p.1) with
      | error f => simp [bind, Except.bind, hreal]
      | ok x =>
        intro heq
        simp only [bind, Except.bind, hreal, Except.ok.injEq, Prod.mk.injEq] at heq
        exact toReal_ne_whole (hreal.trans (congrArg Except.ok heq.1))
  · cases hreal : toReal negative m e with
    | error f => simp [bind, Except.bind]
    | ok x =>
      intro heq
      simp only [bind, Except.bind, Except.ok.injEq, Prod.mk.injEq] at heq
      exact toReal_ne_whole (hreal.trans (congrArg Except.ok heq.1))

theorem readFraction_ne_whole {k : Int} : readFraction negative m e s ≠ .ok (.whole k, rest) := by
  simp only [readFraction]
  split
  · simp
  · simp
  · exact finishReal_ne_whole

/-- A number that goes on after its first digits, or does not fit, is not whole. -/
theorem afterWhole_ne_whole {left : Bytes} {k : Int} {r : Bytes}
    (h : left ≠ [] ∨ rest.head? = some 46 ∨ atExponent rest = true) :
    afterWhole negative m left rest ≠ .ok (.whole k, r) := by
  unfold afterWhole
  split
  · exact readFraction_ne_whole
  · next hpoint =>
    split
    · next hplain =>
      obtain ⟨hleft, hexponent⟩ : left = [] ∧ atExponent rest = false := by simpa using hplain
      rcases h with h | h | h
      · exact absurd hleft h
      · cases rest with
        | nil => cases h
        | cons b more =>
          obtain rfl := Option.some.inj h
          exact absurd rfl (hpoint more)
      · rw [hexponent] at h
        cases h
    · exact finishReal_ne_whole

/-- What follows the digits before the point. -/
def Numeral.tailBytes (n : Numeral) : Bytes := n.fractionBytes ++ n.exponentBytes

theorem Numeral.tail_cases (n : Numeral) :
    (n.fraction? = none ∧ n.exponent? = none ∧ n.tailBytes = []) ∨
      (∃ more, n.tailBytes = 46 :: more) ∨
      ∃ b more, n.tailBytes = b :: more ∧ (b = 101 ∨ b = 69) := by
  unfold tailBytes fractionBytes exponentBytes
  cases n.fraction? with
  | some ds => exact .inr (.inl ⟨_, rfl⟩)
  | none =>
    cases n.exponent? with
    | some e => exact .inr (.inr ⟨e.letter, _, rfl, e.isLetter⟩)
    | none => exact .inl ⟨rfl, rfl, rfl⟩

theorem readNumber_numeral (n : Numeral) (h : Stops rest) :
    readNumber (n.bytes ++ rest) =
      afterWhole n.negative (accumulate 0 n.whole.bytes).1 (accumulate 0 n.whole.bytes).2
        (n.tailBytes ++ rest) := by
  have hbytes : n.bytes ++ rest = n.signBytes ++ n.whole.bytes ++ (n.tailBytes ++ rest) := by
    simp [Numeral.bytes, Numeral.tailBytes]
  have hhead : ∀ b ∈ (n.tailBytes ++ rest).head?, isDigit b = false := by
    rcases n.tail_cases with ⟨-, -, hnil⟩ | ⟨more, hcons⟩ | ⟨b, more, hcons, hletter⟩
    · rw [hnil]
      exact h.not_digit
    · rw [hcons]
      rintro b ⟨⟩
      rfl
    · rw [hcons]
      rintro b ⟨⟩
      rcases hletter with rfl | rfl <;> rfl
  rw [hbytes, readNumber_sign, readUnsigned_eq n.whole.ne_nil n.noLeadingZero
    (spanDigits_append n.whole.isDigit hhead)]

/-- Digits alone are a whole number, as long as they fit. -/
theorem readNumber_plain (n : Numeral) (hfraction : n.fraction? = none)
    (hexponent : n.exponent? = none) (hfits : n.whole.value ≤ wordMax) (h : Stops rest) :
    readNumber (n.bytes ++ rest) = .ok (toWhole n.negative n.whole.value, rest) := by
  have hnil : n.tailBytes = [] := by
    simp [Numeral.tailBytes, Numeral.fractionBytes, Numeral.exponentBytes, hfraction, hexponent]
  have haccumulate : accumulate 0 n.whole.bytes = (n.whole.value, []) := accumulate_of_le hfits
  rw [readNumber_numeral n h, hnil, haccumulate, List.nil_append, afterWhole.eq_def]
  split
  · exact absurd rfl h.2.1
  · simp [atExponent_of_stops h]

/-- Everything else is a double, or refused. -/
theorem readNumber_ne_whole (n : Numeral)
    (hn : n.fraction? ≠ none ∨ n.exponent? ≠ none ∨ wordMax < n.whole.value) (h : Stops rest)
    (k : Int) (r : Bytes) : readNumber (n.bytes ++ rest) ≠ .ok (.whole k, r) := by
  rw [readNumber_numeral n h]
  refine afterWhole_ne_whole ?_
  rcases n.tail_cases with ⟨hfraction, hexponent, -⟩ | ⟨more, hcons⟩ | ⟨b, more, hcons, hletter⟩
  · left
    rcases hn with hn | hn | hn
    · exact absurd hfraction hn
    · exact absurd hexponent hn
    · exact accumulate_of_lt (Nat.zero_le _) hn
  · right; left
    rw [hcons]
    rfl
  · right; right
    rw [hcons]
    rcases hletter with rfl | rfl <;> rfl

/-! ### What follows a number -/

theorem spanDigits_append_stops (s : Bytes) (h : Stops rest) :
    spanDigits (s ++ rest) = ((spanDigits s).1, (spanDigits s).2 ++ rest) := by
  have hs : s ++ rest = (spanDigits s).1 ++ ((spanDigits s).2 ++ rest) := by
    simp [spanDigits, ← List.append_assoc]
  have hdigits : ∀ b ∈ (spanDigits s).1, isDigit b = true :=
    List.all_eq_true.mp (List.all_takeWhile (l := s))
  have hend : ∀ b ∈ ((spanDigits s).2 ++ rest).head?, isDigit b = false := by
    have hhead := List.head?_dropWhile_not isDigit s
    cases hleft : (spanDigits s).2 with
    | nil => exact h.not_digit
    | cons d more =>
      rintro b ⟨⟩
      rw [show s.dropWhile isDigit = d :: more from hleft] at hhead
      simpa using hhead
  rw [hs, spanDigits_append hdigits hend]

theorem atExponent_append_stops (s : Bytes) (h : Stops rest) :
    atExponent (s ++ rest) = atExponent s := by
  cases s with
  | nil => exact atExponent_of_stops h
  | cons b s => rfl

/-- A reader that stops where its text ends, if what follows stops numbers. -/
def IsLocal {α : Type} (read : Reader α) : Prop :=
  ∀ {s a left rest}, Stops rest → read s = .ok (a, left) → read (s ++ rest) = .ok (a, left ++ rest)

/-- The digits of an exponent, after its sign. -/
def readExponentDigits (negative : Bool) : Reader Int := fun s =>
  match s with
  | [] => .error .endInValue
  | d :: _ =>
    if isDigit d then
      let (ds, rest) := spanDigits s
      let n : Nat := ds.foldl (fun n d => n * 10 + digitValue d) 0
      .ok (if negative then -(n : Int) else n, rest)
    else .error .invalidNumber

theorem readExponentDigits_isLocal (negative : Bool) :
    IsLocal (readExponentDigits negative) := by
  intro s a left rest h hread
  cases s with
  | nil => cases hread
  | cons d s =>
    simp only [readExponentDigits] at hread
    split at hread
    · next hd =>
      injection hread with hread
      injection hread with ha hleft
      simp only [List.cons_append, readExponentDigits, if_pos hd]
      rw [← List.cons_append, spanDigits_append_stops _ h, ← ha, ← hleft]
    · cases hread

/-- The sign an exponent may have, and what follows. -/
def exponentSign : Bytes → Bool × Bytes
  | 43 :: s => (false, s)
  | 45 :: s => (true, s)
  | s => (false, s)

theorem exponentSign_digit {b : UInt8} (hplus : b ≠ 43) (hminus : b ≠ 45) (s : Bytes) :
    exponentSign (b :: s) = (false, b :: s) := by
  rw [exponentSign.eq_def]
  split
  · next heq => exact absurd (List.cons.inj heq).1 hplus
  · next heq => exact absurd (List.cons.inj heq).1 hminus
  · rfl

theorem exponentSign_append {s : Bytes} (rest : Bytes) (hs : s ≠ []) :
    exponentSign (s ++ rest) = ((exponentSign s).1, (exponentSign s).2 ++ rest) := by
  obtain ⟨b, s, rfl⟩ := List.exists_cons_of_ne_nil hs
  by_cases hplus : b = 43
  · subst hplus
    rfl
  · by_cases hminus : b = 45
    · subst hminus
      rfl
    · rw [List.cons_append, exponentSign_digit hplus hminus, exponentSign_digit hplus hminus]
      rfl

theorem readExponent_eq (s : Bytes) :
    readExponent s = readExponentDigits (exponentSign s).1 (exponentSign s).2 := rfl

theorem readExponent_isLocal : IsLocal readExponent := by
  intro s a left rest h hread
  have hs : s ≠ [] := by
    rintro rfl
    cases hread
  rw [readExponent_eq] at hread ⊢
  rw [exponentSign_append rest hs]
  exact readExponentDigits_isLocal _ h hread

theorem finishReal_isLocal : IsLocal (finishReal negative m e) := by
  intro s a left rest h hread
  rw [finishReal] at hread ⊢
  rw [atExponent_append_stops s h]
  split at hread
  · next hat =>
    obtain ⟨⟨k, after⟩, hexponent, hread⟩ := bind_eq_ok.mp hread
    obtain ⟨x, hx, hread⟩ := bind_eq_ok.mp hread
    cases hread
    have htail : (s ++ rest).tail = s.tail ++ rest := by
      cases s with
      | nil => cases hat
      | cons b s => rfl
    rw [if_pos hat, htail, readExponent_isLocal h hexponent]
    simp only [bind, Except.bind] at hx ⊢
    rw [hx]
  · next hat =>
    obtain ⟨x, hx, hread⟩ := bind_eq_ok.mp hread
    cases hread
    rw [if_neg hat, hx]
    rfl

theorem readFraction_isLocal : IsLocal (readFraction negative m e) := by
  intro s a left rest h hread
  simp only [readFraction] at hread ⊢
  rw [spanDigits_append_stops s h]
  generalize spanDigits s = parts at hread ⊢
  obtain ⟨ds, after⟩ := parts
  cases ds with
  | nil => cases after <;> cases hread
  | cons d ds => exact finishReal_isLocal h hread

theorem afterWhole_isLocal (left : Bytes) : IsLocal (afterWhole negative m left) := by
  intro s a after rest h hread
  rw [afterWhole.eq_def] at hread
  split at hread
  · exact readFraction_isLocal h hread
  · next hpoint =>
    have hpoint' : ∀ more, s ++ rest ≠ 46 :: more := by
      intro more heq
      cases s with
      | nil => exact (show Stops (46 :: more) from heq ▸ h).2.1 rfl
      | cons b s => exact hpoint s (by rw [(List.cons.inj heq).1])
    rw [afterWhole.eq_def]
    split
    · next more heq => exact absurd heq (hpoint' more)
    · rw [atExponent_append_stops s h]
      split at hread
      · next hplain =>
        cases hread
        rw [if_pos hplain]
      · next hplain =>
        rw [if_neg hplain]
        exact finishReal_isLocal h hread

theorem readUnsigned_isLocal : IsLocal (readUnsigned negative) := by
  intro s a left rest h hread
  rcases hspan : spanDigits s with ⟨ds, after⟩
  have hnil : ds ≠ [] := by
    rintro rfl
    cases s <;> simp [readUnsigned, hspan] at hread
  have hzero : ∀ b more, ds ≠ 48 :: b :: more := by
    rintro b more rfl
    simp [readUnsigned, hspan] at hread
  have hspan' : spanDigits (s ++ rest) = (ds, after ++ rest) := by
    rw [spanDigits_append_stops s h, hspan]
  rw [readUnsigned_eq hnil hzero hspan] at hread
  rw [readUnsigned_eq hnil hzero hspan']
  exact afterWhole_isLocal _ h hread

theorem readNumber_isLocal : IsLocal readNumber := by
  intro s a left rest h hread
  cases s with
  | nil => cases hread
  | cons b s =>
    by_cases hminus : b = 45
    · subst hminus
      exact readUnsigned_isLocal h hread
    · have hunsigned : ∀ s, readNumber (b :: s) = readUnsigned false (b :: s) := fun s => by
        rw [readNumber.eq_def]
        split
        · next heq => exact absurd (List.cons.inj heq).1 hminus
        · rfl
      rw [hunsigned] at hread
      rw [List.cons_append, hunsigned]
      exact readUnsigned_isLocal h hread

/-! ### Whole numbers as they are written -/

theorem foldl_digits {cs : List Char} (h : ∀ c ∈ cs, c.isDigit = true) (n : Nat) :
    (cs.map fun c => UInt8.ofNat c.toNat).foldl (fun n d => n * 10 + digitValue d) n =
      Nat.ofDigitChars 10 cs n := by
  induction cs generalizing n with
  | nil => rfl
  | cons c cs ih =>
    obtain ⟨hc, hcs⟩ := List.forall_mem_cons.mp h
    have hstep : n * 10 + digitValue (UInt8.ofNat c.toNat) = 10 * n + (c.toNat - '0'.toNat) := by
      rw [digitValue, toNat_digit hc, Nat.mul_comm]
      rfl
    rw [List.map_cons, List.foldl_cons, hstep, ih hcs]
    rfl

theorem isDigit_charsBytes {cs : List Char} (h : ∀ c ∈ cs, c.isDigit = true) :
    ∀ b ∈ charsBytes cs, Json.isDigit b = true := by
  rw [charsBytes_digits h]
  intro b hb
  obtain ⟨c, hc, rfl⟩ := List.mem_map.mp hb
  have hdigit := h c hc
  have hrange := toNat_of_isDigit hdigit
  simp only [Json.isDigit, Bool.and_eq_true, decide_eq_true_eq, UInt8.le_iff_toNat_le,
    toNat_digit hdigit]
  exact hrange

/-- Digits that do not begin with a zero do not do so as bytes. -/
theorem charsBytes_ne_zero {cs : List Char} (h : ∀ c ∈ cs, c.isDigit = true)
    (hhead : cs.head? ≠ some '0') (more : Bytes) : charsBytes cs ≠ 48 :: more := by
  rw [charsBytes_digits h]
  intro heq
  obtain ⟨c, cs, rfl⟩ : ∃ c cs', cs = c :: cs' := by
    cases cs with
    | nil => cases heq
    | cons c cs => exact ⟨c, cs, rfl⟩
  have hbyte : UInt8.ofNat c.toNat = 48 := (List.cons.inj heq).1
  have hzero : c.toNat = 48 := by
    rw [← toNat_digit (h c List.mem_cons_self), hbyte]
    rfl
  have hc : c = '0' := by rw [← Char.ofNat_toNat c, hzero]
  exact hhead (by rw [hc]; rfl)

/-- The digits of a number. -/
def Digits.ofNat (n : Nat) : Digits where
  bytes := charsBytes (Nat.toDigits 10 n)
  ne_nil := by
    rw [charsBytes_digits (isDigit_toDigits n)]
    simp [Nat.toDigits_ne_nil]
  isDigit := isDigit_charsBytes (isDigit_toDigits n)

@[simp] theorem Digits.value_ofNat (n : Nat) : (Digits.ofNat n).value = n := by
  have hbytes : (Digits.ofNat n).bytes = _ := charsBytes_digits (isDigit_toDigits n)
  rw [Digits.value, hbytes, foldl_digits (isDigit_toDigits n), Nat.ofDigitChars_ten_toDigits]

theorem Digits.noLeadingZero_ofNat (n : Nat) (b : UInt8) (more : Bytes) :
    (Digits.ofNat n).bytes ≠ 48 :: b :: more := by
  rcases Nat.eq_zero_or_pos n with rfl | hpos
  · intro heq
    have hbytes : (Digits.ofNat 0).bytes = _ := charsBytes_digits (isDigit_toDigits 0)
    rw [hbytes] at heq
    simp at heq
  · exact charsBytes_ne_zero (isDigit_toDigits n) (head?_toDigits n hpos) (b :: more)

/-- A whole number as it is written. -/
def Numeral.ofInt (n : Int) : Numeral where
  negative := decide (n < 0)
  whole := Digits.ofNat n.natAbs
  noLeadingZero := Digits.noLeadingZero_ofNat n.natAbs

theorem charsBytes_writeInt (n : Int) : charsBytes (writeInt n) = (Numeral.ofInt n).bytes := by
  have hbytes : (Numeral.ofInt n).bytes = (Numeral.ofInt n).signBytes ++
      charsBytes (Nat.toDigits 10 n.natAbs) := by
    simp [Numeral.bytes, Numeral.fractionBytes, Numeral.exponentBytes, Numeral.ofInt,
      Digits.ofNat]
  rw [hbytes, Numeral.signBytes, writeInt]
  by_cases hn : n < 0
  · simp only [if_pos hn, Numeral.ofInt, decide_eq_true hn, if_true]
    rfl
  · simp only [if_neg hn, Numeral.ofInt, decide_eq_false hn]
    rfl

/-- A whole number that fits 64 bits is read as it was written. -/
theorem readNumber_writeInt {n : Int} (hlo : -(Nat.pow 2 63 : Int) ≤ n) (hhi : n ≤ wordMax)
    (h : Stops rest) : readNumber (charsBytes (writeInt n) ++ rest) = .ok (.whole n, rest) := by
  have hmax : wordMax = 18446744073709551615 := rfl
  have hmin : Nat.pow 2 63 = 9223372036854775808 := rfl
  have hvalue : (Numeral.ofInt n).whole.value = n.natAbs := Digits.value_ofNat n.natAbs
  have hfits : (Numeral.ofInt n).whole.value ≤ wordMax := by omega
  have hwhole : toWhole (decide (n < 0)) n.natAbs = .whole n := by
    unfold toWhole
    split
    · next hn =>
      have hneg : n < 0 := of_decide_eq_true hn
      rw [if_pos (by omega)]
      congr 1
      omega
    · next hn =>
      have hpos : ¬ n < 0 := by simpa using hn
      congr 1
      omega
  rw [charsBytes_writeInt, readNumber_plain _ rfl rfl hfits h, hvalue]
  exact congrArg (fun x => Except.ok (x, rest)) hwhole

end LoraBridge.Json
