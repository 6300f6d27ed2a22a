import LoraBridge.Text.Utf8

/-! # The bytes of characters

  - `charsBytes` is the UTF-8 writing of some characters, one after the other.
  - Characters of ASCII are single bytes, and the bytes of all others are beyond those.
  - `forall_byte`: there are few enough bytes to look at each of them.
  - Digits are characters of ASCII, and numbers are written in digits.
-/

namespace LoraBridge.Text

variable {c : Char} {b : UInt8}

/-- The UTF-8 writing of some characters. -/
def charsBytes (cs : List Char) : Bytes := cs.flatMap String.utf8EncodeChar

@[simp] theorem charsBytes_nil : charsBytes [] = [] := rfl

@[simp] theorem charsBytes_cons (c : Char) (cs : List Char) :
    charsBytes (c :: cs) = String.utf8EncodeChar c ++ charsBytes cs := rfl

@[simp] theorem charsBytes_append (cs ds : List Char) :
    charsBytes (cs ++ ds) = charsBytes cs ++ charsBytes ds :=
  List.flatMap_append

theorem bytes_eq (s : String) : bytes s = charsBytes s.toList := rfl

theorem bytes_ofList (cs : List Char) : bytes (String.ofList cs) = charsBytes cs := by
  rw [bytes_eq, String.toList_ofList]

/-- What was written is read back. -/
theorem ofBytes?_charsBytes (cs : List Char) :
    ofBytes? (charsBytes cs) = some (String.ofList cs) := by
  rw [← bytes_ofList, ofBytes?_bytes]

theorem bytes_inj {s t : String} : bytes s = bytes t ↔ s = t := by
  refine ⟨fun h => ?_, congrArg bytes⟩
  have hs := ofBytes?_bytes s
  rw [h, ofBytes?_bytes] at hs
  exact (Option.some.inj hs).symm

/-! ### Single bytes -/

/-- What holds of the bytes one by one holds of all bytes. -/
theorem forall_byte {p : UInt8 → Prop} (h : ∀ n : Fin 256, p (UInt8.ofNat n)) (b : UInt8) :
    p b := by
  have hb := h ⟨b.toNat, b.toNat_lt⟩
  rwa [UInt8.ofNat_toNat] at hb

theorem utf8EncodeChar_of_lt (h : c.toNat < 128) :
    String.utf8EncodeChar c = [UInt8.ofNat c.toNat] := by
  have hle : c.val.toNat ≤ 127 := Nat.le_of_lt_succ h
  simp only [String.utf8EncodeChar, hle, if_true]
  rfl

/-- The bytes of all other characters are beyond those of ASCII. -/
theorem le_of_mem_utf8EncodeChar (hc : ¬ c.toNat < 128) (h : b ∈ String.utf8EncodeChar c) :
    128 ≤ b.toNat := by
  have hgt : ¬ c.val.toNat ≤ 127 := fun hle => hc (Nat.lt_succ_of_le hle)
  simp only [String.utf8EncodeChar, hgt, if_false] at h
  split at h
  · simp only [List.mem_cons, List.not_mem_nil, or_false] at h
    rcases h with rfl | rfl <;> (rw [UInt8.toNat_ofNat']; omega)
  · split at h
    · simp only [List.mem_cons, List.not_mem_nil, or_false] at h
      rcases h with rfl | rfl | rfl <;> (rw [UInt8.toNat_ofNat']; omega)
    · simp only [List.mem_cons, List.not_mem_nil, or_false] at h
      rcases h with rfl | rfl | rfl | rfl <;> (rw [UInt8.toNat_ofNat']; omega)

/-- A byte of ASCII as a character. -/
theorem utf8EncodeChar_ofNat (h : b.toNat < 128) :
    String.utf8EncodeChar (Char.ofNat b.toNat) = [b] := by
  have hall : ∀ n : Fin 128, String.utf8EncodeChar (Char.ofNat n) = [UInt8.ofNat n] := by decide
  have hb := hall ⟨b.toNat, h⟩
  rwa [UInt8.ofNat_toNat] at hb

/-! ### Digits -/

theorem toNat_of_isDigit {c : Char} (h : c.isDigit = true) : 48 ≤ c.toNat ∧ c.toNat ≤ 57 := by
  simpa [Char.isDigit, UInt32.le_iff_toNat_le] using h

theorem utf8EncodeChar_digit {c : Char} (h : c.isDigit = true) :
    String.utf8EncodeChar c = [UInt8.ofNat c.toNat] :=
  utf8EncodeChar_of_lt (by have := toNat_of_isDigit h; omega)

/-- The byte of a digit and the digit have one value. -/
theorem toNat_digit {c : Char} (h : c.isDigit = true) : (UInt8.ofNat c.toNat).toNat = c.toNat := by
  have := toNat_of_isDigit h
  rw [UInt8.toNat_ofNat']
  omega

theorem charsBytes_digits {cs : List Char} (h : ∀ c ∈ cs, c.isDigit = true) :
    charsBytes cs = cs.map fun c => UInt8.ofNat c.toNat := by
  induction cs with
  | nil => rfl
  | cons c cs ih =>
    obtain ⟨hc, hcs⟩ := List.forall_mem_cons.mp h
    rw [charsBytes_cons, utf8EncodeChar_digit hc, ih hcs]
    rfl

theorem isDigit_toDigits (n : Nat) : ∀ c ∈ Nat.toDigits 10 n, c.isDigit = true :=
  fun _ hc => Nat.isDigit_of_mem_toDigits (by decide) (by decide) hc

/-- A number above zero does not begin with a zero. -/
theorem head?_toDigits (n : Nat) (h : 0 < n) : (Nat.toDigits 10 n).head? ≠ some '0' := by
  induction n using Nat.strongRecOn with
  | ind n ih =>
    by_cases hn : n < 10
    · have hall : ∀ m : Fin 10, 0 < m.val → (Nat.toDigits 10 m).head? ≠ some '0' := by decide
      exact hall ⟨n, hn⟩ h
    · rw [Nat.toDigits_of_base_le (by decide) (Nat.le_of_not_lt hn)]
      have hshorter := ih (n / 10) (by omega) (by omega)
      rw [List.head?_append, Option.or_of_isSome (by simp [Nat.toDigits_ne_nil])]
      exact hshorter

end LoraBridge.Text
