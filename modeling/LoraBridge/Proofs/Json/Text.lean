import LoraBridge.Proofs.Json.Reading
import LoraBridge.Proofs.Utf8

/-! # Reading texts

  The reader of texts goes from piece to piece and puts down the bytes of the characters that they
  stand for. What `escape` writes is made of pieces, so it is read back.

  - `readText_pieces`: pieces before a closing quote are read as the text that they write, or
    refused if they write none.
  - `charsBytes_escape`: what is written for a text writes that text.
-/

namespace LoraBridge.Json

open Text (charsBytes)

variable {read rest s : Bytes} {a b c d e f g h : UInt8} {n m : Nat} {pieces : List Piece}

/-! ### Single steps of the reader -/

section

attribute [local simp] readTextBytes

theorem readTextBytes_quote : readTextBytes read (34 :: rest) = .ok (read.reverse, rest) := by
  simp

theorem readTextBytes_byte (hquote : b ≠ 34) (hbackslash : b ≠ 92) (hcontrol : ¬ b < 32) :
    readTextBytes read (b :: rest) = readTextBytes (b :: read) rest := by
  simp [hbackslash, hcontrol]

theorem readTextBytes_short (hshort : shortEscape? e = some b) :
    readTextBytes read (92 :: e :: rest) = readTextBytes (b :: read) rest := by
  have hne : e ≠ 117 := by
    rintro rfl
    cases hshort
  simp [hshort, hne]

theorem readTextBytes_word (hword : hexWord? a b c d = some n) (hlow : isLowHalf n = false)
    (hhigh : isHighHalf n = false) :
    readTextBytes read (92 :: 117 :: a :: b :: c :: d :: rest) =
      readTextBytes (reversedBytes n ++ read) rest := by
  simp [hword, hlow, hhigh]

theorem readTextBytes_low (hword : hexWord? a b c d = some n) (hlow : isLowHalf n = true) :
    readTextBytes read (92 :: 117 :: a :: b :: c :: d :: rest) = .error .loneSurrogate := by
  simp [hword, hlow]

theorem readTextBytes_halves (hword : hexWord? a b c d = some n) (hlow : isLowHalf n = false)
    (hhigh : isHighHalf n = true) (hword' : hexWord? e f g h = some m) :
    readTextBytes read (92 :: 117 :: a :: b :: c :: d :: 92 :: 117 :: e :: f :: g :: h :: rest) =
      if isLowHalf m then
        readTextBytes (reversedBytes ((n - 0xD800) * 1024 + (m - 0xDC00) + 0x10000) ++ read) rest
      else .error .loneSurrogate := by
  simp [hword, hlow, hhigh, hword']

/-- The first half of a character is refused where no other word follows. -/
theorem readTextBytes_alone (hword : hexWord? a b c d = some n) (hhigh : isHighHalf n = true)
    (hrest : ∀ e f g h more, rest ≠ 92 :: 117 :: e :: f :: g :: h :: more) :
    (readTextBytes read (92 :: 117 :: a :: b :: c :: d :: rest)).toOption = none := by
  rw [readTextBytes]
  simp only [hword, hhigh, if_true]
  split
  · rfl
  · split
    · rfl
    · rfl
    · next e f g h more => exact absurd rfl (hrest e f g h more)
    · rfl
    · rfl

end

/-! ### Pieces -/

theorem readTextBytes_bytes (hs : ∀ b ∈ s, b ≠ 34 ∧ b ≠ 92 ∧ ¬ b < 32) (read rest : Bytes) :
    readTextBytes read (s ++ rest) = readTextBytes (s.reverse ++ read) rest := by
  induction s generalizing read with
  | nil => rfl
  | cons b s ih =>
    obtain ⟨⟨hquote, hbackslash, hcontrol⟩, hs⟩ := List.forall_mem_cons.mp hs
    rw [List.cons_append, readTextBytes_byte hquote hbackslash hcontrol, ih hs]
    simp

/-- No byte of a character that stands for itself has a meaning in texts. -/
theorem plain_bytes {c : Char} (hc : c ≠ '"' ∧ c ≠ '\\' ∧ 32 ≤ c.toNat)
    (hb : b ∈ String.utf8EncodeChar c) : b ≠ 34 ∧ b ≠ 92 ∧ ¬ b < 32 := by
  obtain ⟨hquote, hbackslash, hcontrol⟩ := hc
  by_cases hascii : c.toNat < 128
  · rw [Text.utf8EncodeChar_of_lt hascii, List.mem_singleton] at hb
    have hval : b.toNat = c.toNat := by
      rw [hb, UInt8.toNat_ofNat']
      omega
    have hne : ∀ d : Char, c ≠ d → c.toNat ≠ d.toNat := fun d hd h => hd (Char.toNat_inj.mp h)
    have hquote' : c.toNat ≠ 34 := hne '"' hquote
    have hbackslash' : c.toNat ≠ 92 := hne '\\' hbackslash
    refine ⟨?_, ?_, ?_⟩
    · rintro rfl
      exact hquote' hval.symm
    · rintro rfl
      exact hbackslash' hval.symm
    · rw [UInt8.lt_iff_toNat_lt, hval]
      exact Nat.not_lt.mpr hcontrol
  · have hb' := Text.le_of_mem_utf8EncodeChar hascii hb
    refine ⟨?_, ?_, ?_⟩
    · rintro rfl
      exact absurd hb' (by decide)
    · rintro rfl
      exact absurd hb' (by decide)
    · rw [UInt8.lt_iff_toNat_lt]
      exact fun h => absurd (Nat.lt_of_le_of_lt hb' h) (by decide)

/-- The characters with a short escape are characters of ASCII. -/
theorem utf8EncodeChar_short (hshort : shortEscape? e = some b) :
    String.utf8EncodeChar (Char.ofNat b.toNat) = [b] := by
  have hall : ∀ e, ((shortEscape? e).all fun b => decide (b.toNat < 128)) = true :=
    Text.forall_byte (by decide +kernel)
  exact Text.utf8EncodeChar_ofNat (by simpa [hshort] using hall e)

/-- Pieces that begin with no word do not look like one. -/
theorem pieces_ne_word (hpieces : ∀ a b c d n h more, pieces ≠ .word a b c d n h :: more)
    (rest : Bytes) (e f g h : UInt8) (more : Bytes) :
    piecesBytes pieces ++ 34 :: rest ≠ 92 :: 117 :: e :: f :: g :: h :: more := by
  intro heq
  match pieces with
  | [] =>
    have hhead := (List.cons.inj heq).1
    revert hhead
    decide
  | .plain c hc :: pieces =>
    have hne : String.utf8EncodeChar c ≠ [] := String.utf8EncodeChar_ne_nil
    obtain ⟨b, more', hb⟩ := List.exists_cons_of_ne_nil hne
    have hplain := plain_bytes hc (b := b) (by rw [hb]; exact List.mem_cons_self)
    simp only [piecesBytes, List.flatMap_cons, Piece.bytes, hb, List.cons_append] at heq
    exact hplain.2.1 (List.cons.inj heq).1
  | .short letter code hshort :: pieces =>
    simp only [piecesBytes, List.flatMap_cons, Piece.bytes, List.cons_append] at heq
    obtain rfl : letter = 117 := (List.cons.inj (List.cons.inj heq).2).1
    cases hshort
  | .word a b c d n hn :: pieces => exact hpieces a b c d n hn pieces rfl

theorem piecesBytes_word (hword : hexWord? a b c d = some n) (rest : Bytes) :
    piecesBytes (.word a b c d n hword :: pieces) ++ rest =
      92 :: 117 :: a :: b :: c :: d :: (piecesBytes pieces ++ rest) := by
  simp [piecesBytes, Piece.bytes]

/-- The reader of texts puts down the characters that pieces stand for. -/
theorem readTextBytes_pieces (read : Bytes) (pieces : List Piece) (rest : Bytes) :
    (readTextBytes read (piecesBytes pieces ++ 34 :: rest)).toOption =
      (chars? pieces).map fun cs => (read.reverse ++ charsBytes cs, rest) := by
  induction pieces using chars?.induct generalizing read with
  | case1 => simp [piecesBytes, readTextBytes_quote, chars?, Except.toOption]
  | case2 c hc pieces ih =>
    have hstep := readTextBytes_bytes (fun b hb => plain_bytes hc hb) read
      (piecesBytes pieces ++ 34 :: rest)
    simp only [piecesBytes, List.flatMap_cons, Piece.bytes, List.append_assoc] at hstep ⊢
    rw [hstep, ← piecesBytes, ih, chars?]
    cases chars? pieces <;> simp
  | case3 letter code hshort pieces ih =>
    have hstep : readTextBytes read (92 :: letter :: (piecesBytes pieces ++ 34 :: rest)) =
        readTextBytes (code :: read) (piecesBytes pieces ++ 34 :: rest) :=
      readTextBytes_short hshort
    simp only [piecesBytes, List.flatMap_cons, Piece.bytes, List.cons_append, List.nil_append]
      at hstep ⊢
    rw [hstep, ← piecesBytes, ih, chars?]
    cases chars? pieces <;> simp [utf8EncodeChar_short hshort]
  | case4 a b c d n hword pieces hlow =>
    rw [piecesBytes_word, chars?.eq_def, readTextBytes_low hword hlow]
    simp [hlow, Except.toOption]
  | case5 a b c d n hword hlow hhigh e f g h m hword' pieces hlow' ih =>
    -- two halves make one character
    simp only [Bool.not_eq_true] at hlow
    rw [piecesBytes_word, piecesBytes_word, chars?.eq_def,
      readTextBytes_halves hword hlow hhigh hword', if_pos hlow', ih]
    cases hcs : chars? pieces <;> simp [hlow, hhigh, hlow', hcs, reversedBytes, joinHalves]
  | case6 a b c d n hword hlow hhigh e f g h m hword' pieces hlow' =>
    simp only [Bool.not_eq_true] at hlow
    rw [piecesBytes_word, piecesBytes_word, chars?.eq_def,
      readTextBytes_halves hword hlow hhigh hword', if_neg hlow']
    simp [hlow, hhigh, hlow', Except.toOption]
  | case7 a b c d n hword pieces hlow hhigh hother =>
    -- the first half is alone
    have hrest := pieces_ne_word hother rest
    rw [piecesBytes_word, chars?.eq_def, readTextBytes_alone hword hhigh hrest]
    simp [hlow, hhigh]
  | case8 a b c d n hword pieces hlow hhigh ih =>
    simp only [Bool.not_eq_true] at hlow hhigh
    rw [piecesBytes_word, chars?.eq_def, readTextBytes_word hword hlow hhigh, ih]
    cases hcs : chars? pieces <;> simp [hlow, hhigh, hcs, reversedBytes]

/-- The reader of texts reads what pieces write. -/
theorem readText_pieces (pieces : List Piece) (rest : Bytes) :
    (readText (piecesBytes pieces ++ 34 :: rest)).toOption =
      (text? pieces).map fun t => (t, rest) := by
  have hbytes := readTextBytes_pieces [] pieces rest
  rw [readText, toOption_bind, hbytes, text?]
  cases chars? pieces with
  | none => rfl
  | some cs => simp [Text.ofBytes?_charsBytes, Except.toOption]

/-! ### Texts that are written -/

/-- A digit in base sixteen as a byte. -/
def hexDigitByte (n : Nat) : UInt8 := UInt8.ofNat (Nat.digitChar n).toNat

theorem hexWord?_control (hn : n < 32) :
    hexWord? 48 48 (hexDigitByte (n / 16)) (hexDigitByte (n % 16)) = some n := by
  have hall : ∀ n : Fin 32,
      hexWord? 48 48 (hexDigitByte (n / 16)) (hexDigitByte (n % 16)) = some n.val := by decide
  exact hall ⟨n, hn⟩

/-- The piece that is written for a character. -/
def pieceOf (c : Char) : Piece :=
  if hquote : c = '"' then .short 34 34 rfl
  else if hbackslash : c = '\\' then .short 92 92 rfl
  else if c = '\x08' then .short 98 8 rfl
  else if c = '\x0c' then .short 102 12 rfl
  else if c = '\n' then .short 110 10 rfl
  else if c = '\r' then .short 114 13 rfl
  else if c = '\t' then .short 116 9 rfl
  else if hcontrol : c.toNat < 32 then
    .word 48 48 (hexDigitByte (c.toNat / 16)) (hexDigitByte (c.toNat % 16)) c.toNat
      (hexWord?_control hcontrol)
  else .plain c ⟨hquote, hbackslash, Nat.le_of_not_lt hcontrol⟩

theorem bytes_pieceOf (c : Char) : (pieceOf c).bytes = charsBytes (escapeChar c) := by
  have hcontrol : ∀ n : Fin 32,
      charsBytes ('\\' :: 'u' :: '0' :: '0' :: twoHexDigits n) =
        [92, 117, 48, 48, hexDigitByte (n / 16), hexDigitByte (n % 16)] := by decide
  unfold pieceOf escapeChar
  -- the characters with a short escape
  iterate 7
    split
    · rfl
  split
  · next h => exact (hcontrol ⟨c.toNat, h⟩).symm
  · simp [Piece.bytes]

theorem chars?_pieceOf (c : Char) (pieces : List Piece) :
    chars? (pieceOf c :: pieces) = (chars? pieces).map (c :: ·) := by
  unfold pieceOf
  -- the characters with a short escape
  iterate 7
    split
    · next h =>
      rw [h]
      rfl
  split
  · next h =>
    have hlow : isLowHalf c.toNat = false := by simp [isLowHalf]; omega
    have hhigh : isHighHalf c.toNat = false := by simp [isHighHalf]; omega
    rw [chars?.eq_def]
    simp [hlow, hhigh, Char.ofNat_toNat]
  · rfl

/-- The pieces that are written for a text. -/
def piecesOf (s : String) : List Piece := s.toList.map pieceOf

theorem piecesBytes_piecesOf (s : String) :
    piecesBytes (piecesOf s) = charsBytes (s.toList.flatMap escapeChar) := by
  unfold piecesOf
  induction s.toList with
  | nil => rfl
  | cons c cs ih =>
    rw [List.map_cons, List.flatMap_cons, Text.charsBytes_append, ← bytes_pieceOf, ← ih]
    rfl

@[simp] theorem text?_piecesOf (s : String) : text? (piecesOf s) = some s := by
  have hchars : chars? (piecesOf s) = some s.toList := by
    unfold piecesOf
    induction s.toList with
    | nil => rfl
    | cons c cs ih => rw [List.map_cons, chars?_pieceOf, ih]; rfl
  rw [text?, hchars, Option.map_some, String.ofList_toList]

/-- A text with its quotes is written in pieces. -/
theorem charsBytes_escape (s : String) :
    charsBytes (escape s) = 34 :: piecesBytes (piecesOf s) ++ [34] := by
  have hquote : String.utf8EncodeChar '"' = [34] := by decide
  simp [escape, piecesBytes_piecesOf, hquote]

end LoraBridge.Json
