import LoraBridge.Proofs.Base64
import LoraBridge.Proofs.Instant
import LoraBridge.Proofs.Json.Skip

/-! # Reading values of a known type

  What a value is can be told from its first byte, and every reader looks at it first. So each
  reader takes the values of its type, whichever way they are written, and refuses all others.

  - `readTextAs_value`, `readBool_value`, `readUInt8_value` and `readData_value` say what is read
    for a value that stands in a document.
  - The lemmas of the last sections say that what was written is read back.
-/

namespace LoraBridge.Json

open Text (charsBytes)

variable {α β : Type} {read : Reader α} {text rest s : Bytes} {b : UInt8}

/-! ### Space -/

theorem readTextAs_skipsSpace (expected : String) : SkipsSpace (readTextAs expected) := fun s => by
  rw [readTextAs, skipSpace_skipSpace, readTextAs]

theorem readBool_skipsSpace : SkipsSpace readBool := fun s => by
  rw [readBool, skipSpace_skipSpace, readBool]

theorem readWhole_skipsSpace (lo hi : Int) (expected : String) :
    SkipsSpace (readWhole lo hi expected) := fun s => by
  rw [readWhole, skipSpace_skipSpace, readWhole]

theorem readReal_skipsSpace : SkipsSpace readReal := fun s => by
  rw [readReal, skipSpace_skipSpace, readReal]

theorem readOption_skipsSpace (read : Reader α) : SkipsSpace (readOption read) := fun s => by
  rw [readOption, skipSpace_skipSpace, readOption]

theorem readData_skipsSpace : SkipsSpace readData := fun s => by
  rw [readData, readOption_skipsSpace, readData]

theorem readList_skipsSpace (read : Reader α) : SkipsSpace (readList read) := fun s => by
  rw [readList, skipSpace_skipSpace, readList]

/-- What is done with the value of a reader does not change what it does with space. -/
theorem SkipsSpace.map {β : Type} (h : SkipsSpace read) (f : α × Bytes → β × Bytes) :
    SkipsSpace fun s => (read s).map f := fun s => by
  simp only [h s]

theorem readUInt8_skipsSpace : SkipsSpace readUInt8 := (readWhole_skipsSpace _ _ _).map _

theorem readUInt32_skipsSpace : SkipsSpace readUInt32 := (readWhole_skipsSpace _ _ _).map _

theorem readInt32_skipsSpace : SkipsSpace readInt32 := (readWhole_skipsSpace _ _ _).map _

theorem readInt64_skipsSpace : SkipsSpace readInt64 := (readWhole_skipsSpace _ _ _).map _

/-! ### What a value is by its first byte -/

namespace Value.Begins

variable {v : Value}

theorem eq_text (h : v.Begins 34) : ∃ pieces, v = .text pieces := by
  cases v with
  | text pieces => exact ⟨pieces, rfl⟩
  | boolean t => cases t <;> cases h
  | number n => rcases h with h | h <;> cases h
  | null | list _ _ | object _ _ => cases h

theorem eq_null (h : v.Begins 110) : v = .null := by
  cases v with
  | null => rfl
  | boolean t => cases t <;> cases h
  | number n => rcases h with h | h <;> cases h
  | text _ | list _ _ | object _ _ => cases h

theorem eq_boolean (h : v.Begins 116 ∨ v.Begins 102) : ∃ t, v = .boolean t := by
  cases v with
  | boolean t => exact ⟨t, rfl⟩
  | number n => rcases h with (h | h) | (h | h) <;> cases h
  | null | text _ | list _ _ | object _ _ => rcases h with h | h <;> cases h

theorem eq_number (h : v.Begins b) (hb : b = 45 ∨ isDigit b = true) : ∃ n, v = .number n := by
  cases v with
  | number n => exact ⟨n, rfl⟩
  | boolean t => cases t <;> (cases h; rcases hb with h | h <;> cases h)
  | null | text _ | list _ _ | object _ _ => cases h; rcases hb with h | h <;> cases h

theorem eq_list (h : v.Begins 91) : ∃ inner elements, v = .list inner elements := by
  cases v with
  | list inner elements => exact ⟨inner, elements, rfl⟩
  | boolean t => cases t <;> cases h
  | number n => rcases h with h | h <;> cases h
  | null | text _ | object _ _ => cases h

theorem eq_object (h : v.Begins 123) : ∃ inner members, v = .object inner members := by
  cases v with
  | object inner members => exact ⟨inner, members, rfl⟩
  | boolean t => cases t <;> cases h
  | number n => rcases h with h | h <;> cases h
  | null | text _ | list _ _ => cases h

end Value.Begins

/-- What is refused at its first byte. -/
theorem gives_none {v : Value}
    (h : ∀ b s, Skip.isSpace b = false → v.Begins b → (read (b :: s)).toOption = none) :
    Gives read v.bytes none := by
  intro rest _
  obtain ⟨b, more, hcons, hb⟩ := v.exists_begins
  rw [hcons, List.cons_append, h b _ hb.isSpace.1 hb]
  rfl

/-! ### Texts -/

/-- The text that a value is. -/
def Value.string? : Value → Option String
  | .text pieces => Json.text? pieces
  | _ => none

theorem readTextAs_value (expected : String) (v : Value) :
    Gives (readTextAs expected) v.bytes v.string? := by
  by_cases htext : ∃ pieces, v = .text pieces
  · obtain ⟨pieces, rfl⟩ := htext
    intro rest _
    have hbytes : (Value.text pieces).bytes ++ rest = 34 :: (piecesBytes pieces ++ 34 :: rest) := by
      simp [Value.bytes]
    have hspace : Skip.isSpace 34 = false := by decide
    rw [hbytes, readTextAs, skipSpace_cons hspace]
    exact readText_pieces pieces rest
  · have hnone : v.string? = none := by
      cases v with
      | text pieces => exact absurd ⟨pieces, rfl⟩ htext
      | null | boolean _ | number _ | list _ _ | object _ _ => rfl
    rw [hnone]
    refine gives_none fun b s hspace hb => ?_
    rw [readTextAs, skipSpace_cons hspace]
    split
    · next heq =>
      rw [(List.cons.inj heq).1] at hb
      exact absurd hb.eq_text htext
    · rfl

/-! ### Truth values -/

theorem readIdent_append (tail rest : Bytes) : readIdent tail (tail ++ rest) = .ok rest := by
  induction tail with
  | nil => rfl
  | cons c tail ih => rw [List.cons_append, readIdent, if_pos rfl, ih]

/-- The truth value that a value is. -/
def Value.truth? : Value → Option Bool
  | .boolean t => some t
  | _ => none

theorem readBool_value (v : Value) : Gives readBool v.bytes v.truth? := by
  by_cases hboolean : ∃ t, v = .boolean t
  · obtain ⟨t, rfl⟩ := hboolean
    intro rest _
    cases t with
    | true =>
      have hread : readBool (116 :: (trueTail ++ rest)) = .ok (true, rest) := by
        rw [readBool, skipSpace_cons (by decide)]
        simp only [readIdent_append]
        rfl
      exact congrArg Except.toOption hread
    | false =>
      have hread : readBool (102 :: (falseTail ++ rest)) = .ok (false, rest) := by
        rw [readBool, skipSpace_cons (by decide)]
        simp only [readIdent_append]
        rfl
      exact congrArg Except.toOption hread
  · have hnone : v.truth? = none := by
      cases v with
      | boolean t => exact absurd ⟨t, rfl⟩ hboolean
      | null | text _ | number _ | list _ _ | object _ _ => rfl
    rw [hnone]
    refine gives_none fun b s hspace hb => ?_
    rw [readBool, skipSpace_cons hspace]
    split
    · next heq =>
      rw [(List.cons.inj heq).1] at hb
      exact absurd (Value.Begins.eq_boolean (.inl hb)) hboolean
    · next heq =>
      rw [(List.cons.inj heq).1] at hb
      exact absurd (Value.Begins.eq_boolean (.inr hb)) hboolean
    · rfl

/-! ### Whole numbers -/

theorem atNumber_cons (hb : b = 45 ∨ isDigit b = true) : atNumber (b :: s) = true := by
  simpa [atNumber] using hb

/-- A whole number between the bounds is taken. -/
theorem readWhole_of_whole {lo hi n : Int} {expected : String} (hb : b = 45 ∨ isDigit b = true)
    (hspace : Skip.isSpace b = false) (hread : readNumber (b :: s) = .ok (.whole n, rest)) :
    (readWhole lo hi expected (b :: s)).toOption =
      if lo ≤ n ∧ n ≤ hi then some (n, rest) else none := by
  rw [readWhole, skipSpace_cons hspace]
  simp only [atNumber_cons hb, if_true, hread, bind, Except.bind]
  split <;> rfl

/-- Every other number is refused. -/
theorem readWhole_of_ne_whole {lo hi : Int} {expected : String} (hb : b = 45 ∨ isDigit b = true)
    (hspace : Skip.isSpace b = false) (hread : ∀ n r, readNumber (b :: s) ≠ .ok (.whole n, r)) :
    (readWhole lo hi expected (b :: s)).toOption = none := by
  rw [readWhole, skipSpace_cons hspace]
  simp only [atNumber_cons hb, if_true, bind, Except.bind]
  split
  · rfl
  · next p heq =>
    obtain ⟨x, r⟩ := p
    cases x with
    | real x => rfl
    | whole n => exact absurd heq (hread n r)

/-- The number of eight bits that a value is: digits alone, and not too many. -/
def Value.byte? : Value → Option UInt8
  | .number n =>
    if n.negative = false ∧ n.fraction?.isNone ∧ n.exponent?.isNone ∧ n.whole.value ≤ 255 then
      some (UInt8.ofNat n.whole.value)
    else none
  | _ => none

theorem readWhole_numeral (hi : Nat) (hhi : hi ≤ wordMax) (expected : String) (n : Numeral)
    (h : Stops rest) :
    (readWhole 0 hi expected (n.bytes ++ rest)).toOption =
      if n.negative = false ∧ n.fraction?.isNone ∧ n.exponent?.isNone ∧ n.whole.value ≤ hi
      then some ((n.whole.value : Int), rest) else none := by
  obtain ⟨b, more, hcons, hb⟩ := n.exists_cons
  have hspace : Skip.isSpace b = false :=
    (Value.Begins.isSpace (v := .number n) (b := b) hb).1
  have hbytes : n.bytes ++ rest = b :: (more ++ rest) := by rw [hcons, List.cons_append]
  by_cases hplain : n.fraction? = none ∧ n.exponent? = none ∧ n.whole.value ≤ wordMax
  · obtain ⟨hfraction, hexponent, hfits⟩ := hplain
    have hread := readNumber_plain n hfraction hexponent hfits h
    rw [hbytes] at hread ⊢
    cases hnegative : n.negative with
    | false =>
      rw [hnegative, toWhole, if_neg (by decide)] at hread
      rw [readWhole_of_whole hb hspace hread]
      simp [hfraction, hexponent]
    | true =>
      -- a sign makes the number too small, and of zero a double
      have hnone : (readWhole 0 hi expected (b :: (more ++ rest))).toOption = none := by
        rw [hnegative, toWhole, if_pos rfl] at hread
        split at hread
        · next hrange =>
          rw [readWhole_of_whole hb hspace hread, if_neg (by omega)]
        · refine readWhole_of_ne_whole hb hspace fun k r => ?_
          rw [hread]
          simp
      rw [hnone]
      simp
  · -- all other numbers are doubles
    rw [hbytes, readWhole_of_ne_whole hb hspace, if_neg]
    · rintro ⟨-, hfraction, hexponent, hle⟩
      exact hplain ⟨by simpa using hfraction, by simpa using hexponent, by omega⟩
    · intro k r
      rw [← hbytes]
      refine readNumber_ne_whole n ?_ h k r
      by_cases hfraction : n.fraction? = none
      · by_cases hexponent : n.exponent? = none
        · exact .inr (.inr (Nat.lt_of_not_le fun hfits => hplain ⟨hfraction, hexponent, hfits⟩))
        · exact .inr (.inl hexponent)
      · exact .inl hfraction

theorem readUInt8_value (v : Value) : Gives readUInt8 v.bytes v.byte? := by
  by_cases hnumber : ∃ n, v = .number n
  · obtain ⟨n, rfl⟩ := hnumber
    intro rest h
    have hread := readWhole_numeral 255 (by decide) "u8" n h
    rw [readUInt8, toOption_map, Value.byte?]
    refine (congrArg _ hread).trans ?_
    split <;> rfl
  · have hnone : v.byte? = none := by
      cases v with
      | number n => exact absurd ⟨n, rfl⟩ hnumber
      | null | boolean _ | text _ | list _ _ | object _ _ => rfl
    rw [hnone]
    refine gives_none fun b s hspace hb => ?_
    have hat : atNumber (b :: s) = false :=
      Bool.eq_false_iff.mpr fun hat => hnumber (hb.eq_number (by simpa [atNumber] using hat))
    rw [readUInt8, toOption_map, readWhole, skipSpace_cons hspace]
    simp [hat, Except.toOption]

/-! ### Optional values -/

theorem readOption_null (read : Reader α) :
    Gives (readOption read) Value.null.bytes (some none) := by
  intro rest _
  have hread : readOption read (110 :: (nullTail ++ rest)) = .ok (none, rest) := by
    rw [readOption, skipSpace_cons (by decide)]
    simp only [readIdent_append]
    rfl
  exact congrArg Except.toOption hread

/-- What is not `null` is read as it is. -/
theorem Gives.option {a? : Option α} (h : Gives read text a?)
    (htext : ∃ b more, text = b :: more ∧ Skip.isSpace b = false ∧ b ≠ 110) :
    Gives (readOption read) text (a?.map some) := by
  obtain ⟨b, more, rfl, hspace, hb⟩ := htext
  intro rest hrest
  have hread := h rest hrest
  rw [List.cons_append] at hread ⊢
  rw [readOption, skipSpace_cons hspace]
  split
  · next heq => exact absurd (List.cons.inj heq).1 hb
  · rw [toOption_bind, hread]
    cases a? <;> rfl

/-! ### Frame data -/

/-- The frame data that a value is: `null` is none. -/
def Value.frameData? : Value → Option Bytes
  | .null => some []
  | .text pieces => (Json.text? pieces).bind fun t => (Base64.decode (Text.bytes t)).toOption
  | _ => none

theorem readData_eq (s : Bytes) : (readData s).toOption =
    (readOption readString s).toOption.bind fun p =>
      (p.1.elim (some []) fun t => (Base64.decode (Text.bytes t)).toOption).map
        fun b => (b, p.2) := by
  rw [readData, toOption_bind]
  refine congrArg _ (funext fun p => ?_)
  obtain ⟨t, rest⟩ := p
  cases t with
  | none => rfl
  | some t =>
    simp only [Option.elim]
    cases Base64.decode (Text.bytes t) <;> rfl

theorem readData_value (v : Value) : Gives readData v.bytes v.frameData? := by
  by_cases hnull : v = .null
  · subst hnull
    intro rest h
    rw [readData_eq, readOption_null readString rest h]
    rfl
  · intro rest h
    have hbegins : ∃ b more, v.bytes = b :: more ∧ Skip.isSpace b = false ∧ b ≠ 110 := by
      obtain ⟨b, more, hcons, hb⟩ := v.exists_begins
      refine ⟨b, more, hcons, hb.isSpace.1, ?_⟩
      rintro rfl
      exact hnull hb.eq_null
    have hread := (readTextAs_value "a string" v).option hbegins rest h
    rw [readData_eq, show readString = readTextAs "a string" from rfl, hread]
    cases v with
    | null => exact absurd rfl hnull
    | text pieces =>
      simp only [Value.string?, Value.frameData?]
      cases text? pieces <;> rfl
    | boolean _ | number _ | list _ _ | object _ _ => rfl

/-! ### What was written -/

theorem readTextAs_escape (expected : String) (t : String) :
    Gives (readTextAs expected) (charsBytes (escape t)) (some t) := by
  have hread := readTextAs_value expected (.text (piecesOf t))
  rwa [Value.string?, text?_piecesOf, Value.bytes, ← charsBytes_escape] at hread

theorem readBool_writeBool (t : Bool) : Gives readBool (charsBytes (writeBool t)) (some t) := by
  have hbytes : charsBytes (writeBool t) = (Value.boolean t).bytes := by
    cases t <;> decide
  rw [hbytes]
  exact readBool_value (.boolean t)

/-- A whole number between the bounds is read as it was written. -/
theorem readWhole_writeInt (lo hi : Int) {n : Int} (expected : String)
    (hlo : -(Nat.pow 2 63 : Int) ≤ lo) (hhi : hi ≤ wordMax) (hn : lo ≤ n ∧ n ≤ hi) :
    Gives (readWhole lo hi expected) (charsBytes (writeInt n)) (some n) := by
  intro rest h
  have hread := readNumber_writeInt (n := n) (by omega) (by omega) h
  obtain ⟨b, more, hcons, hb⟩ := (Numeral.ofInt n).exists_cons
  have hspace : Skip.isSpace b = false :=
    (Value.Begins.isSpace (v := .number (Numeral.ofInt n)) (b := b) hb).1
  rw [charsBytes_writeInt, hcons, List.cons_append] at hread ⊢
  rw [readWhole_of_whole hb hspace hread, if_pos hn]
  rfl

theorem Gives.map {β : Type} {a? : Option α} (h : Gives read text a?) (f : α → β) :
    Gives (fun s => (read s).map fun p => (f p.1, p.2)) text (a?.map f) := by
  intro rest hrest
  rw [toOption_map, h rest hrest]
  cases a? <;> rfl

theorem writeInt_ofNat (n : Nat) : writeInt n = writeNat n := by
  rw [writeInt, if_neg (by omega)]
  rfl

theorem readUInt8_writeNat (n : UInt8) :
    Gives readUInt8 (charsBytes (writeNat n.toNat)) (some n) := by
  have hn := n.toNat_lt
  have hread : Gives readUInt8 (charsBytes (writeInt n.toNat))
      (some (UInt8.ofNat (n.toNat : Int).toNat)) :=
    (readWhole_writeInt 0 255 "u8" (by decide) (by decide) (by omega)).map
      fun n => UInt8.ofNat n.toNat
  rwa [writeInt_ofNat, Int.toNat_natCast, UInt8.ofNat_toNat] at hread

theorem readUInt32_writeNat (n : UInt32) :
    Gives readUInt32 (charsBytes (writeNat n.toNat)) (some n) := by
  have hn := n.toNat_lt
  have hread : Gives readUInt32 (charsBytes (writeInt n.toNat))
      (some (UInt32.ofNat (n.toNat : Int).toNat)) :=
    (readWhole_writeInt 0 4294967295 "u32" (by decide) (by decide) (by omega)).map
      fun n => UInt32.ofNat n.toNat
  rwa [writeInt_ofNat, Int.toNat_natCast, UInt32.ofNat_toNat] at hread

theorem readInt32_writeInt (n : Int32) :
    Gives readInt32 (charsBytes (writeInt n.toInt)) (some n) := by
  have hlo := n.le_toInt
  have hhi := n.toInt_lt
  have hread : Gives readInt32 (charsBytes (writeInt n.toInt)) (some (Int32.ofInt n.toInt)) :=
    (readWhole_writeInt (-2147483648) 2147483647 "i32" (by decide) (by decide) (by omega)).map
      Int32.ofInt
  rwa [Int32.ofInt_toInt] at hread

theorem readInt64_writeInt (n : Int64) :
    Gives readInt64 (charsBytes (writeInt n.toInt)) (some n) := by
  have hlo := n.le_toInt
  have hhi := n.toInt_lt
  have hread : Gives readInt64 (charsBytes (writeInt n.toInt)) (some (Int64.ofInt n.toInt)) :=
    (readWhole_writeInt (-9223372036854775808) 9223372036854775807 "i64" (by decide) (by decide)
      (by omega)).map Int64.ofInt
  rwa [Int64.ofInt_toInt] at hread

theorem readData_writeData (b : Bytes) : Gives readData (charsBytes (writeData b)) (some b) := by
  have hread := readData_value (.text (piecesOf (Base64.encodeText b)))
  rwa [Value.frameData?, text?_piecesOf, Option.bind_some, Base64.bytes_encodeText,
    Base64.decode_encode, Value.bytes, ← charsBytes_escape] at hread

theorem readInstant_writeInstant (t : Instant) :
    Gives readInstant (charsBytes (writeInstant t)) (some t.normalized) := by
  intro rest h
  have hread := readTextAs_escape "an RFC 3339 formatted date and time string"
    (String.ofList t.render) rest h
  rw [readInstant, toOption_bind, writeInstant, hread]
  simp only [Option.map_some, Option.bind_some, String.toList_ofList, Instant.parse_render,
    toOption_ok]

/-- A double that is read back from its own text is read back wherever that text stands. -/
theorem readReal_of_eq_ok {x : Float} (h : readReal text = .ok (x, [])) :
    Gives readReal text (some x) := by
  intro rest hrest
  obtain ⟨b, more, hcons⟩ : ∃ b more, skipSpace text = b :: more := by
    cases hskip : skipSpace text with
    | nil => simp [readReal, hskip, atNumber] at h
    | cons b more => exact ⟨b, more, rfl⟩
  have hskip : skipSpace (text ++ rest) = b :: more ++ rest := by
    have hdrop : text.dropWhile Skip.isSpace = b :: more := hcons
    rw [skipSpace, List.dropWhile_append, hdrop]
    rfl
  rw [readReal, hcons] at h
  rw [readReal, hskip, List.cons_append]
  by_cases hat : atNumber (b :: more) = true
  · have hat' : atNumber (b :: (more ++ rest)) = true := hat
    rw [if_pos hat] at h
    rw [if_pos hat']
    obtain ⟨⟨n, left⟩, hread, hn⟩ := bind_eq_ok.mp h
    -- the number ends with its text, so what follows makes no difference
    have hlocal := readNumber_isLocal hrest hread
    rw [List.cons_append] at hlocal
    rw [hlocal]
    cases n with
    | real y => cases hn; rfl
    | whole n => cases hn; rfl
  · rw [if_neg hat] at h
    cases h

/-! ### Lists -/

theorem nextElement_end (isFirst : Bool) : nextElement isFirst (93 :: s) = .ok none := by
  rw [nextElement, skipSpace_cons (by decide)]
  rfl

theorem nextElement_first (hspace : Skip.isSpace b = false) (hb : b ≠ 93) :
    nextElement true (b :: s) = .ok (some (b :: s)) := by
  rw [nextElement, skipSpace_cons hspace]
  simp [hb]

theorem nextElement_comma (hspace : Skip.isSpace b = false) (hb : b ≠ 93) :
    nextElement false (44 :: b :: s) = .ok (some (b :: s)) := by
  rw [nextElement, skipSpace_cons (by decide)]
  simp [skipSpace_cons hspace, hb]

theorem endList_bracket : endList (93 :: rest) = .ok rest := by
  rw [endList, skipSpace_cons (by decide)]
  rfl

theorem readElements_end {rounds : Nat} {isFirst : Bool} :
    readElements read (rounds + 1) isFirst (93 :: rest) = .ok ([], rest) := by
  rw [readElements, nextElement_end]
  simp [bind, Except.bind, endList_bracket]

theorem readElements_next {rounds : Nat} {isFirst : Bool} {s' s'' : Bytes} {a? : Option α}
    (hnext : nextElement isFirst s = .ok (some s'))
    (hread : (read s').toOption = a?.map fun a => (a, s'')) :
    (readElements read (rounds + 1) isFirst s).toOption =
      a?.bind fun a => (readElements read rounds false s'').toOption.map fun p =>
        (a :: p.1, p.2) := by
  rw [readElements, hnext]
  simp only [bind, Except.bind]
  cases a? with
  | none =>
    cases hfault : read s' with
    | error f => rfl
    | ok p =>
      rw [hfault] at hread
      cases hread
  | some a =>
    simp only [toOption_eq_some_iff.mp hread]
    cases readElements read rounds false s'' <;> rfl

/-- What an element of a list is written as, and what is read of it: none if it is refused. It does
    not look like the end of the list. -/
def ReturnsElement (read : Reader α) (text : Bytes) (a? : Option α) : Prop :=
  Gives read text a? ∧ ∃ b more, text = b :: more ∧ Skip.isSpace b = false ∧ b ≠ 93

theorem mapM_cons (outcome : β → Option α) (x : β) (xs : List β) :
    (x :: xs).mapM outcome = (outcome x).bind fun a => (xs.mapM outcome).map (a :: ·) := by
  rw [List.mapM_cons]
  cases outcome x with
  | none => rfl
  | some a => cases xs.mapM outcome <;> rfl

/-- Elements up to the end of their list are read one after the other, up to the first that is
    refused. -/
theorem readElements_tail {write : β → Bytes} {outcome : β → Option α} {xs : List β}
    (h : ∀ x ∈ xs, ReturnsElement read (write x) (outcome x)) {rounds : Nat}
    (hrounds : xs.length < rounds) (rest : Bytes) :
    (readElements read rounds false ((xs.map write).flatMap (44 :: ·) ++ 93 :: rest)).toOption =
      (xs.mapM outcome).map fun as => (as, rest) := by
  obtain ⟨rounds, rfl⟩ : ∃ k, rounds = k + 1 := ⟨rounds - 1, by omega⟩
  induction xs generalizing rounds with
  | nil =>
    rw [List.map_nil, List.flatMap_nil, List.nil_append, readElements_end]
    rfl
  | cons x xs ih =>
    obtain ⟨⟨hx, b, more, hcons, hspace, hb⟩, hxs⟩ := List.forall_mem_cons.mp h
    rw [List.length_cons] at hrounds
    obtain ⟨rounds, rfl⟩ : ∃ k, rounds = k + 1 := ⟨rounds - 1, by omega⟩
    have hread := hx _ (Skip.stops_tail (xs.map write) (stops_bracket rest))
    rw [List.map_cons, List.flatMap_cons, List.append_assoc, List.cons_append]
    rw [hcons, List.cons_append] at hread ⊢
    rw [readElements_next (nextElement_comma hspace hb) hread, ih hxs rounds (by omega),
      mapM_cons]
    cases outcome x with
    | none => rfl
    | some a => cases xs.mapM outcome <;> rfl

theorem length_le_tail (parts : List Bytes) :
    parts.length ≤ (parts.flatMap (44 :: ·)).length := by
  induction parts with
  | nil => exact Nat.le_refl 0
  | cons part parts ih =>
    rw [List.flatMap_cons, List.length_append, List.length_cons, List.length_cons]
    omega

/-- There is a byte between any two parts. -/
theorem length_le_separated (parts : List Bytes) :
    parts.length ≤ (separated parts).length + 1 := by
  cases parts with
  | nil => exact Nat.zero_le _
  | cons part parts =>
    have htail := length_le_tail parts
    rw [separated_cons, List.length_append, List.length_cons]
    omega

theorem charsBytes_intercalate (parts : List (List Char)) :
    charsBytes (List.intercalate [','] parts) = separated (parts.map charsBytes) := by
  have hcomma : String.utf8EncodeChar ',' = [44] := by decide
  have htail : ∀ parts : List (List Char), charsBytes (parts.flatMap (',' :: ·)) =
      (parts.map charsBytes).flatMap (44 :: ·) := by
    intro parts
    induction parts with
    | nil => rfl
    | cons part parts ih => simp [hcomma, ih]
  cases parts with
  | nil => rfl
  | cons part parts =>
    rw [intercalate_cons, Text.charsBytes_append, htail, List.map_cons, separated_cons]

/-- What is read of a list that was written: its elements, if none of them is refused. -/
theorem readList_returns {write : β → List Char} {outcome : β → Option α} {xs : List β}
    (h : ∀ x ∈ xs, ReturnsElement read (charsBytes (write x)) (outcome x)) :
    Gives (readList read) (charsBytes (writeList write xs)) (xs.mapM outcome) := by
  intro rest _
  have hbytes : charsBytes (writeList write xs) ++ rest =
      91 :: (separated (xs.map fun x => charsBytes (write x)) ++ 93 :: rest) := by
    have hopen : String.utf8EncodeChar '[' = [91] := by decide
    have hclose : String.utf8EncodeChar ']' = [93] := by decide
    simp [writeList, hopen, hclose, charsBytes_intercalate, Function.comp_def]
  have hspace : Skip.isSpace 91 = false := by decide
  rw [hbytes, readList, skipSpace_cons hspace]
  cases xs with
  | nil => exact congrArg Except.toOption readElements_end
  | cons x xs =>
    obtain ⟨⟨hx, b, more, hcons, hspace, hb⟩, hxs⟩ := List.forall_mem_cons.mp h
    have hread := hx _
      (Skip.stops_tail (xs.map fun x => charsBytes (write x)) (stops_bracket rest))
    have hlength := length_le_tail (xs.map fun x => charsBytes (write x))
    rw [List.length_map] at hlength
    rw [List.map_cons, separated_cons, List.append_assoc]
    rw [hcons, List.cons_append] at hread ⊢
    refine (readElements_next (nextElement_first hspace hb) hread).trans ?_
    rw [readElements_tail hxs, mapM_cons]
    · cases outcome x with
      | none => rfl
      | some a => cases xs.mapM outcome <;> rfl
    · simp only [List.length_cons, List.length_append]
      omega

/-- A list is read element by element, if none of them is refused. -/
theorem readList_writeList {write : α → List Char} {f : α → α} {as : List α}
    (h : ∀ a ∈ as, ReturnsElement read (charsBytes (write a)) (some (f a))) :
    Gives (readList read) (charsBytes (writeList write as)) (some (as.map f)) := by
  have hall : as.mapM (fun a => some (f a)) = some (as.map f) := by
    induction as with
    | nil => rfl
    | cons a as ih =>
      rw [mapM_cons, ih fun a ha => h a (List.mem_cons_of_mem _ ha)]
      rfl
  exact hall ▸ readList_returns h

end LoraBridge.Json
