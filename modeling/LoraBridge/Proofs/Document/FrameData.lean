import LoraBridge.Proofs.Document.RoundTrip

/-! # Frame data as texts

  Frame data stands in documents as a text in Base64. Between lists of bytes and the texts that are
  taken for them there is a bijection: all that can be done differently in Base64 is refused.

  - `Base64.Fills` says which symbols make a text in Base64 together with how much padding.
    `Base64.eq_encode_iff` says that these are the texts that are written.
  - `Base64.Flawed` lists what may be wrong with a text. `Base64.flawed_iff` says that nothing else
    can be.
  - `Json.ReadsText`: what a field of frame data makes of a text, in whichever way it is written.
  - `frameData_bijective`: the two directions, and which texts are refused.
-/

namespace LoraBridge.Base64

variable {text bytes : Bytes} {vs : List Nat} {k : Nat}

/-! ### Texts that are written -/

/-- Whether symbols with these values, followed by so much padding, are a text in Base64: they fill
    groups of four, and the bits of the last symbol that no byte uses are zero. -/
structure Fills (vs : List Nat) (k : Nat) : Prop where
  lt : ∀ v ∈ vs, v < 64
  groups : (vs.length + k) % 4 = 0
  le_two : k ≤ 2
  spare : ∀ v ∈ vs.getLast?, v % Nat.pow 4 k = 0

/-- A group that is not the last one makes no difference. -/
theorem fills_group {p q r v : Nat} (hvs : vs ≠ []) :
    Fills (p :: q :: r :: v :: vs) k ↔
      (p < 64 ∧ q < 64 ∧ r < 64 ∧ v < 64) ∧ Fills vs k := by
  have hlast : (p :: q :: r :: v :: vs).getLast? = vs.getLast? := by
    obtain ⟨w, ws, rfl⟩ := List.exists_cons_of_ne_nil hvs
    simp [List.getLast?_cons_cons]
  have hlength : (p :: q :: r :: v :: vs).length + k = vs.length + k + 4 := by
    simp only [List.length_cons]
    omega
  constructor
  · rintro ⟨hlt, hgroups, hk, hspare⟩
    rw [hlength, Nat.add_mod_right] at hgroups
    rw [hlast] at hspare
    simp only [List.forall_mem_cons] at hlt
    exact ⟨⟨hlt.1, hlt.2.1, hlt.2.2.1, hlt.2.2.2.1⟩, hlt.2.2.2.2, hgroups, hk, hspare⟩
  · rintro ⟨⟨hp, hq, hr, hv⟩, hlt, hgroups, hk, hspare⟩
    refine ⟨by simp [hp, hq, hr, hv]; exact hlt, ?_, hk, hlast ▸ hspare⟩
    rw [hlength, Nat.add_mod_right, hgroups]

/-- What is written has this form. -/
theorem exists_fills (bytes : Bytes) :
    ∃ vs k, encode bytes = vs.map symbol ++ List.replicate k pad ∧ Fills vs k := by
  fun_induction encode bytes with
  | case1 => exact ⟨[], 0, rfl, by simp, rfl, by decide, by simp⟩
  | case2 a n =>
    have ha := a.toNat_lt
    refine ⟨[n / 64, n % 64], 2, rfl, ?_, by simp, by decide, ?_⟩
    · simp only [List.mem_cons, List.not_mem_nil, or_false, forall_eq_or_imp, forall_eq]
      omega
    · simp only [List.getLast?_cons_cons, List.getLast?_singleton, Option.mem_def,
        Option.some.injEq, forall_eq', Nat.reducePow, Nat.pow_eq]
      omega
  | case3 a b n =>
    have ha := a.toNat_lt
    have hb := b.toNat_lt
    refine ⟨[n / 4096, n / 64 % 64, n % 64], 1, rfl, ?_, by simp, by decide, ?_⟩
    · simp only [List.mem_cons, List.not_mem_nil, or_false, forall_eq_or_imp, forall_eq]
      omega
    · simp only [List.getLast?_cons_cons, List.getLast?_singleton, Option.mem_def,
        Option.some.injEq, forall_eq', Nat.reducePow, Nat.pow_eq]
      omega
  | case4 a b c rest n ih =>
    have ha := a.toNat_lt
    have hb := b.toNat_lt
    have hc := c.toNat_lt
    obtain ⟨vs, k, hrest, hfills⟩ := ih
    refine ⟨n / 262144 :: n / 4096 % 64 :: n / 64 % 64 :: n % 64 :: vs, k, by rw [hrest]; rfl, ?_⟩
    have hlt : n / 262144 < 64 ∧ n / 4096 % 64 < 64 ∧ n / 64 % 64 < 64 ∧ n % 64 < 64 := by omega
    by_cases hvs : vs = []
    · -- this group is the last one, and there is no padding
      subst hvs
      obtain ⟨-, hgroups, hk, -⟩ := hfills
      rw [List.length_nil, Nat.zero_add] at hgroups
      obtain rfl : k = 0 := by omega
      refine ⟨?_, by simp, by decide, fun v _ => ?_⟩
      · simpa using hlt
      · exact Nat.mod_one v
    · exact (fills_group hvs).mpr ⟨hlt, hfills⟩

/-- Symbols that fill one group are read as that group. -/
theorem Fills.exists_last (h : Fills vs k) (hlength : vs.length ≤ 4) :
    vs.length + k ≤ 4 ∧ ∃ bytes, lastBytes 0 vs k = .ok bytes := by
  obtain ⟨-, hgroups, hk, hspare⟩ := h
  -- the length of the padding follows from that of the group
  rcases vs with _ | ⟨p, _ | ⟨q, _ | ⟨r, _ | ⟨v, _ | ⟨w, more⟩⟩⟩⟩⟩ <;>
    simp only [List.length_cons, List.length_nil] at hlength hgroups ⊢
  · obtain rfl : k = 0 := by omega
    exact ⟨by decide, _, rfl⟩
  · omega
  · obtain rfl : k = 2 := by omega
    have hq : q % 16 = 0 := hspare q rfl
    exact ⟨by decide, (unpack p q 0 0).take 1, by simp [lastBytes, hq]⟩
  · obtain rfl : k = 1 := by omega
    have hr : r % 4 = 0 := hspare r rfl
    exact ⟨by decide, (unpack p q r 0).take 2, by simp [lastBytes, hr]⟩
  · obtain rfl : k = 0 := by omega
    exact ⟨by decide, _, rfl⟩
  · omega

/-- All that has this form is written for some bytes. -/
theorem Fills.exists_bytes {vs : List Nat} (h : Fills vs k) :
    ∃ bytes, encode bytes = vs.map symbol ++ List.replicate k pad := by
  match vs, h with
  | p :: q :: r :: v :: w :: vs, h =>
    obtain ⟨⟨hp, hq, hr, hv⟩, hrest⟩ := (fills_group (List.cons_ne_nil w vs)).mp h
    obtain ⟨bytes, hbytes⟩ := hrest.exists_bytes
    exact ⟨unpack p q r v ++ bytes, by rw [encode_unpack hp hq hr hv, hbytes]; rfl⟩
  | [], h | [_], h | [_, _], h | [_, _, _], h | [_, _, _, _], h =>
    obtain ⟨hlength, bytes, hread⟩ := h.exists_last (by simp)
    exact ⟨bytes, encode_lastBytes h.lt hlength hread⟩
termination_by vs.length

/-- The texts that are written are those of this form. -/
theorem eq_encode_iff : (∃ bytes, text = encode bytes) ↔
    ∃ vs k, text = vs.map symbol ++ List.replicate k pad ∧ Fills vs k := by
  constructor
  · rintro ⟨bytes, rfl⟩
    exact exists_fills bytes
  · rintro ⟨vs, k, rfl, h⟩
    obtain ⟨bytes, hbytes⟩ := h.exists_bytes
    exact ⟨bytes, hbytes.symm⟩

/-! ### Texts that are not -/

/-- What may be wrong with a text. -/
inductive Flawed (text : Bytes) : Prop
  /-- There is a symbol that is not in the alphabet. -/
  | foreign {s : UInt8} (hmem : s ∈ text) (hpad : s ≠ pad) (hnone : value? s = none)
  /-- There is padding before a symbol. -/
  | misplaced (front back : Bytes) {s : UInt8} (heq : text = front ++ pad :: s :: back)
    (hpad : s ≠ pad)
  /-- The last group is not filled up, or there is padding beyond it. -/
  | unfilled (hlength : text.length % 4 ≠ 0)
  /-- There is more padding than a group may have. -/
  | superfluous (front : Bytes) (heq : text = front ++ List.replicate 3 pad)
  /-- Bits of the last symbol that no byte uses are set. -/
  | stray (front : Bytes) {s : UInt8} {v k : Nat} (heq : text = front ++ s :: List.replicate k pad)
    (hvalue : value? s = some v) (hbits : v % Nat.pow 4 k ≠ 0)

/-- Where nothing foreign is and no padding stands before a symbol, there are symbols and then
    padding. -/
theorem exists_symbols (hforeign : ∀ s ∈ text, s ≠ pad → value? s ≠ none)
    (hmisplaced : ∀ front s back, text = front ++ pad :: s :: back → s = pad) :
    ∃ (vs : List Nat) (k : Nat),
      text = vs.map symbol ++ List.replicate k pad ∧ ∀ v ∈ vs, v < 64 := by
  induction text with
  | nil => exact ⟨[], 0, rfl, by simp⟩
  | cons s rest ih =>
    obtain ⟨hs, hrest⟩ := List.forall_mem_cons.mp hforeign
    obtain ⟨vs, k, hsplit, hvs⟩ := ih hrest fun front s' back heq =>
      hmisplaced (s :: front) s' back (by rw [heq, List.cons_append])
    by_cases hpad : s = pad
    · -- after padding there are no symbols
      subst hpad
      cases vs with
      | nil => exact ⟨[], k + 1, by rw [hsplit, List.replicate_succ]; rfl, by simp⟩
      | cons v vs =>
        have hv : symbol v = pad :=
          hmisplaced [] (symbol v) (vs.map symbol ++ List.replicate k pad) (by rw [hsplit]; rfl)
        exact absurd hv (symbol_ne_pad (hvs v List.mem_cons_self))
    · obtain ⟨v, hv⟩ := Option.ne_none_iff_exists'.mp (hs hpad)
      obtain ⟨hlt, rfl⟩ := symbol_of_value? hv
      exact ⟨v :: vs, k, by rw [hsplit]; rfl, List.forall_mem_cons.mpr ⟨hlt, hvs⟩⟩

/-- A text without flaws has the form of a text that is written. -/
theorem exists_fills_of_not_flawed (h : ¬ Flawed text) :
    ∃ vs k, text = vs.map symbol ++ List.replicate k pad ∧ Fills vs k := by
  obtain ⟨vs, k, heq, hvs⟩ := exists_symbols
    (fun s hmem hpad hnone => h (.foreign hmem hpad hnone))
    (fun front s back heq => Decidable.byContradiction fun hne => h (.misplaced front back heq hne))
  refine ⟨vs, k, heq, hvs, ?_, ?_, ?_⟩
  · refine Decidable.byContradiction fun hlength => h (.unfilled ?_)
    rwa [heq, List.length_append, List.length_map, List.length_replicate]
  · refine Nat.le_of_not_lt fun hk =>
      h (.superfluous (vs.map symbol ++ List.replicate (k - 3) pad) ?_)
    rw [heq, List.append_assoc, List.replicate_append_replicate]
    congr 2
    omega
  · intro v hv
    obtain ⟨front, rfl⟩ := List.getLast?_eq_some_iff.mp hv
    have hvalue : value? (symbol v) = some v := value?_symbol (hvs v (by simp))
    refine Decidable.byContradiction fun hbits =>
      h (.stray (front.map symbol) (by simpa using heq) hvalue hbits)

/-- Symbols are no padding. -/
theorem Fills.ne_pad (h : Fills vs k) {s : UInt8} (hs : s ∈ vs.map symbol) : s ≠ pad := by
  obtain ⟨v, hv, rfl⟩ := List.mem_map.mp hs
  exact symbol_ne_pad (h.lt v hv)

/-- The symbols end where the padding begins. -/
theorem Fills.eq_of_append_eq (h : Fills vs k) {front : Bytes} {s : UInt8} {k' : Nat}
    (heq : vs.map symbol ++ List.replicate k pad = front ++ s :: List.replicate k' pad)
    (hs : s ≠ pad) : vs.map symbol = front ++ [s] ∧ k = k' := by
  rw [← List.singleton_append, ← List.append_assoc] at heq
  rcases List.append_eq_append_iff.mp heq with ⟨more, hfront, hpads⟩ | ⟨more, hsymbols, hpads⟩
  · -- what is more in `front` would be padding and would end with `s`
    rcases List.eq_nil_or_concat more with rfl | ⟨init, s', rfl⟩
    · rw [List.append_nil] at hfront
      exact ⟨hfront.symm, by simpa using congrArg List.length hpads⟩
    · rw [List.concat_eq_append, ← List.append_assoc] at hfront
      obtain ⟨-, hlast⟩ := List.append_inj' hfront rfl
      obtain rfl : s = s' := by simpa using hlast
      exact absurd (List.eq_of_mem_replicate (n := k) (by rw [hpads]; simp)) hs
  · -- what is more among the symbols would be padding
    cases more with
    | nil =>
      rw [List.append_nil] at hsymbols
      exact ⟨hsymbols, by simpa using (congrArg List.length hpads).symm⟩
    | cons s' more =>
      have hpad : s' = pad := List.eq_of_mem_replicate (n := k') (by rw [hpads]; simp)
      exact absurd hpad (h.ne_pad (by rw [hsymbols]; simp))

/-- Nothing but padding stands behind padding. -/
theorem Fills.eq_pad_of_mem (h : Fills vs k) {front back : Bytes}
    (heq : vs.map symbol ++ List.replicate k pad = front ++ pad :: back) {s : UInt8}
    (hs : s ∈ back) : s = pad := by
  rcases List.append_eq_append_iff.mp heq with ⟨more, -, hmore⟩ | ⟨more, hsymbols, hmore⟩
  · exact List.eq_of_mem_replicate (n := k) (by rw [hmore]; simp [hs])
  · cases more with
    | nil =>
      rw [List.nil_append] at hmore
      exact List.eq_of_mem_replicate (n := k) (by rw [← hmore]; simp [hs])
    | cons p more =>
      obtain ⟨rfl, -⟩ := List.cons.inj hmore
      exact absurd rfl (h.ne_pad (by rw [hsymbols]; simp))

/-- There is no padding among the symbols. -/
theorem Fills.count_pad (h : Fills vs k) :
    (vs.map symbol ++ List.replicate k pad).count pad = k := by
  rw [List.count_append, List.count_replicate_self,
    List.count_eq_zero_of_not_mem fun hmem => h.ne_pad hmem rfl, Nat.zero_add]

/-- What is written has no flaws. -/
theorem Fills.not_flawed (h : Fills vs k) :
    ¬ Flawed (vs.map symbol ++ List.replicate k pad) := by
  rintro (⟨hmem, hpad, hnone⟩ | ⟨front, back, heq, hpad⟩ | hlength | ⟨front, heq⟩ |
    ⟨front, heq, hvalue, hbits⟩)
  case foreign =>
    rcases List.mem_append.mp hmem with hsymbol | hfilling
    · obtain ⟨v, hv, rfl⟩ := List.mem_map.mp hsymbol
      rw [value?_symbol (h.lt v hv)] at hnone
      cases hnone
    · exact hpad (List.eq_of_mem_replicate hfilling)
  case misplaced => exact hpad (h.eq_pad_of_mem heq List.mem_cons_self)
  case unfilled =>
    refine hlength ?_
    rw [List.length_append, List.length_map, List.length_replicate]
    exact h.groups
  case superfluous =>
    have hcount := h.count_pad
    have hk := h.le_two
    rw [heq, List.count_append, List.count_replicate_self] at hcount
    omega
  case stray s v k' =>
    have hs : s ≠ pad := by
      rintro rfl
      cases hvalue
    obtain ⟨hsymbols, rfl⟩ := h.eq_of_append_eq heq hs
    obtain ⟨init, rest, rfl, rfl, hlast⟩ := List.map_eq_append_iff.mp hsymbols
    obtain ⟨w, rfl, rfl⟩ := List.map_eq_singleton_iff.mp hlast
    obtain rfl : w = v := by
      rw [value?_symbol (h.lt w (by simp))] at hvalue
      exact Option.some.inj hvalue
    exact hbits (h.spare w (by simp))

/-- The texts that are not written for any bytes are those with a flaw. -/
theorem flawed_iff : Flawed text ↔ ∀ bytes, text ≠ encode bytes := by
  constructor
  · rintro hflawed bytes rfl
    obtain ⟨vs, k, heq, hfills⟩ := exists_fills bytes
    exact hfills.not_flawed (heq ▸ hflawed)
  · intro h
    refine Classical.byContradiction fun hflawed => ?_
    obtain ⟨bytes, heq⟩ := eq_encode_iff.mpr (exists_fills_of_not_flawed hflawed)
    exact h bytes heq

end LoraBridge.Base64

namespace LoraBridge

open Json

/-! ### The field -/

/-- What a field of frame data makes of a text, whichever escapes it is written with: the bytes it
    stands for, or nothing if it is refused. -/
def Json.ReadsText (key s : String) (b? : Option Bytes) : Prop :=
  ∀ pieces, text? pieces = some s → Gives (dataField key).read (Value.text pieces).bytes b?

variable {key s s' : String} {b : Bytes} {b? : Option Bytes}

/-- Escapes make no difference: what counts is the text in Base64. -/
theorem Json.readsText_iff : ReadsText key s b? ↔ (Base64.decode (Text.bytes s)).toOption = b? := by
  have hread : ∀ pieces, text? pieces = some s →
      Gives (dataField key).read (Value.text pieces).bytes
        (Base64.decode (Text.bytes s)).toOption := by
    intro pieces hpieces
    have hvalue := readData_value (.text pieces)
    rwa [Value.frameData?, hpieces] at hvalue
  constructor
  · intro h
    have hs := text?_piecesOf s
    rw [← (hread _ hs).valueOf?, (h _ hs).valueOf?]
  · rintro rfl pieces hpieces
    exact hread pieces hpieces

theorem Json.readsText_some_iff : ReadsText key s (some b) ↔ Text.bytes s = Base64.encode b := by
  rw [readsText_iff, ← Base64.decode_eq_ok_iff]
  cases Base64.decode (Text.bytes s) <;> simp [Except.toOption]

theorem Json.readsText_none_iff : ReadsText key s none ↔ Base64.Flawed (Text.bytes s) := by
  rw [readsText_iff, Base64.flawed_iff]
  simp only [← Base64.decode_eq_ok_iff, ne_eq]
  cases Base64.decode (Text.bytes s) <;> simp [Except.toOption]

/-- The text that is written for some bytes is the only one that is read as them. -/
theorem Json.readsText_iff_eq : ReadsText key s (some b) ↔ s = rawForLog b := by
  rw [readsText_some_iff, ← Base64.bytes_encodeText, Text.bytes_inj]
  rfl

/-- Between lists of bytes and the texts that a field of frame data accepts there is a bijection.

    What is written for some bytes is read as them, and so is the text that logs show. An accepted
    text is the one that would be written for its bytes, so no two of them stand for the same bytes.
    And a text is refused just if there is something wrong with it: padding that is missing,
    superfluous or misplaced, a foreign symbol, or bits set that no byte uses. -/
theorem frameData_bijective (key : String) :
    (∀ b, Gives (dataField key).read (Text.charsBytes ((dataField key).write b)) (some b) ∧
      ReadsText key (rawForLog b) (some b)) ∧
    (∀ s b, ReadsText key s (some b) → rawForLog b = s ∧ (dataField key).write b = escape s) ∧
    (∀ s s' b, ReadsText key s (some b) → ReadsText key s' (some b) → s = s') ∧
    (∀ s, ReadsText key s none ↔ Base64.Flawed (Text.bytes s)) ∧
    (∀ s, (∃ b, ReadsText key s (some b)) ↔ ¬ Base64.Flawed (Text.bytes s)) := by
  refine ⟨fun b => ⟨readData_writeData b, readsText_iff_eq.mpr rfl⟩, fun s b h => ?_,
    fun s s' b h h' => ?_, fun s => readsText_none_iff, fun s => ?_⟩
  · obtain rfl := readsText_iff_eq.mp h
    exact ⟨rfl, rfl⟩
  · rw [readsText_iff_eq.mp h, readsText_iff_eq.mp h']
  · simp only [readsText_some_iff, Base64.flawed_iff]
    simp

/-- The symbols `//8=` are the only ones for these bytes. Without padding, with padding in front,
    with a symbol of the alphabet for links or with bits set that no byte uses they are refused. -/
theorem frameData_bijective_twoBytes :
    ReadsText "data" "//8=" (some [255, 255]) ∧
      rawForLog [255, 255] = "//8=" ∧
      (∀ s, ReadsText "data" s (some [255, 255]) → s = "//8=") ∧
      ∀ s ∈ ["//8", "=//8", "__8=", "//9="], ReadsText "data" s none := by
  have h := frameData_bijective "data"
  have htext : rawForLog [255, 255] = "//8=" := by decide
  have hread : ReadsText "data" "//8=" (some [255, 255]) := htext ▸ (h.1 [255, 255]).2
  refine ⟨hread, (h.2.1 _ _ hread).1, fun s hs => h.2.2.1 s _ _ hs hread, ?_⟩
  simp only [List.forall_mem_cons, h.2.2.2.1]
  refine ⟨.unfilled (by decide), .misplaced [] [47, 56] (s := 47) rfl (by decide),
    .foreign (s := 95) (by decide) (by decide) (by decide),
    .stray [47, 47] (s := 57) (v := 61) (k := 1) rfl (by decide) (by decide), ?_⟩
  simp

end LoraBridge
