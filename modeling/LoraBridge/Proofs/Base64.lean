import LoraBridge.Base64
import LoraBridge.Proofs.Utf8

/-! # Reading Base64

  Every list of bytes has one text that stands for it, and no other text is read. So reading is
  the inverse of writing, and it is strict: whatever it accepts is what writing would give.

  - `decode_encode`: what was written is read back.
  - `eq_encode_of_decode`: what is read was written like this.
  - `decode_eq_ok_iff`: the two together.

  Both directions go group by group. The last group has three forms, one for each number of bytes
  that it can hold.
-/

namespace LoraBridge.Base64

variable {a b c s : UInt8} {n v p q r : Nat} {vs : List Nat} {offset : Nat}
  {bytes text group : Bytes}

/-! ### Symbols -/

theorem value?_symbol (h : n < 64) : value? (symbol n) = some n := by
  have hall : ∀ n : Fin 64, value? (symbol n) = some n.val := by decide
  exact hall ⟨n, h⟩

theorem symbol_ne_pad (h : n < 64) : symbol n ≠ pad := by
  have hall : ∀ n : Fin 64, symbol n ≠ pad := by decide
  exact hall ⟨n, h⟩

/-- Whatever has a value is the symbol of that value. -/
theorem symbol_of_value? (h : value? s = some v) : v < 64 ∧ symbol v = s := by
  have hall : ∀ s, ((value? s).all fun v => decide (v < 64) && decide (symbol v = s)) = true :=
    Text.forall_byte (by decide +kernel)
  simpa [h] using hall s

/-- Values are read off their symbols. -/
theorem values_symbols (h : ∀ v ∈ vs, v < 64) : values offset (vs.map symbol) = .ok vs := by
  induction vs generalizing offset with
  | nil => rfl
  | cons v vs ih =>
    rw [List.forall_mem_cons] at h
    simp [values, value?_symbol h.1, ih h.2, Except.map]

/-- Only symbols have values. -/
theorem eq_symbols_of_values (h : values offset text = .ok vs) :
    (∀ v ∈ vs, v < 64) ∧ text = vs.map symbol := by
  induction text generalizing offset vs with
  | nil =>
    obtain rfl := Except.ok.inj h
    simp
  | cons s rest ih =>
    unfold values at h
    split at h
    · cases h
    · next v hv =>
      cases hrest : values (offset + 1) rest with
      | error f => simp [hrest, Except.map] at h
      | ok ws =>
        obtain rfl : v :: ws = vs := by simpa [hrest, Except.map] using h
        obtain ⟨hlt, hsymbol⟩ := symbol_of_value? hv
        obtain ⟨hws, rfl⟩ := ih hrest
        exact ⟨List.forall_mem_cons.mpr ⟨hlt, hws⟩, by rw [List.map_cons, hsymbol]⟩

/-! ### Groups -/

/-- The bytes of a group and its values determine each other. -/
theorem unpack_values (h : n < 16777216) :
    unpack (n / 262144) (n / 4096 % 64) (n / 64 % 64) (n % 64) =
      [(n / 65536).toUInt8, (n / 256 % 256).toUInt8, (n % 256).toUInt8] := by
  have hjoin : ((n / 262144 * 64 + n / 4096 % 64) * 64 + n / 64 % 64) * 64 + n % 64 = n := by omega
  rw [unpack, hjoin]

theorem unpack_encode (a b c : UInt8) :
    let n := (a.toNat * 256 + b.toNat) * 256 + c.toNat
    unpack (n / 262144) (n / 4096 % 64) (n / 64 % 64) (n % 64) = [a, b, c] := by
  have ha := a.toNat_lt
  have hb := b.toNat_lt
  have hc := c.toNat_lt
  intro n
  have hn : n < 16777216 := by omega
  have hfirst : n / 65536 = a.toNat := by omega
  have hsecond : n / 256 % 256 = b.toNat := by omega
  have hthird : n % 256 = c.toNat := by omega
  rw [unpack_values hn, hfirst, hsecond, hthird]
  simp

theorem encode_unpack (hp : p < 64) (hq : q < 64) (hr : r < 64) (hs : v < 64) (rest : Bytes) :
    encode (unpack p q r v ++ rest) =
      symbol p :: symbol q :: symbol r :: symbol v :: encode rest := by
  obtain ⟨n, hn⟩ : ∃ n, n = ((p * 64 + q) * 64 + r) * 64 + v := ⟨_, rfl⟩
  have hbytes : ((n / 65536).toUInt8.toNat * 256 + (n / 256 % 256).toUInt8.toNat) * 256 +
      (n % 256).toUInt8.toNat = n := by
    simp only [Nat.toUInt8_eq, UInt8.toNat_ofNat']
    omega
  have hunpack : unpack p q r v =
      [(n / 65536).toUInt8, (n / 256 % 256).toUInt8, (n % 256).toUInt8] := by rw [unpack, hn]
  rw [hunpack]
  simp only [List.cons_append, List.nil_append, encode, hbytes]
  have h₁ : n / 262144 = p := by omega
  have h₂ : n / 4096 % 64 = q := by omega
  have h₃ : n / 64 % 64 = r := by omega
  have h₄ : n % 64 = v := by omega
  rw [h₁, h₂, h₃, h₄]

/-! ### The last group -/

theorem takeWhile_symbols (h : ∀ v ∈ vs, v < 64) (k : Nat) :
    (vs.map symbol ++ List.replicate k pad).takeWhile (· ≠ pad) = vs.map symbol := by
  have hsymbols : ∀ s ∈ vs.map symbol, decide (s ≠ pad) = true := by
    intro s hs
    obtain ⟨v, hv, rfl⟩ := List.mem_map.mp hs
    exact decide_eq_true (symbol_ne_pad (h v hv))
  rw [List.takeWhile_append_of_pos hsymbols]
  cases k with
  | zero => simp
  | succ k => simp [List.replicate_succ]

/-- What the last group stands for, by its values and the length of the padding after them. -/
def lastBytes (offset : Nat) (vs : List Nat) (k : Nat) : Except Fault Bytes :=
  if k ≠ 0 ∧ vs.length < 2 then .error (.badSymbol pad (offset + vs.length))
  else match vs with
    | [p, q] =>
      if k ≠ 2 then .error .badPadding
      else if q % 16 ≠ 0 then .error (.badLastSymbol (symbol q) (offset + 1))
      else .ok ((unpack p q 0 0).take 1)
    | [p, q, r] =>
      if k ≠ 1 then .error .badPadding
      else if r % 4 ≠ 0 then .error (.badLastSymbol (symbol r) (offset + 2))
      else .ok ((unpack p q r 0).take 2)
    | [p, q, r, v] => .ok (unpack p q r v)
    | [] => .ok []
    | _ => .error (.badLength (offset + vs.length))

theorem decodeLast_symbols (h : ∀ v ∈ vs, v < 64) (k : Nat) :
    decodeLast offset (vs.map symbol ++ List.replicate k pad) = lastBytes offset vs k := by
  have hfilling : (vs.map symbol ++ List.replicate k pad).drop vs.length =
      List.replicate k pad := List.drop_left' (List.length_map symbol)
  have hpads : (List.replicate k pad).any (fun s => decide (s ≠ pad)) = false := by simp
  have hnil : List.replicate k pad ≠ [] ↔ k ≠ 0 := by simp
  simp only [decodeLast, lastBytes, takeWhile_symbols h, List.length_map, hfilling,
    values_symbols h, hpads, hnil, List.length_append, List.length_replicate, Bool.false_eq_true,
    or_false]
  rcases vs with _ | ⟨p, _ | ⟨q, _ | ⟨r, _ | ⟨v, _ | ⟨w, more⟩⟩⟩⟩⟩
  · rfl
  · rfl
  · have hlength : [p, q].length + k ≠ 4 ↔ k ≠ 2 := by
      simp only [List.length_cons, List.length_nil]
      omega
    simp only [hlength]
  · have hlength : [p, q, r].length + k ≠ 4 ↔ k ≠ 1 := by
      simp only [List.length_cons, List.length_nil]
      omega
    simp only [hlength]
  · rfl
  · rfl

theorem decodeLast_encode (h : bytes.length ≤ 3) :
    decodeLast offset (encode bytes) = .ok bytes := by
  match bytes with
  | [] => rfl
  | [a] =>
    have ha := a.toNat_lt
    have hvs : ∀ v ∈ [a.toNat * 16 / 64, a.toNat * 16 % 64], v < 64 := by
      simp only [List.mem_cons, List.not_mem_nil, or_false, forall_eq_or_imp, forall_eq]
      omega
    have hlow : a.toNat * 16 % 64 % 16 = 0 := by omega
    have hbyte : ((a.toNat * 16 / 64 * 64 + a.toNat * 16 % 64) * 64 * 64 / 65536) = a.toNat := by
      omega
    refine (decodeLast_symbols hvs 2).trans ?_
    simp [lastBytes, hlow, unpack, hbyte]
  | [a, b] =>
    have ha := a.toNat_lt
    have hb := b.toNat_lt
    obtain ⟨n, hn⟩ : ∃ n, n = (a.toNat * 256 + b.toNat) * 4 := ⟨_, rfl⟩
    have hvs : ∀ v ∈ [n / 4096, n / 64 % 64, n % 64], v < 64 := by
      simp only [List.mem_cons, List.not_mem_nil, or_false, forall_eq_or_imp, forall_eq]
      omega
    have hlow : n % 64 % 4 = 0 := by omega
    have hfirst : (((n / 4096 * 64 + n / 64 % 64) * 64 + n % 64) * 64 / 65536) = a.toNat := by
      omega
    have hsecond : (((n / 4096 * 64 + n / 64 % 64) * 64 + n % 64) * 64 / 256 % 256) =
        b.toNat := by
      omega
    rw [encode, ← hn]
    refine (decodeLast_symbols hvs 1).trans ?_
    simp [lastBytes, hlow, unpack, hfirst, hsecond]
  | [a, b, c] =>
    obtain ⟨n, hn⟩ : ∃ n, n = (a.toNat * 256 + b.toNat) * 256 + c.toNat := ⟨_, rfl⟩
    have hvs : ∀ v ∈ [n / 262144, n / 4096 % 64, n / 64 % 64, n % 64], v < 64 := by
      have ha := a.toNat_lt
      have hb := b.toNat_lt
      have hc := c.toNat_lt
      simp only [List.mem_cons, List.not_mem_nil, or_false, forall_eq_or_imp, forall_eq]
      omega
    have hgroup : unpack (n / 262144) (n / 4096 % 64) (n / 64 % 64) (n % 64) = [a, b, c] := by
      rw [hn]
      exact unpack_encode a b c
    rw [encode, encode, ← hn]
    refine (decodeLast_symbols hvs 0).trans ?_
    simp [lastBytes, hgroup]
  | _ :: _ :: _ :: _ :: _ =>
    simp only [List.length_cons] at h
    omega

/-- A last group that is read is made of symbols and of padding after them. -/
theorem exists_symbols_of_decodeLast (h : decodeLast offset group = .ok bytes) :
    ∃ (vs : List Nat) (k : Nat),
      (∀ v ∈ vs, v < 64) ∧ group = vs.map symbol ++ List.replicate k pad := by
  unfold decodeLast at h
  extract_lets symbols filling at h
  have hsplit : group = symbols ++ filling :=
    (List.prefix_iff_eq_append.mp (List.takeWhile_prefix _)).symm
  split at h
  · cases h
  · next vs hvalues =>
    obtain ⟨hvs, hsymbols⟩ := eq_symbols_of_values hvalues
    split at h
    · cases h
    · next hgood =>
      -- anything but padding behind the symbols would have been refused
      have hpads : ∀ s ∈ filling, s = pad := by
        intro s hs
        refine Decidable.byContradiction fun hne => hgood ⟨List.ne_nil_of_mem hs, .inr ?_⟩
        exact List.any_eq_true.mpr ⟨s, hs, decide_eq_true hne⟩
      refine ⟨vs, filling.length, hvs, ?_⟩
      rw [← hsymbols, ← List.eq_replicate_of_mem hpads]
      exact hsplit

/-- Values that are read as the last group are those of what they are read as. -/
theorem encode_lastBytes (hvs : ∀ v ∈ vs, v < 64) {k : Nat} (hlength : vs.length + k ≤ 4)
    (h : lastBytes offset vs k = .ok bytes) :
    encode bytes = vs.map symbol ++ List.replicate k pad := by
  unfold lastBytes at h
  split at h
  · cases h
  next hgood =>
  split at h
  · next p q =>
    obtain ⟨hp, hq⟩ : p < 64 ∧ q < 64 := by simpa using hvs
    split at h
    · cases h
    · split at h
      · cases h
      · next hk hlow =>
        obtain rfl := Except.ok.inj h
        obtain rfl : k = 2 := by omega
        -- the bits of the last symbol that stand for nothing are zero
        have hbyte : ((p * 64 + q) * 64 * 64 / 65536) % 256 * 16 = p * 64 + q := by omega
        have hfirst : (p * 64 + q) / 64 = p := by omega
        have hsecond : (p * 64 + q) % 64 = q := by omega
        simp [encode, unpack, hbyte, hfirst, hsecond]
  · next p q r =>
    obtain ⟨hp, hq, hr⟩ : p < 64 ∧ q < 64 ∧ r < 64 := by simpa using hvs
    split at h
    · cases h
    · split at h
      · cases h
      · next hk hlow =>
        obtain rfl := Except.ok.inj h
        obtain rfl : k = 1 := by omega
        obtain ⟨n, hn⟩ : ∃ n, n = (p * 64 + q) * 64 + r := ⟨_, rfl⟩
        have hbytes : (n * 64 / 65536 % 256 * 256 + n * 64 / 256 % 256) * 4 = n := by omega
        have hfirst : n / 4096 = p := by omega
        have hsecond : n / 64 % 64 = q := by omega
        have hthird : n % 64 = r := by omega
        simp [encode, unpack, ← hn, hbytes, hfirst, hsecond, hthird]
  · next p q r v =>
    obtain ⟨hp, hq, hr, hv⟩ : p < 64 ∧ q < 64 ∧ r < 64 ∧ v < 64 := by simpa using hvs
    obtain rfl := Except.ok.inj h
    obtain rfl : k = 0 := by
      simp only [List.length_cons, List.length_nil] at hlength
      omega
    simpa [encode] using encode_unpack hp hq hr hv []
  · obtain rfl := Except.ok.inj h
    obtain rfl : k = 0 := by simpa using hgood
    rfl
  · cases h

/-- A last group that is read has one of its three forms, or is empty. -/
theorem eq_encode_of_decodeLast (hlength : group.length ≤ 4)
    (h : decodeLast offset group = .ok bytes) : group = encode bytes := by
  obtain ⟨vs, k, hvs, rfl⟩ := exists_symbols_of_decodeLast h
  rw [decodeLast_symbols hvs] at h
  rw [List.length_append, List.length_map, List.length_replicate] at hlength
  exact (encode_lastBytes hvs hlength h).symm

/-! ### All groups -/

theorem decodeFrom_last (h : group.length ≤ 4) :
    decodeFrom offset group = decodeLast offset group := by
  match group with
  | [] | [_] | [_, _] | [_, _, _] | [_, _, _, _] => rfl
  | _ :: _ :: _ :: _ :: _ :: _ =>
    simp only [List.length_cons] at h
    omega

theorem encode_ne_nil (h : bytes ≠ []) : encode bytes ≠ [] := by
  match bytes with
  | [] => exact absurd rfl h
  | [_] | [_, _] | _ :: _ :: _ :: _ => simp [encode]

/-- A group that is not the last one. -/
theorem decodeFrom_cons (hp : p < 64) (hq : q < 64) (hr : r < 64) (hv : v < 64)
    (htext : text ≠ []) :
    decodeFrom offset (symbol p :: symbol q :: symbol r :: symbol v :: text) =
      (decodeFrom (offset + 4) text).map (unpack p q r v ++ ·) := by
  obtain ⟨e, rest, rfl⟩ := List.exists_cons_of_ne_nil htext
  have hvalues : values offset [symbol p, symbol q, symbol r, symbol v] = .ok [p, q, r, v] :=
    values_symbols (by simp [hp, hq, hr, hv] : ∀ x ∈ [p, q, r, v], x < 64)
  rw [decodeFrom, hvalues]
  cases decodeFrom (offset + 4) (e :: rest) <;> rfl

theorem decodeFrom_encode (offset : Nat) (bytes : Bytes) :
    decodeFrom offset (encode bytes) = .ok bytes := by
  match bytes with
  | [] | [_] | [_, _] | [_, _, _] =>
    rw [decodeFrom_last (by simp [encode])]
    exact decodeLast_encode (by simp)
  | a :: b :: c :: d :: rest =>
    have ha := a.toNat_lt
    have hb := b.toNat_lt
    have hc := c.toNat_lt
    have hunpack := unpack_encode a b c
    have hlt : (a.toNat * 256 + b.toNat) * 256 + c.toNat < 16777216 := by omega
    rw [encode]
    generalize (a.toNat * 256 + b.toNat) * 256 + c.toNat = n at hlt hunpack ⊢
    rw [decodeFrom_cons (by omega) (by omega) (by omega) (by omega)
      (encode_ne_nil (List.cons_ne_nil d rest)), decodeFrom_encode _ (d :: rest), hunpack]
    rfl

theorem eq_encode_of_decodeFrom (h : decodeFrom offset text = .ok bytes) :
    text = encode bytes := by
  fun_induction decodeFrom offset text generalizing bytes with
  | case1 | case3 | case4 => cases h
  | case2 offset a b c d e rest p q r v hvalues more hrest ih =>
    obtain rfl := Except.ok.inj h
    obtain ⟨hvs, hgroup⟩ := eq_symbols_of_values hvalues
    obtain ⟨hp, hq, hr, hv⟩ : p < 64 ∧ q < 64 ∧ r < 64 ∧ v < 64 := by simpa using hvs
    simp only [List.map_cons, List.map_nil, List.cons.injEq, and_true] at hgroup
    obtain ⟨rfl, rfl, rfl, rfl⟩ := hgroup
    rw [encode_unpack hp hq hr hv, ← ih hrest]
  | case5 offset group hgroup =>
    refine eq_encode_of_decodeLast ?_ h
    match group with
    | [] | [_] | [_, _] | [_, _, _] | [_, _, _, _] => simp
    | a :: b :: c :: d :: e :: rest => exact absurd rfl (hgroup a b c d e rest)

/-! ### Texts -/

theorem length_encode (bytes : Bytes) : (encode bytes).length % 4 = 0 := by
  fun_induction encode bytes with
  | case1 => rfl
  | case2 | case3 => simp
  | case4 a b c rest n ih =>
    simp only [List.length_cons]
    omega

/-- What was written is read back. -/
theorem decode_encode (bytes : Bytes) : decode (encode bytes) = .ok bytes := by
  have hstray : strayEnd? (encode bytes) = none := by
    simp [strayEnd?, length_encode]
  rw [decode, hstray]
  exact decodeFrom_encode 0 bytes

/-- What is read is what writing gives. -/
theorem eq_encode_of_decode (h : decode text = .ok bytes) : text = encode bytes := by
  unfold decode at h
  split at h
  · cases h
  · exact eq_encode_of_decodeFrom h

theorem decode_eq_ok_iff : decode text = .ok bytes ↔ text = encode bytes :=
  ⟨eq_encode_of_decode, fun h => h ▸ decode_encode bytes⟩

/-! ### Texts as characters -/

theorem symbol_lt (n : Nat) : (symbol n).toNat < 128 := by
  unfold symbol
  split
  · rw [Nat.toUInt8_eq, UInt8.toNat_ofNat']
    omega
  split
  · rw [Nat.toUInt8_eq, UInt8.toNat_ofNat']
    omega
  split
  · rw [Nat.toUInt8_eq, UInt8.toNat_ofNat']
    omega
  split <;> decide

theorem lt_of_mem_encode (h : s ∈ encode bytes) : s.toNat < 128 := by
  have hpad : pad.toNat < 128 := by decide
  fun_induction encode bytes with
  | case1 => cases h
  | case2 a n =>
    simp only [List.mem_cons, List.not_mem_nil, or_false] at h
    rcases h with rfl | rfl | rfl | rfl <;> first | exact symbol_lt _ | exact hpad
  | case3 a b n =>
    simp only [List.mem_cons, List.not_mem_nil, or_false] at h
    rcases h with rfl | rfl | rfl | rfl <;> first | exact symbol_lt _ | exact hpad
  | case4 a b c rest n ih =>
    simp only [List.mem_cons] at h
    rcases h with rfl | rfl | rfl | rfl | h
    · exact symbol_lt _
    · exact symbol_lt _
    · exact symbol_lt _
    · exact symbol_lt _
    · exact ih h

@[simp] theorem bytes_encodeText (bytes : Bytes) :
    Text.bytes (encodeText bytes) = encode bytes := by
  have hchars : ∀ symbols : Bytes, (∀ s ∈ symbols, s.toNat < 128) →
      Text.charsBytes (symbols.map fun s => Char.ofNat s.toNat) = symbols := by
    intro symbols h
    induction symbols with
    | nil => rfl
    | cons s rest ih =>
      obtain ⟨hs, hrest⟩ := List.forall_mem_cons.mp h
      rw [List.map_cons, Text.charsBytes_cons, Text.utf8EncodeChar_ofNat hs, ih hrest]
      rfl
  rw [encodeText, Text.bytes_ofList]
  exact hchars _ fun s hs => lt_of_mem_encode hs

end LoraBridge.Base64
