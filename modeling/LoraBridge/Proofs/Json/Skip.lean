import LoraBridge.Proofs.Json.Number
import LoraBridge.Proofs.Json.Text

/-! # Skipping reads nothing but the value

  Whatever value stands in a text, the machine ends exactly behind it, however deep it is nested
  and whatever texts are in it, with lone halves of characters too. What is open around the value
  stays open.

  - `goOn` is where the machine stands after a value.
  - `Skips` is said of the text of a value.
  - `Value.skips`: every value is skipped, by induction on the value, with one lemma for each way to
    begin.
-/

namespace LoraBridge.Json

open Text (charsBytes)

namespace Skip

variable {mode mode' : Mode} {stack stack' : List Frame} {b : UInt8} {rest s : Bytes}

/-! ### Single steps -/

theorem run_next (h : step mode stack b = .ok (.next mode' stack')) (rest : Bytes) :
    run mode stack (b :: rest) = run mode' stack' rest := by
  rw [run, h]

/-- Goes on after a value with what is open around it. -/
def goOn : List Frame → Bytes → Except Fault Bytes
  | [], rest => .ok rest
  | frame :: outer, rest => run .after (frame :: outer) rest

theorem run_ended (h : step mode stack b = .ok (ended stack')) (rest : Bytes) :
    run mode stack (b :: rest) = goOn stack' rest := by
  rw [run, h]
  cases stack' <;> rfl

/-- A mode in which space changes nothing. -/
def Passes (mode : Mode) (stack : List Frame) : Prop :=
  ∀ b, isSpace b = true → step mode stack b = .ok (.next mode stack)

theorem Passes.run_space (h : Passes mode stack) (space : Space) (rest : Bytes) :
    run mode stack (space.bytes ++ rest) = run mode stack rest := by
  have hall : ∀ s : Bytes, (∀ b ∈ s, isSpace b = true) →
      run mode stack (s ++ rest) = run mode stack rest := by
    intro s hs
    induction s with
    | nil => rfl
    | cons b s ih =>
      obtain ⟨hb, hs⟩ := List.forall_mem_cons.mp hs
      rw [List.cons_append, run_next (h b hb), ih hs]
  exact hall space.bytes space.isSpace_of_mem

theorem passes_value : Passes .value stack := fun b hb => by simp [step, stepValue, hb]

theorem passes_firstElement : Passes .firstElement stack := fun b hb => by simp [step, hb]

theorem passes_firstMember : Passes .firstMember stack := fun b hb => by simp [step, hb]

theorem passes_key : Passes .key stack := fun b hb => by simp [step, stepKey, hb]

theorem passes_colon : Passes .colon stack := fun b hb => by simp [step, hb]

theorem passes_after {frame : Frame} : Passes .after (frame :: stack) := fun b hb => by
  cases frame <;> simp [step, stepAfter, hb]

/-- Where a list does not end at once, it begins with a value. -/
theorem run_firstElement (hb : b ≠ 93) (hspace : isSpace b = false) :
    run .firstElement stack (b :: rest) = run .value stack (b :: rest) := by
  have hstep : step .firstElement stack b = step .value stack b := by
    simp [step, hspace, hb]
  rw [run, run, hstep]

/-- Where an object does not end at once, it begins with a key. -/
theorem run_firstMember (rest : Bytes) :
    run .firstMember stack (34 :: rest) = run .key stack (34 :: rest) := rfl

/-! ### Literals -/

theorem run_literal (c : UInt8) (cs : Bytes) :
    run (.literal (c :: cs)) stack (c :: cs ++ rest) = goOn stack rest := by
  induction cs generalizing c with
  | nil => exact run_ended (by simp [step]) rest
  | cons d cs ih =>
    have hstep : step (.literal (c :: d :: cs)) stack c = .ok (.next (.literal (d :: cs)) stack) :=
      by simp [step]
    rw [List.cons_append, run_next hstep]
    exact ih d

/-! ### Numbers -/

/-- A mode in which a number may end. -/
def Closes (mode : Mode) : Prop :=
  mode = .zero ∨ mode = .digits ∨ mode = .fraction ∨ mode = .exponentDigits

/-- What stops a number ends it. -/
theorem Closes.run_stops (hmode : Closes mode) (h : Stops rest) :
    run mode stack rest = goOn stack rest := by
  cases rest with
  | nil =>
    have hfinish : finish mode stack = endAfter stack := by
      rcases hmode with rfl | rfl | rfl | rfl <;> rfl
    rw [run, hfinish]
    cases stack <;> rfl
  | cons b rest =>
    obtain ⟨hdigit, hpoint, hsmall, hlarge⟩ := h
    have hdecimal : isDecimal b = false := hdigit
    have hstep : step mode stack b = stepAfter stack b := by
      rcases hmode with rfl | rfl | rfl | rfl <;>
        simp [step, hdecimal, hpoint, hsmall, hlarge]
    cases stack with
    | nil => rw [run, hstep]; rfl
    | cons frame outer => rw [goOn, run, run, hstep, step]

/-- A mode in which digits change nothing. -/
theorem run_digits (hmode : mode = .digits ∨ mode = .fraction ∨ mode = .exponentDigits)
    (hs : ∀ b ∈ s, isDigit b = true) (rest : Bytes) :
    run mode stack (s ++ rest) = run mode stack rest := by
  induction s with
  | nil => rfl
  | cons b s ih =>
    obtain ⟨hb, hs⟩ := List.forall_mem_cons.mp hs
    have hdecimal : isDecimal b = true := hb
    have hstep : step mode stack b = .ok (.next mode stack) := by
      rcases hmode with rfl | rfl | rfl <;> simp [step, hdecimal]
    rw [List.cons_append, run_next hstep, ih hs]

/-- Digits lead from a mode that takes the first of them to one that takes the others. -/
theorem run_someDigits
    (hfirst : ∀ d, isDigit d = true → step mode stack d = .ok (.next mode' stack))
    (hmode : mode' = .digits ∨ mode' = .fraction ∨ mode' = .exponentDigits) (ds : Digits)
    (rest : Bytes) : run mode stack (ds.bytes ++ rest) = run mode' stack rest := by
  obtain ⟨d, more, hcons, hd, hmore⟩ := ds.exists_cons
  rw [hcons, List.cons_append, run_next (hfirst d hd), run_digits hmode hmore]

theorem run_exponent (hmode : mode = .zero ∨ mode = .digits ∨ mode = .fraction) (e : Exponent)
    (rest : Bytes) : run mode stack (e.bytes ++ rest) = run .exponentDigits stack rest := by
  have hletter : step mode stack e.letter = .ok (.next .exponentSign stack) := by
    rcases e.isLetter with h | h <;> rw [h] <;> rcases hmode with rfl | rfl | rfl <;> rfl
  rw [Exponent.bytes, List.cons_append, run_next hletter, List.append_assoc]
  cases hsign : e.sign? with
  | none =>
    refine run_someDigits (fun d hd => ?_) (.inr (.inr rfl)) e.digits rest
    have hdecimal : isDecimal d = true := hd
    have hplus : d ≠ 43 := by rintro rfl; cases hd
    have hminus : d ≠ 45 := by rintro rfl; cases hd
    simp [step, hdecimal, hplus, hminus]
  | some b =>
    have hstep : step .exponentSign stack b = .ok (.next .exponent stack) := by
      rcases e.isSign b hsign with rfl | rfl <;> rfl
    rw [Option.toList_some, List.singleton_append, run_next hstep]
    refine run_someDigits (fun d hd => ?_) (.inr (.inr rfl)) e.digits rest
    have hdecimal : isDecimal d = true := hd
    simp [step, hdecimal]

/-- After the digits before the point a number goes on to its end. -/
theorem run_tail (hmode : mode = .zero ∨ mode = .digits) (n : Numeral) (h : Stops rest) :
    run mode stack (n.tailBytes ++ rest) = goOn stack rest := by
  have hexponent : ∀ mode, mode = .zero ∨ mode = .digits ∨ mode = .fraction →
      run mode stack (n.exponentBytes ++ rest) = goOn stack rest := by
    intro mode hmode
    unfold Numeral.exponentBytes
    cases n.exponent? with
    | none =>
      have hcloses : Closes mode := by
        rcases hmode with rfl | rfl | rfl <;> simp [Closes]
      exact hcloses.run_stops h
    | some e =>
      have hcloses : Closes .exponentDigits := .inr (.inr (.inr rfl))
      exact (run_exponent hmode e rest).trans (hcloses.run_stops h)
  rw [Numeral.tailBytes, Numeral.fractionBytes, List.append_assoc]
  cases n.fraction? with
  | none =>
    refine hexponent mode ?_
    rcases hmode with rfl | rfl <;> simp
  | some ds =>
    have hpoint : step mode stack 46 = .ok (.next .point stack) := by
      rcases hmode with rfl | rfl <;> rfl
    have hfirst : ∀ d, isDigit d = true → step .point stack d = .ok (.next .fraction stack) := by
      intro d hd
      have hdecimal : isDecimal d = true := hd
      simp [step, hdecimal]
    rw [Option.elim, List.cons_append, run_next hpoint, run_someDigits hfirst (.inr (.inl rfl))]
    exact hexponent .fraction (.inr (.inr rfl))

theorem step_digit (hmode : mode = .value ∨ mode = .sign) {d : UInt8} (hd : isDigit d = true)
    (hzero : d ≠ 48) : step mode stack d = .ok (.next .digits stack) := by
  have hall : ∀ d, isDigit d = true →
      isSpace d = false ∧ d ≠ 110 ∧ d ≠ 116 ∧ d ≠ 102 ∧ d ≠ 45 :=
    Text.forall_byte (by decide +kernel)
  obtain ⟨hspace, hn, ht, hf, hminus⟩ := hall d hd
  have hdecimal : isDecimal d = true := hd
  rcases hmode with rfl | rfl <;>
    simp [step, stepValue, hspace, hn, ht, hf, hminus, hzero, hdecimal]

/-- The digits before the point. -/
theorem run_whole (hmode : mode = .value ∨ mode = .sign) (n : Numeral) (stack : List Frame)
    (rest : Bytes) :
    ∃ mode', (mode' = .zero ∨ mode' = .digits) ∧
      run mode stack (n.whole.bytes ++ rest) = run mode' stack rest := by
  obtain ⟨d, more, hcons, hd, hmore⟩ := n.whole.exists_cons
  rw [hcons, List.cons_append]
  by_cases hzero : d = 48
  · subst hzero
    have hnil : more = [] := by
      cases more with
      | nil => rfl
      | cons b more => exact absurd hcons (n.noLeadingZero b more)
    have hstep : step mode stack 48 = .ok (.next .zero stack) := by
      rcases hmode with rfl | rfl <;> rfl
    exact ⟨.zero, .inl rfl, by rw [hnil, run_next hstep, List.nil_append]⟩
  · refine ⟨.digits, .inr rfl, ?_⟩
    rw [run_next (step_digit hmode hd hzero), run_digits (.inl rfl) hmore]

/-! ### Texts -/

theorem step_text {isKey : Bool} (hquote : b ≠ 34) (hbackslash : b ≠ 92) (hcontrol : ¬ b < 32) :
    step (.text isKey) stack b = .ok (.next (.text isKey) stack) := by
  simp [step, hquote, hbackslash, hcontrol]

theorem run_piece {isKey : Bool} (piece : Piece) (rest : Bytes) :
    run (.text isKey) stack (piece.bytes ++ rest) = run (.text isKey) stack rest := by
  have hbackslash : step (.text isKey) stack 92 = .ok (.next (.escape isKey) stack) := rfl
  cases piece with
  | plain c hc =>
    have hall : ∀ s : Bytes, (∀ b ∈ s, b ∈ String.utf8EncodeChar c) →
        run (.text isKey) stack (s ++ rest) = run (.text isKey) stack rest := by
      intro s hs
      induction s with
      | nil => rfl
      | cons b s ih =>
        obtain ⟨hb, hs⟩ := List.forall_mem_cons.mp hs
        obtain ⟨hquote, hbackslash, hcontrol⟩ := plain_bytes hc hb
        rw [List.cons_append, run_next (step_text hquote hbackslash hcontrol), ih hs]
    exact hall _ fun _ hb => hb
  | short letter code hshort =>
    have hne : letter ≠ 117 := by
      rintro rfl
      cases hshort
    have hletter : step (.escape isKey) stack letter = .ok (.next (.text isKey) stack) := by
      simp [step, hshort, hne]
    rw [Piece.bytes, List.cons_append, run_next hbackslash, List.cons_append, run_next hletter,
      List.nil_append]
  | word a b c d n hword =>
    have hu : step (.escape isKey) stack 117 = .ok (.next (.hex isKey 4 true) stack) := rfl
    obtain ⟨ha, hb, hc, hd⟩ : (hexValue? a).isSome ∧ (hexValue? b).isSome ∧
        (hexValue? c).isSome ∧ (hexValue? d).isSome := by
      simp only [hexWord?, Option.bind_eq_bind, Option.bind_eq_some_iff] at hword
      obtain ⟨_, ha, _, hb, _, hc, _, hd, -⟩ := hword
      simp [ha, hb, hc, hd]
    have hdigit : ∀ left x, (hexValue? x).isSome → 1 < left →
        step (.hex isKey left true) stack x = .ok (.next (.hex isKey (left - 1) true) stack) := by
      intro left x hx hleft
      simp [step, hx, Nat.not_le.mpr hleft]
    have hlast : step (.hex isKey 1 true) stack d = .ok (.next (.text isKey) stack) := by
      simp [step, hd]
    simp only [Piece.bytes, List.cons_append, List.nil_append]
    rw [run_next hbackslash, run_next hu, run_next (hdigit 4 a ha (by decide)),
      run_next (hdigit 3 b hb (by decide)), run_next (hdigit 2 c hc (by decide)), run_next hlast]

theorem run_pieces {isKey : Bool} (pieces : List Piece) (rest : Bytes) :
    run (.text isKey) stack (piecesBytes pieces ++ rest) = run (.text isKey) stack rest := by
  induction pieces with
  | nil => rfl
  | cons piece pieces ih =>
    rw [piecesBytes, List.flatMap_cons, List.append_assoc, run_piece]
    exact ih

/-! ### Values -/

/-- A text that is skipped as one value, whatever is open and whatever follows. -/
def Skips (text : Bytes) : Prop :=
  ∀ stack rest, Stops rest → run .value stack (text ++ rest) = goOn stack rest

theorem Skips.skipValue_eq {text : Bytes} (h : Skips text) (space : Space) (hrest : Stops rest) :
    skipValue (space.bytes ++ (text ++ rest)) = .ok rest := by
  rw [skipValue, passes_value.run_space, h [] rest hrest]
  rfl

theorem skips_literal {c : UInt8} {cs : Bytes} {b : UInt8}
    (h : ∀ stack, step .value stack b = .ok (.next (.literal (c :: cs)) stack)) :
    Skips (b :: c :: cs) := fun stack rest _ => by
  rw [List.cons_append, run_next (h stack), run_literal]

theorem skips_numeral (n : Numeral) : Skips n.bytes := fun stack rest h => by
  have hbytes : n.bytes ++ rest = n.signBytes ++ (n.whole.bytes ++ (n.tailBytes ++ rest)) := by
    simp [Numeral.bytes, Numeral.tailBytes]
  rw [hbytes]
  cases hneg : n.negative with
  | true =>
    have hminus : step .value stack 45 = .ok (.next .sign stack) := rfl
    obtain ⟨mode, hmode, hwhole⟩ :=
      run_whole (.inr rfl) n stack (n.tailBytes ++ rest)
    rw [Numeral.signBytes, hneg, if_pos rfl, List.singleton_append, run_next hminus, hwhole,
      run_tail hmode n h]
  | false =>
    obtain ⟨mode, hmode, hwhole⟩ :=
      run_whole (.inl rfl) n stack (n.tailBytes ++ rest)
    rw [Numeral.signBytes, hneg, if_neg (by decide), List.nil_append, hwhole, run_tail hmode n h]

theorem skips_text (pieces : List Piece) : Skips (34 :: piecesBytes pieces ++ [34]) :=
  fun stack rest _ => by
    have hopen : step .value stack 34 = .ok (.next (.text false) stack) := rfl
    have hclose : step (.text false) stack 34 = .ok (ended stack) := rfl
    rw [List.append_assoc, List.cons_append, run_next hopen, run_pieces, List.singleton_append,
      run_ended hclose]

/-! ### Lists -/

theorem run_element {e : Element Bytes} (h : Skips e.value) {frame : Frame} {outer : List Frame}
    (hrest : Stops rest) :
    run .value (frame :: outer) (e.bytes ++ rest) = run .after (frame :: outer) rest := by
  rw [Element.bytes, List.append_assoc, List.append_assoc, passes_value.run_space,
    h _ _ (stops_space e.after hrest), goOn, passes_after.run_space]

theorem stops_tail (parts : List Bytes) (h : Stops rest) :
    Stops (parts.flatMap (44 :: ·) ++ rest) := by
  cases parts with
  | nil => exact h
  | cons part parts => exact stops_comma _

theorem run_elements {elements : List (Element Bytes)} (h : ∀ e ∈ elements, Skips e.value)
    (outer : List Frame) (rest : Bytes) :
    run .after (.list :: outer) ((elements.map Element.bytes).flatMap (44 :: ·) ++ 93 :: rest) =
      goOn outer rest := by
  have hend : step .after (.list :: outer) 93 = .ok (ended outer) := rfl
  have hcomma : step .after (.list :: outer) 44 = .ok (.next .value (.list :: outer)) := rfl
  induction elements with
  | nil => exact run_ended hend rest
  | cons e elements ih =>
    obtain ⟨he, helements⟩ := List.forall_mem_cons.mp h
    have hstops := stops_tail (elements.map Element.bytes) (stops_bracket rest)
    rw [List.map_cons, List.flatMap_cons, List.append_assoc, List.cons_append, run_next hcomma,
      run_element he hstops, ih helements]

theorem skips_list (inner : Space) {elements : List (Element Bytes)}
    (h : ∀ e ∈ elements, Skips e.value ∧
      ∃ b more, e.value = b :: more ∧ isSpace b = false ∧ b ≠ 93) :
    Skips (listBytes inner elements) := by
  intro stack rest hrest
  have hopen : step .value stack 91 = .ok (.next .firstElement (.list :: stack)) := rfl
  rw [listBytes, List.append_assoc, List.append_assoc, List.cons_append, run_next hopen]
  rw [passes_firstElement.run_space]
  cases elements with
  | nil =>
    have hend : step .firstElement (.list :: stack) 93 = .ok (ended stack) := rfl
    exact run_ended hend rest
  | cons e elements =>
    obtain ⟨⟨he, b, more, hvalue, hspace, hne⟩, helements⟩ := List.forall_mem_cons.mp h
    have hstops := stops_tail (elements.map Element.bytes) (stops_bracket rest)
    have hfirst : ∀ rest, run .firstElement (.list :: stack) (e.bytes ++ rest) =
        run .value (.list :: stack) (e.bytes ++ rest) := by
      intro rest
      rw [Element.bytes, List.append_assoc, List.append_assoc, passes_firstElement.run_space,
        passes_value.run_space, hvalue, List.cons_append, run_firstElement hne hspace]
    rw [List.map_cons, separated_cons, List.append_assoc, List.singleton_append, hfirst,
      run_element he hstops, run_elements fun e he => (helements e he).1]

/-! ### Objects -/

theorem run_member {m : Member Bytes} (h : Skips m.value) {frame : Frame} {outer : List Frame}
    (hrest : Stops rest) :
    run .key (frame :: outer) (m.bytes ++ rest) = run .after (frame :: outer) rest := by
  have hopen : step .key (frame :: outer) 34 = .ok (.next (.text true) (frame :: outer)) := rfl
  have hclose : step (.text true) (frame :: outer) 34 = .ok (.next .colon (frame :: outer)) := rfl
  have hcolon : step .colon (frame :: outer) 58 = .ok (.next .value (frame :: outer)) := rfl
  simp only [Member.bytes, List.append_assoc, List.cons_append]
  rw [passes_key.run_space, run_next hopen, run_pieces, run_next hclose, passes_colon.run_space,
    run_next hcolon, passes_value.run_space, h _ _ (stops_space m.after hrest), goOn,
    passes_after.run_space]

theorem run_members {members : List (Member Bytes)} (h : ∀ m ∈ members, Skips m.value)
    (outer : List Frame) (rest : Bytes) :
    run .after (.object :: outer) ((members.map Member.bytes).flatMap (44 :: ·) ++ 125 :: rest) =
      goOn outer rest := by
  have hend : step .after (.object :: outer) 125 = .ok (ended outer) := rfl
  have hcomma : step .after (.object :: outer) 44 = .ok (.next .key (.object :: outer)) := rfl
  induction members with
  | nil => exact run_ended hend rest
  | cons m members ih =>
    obtain ⟨hm, hmembers⟩ := List.forall_mem_cons.mp h
    have hstops := stops_tail (members.map Member.bytes) (stops_brace rest)
    rw [List.map_cons, List.flatMap_cons, List.append_assoc, List.cons_append, run_next hcomma,
      run_member hm hstops, ih hmembers]

theorem skips_object (inner : Space) {members : List (Member Bytes)}
    (h : ∀ m ∈ members, Skips m.value) : Skips (objectBytes inner members) := by
  intro stack rest hrest
  have hopen : step .value stack 123 = .ok (.next .firstMember (.object :: stack)) := rfl
  rw [objectBytes, List.append_assoc, List.append_assoc, List.cons_append, run_next hopen]
  rw [passes_firstMember.run_space]
  cases members with
  | nil =>
    have hend : step .firstMember (.object :: stack) 125 = .ok (ended stack) := rfl
    exact run_ended hend rest
  | cons m members =>
    obtain ⟨hm, hmembers⟩ := List.forall_mem_cons.mp h
    have hstops := stops_tail (members.map Member.bytes) (stops_brace rest)
    have hfirst : ∀ rest, run .firstMember (.object :: stack) (m.bytes ++ rest) =
        run .key (.object :: stack) (m.bytes ++ rest) := by
      intro rest
      simp only [Member.bytes, List.append_assoc, List.cons_append]
      rw [passes_firstMember.run_space, passes_key.run_space, run_firstMember]
    rw [List.map_cons, separated_cons, List.append_assoc, List.singleton_append, hfirst,
      run_member hm hstops, run_members hmembers]

end Skip

/-! ### All values -/

/-- The bytes that a value may begin with. -/
def Value.Begins (v : Value) (b : UInt8) : Prop :=
  match v with
  | .null => b = 110
  | .boolean true => b = 116
  | .boolean false => b = 102
  | .number _ => b = 45 ∨ isDigit b = true
  | .text _ => b = 34
  | .list _ _ => b = 91
  | .object _ _ => b = 123

theorem Value.exists_begins (v : Value) : ∃ b more, v.bytes = b :: more ∧ v.Begins b := by
  cases v with
  | null => exact ⟨_, _, rfl, rfl⟩
  | boolean b => cases b <;> exact ⟨_, _, rfl, rfl⟩
  | number n => exact n.exists_cons
  | text pieces => exact ⟨_, _, rfl, rfl⟩
  | list inner elements => exact ⟨_, _, rfl, rfl⟩
  | object inner members => exact ⟨_, _, rfl, rfl⟩

/-- A value begins with neither space nor the end of a list. -/
theorem Value.Begins.isSpace {v : Value} {b : UInt8} (h : v.Begins b) :
    Skip.isSpace b = false ∧ b ≠ 93 := by
  have hdigit : ∀ b, isDigit b = true → Skip.isSpace b = false ∧ b ≠ 93 :=
    Text.forall_byte (by decide +kernel)
  cases v with
  | null => cases h; decide
  | boolean b => cases b <;> (cases h; decide)
  | number n =>
    rcases h with rfl | h
    · decide
    · exact hdigit b h
  | text pieces => cases h; decide
  | list inner elements => cases h; decide
  | object inner members => cases h; decide

mutual

/-- Every value is skipped. -/
theorem Value.skips : ∀ v : Value, Skip.Skips v.bytes
  | .null => Skip.skips_literal fun _ => rfl
  | .boolean true => Skip.skips_literal fun _ => rfl
  | .boolean false => Skip.skips_literal fun _ => rfl
  | .number n => Skip.skips_numeral n
  | .text pieces => Skip.skips_text pieces
  | .list inner elements => Skip.skips_list inner (elements_skip elements)
  | .object inner members => Skip.skips_object inner (members_skip members)
termination_by structural v => v

theorem elements_skip : ∀ elements : List (Element Value), ∀ e ∈ elementsBytes elements,
    Skip.Skips e.value ∧ ∃ b more, e.value = b :: more ∧ Skip.isSpace b = false ∧ b ≠ 93
  | [] => List.forall_mem_nil _
  | ⟨_, value, _⟩ :: elements =>
    have ⟨b, more, hcons, hb⟩ := value.exists_begins
    List.forall_mem_cons.mpr
      ⟨⟨value.skips, b, more, hcons, hb.isSpace⟩, elements_skip elements⟩
termination_by structural elements => elements

theorem members_skip : ∀ members : List (Member Value), ∀ m ∈ membersBytes members,
    Skip.Skips m.value
  | [] => List.forall_mem_nil _
  | ⟨_, _, _, _, value, _⟩ :: members =>
    List.forall_mem_cons.mpr ⟨value.skips, members_skip members⟩
termination_by structural members => members

end

end LoraBridge.Json
