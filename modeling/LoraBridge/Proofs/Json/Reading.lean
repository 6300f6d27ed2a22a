import LoraBridge.Proofs.Json.Source

/-! # What readers make of texts

  A reader takes a value off the front of a text, and what follows is nothing to it. There is one
  exception: a number goes on as long as digits do. So what follows a value has to stop it, which
  space and the separators do.

  - `Stops` is said of what may follow.
  - `Gives` says what a reader makes of a text whatever follows: a value, or none if it is
    refused. Why it is refused is not looked at here.
  - `SkipsSpace`: a reader that passes over space before its value.
-/

namespace LoraBridge.Json

variable {α β : Type} {b : UInt8} {rest s text : Bytes}

/-! ### Results without their faults -/

@[simp] theorem toOption_ok (a : α) : (Except.ok a : Except Fault α).toOption = some a := rfl

@[simp] theorem toOption_error (f : Fault) :
    (Except.error f : Except Fault α).toOption = none := rfl

theorem toOption_bind (x : Except Fault α) (f : α → Except Fault β) :
    (x >>= f).toOption = x.toOption.bind fun a => (f a).toOption := by
  cases x <;> rfl

theorem bind_eq_ok {x : Except Fault α} {f : α → Except Fault β} {b : β} :
    x >>= f = .ok b ↔ ∃ a, x = .ok a ∧ f a = .ok b := by
  cases x <;> simp [bind, Except.bind]

theorem toOption_map (x : Except Fault α) (f : α → β) :
    (x.map f).toOption = x.toOption.map f := by
  cases x <;> rfl

theorem toOption_eq_some_iff {x : Except Fault α} {a : α} : x.toOption = some a ↔ x = .ok a := by
  cases x <;> simp [Except.toOption]

/-! ### Space -/

theorem skipSpace_cons (h : Skip.isSpace b = false) : skipSpace (b :: rest) = b :: rest :=
  List.dropWhile_cons_of_neg (by simp [h])

theorem skipSpace_append (space : Space) (s : Bytes) :
    skipSpace (space.bytes ++ s) = skipSpace s :=
  List.dropWhile_append_of_pos space.isSpace_of_mem

/-- Space before a token is passed over. -/
theorem skipSpace_space (space : Space) (h : Skip.isSpace b = false) :
    skipSpace (space.bytes ++ b :: rest) = b :: rest := by
  rw [skipSpace_append, skipSpace_cons h]

theorem skipSpace_all (space : Space) : skipSpace space.bytes = [] := by
  simpa [skipSpace] using skipSpace_append space []

theorem skipSpace_skipSpace (s : Bytes) : skipSpace (skipSpace s) = skipSpace s := by
  cases h : skipSpace s with
  | nil => rfl
  | cons b rest =>
    have hhead := List.head?_dropWhile_not Skip.isSpace s
    rw [show s.dropWhile Skip.isSpace = b :: rest from h] at hhead
    exact skipSpace_cons (by simpa using hhead)

/-! ### What may follow -/

/-- Whether a text does not go on with a number that stands before it. -/
def Stops : Bytes → Prop
  | [] => True
  | b :: _ => isDigit b = false ∧ b ≠ 46 ∧ b ≠ 101 ∧ b ≠ 69

theorem stops_nil : Stops [] := trivial

theorem stops_of_isSpace (h : Skip.isSpace b = true) : Stops (b :: rest) := by
  simp only [Skip.isSpace, Bool.or_eq_true, decide_eq_true_eq] at h
  rcases h with ((rfl | rfl) | rfl) | rfl <;> exact ⟨by decide, by decide, by decide, by decide⟩

/-- Space stops a number, or what stands behind it does. -/
theorem stops_space (space : Space) (h : Stops rest) : Stops (space.bytes ++ rest) := by
  cases hspace : space.bytes with
  | nil => exact h
  | cons b more =>
    have hb : Skip.isSpace b = true := space.isSpace_of_mem b (by rw [hspace]; exact List.mem_cons_self)
    exact stops_of_isSpace hb

theorem stops_comma (rest : Bytes) : Stops (44 :: rest) :=
  ⟨by decide, by decide, by decide, by decide⟩

theorem stops_bracket (rest : Bytes) : Stops (93 :: rest) :=
  ⟨by decide, by decide, by decide, by decide⟩

theorem stops_brace (rest : Bytes) : Stops (125 :: rest) :=
  ⟨by decide, by decide, by decide, by decide⟩

theorem Stops.not_digit (h : Stops rest) : ∀ b ∈ rest.head?, isDigit b = false := by
  cases rest with
  | nil => simp
  | cons b more => simpa using h.1

/-- Digits end where something else follows. -/
theorem spanDigits_append (hs : ∀ b ∈ s, isDigit b = true)
    (h : ∀ b ∈ rest.head?, isDigit b = false) : spanDigits (s ++ rest) = (s, rest) := by
  have hnone : rest.takeWhile isDigit = [] ∧ rest.dropWhile isDigit = rest := by
    cases rest with
    | nil => exact ⟨rfl, rfl⟩
    | cons b more =>
      have hb : ¬ isDigit b = true := by simp [h b rfl]
      exact ⟨List.takeWhile_cons_of_neg hb, List.dropWhile_cons_of_neg hb⟩
  rw [spanDigits, List.takeWhile_append_of_pos hs, List.dropWhile_append_of_pos hs, hnone.1,
    hnone.2, List.append_nil]

theorem atExponent_of_stops (h : Stops rest) : atExponent rest = false := by
  cases rest with
  | nil => rfl
  | cons b more => simpa [atExponent] using ⟨h.2.2.1, h.2.2.2⟩

/-! ### Readers -/

/-- A reader that passes over space before its value. -/
def SkipsSpace (read : Reader α) : Prop := ∀ s, read (skipSpace s) = read s

/-- What a reader makes of a text, whatever follows. -/
def Gives (read : Reader α) (text : Bytes) (a? : Option α) : Prop :=
  ∀ rest, Stops rest → (read (text ++ rest)).toOption = a?.map fun a => (a, rest)

/-- What a reader makes of a text that nothing follows. -/
def valueOf? (read : Reader α) (text : Bytes) : Option α := (read text).toOption.map (·.1)

theorem Gives.valueOf? {read : Reader α} {a? : Option α} (h : Gives read text a?) :
    valueOf? read text = a? := by
  have hend := h [] stops_nil
  rw [List.append_nil] at hend
  rw [Json.valueOf?, hend]
  cases a? <;> rfl

/-- What a reader makes of a text is what it makes of it when nothing follows. -/
theorem Gives.of_valueOf? {read : Reader α} {a? : Option α} (h : Gives read text a?) :
    Gives read text (Json.valueOf? read text) :=
  h.valueOf?.symm ▸ h

/-- A reader that passes over space does so here. -/
theorem SkipsSpace.append {read : Reader α} (h : SkipsSpace read) (space : Space) (s : Bytes) :
    read (space.bytes ++ s) = read s := by
  rw [← h, skipSpace_append, h]

end LoraBridge.Json
