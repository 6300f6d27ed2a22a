/-! # Runs

  The systems of this library are given by a function that says to which state an action leads,
  if it is possible at all. A `Run` is any number of steps of such a system, one after the other.
  For each step it keeps the state in which the step began and the action, so that everything a
  step shows can be read off the list of steps.

  - `Run.invariant`: what every step preserves holds after a run.
  - `Run.append`, `Run.split`: runs are put together and taken apart.
  - `Run.split_at`, `Run.between`: every step that is kept was possible, and the run leads up to it
    and on from it.
  - `Run.of_steps?`: the run that given actions take.
  - `Endless`: a run that goes on for ever; `Endless.exists_countP`: what happens again and again
    happens as often as one likes.
  - `filterMap_concat`: what is read off the steps grows with the run.
-/

namespace LoraBridge

variable {State Action : Type}

/-- The steps of a system from a state on, and the state that they lead to. -/
inductive Run (step? : State → Action → Option State) (start : State) :
    List (State × Action) → State → Prop
  /-- No step has been taken. -/
  | refl : Run step? start [] start
  /-- One more step has been taken. -/
  | step {steps s a t} (before : Run step? start steps s) (now : step? s a = some t) :
      Run step? start (steps ++ [(s, a)]) t

namespace Run

variable {step? : State → Action → Option State} {start s t : State} {a : Action}
  {steps more : List (State × Action)}

/-- What holds in the beginning and is preserved by every step holds after a run. -/
theorem invariant {I : State → Prop} (hstart : I start)
    (hstep : ∀ {s a t}, I s → step? s a = some t → I t)
    (h : Run step? start steps s) : I s := by
  induction h with
  | refl => exact hstart
  | step _ now ih => exact hstep ih now

/-- A single step is a run. -/
theorem single (now : step? start a = some t) : Run step? start [(start, a)] t :=
  Run.step .refl now

/-- A run goes on with another one. -/
theorem append (h : Run step? start steps s) (h' : Run step? s more t) :
    Run step? start (steps ++ more) t := by
  induction h' with
  | refl => simpa using h
  | step _ now ih =>
    rw [← List.append_assoc]
    exact .step ih now

/-- Where its steps are divided, so is the run. -/
theorem split (h : Run step? start (steps ++ more) t) :
    ∃ s, Run step? start steps s ∧ Run step? s more t := by
  generalize hall : steps ++ more = all at h
  -- by induction on the whole run, whose last step tells where it is divided
  induction h generalizing more with
  | refl =>
    obtain ⟨rfl, rfl⟩ := List.append_eq_nil_iff.mp hall
    exact ⟨start, .refl, .refl⟩
  | @step before u b t hbefore now ih =>
    -- the last step belongs to the second part, unless that part is empty
    rcases List.eq_nil_or_concat more with rfl | ⟨more', last, rfl⟩
    · rw [List.append_nil] at hall
      subst hall
      exact ⟨t, .step hbefore now, .refl⟩
    · rw [List.concat_eq_append, ← List.append_assoc] at hall
      obtain ⟨hinit, hlast⟩ := List.append_inj' hall rfl
      obtain ⟨s, hfirst, hrest⟩ := ih hinit
      simp only [List.cons.injEq, and_true] at hlast
      subst hlast
      rw [List.concat_eq_append]
      exact ⟨s, hfirst, .step hrest now⟩

/-- No steps lead nowhere. -/
theorem eq_of_nil (h : Run step? start [] t) : t = start := by
  generalize hnil : ([] : List (State × Action)) = none at h
  cases h with
  | refl => rfl
  | step _ _ => simp at hnil

/-- A run of one step is that step. -/
theorem eq_of_single {b : State × Action} (h : Run step? start [b] t) :
    b.1 = start ∧ step? start b.2 = some t := by
  generalize hone : [b] = steps at h
  cases h with
  | refl => simp at hone
  | step hbefore now =>
    rcases List.append_eq_singleton_iff.mp hone.symm with ⟨rfl, hb⟩ | ⟨_, hb⟩
    · have hs := hbefore.eq_of_nil
      simp only [List.cons.injEq, and_true] at hb
      subst hs hb
      exact ⟨rfl, now⟩
    · simp at hb

/-- A run leads up to each of its steps, the step was possible, and the run goes on from there. -/
theorem split_at {pre post : List (State × Action)}
    (h : Run step? start (pre ++ (s, a) :: post) t) :
    Run step? start pre s ∧ ∃ u, step? s a = some u ∧ Run step? u post t := by
  obtain ⟨r, hpre, hrest⟩ := h.split
  rw [← List.singleton_append] at hrest
  obtain ⟨u, hone, hpost⟩ := hrest.split
  obtain ⟨hr, now⟩ := hone.eq_of_single
  simp only at hr now
  subst hr
  exact ⟨hpre, u, now, hpost⟩

/-- A run leads up to each of its steps, and from there to each later one. -/
theorem between {r : State} {b : Action} {m n : Nat} (h : Run step? start steps t) (hlt : m < n)
    (hm : steps[m]? = some (s, a)) (hn : steps[n]? = some (r, b)) :
    ∃ before u mid, Run step? start before s ∧ step? s a = some u ∧ Run step? u mid r := by
  -- the steps are divided at the first of the two, and what follows it at the second
  obtain ⟨hmlt, hmget⟩ := List.getElem?_eq_some_iff.mp hm
  have hfirst : steps = steps.take m ++ (s, a) :: steps.drop (m + 1) := by
    rw [← hmget, List.getElem_cons_drop, List.take_append_drop]
  have hn' : (steps.drop (m + 1))[n - (m + 1)]? = some (r, b) := by
    rw [List.getElem?_drop, ← hn]
    congr 1
    omega
  obtain ⟨hnlt, hnget⟩ := List.getElem?_eq_some_iff.mp hn'
  have hsecond : steps.drop (m + 1) = (steps.drop (m + 1)).take (n - (m + 1)) ++
      (r, b) :: (steps.drop (m + 1)).drop (n - (m + 1) + 1) := by
    rw [← hnget, List.getElem_cons_drop, List.take_append_drop]
  rw [hfirst] at h
  obtain ⟨hbefore, u, now, hrest⟩ := h.split_at
  rw [hsecond] at hrest
  exact ⟨_, u, _, hbefore, now, hrest.split_at.1⟩

/-! ### Runs that are computed -/

/-- The steps that actions take one after the other, and where they lead, if all of them are
    possible. -/
def steps? (step? : State → Action → Option State) (start : State) :
    List Action → Option (List (State × Action) × State)
  | [] => some ([], start)
  | a :: actions => do
    let s ← step? start a
    let (steps, t) ← steps? step? s actions
    some ((start, a) :: steps, t)

theorem of_steps? {actions : List Action} (h : steps? step? start actions = some (steps, t)) :
    Run step? start steps t := by
  induction actions generalizing start steps with
  | nil =>
    simp only [steps?, Option.some.injEq, Prod.mk.injEq] at h
    obtain ⟨rfl, rfl⟩ := h
    exact .refl
  | cons a actions ih =>
    simp only [steps?, Option.bind_eq_bind, Option.bind_eq_some_iff, Option.some.injEq,
      Prod.mk.injEq] at h
    obtain ⟨s, now, ⟨rest, u⟩, hrest, rfl, rfl⟩ := h
    exact (single now).append (ih hrest)

end Run

/-! ### Runs without an end -/

/-- The steps of a system from a state on, one after the other for ever. -/
structure Endless (step? : State → Action → Option State) (start : State) where
  /-- The state before the step with a number. -/
  state : Nat → State
  action : Nat → Action
  state_zero : state 0 = start
  now : ∀ n, step? (state n) (action n) = some (state (n + 1))

namespace Endless

variable {step? : State → Action → Option State} {start : State} (σ : Endless step? start)

/-- The first steps. -/
def steps : Nat → List (State × Action)
  | 0 => []
  | n + 1 => steps n ++ [(σ.state n, σ.action n)]

/-- Up to each of its states it is a run. -/
theorem run (n : Nat) : Run step? start (σ.steps n) (σ.state n) := by
  induction n with
  | zero =>
    rw [σ.state_zero]
    exact .refl
  | succ n ih => exact .step ih (σ.now n)

theorem countP_steps_le {m n : Nat} (p : Action → Bool) (hle : m ≤ n) :
    (σ.steps m).countP (p ·.2) ≤ (σ.steps n).countP (p ·.2) := by
  induction hle with
  | refl => exact Nat.le_refl _
  | step _ ih =>
    rw [steps, List.countP_append]
    exact Nat.le_trans ih (Nat.le_add_right _ _)

/-- Steps that are taken again and again are taken as often as one likes. -/
theorem exists_countP {p : Action → Bool} (h : ∀ n, ∃ m, n ≤ m ∧ p (σ.action m) = true)
    (k : Nat) : ∃ n, k ≤ (σ.steps n).countP (p ·.2) := by
  induction k with
  | zero => exact ⟨0, Nat.zero_le _⟩
  | succ k ih =>
    obtain ⟨n, hn⟩ := ih
    obtain ⟨m, hle, hm⟩ := h n
    have hkept := Nat.le_trans hn (σ.countP_steps_le p hle)
    refine ⟨m + 1, ?_⟩
    rw [steps, List.countP_append]
    simpa [hm] using hkept

end Endless

namespace Run

variable {step? : State → Action → Option State} {start s t : State} {a : Action}
  {steps : List (State × Action)}

theorem getElem?_append_state (n : Nat) :
    (((steps ++ [(s, a)])[n]?.map (·.1)).getD t) =
      if n ≤ steps.length then (steps[n]?.map (·.1)).getD s else t := by
  rcases Nat.lt_trichotomy n steps.length with hlt | heq | hgt
  · rw [List.getElem?_append_left hlt, if_pos (Nat.le_of_lt hlt), List.getElem?_eq_getElem hlt]
    rfl
  · subst heq
    rw [List.getElem?_concat_length, if_pos (Nat.le_refl _),
      List.getElem?_eq_none (Nat.le_refl _)]
    rfl
  · rw [List.getElem?_eq_none (by simpa using Nat.succ_le_of_lt hgt), if_neg (Nat.not_le.mpr hgt)]
    rfl

/-- A run begins where its first step does, -/
theorem state_zero (h : Run step? start steps t) : (steps[0]?.map (·.1)).getD t = start := by
  induction h with
  | refl => rfl
  | step _ now ih => rw [getElem?_append_state, if_pos (Nat.zero_le _), ih]

/-- and every step leads to where the next one begins. -/
theorem now_at (h : Run step? start steps t) {n : Nat} (hn : steps[n]? = some (s, a)) :
    step? s a = some ((steps[n + 1]?.map (·.1)).getD t) := by
  induction h with
  | refl => simp at hn
  | @step steps r b t _ now ih =>
    rw [getElem?_append_state]
    by_cases hlt : n < steps.length
    · rw [List.getElem?_append_left hlt] at hn
      rw [if_pos (Nat.succ_le_of_lt hlt), ih hn]
    · have heq : n = steps.length := by
        have := (List.getElem?_eq_some_iff.mp hn).1
        rw [List.length_append, List.length_singleton] at this
        omega
      subst heq
      rw [List.getElem?_concat_length, Option.some.injEq, Prod.mk.injEq] at hn
      obtain ⟨rfl, rfl⟩ := hn
      rw [if_neg (by omega), now]

/-- A run that goes on for ever with an action that changes nothing. -/
def endless (h : Run step? start steps t) {idle : Action} (hidle : step? t idle = some t) :
    Endless step? start where
  state n := (steps[n]?.map (·.1)).getD t
  action n := (steps[n]?.map (·.2)).getD idle
  state_zero := h.state_zero
  now n := by
    cases hn : steps[n]? with
    | some e => exact h.now_at hn
    | none =>
      have hnext : steps[n + 1]? = none := by
        rw [List.getElem?_eq_none_iff] at hn ⊢
        exact Nat.le_succ_of_le hn
      rw [hnext]
      exact hidle

end Run

/-- What is read off each of some steps is read off those before the last one and off that. -/
theorem filterMap_concat {α β : Type} (f : α → Option β) (steps : List α) (last : α) :
    (steps ++ [last]).filterMap f = steps.filterMap f ++ (f last).toList := by
  rw [List.filterMap_append]
  cases h : f last <;> simp [h]

end LoraBridge
