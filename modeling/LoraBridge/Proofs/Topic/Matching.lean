import LoraBridge.Topic.Filter

/-! # What filters accept

  A filter and a topic are compared level by level, both from the front, until a `#` comes or one of
  them has no levels left. Here it is said which topics that accepts, without going through the
  comparison.

  - `Topic.levels_eq_iff`: the levels of a text are the pieces without `/` that it is joined from.
  - `Filter.acceptsLevels_append`: the levels before the first `#` are compared apart from the rest.
  - `Filter.acceptsLevels_eq_true_iff`: a filter accepts the topics that fit place by place.
  - `Filter.accepts_iff_fits`: the same of texts, and what `+` and `#` stand for.
-/

namespace LoraBridge

namespace Topic

/-! ### Levels -/

variable {s t : String} {ls ms : List (List Char)}

/-- No piece of a list that is split has a separator in it. -/
theorem not_mem_of_mem_splitOn {c : Char} {l : List Char} {cs : List Char}
    (h : l ∈ cs.splitOn c) : c ∉ l := by
  induction cs generalizing l with
  | nil =>
    obtain rfl : l = [] := by simpa using h
    simp
  | cons d cs ih =>
    rw [List.splitOn_cons_eq_if_modifyHead] at h
    split at h
    · rcases List.mem_cons.mp h with rfl | h
      · simp
      · exact ih h
    · next hd =>
      -- the first character goes to the first piece of the rest
      obtain ⟨first, rest, heq⟩ := List.exists_cons_of_ne_nil (List.splitOn_ne_nil c cs)
      rw [heq, List.modifyHead_cons] at h
      rcases List.mem_cons.mp h with rfl | h
      · have hfirst : c ∉ first := ih (by simp [heq])
        simpa [hfirst] using fun hc => hd (by simp [hc])
      · exact ih (by simp [heq, h])

theorem levels_ne_nil (s : String) : levels s ≠ [] := List.splitOn_ne_nil _ _

/-- The levels of a text are the pieces without `/` that it is joined from. -/
theorem levels_eq_iff :
    levels s = ls ↔ ls ≠ [] ∧ (∀ l ∈ ls, '/' ∉ l) ∧ s.toList = ['/'].intercalate ls := by
  constructor
  · rintro rfl
    exact ⟨levels_ne_nil s, fun l hl => not_mem_of_mem_splitOn hl,
      (List.intercalate_splitOn '/').symm⟩
  · rintro ⟨hne, hnone, hjoined⟩
    rw [levels, hjoined, List.splitOn_intercalate '/' hnone hne]

/-- Pieces without `/` are the levels of some text. -/
theorem exists_levels (hne : ls ≠ []) (hnone : ∀ l ∈ ls, '/' ∉ l) : ∃ s, levels s = ls :=
  ⟨String.ofList (['/'].intercalate ls), levels_eq_iff.mpr ⟨hne, hnone, String.toList_ofList⟩⟩

theorem levels_inj : levels s = levels t ↔ s = t := by
  constructor
  · intro h
    obtain ⟨-, -, hs⟩ := levels_eq_iff.mp h
    obtain ⟨-, -, ht⟩ := levels_eq_iff.mp (rfl : levels t = levels t)
    exact String.toList_inj.mp (hs.trans ht.symm)
  · rintro rfl
    rfl

/-- A slash divides the levels of a text. -/
theorem levels_append (s t : String) : levels (s ++ "/" ++ t) = levels s ++ levels t := by
  have hjoined : (s ++ "/" ++ t).toList = s.toList ++ '/' :: t.toList := by simp
  rw [levels, hjoined, List.splitOn_append_cons_self]
  rfl

/-- A text without `/` is a single level. -/
theorem levels_eq_singleton {l : List Char} : levels s = [l] ↔ '/' ∉ l ∧ s.toList = l := by
  simp [levels_eq_iff]

/-- Where the levels of a text are divided, so is the text. -/
theorem exists_of_levels_eq_append (h : levels t = ls ++ ms) (hls : ls ≠ []) (hms : ms ≠ []) :
    ∃ q r, levels q = ls ∧ levels r = ms ∧ t = q ++ "/" ++ r := by
  obtain ⟨-, hnone, -⟩ := levels_eq_iff.mp h
  obtain ⟨q, rfl⟩ := exists_levels hls fun l hl => hnone l (List.mem_append_left _ hl)
  obtain ⟨r, rfl⟩ := exists_levels hms fun l hl => hnone l (List.mem_append_right _ hl)
  refine ⟨q, r, rfl, rfl, ?_⟩
  rw [← levels_inj, h, levels_append]

end Topic

namespace Filter

open Topic (levels levels_append levels_inj levels_ne_nil)

variable {F G T : List (List Char)}

/-! ### Lists of levels -/

variable {f t : List Char}

theorem acceptsLevels_nil_iff : acceptsLevels [] T = true ↔ T = [] := by
  cases T <;> simp [acceptsLevels]

/-- The first level of a filter is compared with that of the topic, unless it is `#`. -/
theorem acceptsLevels_cons_iff (hf : f ≠ anyLevels) : acceptsLevels (f :: F) T = true ↔
    ∃ t T', T = t :: T' ∧ (f = anyLevel ∨ f = t) ∧ acceptsLevels F T' = true := by
  cases T with
  | nil => simp [acceptsLevels, hf]
  | cons t T =>
    simp only [acceptsLevels, hf, decide_false, Bool.false_or, Bool.and_eq_true, Bool.or_eq_true,
      decide_eq_true_eq]
    constructor
    · intro h
      exact ⟨t, T, rfl, h⟩
    · rintro ⟨_, _, heq, h⟩
      obtain ⟨rfl, rfl⟩ := List.cons.inj heq
      exact h

/-- A level that is no wildcard stands for itself. -/
theorem acceptsLevels_plain_iff (hf : f ≠ anyLevels) (hplain : f ≠ anyLevel) :
    acceptsLevels (f :: F) T = true ↔ ∃ T', T = f :: T' ∧ acceptsLevels F T' = true := by
  rw [acceptsLevels_cons_iff hf]
  constructor
  · rintro ⟨t, T', rfl, hfits, hrest⟩
    obtain rfl := hfits.resolve_left hplain
    exact ⟨T', rfl, hrest⟩
  · rintro ⟨T', rfl, hrest⟩
    exact ⟨f, T', rfl, .inr rfl, hrest⟩

/-- A `+` stands for one level. -/
theorem acceptsLevels_plus_iff : acceptsLevels (anyLevel :: F) T = true ↔
    ∃ t T', T = t :: T' ∧ acceptsLevels F T' = true := by
  have hplus : anyLevel ≠ anyLevels := by decide
  simp only [acceptsLevels_cons_iff hplus, true_or, true_and]

/-- A `#` stands for whatever is left. -/
theorem acceptsLevels_hash (G T : List (List Char)) :
    acceptsLevels (anyLevels :: G) T = true := by
  cases T <;> simp [acceptsLevels]

theorem not_mem_cons (h : anyLevels ∉ f :: F) : f ≠ anyLevels ∧ anyLevels ∉ F := by
  simpa [eq_comm] using h

/-- What comes after some levels is compared apart from them, as long as no `#` ends the comparison
    before. -/
theorem acceptsLevels_append (hnone : anyLevels ∉ F) :
    acceptsLevels (F ++ G) T = true ↔
      ∃ U V, T = U ++ V ∧ acceptsLevels F U = true ∧ acceptsLevels G V = true := by
  induction F generalizing T with
  | nil =>
    simp only [List.nil_append, acceptsLevels_nil_iff]
    constructor
    · intro h
      exact ⟨[], T, rfl, rfl, h⟩
    · rintro ⟨_, V, rfl, rfl, hV⟩
      exact hV
  | cons f F ih =>
    obtain ⟨hf, hF⟩ := not_mem_cons hnone
    simp only [List.cons_append, acceptsLevels_cons_iff hf, ih hF]
    constructor
    · rintro ⟨t, _, rfl, hfits, U, V, rfl, hU, hV⟩
      exact ⟨t :: U, V, rfl, ⟨t, U, rfl, hfits, hU⟩, hV⟩
    · rintro ⟨_, V, rfl, ⟨t, U, rfl, hfits, hU⟩, hV⟩
      exact ⟨t, U ++ V, rfl, hfits, U, V, rfl, hU, hV⟩

/-- Whether the levels of a filter before a place fit those of a topic: each is `+` or the same. -/
def FitsBefore (k : Nat) (F T : List (List Char)) : Prop :=
  ∀ i < k, F[i]? = some anyLevel ∨ F[i]? = T[i]?

theorem fitsBefore_cons {k : Nat} : FitsBefore (k + 1) (f :: F) (t :: T) ↔
    (f = anyLevel ∨ f = t) ∧ FitsBefore k F T := by
  simp only [FitsBefore, Nat.forall_lt_succ_left, List.getElem?_cons_zero,
    List.getElem?_cons_succ, Option.some.injEq]

theorem fitsBefore_append : FitsBefore F.length (F ++ G) T ↔ FitsBefore F.length F T := by
  refine forall_congr' fun i => forall_congr' fun hi => ?_
  rw [List.getElem?_append_left hi]

/-- A filter without `#` accepts the topics with as many levels that fit place by place. -/
theorem acceptsLevels_iff (hnone : anyLevels ∉ F) :
    acceptsLevels F T = true ↔ F.length = T.length ∧ FitsBefore F.length F T := by
  induction F generalizing T with
  | nil => cases T <;> simp [acceptsLevels, FitsBefore]
  | cons f F ih =>
    obtain ⟨hf, hF⟩ := not_mem_cons hnone
    rw [acceptsLevels_cons_iff hf]
    cases T with
    | nil => simp
    | cons t T =>
      simp only [List.cons.injEq, List.length_cons, fitsBefore_cons, Nat.add_right_cancel_iff]
      constructor
      · rintro ⟨_, _, ⟨rfl, rfl⟩, hfits, hrest⟩
        obtain ⟨hlength, hfitsRest⟩ := (ih hF).mp hrest
        exact ⟨hlength, hfits, hfitsRest⟩
      · rintro ⟨hlength, hfits, hfitsRest⟩
        exact ⟨t, T, ⟨rfl, rfl⟩, hfits, (ih hF).mpr ⟨hlength, hfitsRest⟩⟩

/-- A filter accepts a topic once it has come to a `#`. -/
theorem acceptsLevels_append_hash (hnone : anyLevels ∉ F) :
    acceptsLevels (F ++ anyLevels :: G) T = true ↔
      F.length ≤ T.length ∧ FitsBefore F.length F T := by
  simp only [acceptsLevels_append hnone, acceptsLevels_hash, and_true, acceptsLevels_iff hnone]
  constructor
  · rintro ⟨U, V, rfl, hlength, hfits⟩
    refine ⟨by simp [hlength], fun i hi => ?_⟩
    rw [List.getElem?_append_left (hlength ▸ hi)]
    exact hfits i hi
  · rintro ⟨hlength, hfits⟩
    refine ⟨T.take F.length, T.drop F.length, by simp, by simp [hlength], fun i hi => ?_⟩
    rw [List.getElem?_take_of_lt hi]
    exact hfits i hi

/-- Whether this is the place of the first `#` in a filter. -/
def IsFirstHash (k : Nat) (F : List (List Char)) : Prop :=
  F[k]? = some anyLevels ∧ ∀ i < k, F[i]? ≠ some anyLevels

theorem isFirstHash_append_hash (hnone : anyLevels ∉ F) {k : Nat} :
    IsFirstHash k (F ++ anyLevels :: G) ↔ k = F.length := by
  constructor
  · rintro ⟨hhash, hfirst⟩
    -- before the end of `F` there is no `#`, and after it there was one
    rcases Nat.lt_trichotomy k F.length with hlt | rfl | hlt
    · rw [List.getElem?_append_left hlt] at hhash
      exact absurd (List.mem_of_getElem? hhash) hnone
    · rfl
    · exact absurd (by simp) (hfirst F.length hlt)
  · rintro rfl
    refine ⟨by simp, fun i hi h => hnone ?_⟩
    rw [List.getElem?_append_left hi] at h
    exact List.mem_of_getElem? h

/-- When the levels of a filter accept those of a topic. -/
theorem acceptsLevels_eq_true_iff : acceptsLevels F T = true ↔
    (∃ k, IsFirstHash k F ∧ k ≤ T.length ∧ FitsBefore k F T) ∨
      (anyLevels ∉ F ∧ F.length = T.length ∧ FitsBefore F.length F T) := by
  by_cases hmem : anyLevels ∈ F
  · obtain ⟨before, after, rfl, hnone⟩ := List.eq_append_cons_of_mem hmem
    simp only [acceptsLevels_append_hash hnone, isFirstHash_append_hash hnone, exists_eq_left,
      fitsBefore_append, hmem, not_true, false_and, or_false]
  · have hnowhere (k : Nat) : ¬ IsFirstHash k F := fun h => hmem (List.mem_of_getElem? h.1)
    simp only [acceptsLevels_iff hmem, hnowhere, false_and, exists_false, false_or, hmem,
      not_false_eq_true, true_and]

/-! ### Wildcards at the end -/

/-- Levels accept themselves. -/
theorem acceptsLevels_self (F : List (List Char)) : acceptsLevels F F = true := by
  induction F with
  | nil => rfl
  | cons f F ih => simp [acceptsLevels, ih]

/-- What is accepted by some levels has some, unless there is a `#`. -/
theorem ne_nil_of_acceptsLevels (hnone : anyLevels ∉ F) (hF : F ≠ [])
    (h : acceptsLevels F T = true) : T ≠ [] := by
  have hlength := ((acceptsLevels_iff hnone).mp h).1
  exact List.ne_nil_of_length_pos (hlength ▸ List.length_pos_iff.mpr hF)

/-- Levels without wildcards accept nothing else. -/
theorem eq_of_acceptsLevels (hnone : anyLevels ∉ F) (hone : anyLevel ∉ F)
    (h : acceptsLevels F T = true) : T = F := by
  obtain ⟨hlength, hfits⟩ := (acceptsLevels_iff hnone).mp h
  refine (List.ext_getElem? fun i => ?_).symm
  rcases Nat.lt_or_ge i F.length with hi | hi
  · exact (hfits i hi).resolve_left fun h => hone (List.mem_of_getElem? h)
  · rw [List.getElem?_eq_none hi, List.getElem?_eq_none (hlength ▸ hi)]

/-- A filter that goes on with `#` accepts what it accepts without, and all that begins so. -/
theorem acceptsLevels_concat_hash (hF : F ≠ []) (hT : T ≠ []) :
    acceptsLevels (F ++ [anyLevels]) T = true ↔
      ∃ U V, U ≠ [] ∧ T = U ++ V ∧ acceptsLevels F U = true := by
  by_cases hmem : anyLevels ∈ F
  · -- the `#` at the end does not count, since there is one before it
    obtain ⟨before, after, rfl, hnone⟩ := List.eq_append_cons_of_mem hmem
    simp only [List.append_assoc, List.cons_append, acceptsLevels_append_hash hnone]
    constructor
    · intro h
      exact ⟨T, [], hT, (List.append_nil T).symm, h⟩
    · rintro ⟨U, V, -, rfl, hlength, hfits⟩
      refine ⟨by simp; omega, fun i hi => ?_⟩
      rw [List.getElem?_append_left (by omega)]
      exact hfits i hi
  · simp only [acceptsLevels_append hmem, acceptsLevels_hash, and_true]
    constructor
    · rintro ⟨U, V, rfl, hU⟩
      exact ⟨U, V, ne_nil_of_acceptsLevels hmem hF hU, rfl, hU⟩
    · rintro ⟨U, V, -, rfl, hU⟩
      exact ⟨U, V, rfl, hU⟩

/-- One that goes on with `+` accepts what it accepts without, and one level more. -/
theorem acceptsLevels_concat_plus (hnone : anyLevels ∉ F) :
    acceptsLevels (F ++ [anyLevel]) T = true ↔
      ∃ U l, T = U ++ [l] ∧ acceptsLevels F U = true := by
  simp only [acceptsLevels_append hnone, acceptsLevels_plus_iff, acceptsLevels_nil_iff]
  constructor
  · rintro ⟨U, _, rfl, hU, l, _, rfl, rfl⟩
    exact ⟨U, l, rfl, hU⟩
  · rintro ⟨U, l, rfl, hU⟩
    exact ⟨U, [l], rfl, hU, l, [], rfl, rfl⟩

/-! ### Filters -/

variable {p t : String}

theorem levels_hash (p : String) : levels (p ++ "/#") = levels p ++ [anyLevels] := by
  have hparts : p ++ "/#" = p ++ "/" ++ "#" := by rw [String.append_assoc]; rfl
  rw [hparts, levels_append]
  rfl

theorem levels_plus (p : String) : levels (p ++ "/+") = levels p ++ [anyLevel] := by
  have hparts : p ++ "/+" = p ++ "/" ++ "+" := by rw [String.append_assoc]; rfl
  rw [hparts, levels_append]
  rfl

/-- What stands before a `#` at the end, and everything below that. -/
theorem accepts_hash_iff : accepts (p ++ "/#") t = true ↔
    ∃ q, accepts p q = true ∧ (t = q ∨ ∃ r, t = q ++ "/" ++ r) := by
  rw [accepts, levels_hash,
    acceptsLevels_concat_hash (levels_ne_nil p) (levels_ne_nil t)]
  constructor
  · rintro ⟨U, V, hne, hlevels, hU⟩
    by_cases hV : V = []
    · refine ⟨t, ?_, .inl rfl⟩
      rwa [accepts, hlevels, hV, List.append_nil]
    · obtain ⟨q, r, rfl, -, rfl⟩ := Topic.exists_of_levels_eq_append hlevels hne hV
      exact ⟨q, hU, .inr ⟨r, rfl⟩⟩
  · rintro ⟨q, hq, rfl | ⟨r, rfl⟩⟩
    · exact ⟨levels t, [], levels_ne_nil t, (List.append_nil _).symm, hq⟩
    · exact ⟨levels q, levels r, levels_ne_nil q, levels_append q r, hq⟩

/-- What stands before a `+` at the end, and one level below that. -/
theorem accepts_plus_iff (hnone : anyLevels ∉ levels p) : accepts (p ++ "/+") t = true ↔
    ∃ q l, accepts p q = true ∧ '/' ∉ l.toList ∧ t = q ++ "/" ++ l := by
  rw [accepts, levels_plus, acceptsLevels_concat_plus hnone]
  constructor
  · rintro ⟨U, l, hlevels, hU⟩
    have hne : U ≠ [] := ne_nil_of_acceptsLevels hnone (levels_ne_nil p) hU
    obtain ⟨q, r, rfl, hr, rfl⟩ :=
      Topic.exists_of_levels_eq_append hlevels hne (List.cons_ne_nil l [])
    obtain ⟨hslash, hl⟩ := Topic.levels_eq_singleton.mp hr
    exact ⟨q, r, hU, hl ▸ hslash, rfl⟩
  · rintro ⟨q, l, hq, hslash, rfl⟩
    refine ⟨levels q, l.toList, ?_, hq⟩
    rw [levels_append, Topic.levels_eq_singleton.mpr ⟨hslash, rfl⟩]

/-- A `+` alone accepts the topics that are a single level. -/
theorem accepts_plus_alone_iff : accepts "+" t = true ↔ '/' ∉ t.toList := by
  have hplus : levels "+" = [] ++ [anyLevel] := rfl
  rw [accepts, hplus, acceptsLevels_concat_plus List.not_mem_nil]
  constructor
  · rintro ⟨U, l, hlevels, hU⟩
    obtain rfl := acceptsLevels_nil_iff.mp hU
    obtain ⟨hslash, hl⟩ := Topic.levels_eq_singleton.mp hlevels
    exact hl ▸ hslash
  · intro hslash
    exact ⟨[], t.toList, Topic.levels_eq_singleton.mpr ⟨hslash, rfl⟩, rfl⟩

/-- A filter accepts a topic exactly if its levels before the first `#` fit those of the topic place
    by place, or all of them do and there are no more if there is no `#`. With `#` at its end it
    accepts what it accepts without, and everything below that; and whatever has no wildcards
    accepts itself alone. A `+` stands for exactly one level, which may be empty. -/
theorem accepts_iff_fits :
    (∀ filter topic, accepts filter topic = true ↔
      (∃ k, IsFirstHash k (levels filter) ∧ k ≤ (levels topic).length ∧
          FitsBefore k (levels filter) (levels topic)) ∨
        (anyLevels ∉ levels filter ∧ (levels filter).length = (levels topic).length ∧
          FitsBefore (levels filter).length (levels filter) (levels topic))) ∧
      (∀ p t, accepts (p ++ "/#") t = true ↔
        ∃ q, accepts p q = true ∧ (t = q ∨ ∃ r, t = q ++ "/" ++ r)) ∧
      (∀ p, accepts p p = true ∧ (anyLevels ∉ levels p → anyLevel ∉ levels p →
        ∀ q, accepts p q = true → q = p)) ∧
      (∀ t, accepts "+" t = true ↔ '/' ∉ t.toList) ∧
      (∀ p t, anyLevels ∉ levels p → (accepts (p ++ "/+") t = true ↔
        ∃ q l, accepts p q = true ∧ '/' ∉ l.toList ∧ t = q ++ "/" ++ l)) := by
  refine ⟨fun _ _ => acceptsLevels_eq_true_iff, fun _ _ => accepts_hash_iff, fun p => ?_,
    fun _ => accepts_plus_alone_iff, fun _ _ hnone => accepts_plus_iff hnone⟩
  refine ⟨acceptsLevels_self _, fun hnone hone q h => ?_⟩
  exact levels_inj.mp (eq_of_acceptsLevels hnone hone h)

/-- Below `a/b` there is the empty level, which a `+` stands for. A `#` stands for it, too, for
    levels further below, and for none at all. -/
theorem accepts_iff_fits_wildcards :
    anyLevels ∉ levels "a/b" ∧ anyLevel ∉ levels "a/b" ∧ accepts "a/b/+" "a/b/" = true ∧
      accepts "a/b/#" "a/b" = true ∧ accepts "a/b/#" "a/b/c/d" = true := by
  have hnone : anyLevels ∉ levels "a/b" := by decide
  have hone : anyLevel ∉ levels "a/b" := by decide
  obtain ⟨-, hhash, hself, -, hplus⟩ := accepts_iff_fits
  have hbelow : accepts "a/b" "a/b" = true := (hself "a/b").1
  refine ⟨hnone, hone, ?_, ?_, ?_⟩
  · exact (hplus "a/b" "a/b/" hnone).mpr ⟨"a/b", "", hbelow, by decide, rfl⟩
  · exact (hhash "a/b" "a/b").mpr ⟨"a/b", hbelow, .inl rfl⟩
  · exact (hhash "a/b" "a/b/c/d").mpr ⟨"a/b", hbelow, .inr ⟨"c/d", rfl⟩⟩

end Filter

end LoraBridge
