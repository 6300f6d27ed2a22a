import LoraBridge.Settings.Load

/-! # What is in a tree of settings

  Sources put values into a tree one after the other. The lemmas here say what is found in the tree
  after that, so that nobody has to follow the paths again.

  - `Value.member?_set`, `Value.member?_join`: the members of a table after a change.
  - `Value.at?` is a setting in a section; `Value.at?_set` gives it a value and leaves the others.
  - `Section.Admits` says what a source may hold so that a section has its settings from nowhere
    but the section itself; `at?_addSource` is what comes of such a source.
-/

namespace LoraBridge

namespace Json

variable {α : Type} {key k : String} {a : α} {members : List (String × α)}

theorem find?_setMember (key : String) (a : α) (members : List (String × α)) (k : String) :
    ((setMember key a members).find? (·.1 = k)).map (·.2) =
      if key = k then some a else (members.find? (·.1 = k)).map (·.2) := by
  induction members with
  | nil => by_cases h : key = k <;> simp [setMember, h]
  | cons m rest ih =>
    unfold setMember
    by_cases hm : m.1 = key
    · subst hm
      rw [if_pos rfl]
      by_cases h : m.1 = k <;> simp [h]
    · rw [if_neg hm, List.find?_cons, List.find?_cons]
      by_cases h : m.1 = k
      · have hne : key ≠ k := fun heq => hm (h.trans heq.symm)
        simp [h, hne]
      · simpa [h] using ih

theorem keys_setMember (key : String) (a : α) (members : List (String × α)) :
    (setMember key a members).map (·.1) =
      if key ∈ members.map (·.1) then members.map (·.1) else members.map (·.1) ++ [key] := by
  induction members with
  | nil => rfl
  | cons m rest ih =>
    unfold setMember
    by_cases hm : m.1 = key
    · subst hm
      simp
    · rw [if_neg hm, List.map_cons, ih, List.map_cons]
      by_cases h : key ∈ rest.map (·.1)
      · rw [if_pos h, if_pos (List.mem_cons_of_mem _ h)]
      · have hne : key ∉ m.1 :: rest.map (·.1) := by
          simpa [Ne.symm hm] using h
        rw [if_neg h, if_neg hne, List.cons_append]

/-- Keys stay distinct. -/
theorem nodup_setMember (h : (members.map (·.1)).Nodup) :
    ((setMember key a members).map (·.1)).Nodup := by
  rw [keys_setMember]
  split
  · exact h
  · next hnew =>
    refine List.nodup_append.mpr ⟨h, List.pairwise_singleton _ _, ?_⟩
    intro k hk k' hk' heq
    exact hnew (List.mem_singleton.mp hk' ▸ heq ▸ hk)

end Json

namespace Settings

variable {tree old v : Value} {key name k sec field : String} {origin? : Option String}
  {members : List (String × Value)}

namespace Value

@[simp] theorem member?_nothing (k : String) : nothing.member? k = none := rfl

theorem member?_setMember (origin? : Option String) (key : String) (v : Value)
    (members : List (String × Value)) (k : String) :
    (Value.table origin? (Json.setMember key v members)).member? k =
      if key = k then some v else (Value.table origin? members).member? k :=
  Json.find?_setMember key v members k

/-- The other members of a table stay. -/
theorem member?_set (tree : Value) (name : String) (v : Value) (k : String) :
    (tree.set name v).member? k =
      if (Path.ofName name).root = k then
        some (Path.put v (Path.ofName name).steps
          ((tree.member? (Path.ofName name).root).getD nothing))
      else tree.member? k :=
  member?_setMember _ _ _ _ k

theorem member?_of_cons (origin? : Option String) (e : String × Value)
    (members : List (String × Value)) (k : String) :
    (Value.table origin? (e :: members)).member? k =
      if e.1 = k then some e.2 else (Value.table origin? members).member? k := by
  by_cases h : e.1 = k <;> simp [member?, Value.members, h]

theorem member?_eq_none (h : k ∉ members.map (·.1)) :
    (Value.table origin? members).member? k = none := by
  simp only [member?, Value.members, Option.map_eq_none_iff, List.find?_eq_none, decide_eq_true_eq]
  exact fun e he heq => h (heq ▸ List.mem_map_of_mem he)

/-- A table joins another value member by member. -/
theorem member?_joinMembers (h : (members.map (·.1)).Nodup) (base : List (String × Value))
    (k : String) :
    (Value.table origin? (joinMembers base members)).member? k =
      match (Value.table origin? members).member? k with
      | some v => some ((((Value.table origin? base).member? k).getD nothing).join v)
      | none => (Value.table origin? base).member? k := by
  induction members generalizing base with
  | nil => rfl
  | cons e rest ih =>
    obtain ⟨key, v⟩ := e
    obtain ⟨hnew, hrest⟩ := List.nodup_cons.mp h
    rw [joinMembers, ih hrest, member?_setMember, member?_of_cons]
    by_cases hk : key = k
    · -- the key does not come again
      subst hk
      rw [member?_eq_none hnew, if_pos rfl, if_pos rfl]
      rfl
    · rw [if_neg hk, if_neg hk]

theorem member?_join (h : (members.map (·.1)).Nodup) (old : Value) (k : String) :
    (old.join (.table origin? members)).member? k =
      match (Value.table origin? members).member? k with
      | some v => some (((old.member? k).getD nothing).join v)
      | none => old.member? k :=
  member?_joinMembers h old.members k

/-! ### Settings in sections -/

/-- The value of a setting in a section. -/
def at? (tree : Value) (sec field : String) : Option Value :=
  (tree.member? sec).bind (·.member? field)

/-- A section has been given as a table, if at all. -/
def IsSection (tree : Value) (sec : String) : Prop :=
  ∀ v, tree.member? sec = some v → ∃ origin? members, v = .table origin? members

/-- A path of two keys puts a scalar into a section. -/
theorem member?_set_field (hname : Path.ofName name = ⟨sec, [.key field]⟩)
    (origin? : Option String) (s : Scalar) (k : String) :
    (tree.set name (.scalar origin? s)).member? k =
      if sec = k then
        some (.table ((tree.member? sec).getD nothing).tableOrigin?
          (Json.setMember field (.scalar origin? s) ((tree.member? sec).getD nothing).members))
      else tree.member? k := by
  rw [member?_set, hname]
  rfl

theorem IsSection.set_field (h : tree.IsSection k)
    (hname : Path.ofName name = ⟨sec, [.key field]⟩) (origin? : Option String) (s : Scalar) :
    (tree.set name (.scalar origin? s)).IsSection k := by
  intro v hv
  rw [member?_set_field hname] at hv
  split at hv
  · obtain rfl := Option.some.inj hv
    exact ⟨_, _, rfl⟩
  · exact h v hv

/-- It gives the setting its value, and leaves all others as they are. -/
theorem at?_set (tree : Value) (hname : Path.ofName name = ⟨sec, [.key field]⟩)
    (origin? : Option String) (s : Scalar) (k f : String) :
    (tree.set name (.scalar origin? s)).at? k f =
      if sec = k ∧ field = f then some (.scalar origin? s) else tree.at? k f := by
  rw [at?, member?_set_field hname]
  by_cases hsec : sec = k
  · subst hsec
    rw [if_pos rfl, Option.bind_some, member?_setMember]
    by_cases hfield : field = f
    · simp [hfield]
    · rw [if_neg hfield, if_neg (fun h => hfield h.2), at?]
      cases tree.member? sec with
      | none => rfl
      | some v => rfl
  · rw [if_neg hsec, if_neg (fun h => hsec h.1), at?]

end Value

/-! ### Sources and sections -/

/-- What a source may hold as far as a section goes. If a name leads to the section, it is that of
    the section, which is a table, or it leads to a key in it that none of its settings has. -/
def Section.Admits (sec : Section) (e : String × Value) : Prop :=
  (Path.ofName e.1).root = sec.key →
    (e.1 = sec.key ∧ ∃ origin? members, e.2 = .table origin? members) ∨
      ∃ key steps, (Path.ofName e.1).steps = .key key :: steps ∧ key ∉ sec.fields

theorem addSource_cons (tree : Value) (e : String × Value) (source : List (String × Value)) :
    addSource tree (e :: source) = addSource (tree.set e.1 e.2) source := rfl

section Admits

variable {sec : Section} {e : String × Value} {source : List (String × Value)}

theorem Value.at?_of_cons (origin? : Option String) (e : String × Value)
    (members : List (String × Value)) (sec field : String) :
    (Value.table origin? (e :: members)).at? sec field =
      if e.1 = sec then e.2.member? field else (Value.table origin? members).at? sec field := by
  rw [at?, member?_of_cons]
  split <;> rfl

/-- A section without a value has no settings. -/
theorem Value.member?_getD_nothing (tree : Value) (sec field : String) :
    ((tree.member? sec).getD nothing).member? field = tree.at? sec field := by
  unfold at?
  cases tree.member? sec <;> rfl

theorem Value.IsSection.set (h : tree.IsSection sec.key)
    (hsec : Path.ofName sec.key = ⟨sec.key, []⟩) (he : sec.Admits e) :
    (tree.set e.1 e.2).IsSection sec.key := by
  intro v hv
  rw [member?_set] at hv
  split at hv
  · next hroot =>
    obtain rfl := Option.some.inj hv
    -- joining a table gives a table, and so does putting a value at a key
    rcases he hroot with ⟨hwhole, origin?, members, htable⟩ | ⟨key, steps, hsteps, -⟩
    · rw [hwhole, hsec, htable]
      exact ⟨_, _, rfl⟩
    · rw [hsteps]
      exact ⟨_, _, rfl⟩
  · exact h v hv

/-- The section itself gives its settings, one by one. -/
theorem Value.at?_set_section (tree : Value) (hsec : Path.ofName sec.key = ⟨sec.key, []⟩)
    (hkeys : (members.map (·.1)).Nodup) (field : String) :
    (tree.set sec.key (.table origin? members)).at? sec.key field =
      match (Value.table origin? members).member? field with
      | some v => some (((tree.at? sec.key field).getD nothing).join v)
      | none => tree.at? sec.key field := by
  rw [← member?_getD_nothing tree, at?, member?_set, hsec, if_pos rfl, Option.bind_some]
  exact member?_join hkeys _ _

/-- What else a source may hold leaves them as they are. -/
theorem Value.at?_set_other (tree : Value) (he : sec.Admits e) (hother : e.1 ≠ sec.key)
    (hfield : field ∈ sec.fields) :
    (tree.set e.1 e.2).at? sec.key field = tree.at? sec.key field := by
  rw [at?, member?_set]
  by_cases hroot : (Path.ofName e.1).root = sec.key
  · rcases he hroot with ⟨hwhole, -⟩ | ⟨key, steps, hsteps, hnew⟩
    · exact absurd hwhole hother
    · have hne : key ≠ field := fun heq => hnew (heq ▸ hfield)
      rw [if_pos hroot, hroot, hsteps, Option.bind_some, ← member?_getD_nothing tree]
      exact (member?_setMember _ _ _ _ _).trans (if_neg hne)
  · rw [if_neg hroot, at?]

theorem Value.IsSection.addSource (h : tree.IsSection sec.key)
    (hsec : Path.ofName sec.key = ⟨sec.key, []⟩) (hadmits : ∀ e ∈ source, sec.Admits e) :
    (addSource tree source).IsSection sec.key := by
  induction source generalizing tree with
  | nil => exact h
  | cons e rest ih =>
    obtain ⟨he, hrest⟩ := List.forall_mem_cons.mp hadmits
    exact ih (h.set hsec he) hrest

/-- By induction on the source: the section comes once at most, and gives all that there is of a
    setting. -/
theorem at?_addSource (hsec : Path.ofName sec.key = ⟨sec.key, []⟩)
    (hkeys : (source.map (·.1)).Nodup)
    (hmembers : ∀ e ∈ source, (e.2.members.map (·.1)).Nodup)
    (hadmits : ∀ e ∈ source, sec.Admits e) (hfield : field ∈ sec.fields) (tree : Value) :
    (addSource tree source).at? sec.key field =
      match (Value.table none source).at? sec.key field with
      | some v => some (((tree.at? sec.key field).getD .nothing).join v)
      | none => tree.at? sec.key field := by
  induction source generalizing tree with
  | nil => rfl
  | cons e rest ih =>
    obtain ⟨hnew, hkeys⟩ := List.nodup_cons.mp hkeys
    obtain ⟨hfirst, hmembers⟩ := List.forall_mem_cons.mp hmembers
    obtain ⟨he, hrest⟩ := List.forall_mem_cons.mp hadmits
    rw [addSource_cons, ih hkeys hmembers hrest, Value.at?_of_cons]
    by_cases hwhole : e.1 = sec.key
    · obtain ⟨key, v⟩ := e
      obtain rfl : key = sec.key := hwhole
      have hroot : (Path.ofName sec.key).root = sec.key := by rw [hsec]
      obtain ⟨-, origin?, members, rfl⟩ | ⟨key, steps, hsteps, -⟩ := he hroot
      · -- the section does not come again
        have hagain : (Value.table none rest).at? sec.key field = none := by
          rw [Value.at?, Value.member?_eq_none hnew, Option.bind_none]
        rw [if_pos rfl, hagain]
        exact Value.at?_set_section tree hsec hfirst field
      · rw [hsec] at hsteps
        cases hsteps
    · rw [if_neg hwhole, Value.at?_set_other tree he hwhole hfield]

end Admits

end Settings

end LoraBridge
