import LoraBridge.Proofs.Json.Reading
import LoraBridge.Proofs.Settings.Tree

/-! # The keys of files

  No table of a file has a key twice. In a JSON file the last of several members with one key
  takes the place of the others; a TOML file that defines a key twice is refused.

  - `Keyed` is said of the members of one table, `Value.IsKeyed` of a value and the tables in it.
  - `isKeyed_readTree` and `keyed_readLinesFrom`: what the readers build up, step by step.
  - `keyed_fileSource`: so it is with every file.
-/

namespace LoraBridge

/-- Members with different keys, and what is said of their values. -/
structure Keyed {α : Type} (P : α → Prop) (members : List (String × α)) : Prop where
  nodup : (members.map (·.1)).Nodup
  each : ∀ e ∈ members, P e.2

namespace Keyed

variable {α β : Type} {P Q : α → Prop} {a : α} {key : String} {members : List (String × α)}

theorem nil : Keyed P [] := ⟨List.nodup_nil, by simp⟩

theorem mem_setMember {e : String × α} (h : e ∈ Json.setMember key a members) :
    e = (key, a) ∨ e ∈ members := by
  induction members with
  | nil => exact .inl (List.mem_singleton.mp h)
  | cons m rest ih =>
    unfold Json.setMember at h
    split at h
    · next hm =>
      rw [List.mem_cons, hm] at h
      exact h.imp_right (List.mem_cons_of_mem _)
    · rcases List.mem_cons.mp h with rfl | h
      · exact .inr List.mem_cons_self
      · exact (ih h).imp_right (List.mem_cons_of_mem _)

theorem setMember (h : Keyed P members) (key : String) (ha : P a) :
    Keyed P (Json.setMember key a members) := by
  refine ⟨Json.nodup_setMember h.nodup, fun e he => ?_⟩
  rcases mem_setMember he with rfl | he
  · exact ha
  · exact h.each e he

theorem imp (hPQ : ∀ a, P a → Q a) (h : Keyed P members) : Keyed Q members :=
  ⟨h.nodup, fun e he => hPQ _ (h.each e he)⟩

theorem map {P : β → Prop} (f : α → β) (h : Keyed (fun a => P (f a)) members) :
    Keyed P (members.map fun e => (e.1, f e.2)) := by
  refine ⟨by simpa [Function.comp_def] using h.nodup, fun e he => ?_⟩
  obtain ⟨e, hmem, rfl⟩ := List.mem_map.mp he
  exact h.each e hmem

end Keyed

namespace Settings.Value

/-- The keys of a table, and of the tables among its members down to this depth, are different. -/
def IsKeyed : Nat → Value → Prop
  | 0, _ => True
  | n + 1, .table _ members => Keyed (IsKeyed n) members
  | _ + 1, _ => True

theorem IsKeyed.nodup_members {v : Value} (h : v.IsKeyed 1) : (v.members.map (·.1)).Nodup := by
  cases v with
  | table origin? members => exact h.nodup
  | list origin? items => exact List.nodup_nil
  | scalar origin? s => exact List.nodup_nil

theorem membersOfJson_eq_map (origin? : Option String) (members : List (String × Json.Tree)) :
    membersOfJson origin? members = members.map fun e => (e.1, ofJson origin? e.2) := by
  induction members with
  | nil => rfl
  | cons e rest ih => rw [membersOfJson, ih, List.map_cons]

theorem membersOfToml_eq_map (origin? : Option String) (members : List (String × Toml.Value)) :
    membersOfToml origin? members = members.map fun e => (e.1, ofToml origin? e.2) := by
  induction members with
  | nil => rfl
  | cons e rest ih => rw [membersOfToml, ih, List.map_cons]

end Settings.Value

open Settings (Value)

/-! ### JSON -/

namespace Json

variable {tree : Tree} {members : List (String × Tree)} {rest s : Bytes} {depth : Nat}
  {isFirst : Bool}

/-- In no object that is reached through objects alone a key comes twice. -/
def Tree.IsKeyed (tree : Tree) : Prop := ∀ origin? n, (Value.ofJson origin? tree).IsKeyed n

theorem Tree.isKeyed_of_not_object (h : ∀ members, tree ≠ .object members) : tree.IsKeyed := by
  rintro origin? (_ | n)
  · trivial
  · cases tree with
    | number x => cases x <;> exact trivial
    | object members => exact absurd rfl (h members)
    | _ => exact trivial

theorem Tree.isKeyed_object (h : Keyed Tree.IsKeyed members) : (Tree.object members).IsKeyed := by
  rintro origin? (_ | n)
  · trivial
  · rw [Value.ofJson, Value.membersOfJson_eq_map]
    exact (h.imp fun _ htree => htree origin? n).map (Value.ofJson origin?)

/-- An object is read by reading its members. -/
theorem readTree_object {rounds : Nat}
    (h : readTree (rounds + 1) depth s = .ok (.object members, rest)) :
    ∃ depth s, readTreeMembers rounds depth true [] s = .ok (members, rest) := by
  unfold readTree at h
  split at h
  case h_6 =>
    cases depth with
    | zero => cases h
    | succ depth =>
      obtain ⟨⟨read, rest⟩, hread, h⟩ := bind_eq_ok.mp h
      cases h
      exact ⟨_, _, hread⟩
  case h_5 =>
    cases depth with
    | zero => cases h
    | succ depth => simp [bind_eq_ok] at h
  case h_7 => split at h <;> simp [bind_eq_ok] at h
  all_goals simp [bind_eq_ok] at h

/-- By induction on the rounds: a member takes the place of one with the same key. -/
theorem isKeyed_readTree (rounds : Nat) :
    (∀ depth s tree rest, readTree rounds depth s = .ok (tree, rest) → tree.IsKeyed) ∧
    (∀ depth isFirst members s all rest, Keyed Tree.IsKeyed members →
      readTreeMembers rounds depth isFirst members s = .ok (all, rest) →
      Keyed Tree.IsKeyed all) := by
  induction rounds with
  | zero => exact ⟨nofun, nofun⟩
  | succ rounds ih =>
    obtain ⟨ihTree, ihMembers⟩ := ih
    constructor
    · intro depth s tree rest h
      cases tree with
      | object members =>
        obtain ⟨_, _, h⟩ := readTree_object h
        exact Tree.isKeyed_object (ihMembers _ _ _ _ _ _ .nil h)
      | _ => exact Tree.isKeyed_of_not_object nofun
    · intro depth isFirst members s all rest hmembers h
      obtain ⟨next, -, h⟩ := bind_eq_ok.mp h
      cases next with
      | none =>
        obtain ⟨s, -, h⟩ := bind_eq_ok.mp h
        cases h
        exact hmembers
      | some next =>
        obtain ⟨s, -, h⟩ := bind_eq_ok.mp h
        obtain ⟨⟨value, s⟩, hvalue, h⟩ := bind_eq_ok.mp h
        have hkeyed := hmembers.setMember next.1 (ihTree _ _ _ _ hvalue)
        exact ihMembers _ _ _ _ _ _ hkeyed h

theorem isKeyed_parse (h : Tree.parse s = .ok tree) : tree.IsKeyed := by
  obtain ⟨⟨read, rest⟩, hread, h⟩ := bind_eq_ok.mp h
  dsimp only at h
  split at h
  · cases h
    exact (isKeyed_readTree _).1 _ _ _ _ hread
  · cases h

end Json

/-! ### TOML -/

namespace Toml

variable {v : Value} {node : Node} {members m : Members} {key : String} {keys path : List String}
  {rest s : List Char} {depth rounds : Nat}

/-- In no table that is reached through tables alone a key comes twice. -/
def Value.IsKeyed (v : Value) : Prop := ∀ origin? n, (Settings.Value.ofToml origin? v).IsKeyed n

theorem Value.isKeyed_of_not_table (h : ∀ members, v ≠ .table members) : v.IsKeyed := by
  rintro origin? (_ | n)
  · trivial
  · cases v with
    | table members => exact absurd rfl (h members)
    | _ => exact trivial

/-- The same of what is defined for a key. -/
def Node.IsKeyed (node : Node) : Prop := node.toValue.IsKeyed

theorem membersValue_eq_map (members : Members) :
    membersValue members = members.map fun e => (e.1, e.2.toValue) := by
  induction members with
  | nil => rfl
  | cons e rest ih => rw [membersValue, ih, List.map_cons]

theorem isKeyed_table_iff :
    (Value.table (membersValue members)).IsKeyed ↔ Keyed Node.IsKeyed members := by
  have hmap (origin? : Option String) :
      Settings.Value.ofToml origin? (.table (membersValue members)) =
        .table origin? (members.map fun e =>
          (e.1, Settings.Value.ofToml origin? e.2.toValue)) := by
    rw [Settings.Value.ofToml, Settings.Value.membersOfToml_eq_map, membersValue_eq_map,
      List.map_map]
    rfl
  constructor
  · intro h
    refine ⟨?_, fun e he origin? n => ?_⟩
    · have hnodup := (hmap none ▸ h none 1).nodup
      simpa [Function.comp_def] using hnodup
    · exact (hmap origin? ▸ h origin? (n + 1)).each _ (List.mem_map_of_mem he)
  · rintro h origin? (_ | n)
    · trivial
    · rw [hmap]
      exact (h.imp fun _ hnode => hnode origin? n).map fun node =>
        Settings.Value.ofToml origin? node.toValue

/-- Tables in a list are not looked at. -/
theorem isKeyed_tables (items : List Members) : (Node.tables items).IsKeyed :=
  Value.isKeyed_of_not_table nofun

theorem isKeyed_node_table_iff {origin : Origin} :
    (Node.table origin members).IsKeyed ↔ Keyed Node.IsKeyed members :=
  isKeyed_table_iff

/-! #### Definitions -/

theorem define_eq_setMember (key : String) (node : Node) (members : Members) :
    define key node members = Json.setMember key node members := by
  induction members with
  | nil => rfl
  | cons e rest ih => rw [define, Json.setMember, ih]

theorem keyed_define (h : Keyed Node.IsKeyed members) (hnode : node.IsKeyed) :
    Keyed Node.IsKeyed (define key node members) := by
  rw [define_eq_setMember]
  exact h.setMember key hnode

theorem isKeyed_lookup? (h : Keyed Node.IsKeyed members) (hnode : lookup? key members = some node) :
    node.IsKeyed := by
  obtain ⟨e, he, rfl⟩ := Option.map_eq_some_iff.mp hnode
  exact h.each e (List.mem_of_find?_eq_some he)

/-- By induction on the path: all that changes lies on it. -/
theorem keyed_descend? {change : Members → Option Members}
    (hchange : ∀ members m, Keyed Node.IsKeyed members → change members = some m →
      Keyed Node.IsKeyed m)
    (hmembers : Keyed Node.IsKeyed members) (h : descend? change path members = some m) :
    Keyed Node.IsKeyed m := by
  induction path generalizing members m with
  | nil => exact hchange _ _ hmembers h
  | cons key path ih =>
    unfold descend? at h
    split at h
    · -- the way leads into a new table, which is empty
      obtain ⟨inner, hinner, rfl⟩ := Option.map_eq_some_iff.mp h
      exact keyed_define hmembers (isKeyed_node_table_iff.mpr (ih .nil hinner))
    · next hlookup =>
      -- the way leads into a table that is there
      obtain ⟨inner, hinner, rfl⟩ := Option.map_eq_some_iff.mp h
      have hold := isKeyed_node_table_iff.mp (isKeyed_lookup? hmembers hlookup)
      exact keyed_define hmembers (isKeyed_node_table_iff.mpr (ih hold hinner))
    · -- the way leads into the last table of a list
      split at h
      · obtain ⟨inner, -, rfl⟩ := Option.map_eq_some_iff.mp h
        exact keyed_define hmembers (isKeyed_tables _)
      · cases h
    · cases h

theorem keyed_assign? (hv : v.IsKeyed) (hmembers : Keyed Node.IsKeyed members)
    (h : assign? keys v members = some m) : Keyed Node.IsKeyed m := by
  fun_induction assign? keys v members generalizing m
  case case2 =>
    -- the last key is new
    cases h
    exact keyed_define hmembers hv
  case case4 ih =>
    -- the way leads into a new table
    obtain ⟨inner, hinner, rfl⟩ := Option.map_eq_some_iff.mp h
    exact keyed_define hmembers (isKeyed_node_table_iff.mpr (ih hv .nil hinner))
  case case6 hlookup ih =>
    -- the way leads into a table that is there
    obtain ⟨inner, hinner, rfl⟩ := Option.map_eq_some_iff.mp h
    have hold := isKeyed_node_table_iff.mp (isKeyed_lookup? hmembers hlookup)
    exact keyed_define hmembers (isKeyed_node_table_iff.mpr (ih hv hold hinner))
  case case7 =>
    -- the way leads into the last table of a list
    obtain ⟨inner, -, rfl⟩ := Option.map_eq_some_iff.mp h
    exact keyed_define hmembers (isKeyed_tables _)
  all_goals cases h

theorem keyed_openTable? (hmembers : Keyed Node.IsKeyed members)
    (h : openTable? key members = some m) : Keyed Node.IsKeyed m := by
  unfold openTable? at h
  split at h
  · cases h
    exact keyed_define hmembers (isKeyed_node_table_iff.mpr .nil)
  · next hlookup =>
    cases h
    have hold := isKeyed_node_table_iff.mp (isKeyed_lookup? hmembers hlookup)
    exact keyed_define hmembers (isKeyed_node_table_iff.mpr hold)
  · cases h

theorem keyed_openItem? (hmembers : Keyed Node.IsKeyed members)
    (h : openItem? key members = some m) : Keyed Node.IsKeyed m := by
  unfold openItem? at h
  split at h
  · cases h
    exact keyed_define hmembers (isKeyed_tables _)
  · cases h
    exact keyed_define hmembers (isKeyed_tables _)
  · cases h

theorem keyed_openHeader? {isItem : Bool} (hmembers : Keyed Node.IsKeyed members)
    (h : openHeader? keys isItem members = some m) : Keyed Node.IsKeyed m := by
  obtain ⟨key, -, h⟩ := Option.bind_eq_some_iff.mp h
  refine keyed_descend? (fun members m hmembers h => ?_) hmembers h
  cases isItem
  · exact keyed_openTable? hmembers h
  · exact keyed_openItem? hmembers h

/-! #### Readers -/

theorem valueOfWord?_ne_table (word : List Char) (members : List (String × Value)) :
    valueOfWord? word ≠ some (.table members) := by
  unfold valueOfWord?
  split
  · nofun
  · split
    · nofun
    · simp [Option.or_eq_some_iff]

/-- A table in braces is read by reading its members. -/
theorem readValue_table {table : List (String × Value)}
    (h : readValue depth (rounds + 1) s = some (.table table, rest)) :
    ∃ depth s members, readMembers depth rounds [] s = some (members, rest) ∧
      table = membersValue members := by
  unfold readValue at h
  split at h
  case h_4 =>
    obtain ⟨⟨members, rest⟩, hread, h⟩ := Option.map_eq_some_iff.mp h
    cases h
    exact ⟨_, _, _, hread, rfl⟩
  case h_5 =>
    obtain ⟨v, hword, h⟩ := Option.map_eq_some_iff.mp h
    cases h
    exact absurd hword (valueOfWord?_ne_table _ _)
  all_goals simp at h

/-- By induction on the rounds: a key that has been defined is not defined again. -/
theorem isKeyed_readValue (rounds : Nat) :
    (∀ depth s v rest, readValue depth rounds s = some (v, rest) → v.IsKeyed) ∧
    (∀ depth members s m rest, Keyed Node.IsKeyed members →
      readMembers depth rounds members s = some (m, rest) → Keyed Node.IsKeyed m) := by
  induction rounds with
  | zero => exact ⟨nofun, nofun⟩
  | succ rounds ih =>
    obtain ⟨ihValue, ihMembers⟩ := ih
    constructor
    · intro depth s v rest h
      cases v with
      | table table =>
        obtain ⟨_, _, members, hread, rfl⟩ := readValue_table h
        exact isKeyed_table_iff.mpr (ihMembers _ _ _ _ _ .nil hread)
      | _ => exact Value.isKeyed_of_not_table nofun
    · intro depth members s m rest hmembers h
      unfold readMembers at h
      obtain ⟨s, -, h⟩ := Option.bind_eq_some_iff.mp h
      split at h
      · cases h
        exact hmembers
      · obtain ⟨⟨keys, s⟩, -, h⟩ := Option.bind_eq_some_iff.mp h
        obtain ⟨s, -, h⟩ := Option.bind_eq_some_iff.mp h
        split at h
        · obtain ⟨s, -, h⟩ := Option.bind_eq_some_iff.mp h
          obtain ⟨⟨v, s⟩, hv, h⟩ := Option.bind_eq_some_iff.mp h
          obtain ⟨members, hassign, h⟩ := Option.bind_eq_some_iff.mp h
          obtain ⟨s, -, h⟩ := Option.bind_eq_some_iff.mp h
          have hkeyed := keyed_assign? (ihValue _ _ _ _ hv) hmembers hassign
          split at h
          · cases h
            exact hkeyed
          · exact ihMembers _ _ _ _ _ hkeyed h
          · cases h
        · cases h

/-- The same for the lines of a file. -/
theorem keyed_readLinesFrom (hmembers : Keyed Node.IsKeyed members)
    (h : readLinesFrom rounds path members s = some m) : Keyed Node.IsKeyed m := by
  induction rounds generalizing path members s with
  | zero =>
    cases h
    exact hmembers
  | succ rounds ih =>
    unfold readLinesFrom at h
    obtain ⟨s, -, h⟩ := Option.bind_eq_some_iff.mp h
    split at h
    · cases h
      exact hmembers
    · -- a header
      obtain ⟨⟨⟨keys, isItem⟩, s⟩, -, h⟩ := Option.bind_eq_some_iff.mp h
      obtain ⟨opened, hopen, h⟩ := Option.bind_eq_some_iff.mp h
      obtain ⟨s, -, h⟩ := Option.bind_eq_some_iff.mp h
      exact ih (keyed_openHeader? hmembers hopen) h
    · -- a key and its value, for the table that is open
      obtain ⟨⟨keys, s⟩, -, h⟩ := Option.bind_eq_some_iff.mp h
      dsimp only at h
      split at h
      · obtain ⟨⟨v, s⟩, hv, h⟩ := Option.bind_eq_some_iff.mp h
        obtain ⟨assigned, hassign, h⟩ := Option.bind_eq_some_iff.mp h
        obtain ⟨s, -, h⟩ := Option.bind_eq_some_iff.mp h
        have hchange (inner m : Members) (hinner : Keyed Node.IsKeyed inner)
            (h : assign? keys v inner = some m) : Keyed Node.IsKeyed m :=
          keyed_assign? ((isKeyed_readValue _).1 _ _ _ _ hv) hinner h
        exact ih (keyed_descend? hchange hmembers hassign) h
      · cases h

theorem isKeyed_parse? {text : String} {table : List (String × Value)}
    (h : parse? text = some table) : (Value.table table).IsKeyed := by
  obtain ⟨members, hread, rfl⟩ := Option.map_eq_some_iff.mp h
  exact isKeyed_table_iff.mpr (keyed_readLinesFrom .nil hread)

end Toml

/-! ### Files -/

namespace Settings

/-- No table of a file has a key twice. -/
theorem keyed_fileSource {dir : Directory} {path : String} {file : List (String × Value)}
    (h : fileSource dir path = .ok file) (n : Nat) : Keyed (Value.IsKeyed n) file := by
  unfold fileSource at h
  split at h
  · cases h
    exact .nil
  · next path place format _ =>
    dsimp only at h
    split at h
    · next hread =>
      cases h
      cases format with
      | toml =>
        obtain ⟨table, hparse, rfl⟩ := Option.map_eq_some_iff.mp hread
        exact Toml.isKeyed_parse? hparse _ (n + 1)
      | json =>
        simp only [Format.read?] at hread
        split at hread
        · next hparse =>
          cases hread
          exact Json.isKeyed_parse hparse _ (n + 1)
        · cases hread
    · cases h

end Settings

end LoraBridge
