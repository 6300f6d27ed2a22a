import LoraBridge.Proofs.Json.Value

/-! # Reading records

  A record is read in one walk over the members of an object, with a slot for each field. What
  comes out can be said without the walk: each field has the value of its only member, or its
  default if it has none. Neither unknown members nor the order of members matter.

  - `Fields.take?` and `Fields.takeAll?` are the walk on members that are already told apart.
  - `Fields.row?` looks up every field on its own. `takeAll?_fill` says that both agree, as long as
    no two fields have one key.
  - `Record.read_object` is what is read for an object, `Record.read_write` for what was written.
-/

namespace LoraBridge.Json

open Text (charsBytes)

variable {α : Type} {types : List Type} {rest s : Bytes} {key : String}

/-! ### Keys and colons -/

theorem nextKey_end (space : Space) (isFirst : Bool) :
    nextKey isFirst (space.bytes ++ 125 :: rest) = .ok none := by
  rw [nextKey, skipSpace_space space (by decide)]
  rfl

theorem nextKey_space (space : Space) (isFirst : Bool) (s : Bytes) :
    nextKey isFirst (space.bytes ++ s) = nextKey isFirst s := by
  rw [nextKey, skipSpace_append, nextKey]

theorem nextKey_first (space : Space) (pieces : List Piece) (rest : Bytes) :
    (nextKey true (space.bytes ++ 34 :: (piecesBytes pieces ++ 34 :: rest))).toOption =
      (text? pieces).map fun key => some (key, rest) := by
  have hread := readText_pieces pieces rest
  rw [nextKey, skipSpace_space space (by decide)]
  simp [toOption_map, hread, Function.comp_def]

theorem nextKey_comma (before space : Space) (pieces : List Piece) (rest : Bytes) :
    (nextKey false (before.bytes ++
        44 :: (space.bytes ++ 34 :: (piecesBytes pieces ++ 34 :: rest)))).toOption =
      (text? pieces).map fun key => some (key, rest) := by
  have hread := readText_pieces pieces rest
  rw [nextKey, skipSpace_space before (by decide)]
  simp [toOption_map, hread, Function.comp_def, skipSpace_space space (b := 34) (by decide)]

theorem readColon_space (space : Space) (rest : Bytes) :
    readColon (space.bytes ++ 58 :: rest) = .ok rest := by
  rw [readColon, skipSpace_space space (by decide)]
  rfl

theorem endObject_space (space : Space) (rest : Bytes) :
    endObject (space.bytes ++ 125 :: rest) = .ok rest := by
  rw [endObject, skipSpace_space space (by decide)]
  rfl

/-! ### Slots and rows -/

/-- The slots of a record whose first field has this one. -/
def Slots.cons (slot : Option α) (slots : Slots types) : Slots (α :: types) := (slot, slots)

theorem Slots.exists_cons (slots : Slots (α :: types)) :
    ∃ slot rest, slots = Slots.cons slot rest := ⟨slots.1, slots.2, rfl⟩

/-- The values of a record whose first field has this one. -/
def Row.cons (a : α) (row : Row types) : Row (α :: types) := (a, row)

namespace Fields

variable {field : RecordField α} {fields : Fields types} {slot : Option α} {slots : Slots types}

theorem readMember?_self (hkey : field.key = key) :
    (cons field fields).readMember? (Slots.cons slot slots) key s =
      some (if slot.isSome then .error (.duplicateMember key) else do
        let s ← readColon s
        let p ← field.read s
        .ok (Slots.cons (some p.1) slots, p.2)) := by
  refine (if_pos hkey).trans ?_
  cases slot <;> rfl

theorem readMember?_other (hkey : field.key ≠ key) :
    (cons field fields).readMember? (Slots.cons slot slots) key s =
      (fields.readMember? slots key s).map fun r => r.map fun p => (Slots.cons slot p.1, p.2) :=
  if_neg hkey

/-! ### One member -/

/-- Takes the value of a member into the slot of its field, which has to be free. Members that
    belong to no field change nothing. -/
def take? {types : List Type} (fields : Fields types) (slots : Slots types) (key : String)
    (text : Bytes) : Option (Slots types) :=
  match fields, slots with
  | .nil, _ => some ()
  | .cons field rest, (slot, slots) =>
    if field.key = key then
      if slot.isSome then none
      else (valueOf? field.read text).map fun a => Slots.cons (some a) slots
    else (rest.take? slots key text).map (Slots.cons slot)

theorem take?_self (hkey : field.key = key) (text : Bytes) :
    (cons field fields).take? (Slots.cons slot slots) key text =
      if slot.isSome then none
      else (valueOf? field.read text).map fun a => Slots.cons (some a) slots :=
  if_pos hkey

theorem take?_other (hkey : field.key ≠ key) (text : Bytes) :
    (cons field fields).take? (Slots.cons slot slots) key text =
      (fields.take? slots key text).map (Slots.cons slot) :=
  if_neg hkey

/-- Whether it is settled what is made of such a member, whatever follows it. -/
def Handles {types : List Type} (fields : Fields types) (key : String) (text : Bytes) : Prop :=
  match fields with
  | .nil => Skip.Skips text
  | .cons field rest =>
    if field.key = key then SkipsSpace field.read ∧ ∃ a?, Gives field.read text a?
    else rest.Handles key text

/-- Reads what follows a key, or passes over it. -/
def readOrSkip (fields : Fields types) (slots : Slots types) (key : String) (s : Bytes) :
    Except Fault (Slots types × Bytes) :=
  (fields.readMember? slots key s).getD do
    let s ← readColon s
    let s ← skipValue s
    .ok (slots, s)

theorem readOrSkip_other (hkey : field.key ≠ key) :
    (cons field fields).readOrSkip (Slots.cons slot slots) key s =
      (fields.readOrSkip slots key s).map fun p => (Slots.cons slot p.1, p.2) := by
  simp only [readOrSkip, readMember?_other hkey]
  cases fields.readMember? slots key s with
  | some r => rfl
  | none =>
    cases hcolon : readColon s with
    | error f => rfl
    | ok s' => cases hskip : skipValue s' <;> simp [bind, Except.bind, hskip, Except.map]

/-- One member is read as it is taken. -/
theorem readOrSkip_eq (fields : Fields types) (slots : Slots types) {text : Bytes}
    (h : fields.Handles key text) (hrest : Stops rest) (between gap : Space) :
    (fields.readOrSkip slots key (between.bytes ++ 58 :: (gap.bytes ++ (text ++ rest)))).toOption =
      (fields.take? slots key text).map fun slots => (slots, rest) := by
  induction fields with
  | nil =>
    have hskip : skipValue (gap.bytes ++ (text ++ rest)) = .ok rest :=
      Skip.Skips.skipValue_eq h gap hrest
    simp only [readOrSkip, readMember?, readColon_space, bind, Except.bind, hskip]
    rfl
  | cons field fields ih =>
    obtain ⟨slot, slots, rfl⟩ := slots.exists_cons
    by_cases hkey : field.key = key
    · rw [Handles, if_pos hkey] at h
      obtain ⟨hspace, a?, hgives⟩ := h
      rw [readOrSkip, readMember?_self hkey, take?_self hkey, Option.getD_some]
      cases slot with
      | some a => rfl
      | none =>
        have hread := hgives.of_valueOf? rest hrest
        rw [← hspace.append gap] at hread
        simp only [Option.isSome_none, Bool.false_eq_true, if_false, readColon_space, toOption_bind,
          toOption_ok, Option.bind_some, hread]
        cases valueOf? field.read text <;> rfl
    · rw [Handles, if_neg hkey] at h
      rw [readOrSkip_other hkey, toOption_map, ih slots h, take?_other hkey]
      cases fields.take? slots key text <;> rfl

/-! ### All members -/

/-- Takes the values of members, one after the other. A key that is no text is refused. -/
def takeAll? (fields : Fields types) : Slots types → List (Member Bytes) → Option (Slots types)
  | slots, [] => some slots
  | slots, m :: members =>
    m.name?.bind fun key => (fields.take? slots key m.value).bind fun slots =>
      fields.takeAll? slots members

/-- Whether it is settled what is made of all members. -/
def HandlesAll (fields : Fields types) (members : List (Member Bytes)) : Prop :=
  ∀ m ∈ members, ∀ key, m.name? = some key → fields.Handles key m.value

/-- The reader goes on after a key as the walk does. -/
theorem readMembers_next {rounds : Nat} {isFirst : Bool} {s' : Bytes} {key? : Option String}
    (hnext : (nextKey isFirst s).toOption = key?.map fun key => some (key, s')) :
    (fields.readMembers (rounds + 1) isFirst slots s).toOption =
      key?.bind fun key => (fields.readOrSkip slots key s').toOption.bind fun p =>
        (fields.readMembers rounds false p.1 p.2).toOption := by
  rw [readMembers, toOption_bind, hnext]
  cases key? with
  | none => rfl
  | some key =>
    simp only [Option.map_some, Option.bind_some, readOrSkip]
    cases fields.readMember? slots key s' with
    | some r => cases r <;> rfl
    | none =>
      cases hcolon : readColon s' with
      | error f => rfl
      | ok s'' => cases hskip : skipValue s'' <;> simp [bind, Except.bind, hskip]

/-- The text of further members, each after a comma, and of the end of their object. -/
def tailBytes (members : List (Member Bytes)) (rest : Bytes) : Bytes :=
  (members.map Member.bytes).flatMap (44 :: ·) ++ 125 :: rest

/-- What follows the key of a member. -/
def afterKey (m : Member Bytes) (rest : Bytes) : Bytes :=
  m.between.bytes ++ 58 :: (m.gap.bytes ++ (m.value ++ (m.after.bytes ++ rest)))

theorem stops_tailBytes (members : List (Member Bytes)) (rest : Bytes) :
    Stops (tailBytes members rest) :=
  Skip.stops_tail _ (stops_brace rest)

theorem tailBytes_cons (m : Member Bytes) (members : List (Member Bytes)) (rest : Bytes) :
    tailBytes (m :: members) rest = 44 :: (m.before.bytes ++ 34 :: (piecesBytes m.key ++
      34 :: afterKey m (tailBytes members rest))) := by
  simp [tailBytes, afterKey, Member.bytes]

/-- Once its key is read, a member is taken and the walk goes on. -/
theorem readMembers_member {m : Member Bytes} (h : ∀ key, m.name? = some key →
      fields.Handles key m.value) (hrest : Stops rest) {rounds : Nat} {isFirst : Bool}
    (hnext : (nextKey isFirst s).toOption = m.name?.map fun key => some (key, afterKey m rest)) :
    (fields.readMembers (rounds + 1) isFirst slots s).toOption =
      m.name?.bind fun key => (fields.take? slots key m.value).bind fun slots =>
        (fields.readMembers rounds false slots (m.after.bytes ++ rest)).toOption := by
  rw [readMembers_next hnext]
  refine Option.bind_congr fun key hkey => ?_
  rw [afterKey, readOrSkip_eq fields slots (h key hkey) (stops_space m.after hrest)]
  cases fields.take? slots key m.value <;> rfl

/-- The space before the end of an object. -/
def spaceAtEnd (before : Space) : List (Member Bytes) → Space
  | [] => before
  | m :: members => spaceAtEnd m.after members

theorem readMembers_tail {members : List (Member Bytes)} (h : fields.HandlesAll members)
    {rounds : Nat} (hrounds : members.length < rounds) (slots : Slots types) (before : Space)
    (rest : Bytes) :
    (fields.readMembers rounds false slots (before.bytes ++ tailBytes members rest)).toOption =
      (fields.takeAll? slots members).map fun slots =>
        (slots, (spaceAtEnd before members).bytes ++ 125 :: rest) := by
  -- every member takes one round, and so does the end
  obtain ⟨rounds, rfl⟩ : ∃ k, rounds = k + 1 := ⟨rounds - 1, by omega⟩
  induction members generalizing rounds slots before with
  | nil =>
    rw [tailBytes, List.map_nil, List.flatMap_nil, List.nil_append, readMembers,
      nextKey_end before false]
    rfl
  | cons m members ih =>
    obtain ⟨hm, hmembers⟩ := List.forall_mem_cons.mp h
    rw [List.length_cons] at hrounds
    obtain ⟨rounds, rfl⟩ : ∃ k, rounds = k + 1 := ⟨rounds - 1, by omega⟩
    have hnext := nextKey_comma before m.before m.key (afterKey m (tailBytes members rest))
    rw [tailBytes_cons, readMembers_member hm (stops_tailBytes members rest) hnext, takeAll?]
    cases m.name? with
    | none => rfl
    | some key =>
      cases htake : fields.take? slots key m.value with
      | none => simp [htake]
      | some slots =>
        simp only [Option.bind_some, htake]
        exact ih hmembers slots m.after rounds (by omega)

/-- The walk over all members of an object. -/
theorem readMembers_object {members : List (Member Bytes)} (h : fields.HandlesAll members)
    {rounds : Nat} (hrounds : members.length < rounds) (slots : Slots types) (inner : Space)
    (rest : Bytes) :
    (fields.readMembers rounds true slots
        (inner.bytes ++ (separated (members.map Member.bytes) ++ 125 :: rest))).toOption =
      (fields.takeAll? slots members).map fun slots =>
        (slots, (spaceAtEnd inner members).bytes ++ 125 :: rest) := by
  obtain ⟨rounds, rfl⟩ : ∃ k, rounds = k + 1 := ⟨rounds - 1, by omega⟩
  cases members with
  | nil =>
    have hend : nextKey true (inner.bytes ++ 125 :: rest) = .ok none := nextKey_end inner true
    refine congrArg Except.toOption (?_ : _ = Except.ok (slots, inner.bytes ++ 125 :: rest))
    change fields.readMembers (rounds + 1) true slots (inner.bytes ++ 125 :: rest) = _
    rw [readMembers, hend]
    rfl
  | cons m members =>
    obtain ⟨hm, hmembers⟩ := List.forall_mem_cons.mp h
    rw [List.length_cons] at hrounds
    have hnext : (nextKey true (inner.bytes ++ (m.before.bytes ++ 34 :: (piecesBytes m.key ++
        34 :: afterKey m (tailBytes members rest))))).toOption =
        m.name?.map fun key => some (key, afterKey m (tailBytes members rest)) := by
      rw [nextKey_space]
      exact nextKey_first m.before m.key _
    have hbytes : separated ((m :: members).map Member.bytes) ++ 125 :: rest =
        m.before.bytes ++ 34 :: (piecesBytes m.key ++
          34 :: afterKey m (tailBytes members rest)) := by
      simp [separated_cons, tailBytes, afterKey, Member.bytes]
    rw [hbytes, readMembers_member hm (stops_tailBytes members rest) hnext, takeAll?]
    cases m.name? with
    | none => rfl
    | some key =>
      cases htake : fields.take? slots key m.value with
      | none => simp [htake]
      | some slots =>
        simp only [Option.bind_some, htake]
        exact readMembers_tail hmembers (by omega) slots m.after rest

/-! ### Looking up fields -/

/-- The keys of the fields, in order. -/
def keys {types : List Type} : Fields types → List String
  | .nil => []
  | .cons field rest => field.key :: rest.keys

end Fields

/-- The texts that members give to a key. -/
def textsOf (members : List (Member Bytes)) (key : String) : List Bytes :=
  (members.filter fun m => m.name? = some key).map Member.value

/-- What a field is if the members give it these texts: its default for none, the value of a single
    one, and nothing for more. -/
def RecordField.value? (field : RecordField α) : List Bytes → Option α
  | [] => field.default?
  | [text] => valueOf? field.read text
  | _ => none

/-- What the slot of a field is after these texts. -/
def RecordField.put? (field : RecordField α) : Option α → List Bytes → Option (Option α)
  | slot, [] => some slot
  | slot, text :: texts =>
    if slot.isSome then none
    else (valueOf? field.read text).bind fun a => field.put? (some a) texts

theorem RecordField.put?_none (field : RecordField α) (texts : List Bytes) :
    ((field.put? none texts).bind fun slot => slot <|> field.default?) = field.value? texts := by
  match texts with
  | [] => rfl
  | [text] =>
    simp only [put?, value?]
    cases valueOf? field.read text <;> rfl
  | text :: text' :: texts =>
    simp only [put?, value?]
    cases valueOf? field.read text <;> rfl

namespace Fields

variable {field : RecordField α} {fields : Fields types} {slot : Option α} {slots : Slots types}

/-- Every field by its own members. -/
def row? {types : List Type} (fields : Fields types) (members : List (Member Bytes)) :
    Option (Row types) :=
  match fields with
  | .nil => some ()
  | .cons field rest =>
    (field.value? (textsOf members field.key)).bind fun a => (rest.row? members).map (Row.cons a)

/-- The walk over all members is one walk for each field. -/
theorem takeAll?_cons {members : List (Member Bytes)} (hnamed : ∀ m ∈ members, m.name?.isSome)
    (slot : Option α) (slots : Slots types) :
    (cons field fields).takeAll? (Slots.cons slot slots) members =
      (field.put? slot (textsOf members field.key)).bind fun slot =>
        (fields.takeAll? slots (members.filter fun m => m.name? ≠ some field.key)).map
          (Slots.cons slot) := by
  induction members generalizing slot slots with
  | nil => rfl
  | cons m members ih =>
    obtain ⟨hm, hmembers⟩ := List.forall_mem_cons.mp hnamed
    obtain ⟨key, hkey⟩ := Option.isSome_iff_exists.mp hm
    -- a member of this field goes to its slot, any other one to the walk for the rest
    by_cases hself : field.key = key
    · subst hself
      rw [takeAll?, hkey, Option.bind_some, take?_self rfl]
      have htexts : textsOf (m :: members) field.key = m.value :: textsOf members field.key := by
        simp [textsOf, hkey]
      have hothers : (m :: members).filter (fun m => m.name? ≠ some field.key) =
          members.filter fun m => m.name? ≠ some field.key := by
        simp [hkey]
      rw [htexts, hothers, RecordField.put?]
      cases slot with
      | some a => rfl
      | none =>
        simp only [Option.isSome_none, Bool.false_eq_true, if_false]
        cases valueOf? field.read m.value with
        | none => rfl
        | some a => exact ih hmembers (some a) slots
    · have hne : some key ≠ some field.key := fun h => hself (Option.some.inj h).symm
      have htexts : textsOf (m :: members) field.key = textsOf members field.key := by
        simp [textsOf, hkey, hne]
      have hothers : (m :: members).filter (fun m => m.name? ≠ some field.key) =
          m :: members.filter fun m => m.name? ≠ some field.key := by
        simp [hkey, hne]
      rw [takeAll?, hkey, Option.bind_some, take?_other hself, htexts, hothers]
      simp only [takeAll?, hkey, Option.bind_some]
      cases fields.take? slots key m.value with
      | none => cases field.put? slot (textsOf members field.key) <;> rfl
      | some slots => exact ih hmembers slot slots

/-- Only the members of its fields count for a record. -/
theorem row?_congr {members members' : List (Member Bytes)}
    (h : ∀ key ∈ fields.keys, textsOf members key = textsOf members' key) :
    fields.row? members = fields.row? members' := by
  induction fields with
  | nil => rfl
  | cons field fields ih =>
    obtain ⟨hkey, hkeys⟩ := List.forall_mem_cons.mp h
    rw [row?, row?, hkey, ih hkeys]

theorem textsOf_filter (members : List (Member Bytes)) {key' : String} (h : key ≠ key') :
    textsOf (members.filter fun m => m.name? ≠ some key') key = textsOf members key := by
  rw [textsOf, textsOf, List.filter_filter]
  congr 1
  refine List.filter_congr fun m _ => ?_
  by_cases hkey : m.name? = some key <;> simp [hkey, h]

theorem fill_cons (field : RecordField α) (fields : Fields types) (slot : Option α)
    (slots : Slots types) :
    ((cons field fields).fill (Slots.cons slot slots)).toOption =
      (slot <|> field.default?).bind fun a =>
        (fields.fill slots).toOption.map (Row.cons a) := by
  simp only [fill, Slots.cons]
  cases slot <|> field.default? with
  | none => rfl
  | some a => cases fields.fill slots <;> rfl

/-- The walk over all members gives what looking up every field does. -/
theorem takeAll?_fill (fields : Fields types) (hkeys : fields.keys.Nodup)
    {members : List (Member Bytes)} (hnamed : ∀ m ∈ members, m.name?.isSome) :
    ((fields.takeAll? fields.noSlots members).bind fun slots => (fields.fill slots).toOption) =
      fields.row? members := by
  induction fields generalizing members with
  | nil =>
    have htake : ∀ slots : Slots [], nil.takeAll? slots members = some slots := by
      induction members with
      | nil => exact fun _ => rfl
      | cons m members ih =>
        intro slots
        obtain ⟨hm, hmembers⟩ := List.forall_mem_cons.mp hnamed
        obtain ⟨key, hkey⟩ := Option.isSome_iff_exists.mp hm
        rw [takeAll?, hkey]
        exact ih hmembers slots
    rw [htake]
    rfl
  | cons field fields ih =>
    obtain ⟨hkey, hkeys⟩ := List.nodup_cons.mp hkeys
    have hothers : ∀ m ∈ members.filter fun m => m.name? ≠ some field.key, m.name?.isSome :=
      fun m hm => hnamed m (List.mem_filter.mp hm).1
    -- no other field has this key
    have hrow : fields.row? (members.filter fun m => m.name? ≠ some field.key) =
        fields.row? members :=
      row?_congr fun key hmem => textsOf_filter members (by rintro rfl; exact hkey hmem)
    have hstart : (cons field fields).noSlots = Slots.cons none fields.noSlots := rfl
    rw [hstart, takeAll?_cons hnamed, row?, ← field.put?_none, ← hrow, ← ih hkeys hothers]
    cases field.put? none (textsOf members field.key) with
    | none => rfl
    | some slot =>
      simp only [Option.bind_some]
      cases fields.takeAll? fields.noSlots
          (members.filter fun m => m.name? ≠ some field.key) with
      | none => cases slot <|> field.default? <;> rfl
      | some slots => exact fill_cons field fields slot slots

end Fields

/-! ### Records -/

namespace Record

variable (record : Record α)

theorem read_skipsSpace : SkipsSpace record.read := fun s => by
  rw [read, skipSpace_skipSpace, read]

/-- What is read for an object: every field by its own members. -/
theorem read_object (hkeys : record.fields.keys.Nodup) (inner : Space)
    {members : List (Member Bytes)} (hnamed : ∀ m ∈ members, m.name?.isSome)
    (h : record.fields.HandlesAll members) :
    Gives record.read (objectBytes inner members)
      ((record.fields.row? members).map record.build) := by
  intro rest _
  have hbytes : objectBytes inner members ++ rest = 123 :: (inner.bytes ++
      (separated (members.map Member.bytes) ++ 125 :: rest)) := by
    simp [objectBytes]
  -- there are more bytes than members, so the rounds suffice
  have hrounds : members.length < (inner.bytes ++
      (separated (members.map Member.bytes) ++ 125 :: rest)).length + 1 := by
    have hlength := length_le_separated (members.map Member.bytes)
    rw [List.length_map] at hlength
    simp only [List.length_append, List.length_cons]
    omega
  rw [hbytes, read, skipSpace_cons (by decide)]
  simp only [toOption_bind, Fields.readMembers_object h hrounds]
  rw [← Fields.takeAll?_fill record.fields hkeys hnamed]
  cases record.fields.takeAll? record.fields.noSlots members with
  | none => rfl
  | some slots =>
    simp only [Option.map_some, Option.bind_some, endObject_space]
    cases record.fields.fill slots <;> rfl

end Record

/-! ### What was written -/

/-- The member that is written for a field. -/
def RecordField.written (field : RecordField α) (a : α) : List (Member Bytes) :=
  if field.isOmitted a then []
  else [{ key := piecesOf field.key, value := charsBytes (field.write a) }]

theorem RecordField.of_mem_written {field : RecordField α} {a : α} {m : Member Bytes}
    (h : m ∈ field.written a) : field.isOmitted a = false ∧ m.name? = some field.key ∧
      m.value = charsBytes (field.write a) := by
  rw [written] at h
  split at h
  · cases h
  · next homitted =>
    obtain rfl := List.mem_singleton.mp h
    exact ⟨by simpa using homitted, text?_piecesOf field.key, rfl⟩

/-- Whether the member that is written for `a` is read as `a'?`, which is none if the member is
    refused. If no member is written, the default takes its place. -/
def RecordField.Returns (field : RecordField α) (a : α) (a'? : Option α) : Prop :=
  SkipsSpace field.read ∧
    if field.isOmitted a then field.default? = a'?
    else Gives field.read (charsBytes (field.write a)) a'?

/-- Whether the member that is written for `a` is read as `a'`. If none is written, the default
    takes its place. -/
def RecordField.Restores (field : RecordField α) (a a' : α) : Prop :=
  SkipsSpace field.read ∧
    if field.isOmitted a then field.default? = some a'
    else Gives field.read (charsBytes (field.write a)) (some a')

theorem RecordField.Restores.returns {field : RecordField α} {a a' : α} (h : field.Restores a a') :
    field.Returns a (some a') := h

theorem RecordField.Returns.value? {field : RecordField α} {a : α} {a'? : Option α}
    (h : field.Returns a a'?) : field.value? ((field.written a).map Member.value) = a'? := by
  obtain ⟨-, h⟩ := h
  rw [written]
  split at h
  · next homitted => rw [if_pos homitted]; exact h
  · next homitted => rw [if_neg homitted]; exact h.valueOf?

namespace Fields

variable {field : RecordField α} {fields : Fields types}

/-- The members that are written for the values of the fields. -/
def written {types : List Type} (fields : Fields types) (row : Row types) : List (Member Bytes) :=
  match fields, row with
  | .nil, _ => []
  | .cons field rest, (a, row) => field.written a ++ rest.written row

/-- Whether the members that are written for the fields are read as `row'?`, which is none if one
    of them is refused. -/
def Returns {types : List Type} (fields : Fields types) (row : Row types)
    (row'? : Option (Row types)) : Prop :=
  match fields, row with
  | .nil, _ => row'? = some ()
  | .cons field rest, (a, row) => ∃ a'? rest'?, field.Returns a a'? ∧ rest.Returns row rest'? ∧
      row'? = a'?.bind fun a => rest'?.map (Row.cons a)

/-- Whether the members that are written for the fields are read as the values of a row. -/
def Restores {types : List Type} (fields : Fields types) (row row' : Row types) : Prop :=
  match fields, row, row' with
  | .nil, _, _ => True
  | .cons field rest, (a, row), (a', row') => field.Restores a a' ∧ rest.Restores row row'

theorem Restores.returns {row row' : Row types} (h : fields.Restores row row') :
    fields.Returns row (some row') := by
  induction fields with
  | nil => rfl
  | cons field fields ih =>
    obtain ⟨hfield, hfields⟩ := h
    exact ⟨some row'.1, some row'.2, hfield.returns, ih hfields, rfl⟩

/-- A field that is read back makes no difference to whether the others are. -/
theorem Returns.cons_restores {a a' : α} {row : Row types} {row'? : Option (Row types)}
    (h : field.Restores a a') (hfields : fields.Returns row row'?) :
    (cons field fields).Returns (a, row) (row'?.map (Row.cons a')) :=
  ⟨some a', row'?, h.returns, hfields, rfl⟩

/-- If all fields behind it are read back, then only the first one may be refused. -/
theorem Returns.cons_returns {a : α} {a'? : Option α} {row : Row types} (row' : Row types)
    (h : field.Returns a a'?) (hfields : fields.Restores row row') :
    (cons field fields).Returns (a, row) (a'?.map fun a' => Row.cons a' row') :=
  ⟨a'?, some row', h, hfields.returns, by cases a'? <;> rfl⟩

theorem Returns.last {a : α} {a'? : Option α} (h : field.Returns a a'?) :
    (cons field nil).Returns (a, ()) (a'?.map fun a' => (a', ())) :=
  ⟨a'?, some (), h, rfl, by cases a'? <;> rfl⟩

theorem charsBytes_members (fields : Fields types) (row : Row types) :
    (fields.members row).map charsBytes = (fields.written row).map Member.bytes := by
  induction fields with
  | nil => rfl
  | cons field fields ih =>
    obtain ⟨a, row⟩ := row
    have hmember : charsBytes (escape field.key ++ ':' :: field.write a) =
        Member.bytes { key := piecesOf field.key, value := charsBytes (field.write a) } := by
      have hcolon : String.utf8EncodeChar ':' = [58] := by decide
      simp [charsBytes_escape, Member.bytes, hcolon]
    have ih := ih row
    simp only [members, written, RecordField.written]
    split
    · exact ih
    · rw [List.map_cons, List.map_append, hmember, ih]
      rfl

theorem mem_written (row : Row types) : ∀ m ∈ fields.written row,
    ∃ key ∈ fields.keys, m.name? = some key := by
  induction fields with
  | nil => exact List.forall_mem_nil _
  | cons field fields ih =>
    obtain ⟨a, row⟩ := row
    intro m hm
    rcases List.mem_append.mp hm with hm | hm
    · exact ⟨field.key, List.mem_cons_self, (RecordField.of_mem_written hm).2.1⟩
    · obtain ⟨key, hkey, hname⟩ := ih row m hm
      exact ⟨key, List.mem_cons_of_mem _ hkey, hname⟩

theorem textsOf_append (members members' : List (Member Bytes)) (key : String) :
    textsOf (members ++ members') key = textsOf members key ++ textsOf members' key := by
  simp [textsOf]

theorem textsOf_eq_nil {members : List (Member Bytes)}
    (h : ∀ m ∈ members, ∃ key', m.name? = some key' ∧ key' ≠ key) : textsOf members key = [] := by
  have hnone : (members.filter fun m => m.name? = some key) = [] := by
    refine List.filter_eq_nil_iff.mpr fun m hm => ?_
    obtain ⟨key', hname, hne⟩ := h m hm
    simp [hname, hne]
  rw [textsOf, hnone, List.map_nil]

theorem textsOf_written (field : RecordField α) (a : α) :
    textsOf (field.written a) field.key = (field.written a).map Member.value := by
  rw [RecordField.written]
  split
  · rfl
  · have hname : ({ key := piecesOf field.key, value := charsBytes (field.write a) } :
        Member Bytes).name? = some field.key := text?_piecesOf field.key
    simp [textsOf, hname]

/-- Every field finds the member that was written for it. -/
theorem row?_written (hkeys : fields.keys.Nodup) {row : Row types} {row'? : Option (Row types)}
    (h : fields.Returns row row'?) : fields.row? (fields.written row) = row'? := by
  induction fields with
  | nil => exact h.symm
  | cons field fields ih =>
    obtain ⟨a, row⟩ := row
    obtain ⟨a'?, rest'?, hfield, hfields, rfl⟩ := h
    obtain ⟨hkey, hkeys⟩ := List.nodup_cons.mp hkeys
    -- the field finds its own member and no other
    have hself : textsOf (field.written a ++ fields.written row) field.key =
        (field.written a).map Member.value := by
      rw [textsOf_append, textsOf_written, textsOf_eq_nil, List.append_nil]
      intro m hm
      obtain ⟨key, hmem, hname⟩ := mem_written row m hm
      exact ⟨key, hname, by rintro rfl; exact hkey hmem⟩
    have hothers : fields.row? (field.written a ++ fields.written row) =
        fields.row? (fields.written row) := by
      refine row?_congr fun key hmem => ?_
      rw [textsOf_append, textsOf_eq_nil, List.nil_append]
      intro m hm
      exact ⟨field.key, (RecordField.of_mem_written hm).2.1, by rintro rfl; exact hkey hmem⟩
    have hwritten : (cons field fields).written (a, row) =
        field.written a ++ fields.written row := rfl
    rw [hwritten, row?, hself, hothers, hfield.value?, ih hkeys hfields]

theorem handlesAll_written (hkeys : fields.keys.Nodup) {row : Row types}
    {row'? : Option (Row types)} (h : fields.Returns row row'?) :
    fields.HandlesAll (fields.written row) := by
  induction fields with
  | nil => exact List.forall_mem_nil _
  | cons field fields ih =>
    obtain ⟨a, row⟩ := row
    obtain ⟨a'?, rest'?, ⟨hspace, hfield⟩, hfields, -⟩ := h
    obtain ⟨hkey, hkeys⟩ := List.nodup_cons.mp hkeys
    intro m hm key hname
    -- the member is that of the first field, or one of the rest
    rcases List.mem_append.mp hm with hm | hm
    · obtain ⟨hwritten, hname', hvalue⟩ := RecordField.of_mem_written hm
      obtain rfl : field.key = key := Option.some.inj (hname'.symm.trans hname)
      rw [hwritten, if_neg (by decide), ← hvalue] at hfield
      rw [Handles, if_pos rfl]
      exact ⟨hspace, _, hfield⟩
    · obtain ⟨key', hmem, hname'⟩ := mem_written row m hm
      obtain rfl : key' = key := Option.some.inj (hname'.symm.trans hname)
      have hne : field.key ≠ key' := by
        rintro rfl
        exact hkey hmem
      rw [Handles, if_neg hne]
      exact ih hkeys hfields m hm key' hname

end Fields

/-- What is read of a record that was written, if it is known of its fields. -/
theorem Record.returns_write (record : Record α) (hkeys : record.fields.keys.Nodup) {a : α}
    {row? : Option (Row record.types)} (h : record.fields.Returns (record.parts a) row?) :
    Gives record.read (charsBytes (record.write a)) (row?.map record.build) := by
  have hbytes : charsBytes (record.write a) =
      objectBytes .empty (record.fields.written (record.parts a)) := by
    have hopen : String.utf8EncodeChar '\x7b' = [123] := by decide
    have hclose : String.utf8EncodeChar '\x7d' = [125] := by decide
    simp [Record.write, hopen, hclose, charsBytes_intercalate, Fields.charsBytes_members,
      objectBytes]
  have hnamed : ∀ m ∈ record.fields.written (record.parts a), m.name?.isSome := fun m hm => by
    obtain ⟨key, -, hname⟩ := Fields.mem_written _ m hm
    rw [hname]
    rfl
  have hread := record.read_object hkeys .empty hnamed (Fields.handlesAll_written hkeys h)
  rwa [Fields.row?_written hkeys h, ← hbytes] at hread

/-- A record is read as it was written, if its fields are. -/
theorem Record.read_write (record : Record α) (hkeys : record.fields.keys.Nodup) {a : α}
    (row : Row record.types) (h : record.fields.Restores (record.parts a) row) :
    Gives record.read (charsBytes (record.write a)) (some (record.build row)) :=
  record.returns_write hkeys h.returns

end LoraBridge.Json
