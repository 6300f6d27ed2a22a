import LoraBridge.Document.Codec
import LoraBridge.Proofs.Json.Record

/-! # Commands are looked up

  A command comes as an object that anyone may have written. What command it is can be said without
  reading it from front to back: look up the values that the object gives to each key. What else
  the object says, in which order, and how it is written, does not count.

  - `Object.valuesOf` looks up a key.
  - `Object.IsCommand` says which objects are commands, `Object.Describes` which command one is.
  - `command_lookup`: that is what decoding gives, for every object.
-/

namespace LoraBridge

open Json Text

namespace Json

variable {α : Type} {types : List Type} {field : RecordField α} {fields : Fields types}

/-! ### What single values say -/

/-- Whether a value is a text. -/
def Value.IsText (v : Value) (t : String) : Prop :=
  ∃ pieces, v = .text pieces ∧ text? pieces = some t

/-- Whether a value is a truth value. -/
def Value.IsFlag (v : Value) (t : Bool) : Prop := v = .boolean t

/-- Whether a value is a number of eight bits, written in digits alone. -/
def Value.IsByte (v : Value) (n : UInt8) : Prop :=
  ∃ numeral, v = .number numeral ∧ numeral.negative = false ∧ numeral.fraction? = none ∧
    numeral.exponent? = none ∧ numeral.whole.value = n.toNat

/-- Whether a value is frame data: its text in Base64, or `null` for none. -/
def Value.IsData (v : Value) (b : Bytes) : Prop :=
  (v = .null ∧ b = []) ∨ v.IsText (Base64.encodeText b)

theorem Value.string?_eq_some_iff {v : Value} {t : String} : v.string? = some t ↔ v.IsText t := by
  cases v with
  | text pieces => simp [string?, IsText]
  | null | boolean _ | number _ | list _ _ | object _ _ => simp [string?, IsText]

theorem Value.truth?_eq_some_iff {v : Value} {t : Bool} : v.truth? = some t ↔ v.IsFlag t := by
  cases v with
  | boolean _ => simp [truth?, IsFlag]
  | null | text _ | number _ | list _ _ | object _ _ => simp [truth?, IsFlag]

theorem Value.byte?_eq_some_iff {v : Value} {n : UInt8} : v.byte? = some n ↔ v.IsByte n := by
  cases v with
  | number numeral =>
    have hn := n.toNat_lt
    have hvalue : numeral.whole.value ≤ 255 ∧ UInt8.ofNat numeral.whole.value = n ↔
        numeral.whole.value = n.toNat := by
      constructor
      · rintro ⟨hle, rfl⟩
        rw [UInt8.toNat_ofNat']
        omega
      · intro heq
        exact ⟨by omega, by rw [heq, UInt8.ofNat_toNat]⟩
    simp [byte?, IsByte, ← hvalue, and_assoc]
  | null | text _ | boolean _ | list _ _ | object _ _ => simp [byte?, IsByte]

theorem Value.frameData?_eq_some_iff {v : Value} {b : Bytes} :
    v.frameData? = some b ↔ v.IsData b := by
  cases v with
  | text pieces =>
    have hdecode : ∀ t : String, (Base64.decode (Text.bytes t)).toOption = some b ↔
        t = Base64.encodeText b := by
      intro t
      rw [← Text.bytes_inj, Base64.bytes_encodeText, ← Base64.decode_eq_ok_iff]
      cases Base64.decode (Text.bytes t) <;> simp [Except.toOption]
    simp [frameData?, IsData, IsText, Option.bind_eq_some_iff, hdecode]
  | null => simp [frameData?, IsData, IsText, eq_comm]
  | number _ | boolean _ | list _ _ | object _ _ => simp [frameData?, IsData, IsText]

/-! ### Lookups -/

/-- The values that an object gives to a key. -/
def Object.valuesOf (o : Object) (key : String) : List Value :=
  (o.members.filter fun m => m.name? = some key).map Member.value

/-- Whether looking up a key gives `a`: the default if there is no value, and what the value says if
    there is a single one. -/
def Yields (values : List Value) (default : α) (denotes : Value → α → Prop) (a : α) : Prop :=
  match values with
  | [] => a = default
  | [v] => denotes v a
  | _ => False

theorem exists_yields_iff {values : List Value} {default : α} {denotes : Value → α → Prop} :
    (∃ a, Yields values default denotes a) ↔
      values.length ≤ 1 ∧ ∀ v ∈ values, ∃ a, denotes v a := by
  match values with
  | [] => simp [Yields]
  | [v] => simp [Yields]
  | _ :: _ :: _ => simp [Yields]

/-- A field whose reader takes what values say is looked up. -/
theorem RecordField.value?_eq_some_iff (field : RecordField α) {d a : α}
    {denotes : Value → α → Prop} {means? : Value → Option α}
    (hdefault : field.default? = some d) (hread : ∀ v : Value, Gives field.read v.bytes (means? v))
    (hmeans : ∀ v a, means? v = some a ↔ denotes v a) (values : List Value) :
    field.value? (values.map Value.bytes) = some a ↔ Yields values d denotes a := by
  match values with
  | [] =>
    rw [List.map_nil, RecordField.value?, hdefault, Yields, Option.some.injEq, eq_comm]
  | [v] =>
    rw [List.map_singleton, RecordField.value?, (hread v).valueOf?, hmeans, Yields]
  | _ :: _ :: _ => simp [Yields, RecordField.value?]

/-! ### Objects of a document -/

theorem membersBytes_eq_map (members : List (Member Value)) :
    membersBytes members = members.map fun m => { m with value := m.value.bytes } := by
  induction members with
  | nil => rfl
  | cons m members ih => rw [membersBytes, ih, List.map_cons]

theorem textsOf_membersBytes (o : Object) (key : String) :
    textsOf (membersBytes o.members) key = (o.valuesOf key).map Value.bytes := by
  rw [membersBytes_eq_map, textsOf, Object.valuesOf, List.filter_map, List.map_map, List.map_map]
  rfl

theorem Fields.row?_cons_eq_some_iff {members : List (Member Bytes)} {a : α} {row : Row types} :
    (Fields.cons field fields).row? members = some (Row.cons a row) ↔
      field.value? (textsOf members field.key) = some a ∧ fields.row? members = some row := by
  have hinj : ∀ a' row', Row.cons a' row' = Row.cons a row ↔ a' = a ∧ row' = row :=
    fun _ _ => Prod.mk.injEq .. ▸ Iff.rfl
  rw [row?]
  cases field.value? (textsOf members field.key) with
  | none => simp
  | some a' => cases fields.row? members <;> simp [hinj]

/-- Whether it is settled what the readers of a record make of any value. -/
def Fields.ReadsValues {types : List Type} : Fields types → Prop
  | .nil => True
  | .cons field rest =>
    (SkipsSpace field.read ∧ ∀ v : Value, ∃ a?, Gives field.read v.bytes a?) ∧ rest.ReadsValues

theorem Fields.ReadsValues.handles (h : fields.ReadsValues) (key : String) (v : Value) :
    fields.Handles key v.bytes := by
  induction fields with
  | nil => exact v.skips
  | cons field fields ih =>
    obtain ⟨⟨hspace, hread⟩, hfields⟩ := h
    rw [Handles]
    split
    · exact ⟨hspace, hread v⟩
    · exact ih hfields

/-- What is decoded from an object: every field by its own members. -/
theorem Record.decode_object_eq (record : Record α) (hkeys : record.fields.keys.Nodup)
    (hreads : record.fields.ReadsValues) (o : Object) :
    (record.decode o.bytes).toOption =
      (record.fields.row? (membersBytes o.members)).map record.build := by
  have hnamed : ∀ m ∈ membersBytes o.members, m.name?.isSome := by
    intro m hm
    rw [membersBytes_eq_map] at hm
    obtain ⟨m', hm', rfl⟩ := List.mem_map.mp hm
    exact o.named m' hm'
  have hhandles : record.fields.HandlesAll (membersBytes o.members) := by
    intro m hm key _
    rw [membersBytes_eq_map] at hm
    obtain ⟨m', -, rfl⟩ := List.mem_map.mp hm
    exact hreads.handles key m'.value
  have hread := record.read_object hkeys o.inner hnamed hhandles o.after.bytes
    (by simpa using stops_space o.after stops_nil)
  rw [decode, toOption_bind, Object.bytes, List.append_assoc, record.read_skipsSpace.append, hread]
  cases record.fields.row? (membersBytes o.members) with
  | none => rfl
  | some row => simp [skipSpace_all]

end Json

/-! ### Commands -/

/-- The keys that count in a command. -/
def Command.keys : List String := ["reference", "confirmed", "devEUI", "fPort", "data"]

/-- Whether an object is a command: every key that counts comes at most once and has a value of its
    type. -/
structure Json.Object.IsCommand (o : Object) : Prop where
  once : ∀ key ∈ Command.keys, (o.valuesOf key).length ≤ 1
  reference : ∀ v ∈ o.valuesOf "reference", ∃ t, v.IsText t
  confirmed : ∀ v ∈ o.valuesOf "confirmed", ∃ t, v.IsFlag t
  device : ∀ v ∈ o.valuesOf "devEUI", ∃ t, v.IsText t
  port : ∀ v ∈ o.valuesOf "fPort", ∃ n, v.IsByte n
  data : ∀ v ∈ o.valuesOf "data", ∃ b, v.IsData b

/-- Whether an object is this command. -/
structure Json.Object.Describes (o : Object) (c : Command) : Prop where
  reference : Yields (o.valuesOf "reference") "" Value.IsText c.reference
  confirmed : Yields (o.valuesOf "confirmed") false Value.IsFlag c.confirmed
  device : Yields (o.valuesOf "devEUI") "" Value.IsText c.device
  port : Yields (o.valuesOf "fPort") 0 Value.IsByte c.port
  data : Yields (o.valuesOf "data") [] Value.IsData c.data

/-- The members of an object that count in a command. -/
def Json.Object.known (o : Object) : List (Option String × Value) :=
  (o.members.filter fun m => m.name? ∈ Command.keys.map some).map fun m => (m.name?, m.value)

variable {o o' : Object} {c : Command}

theorem commandRecord_readsValues : commandRecord.fields.ReadsValues :=
  ⟨⟨readTextAs_skipsSpace _, fun v => ⟨_, readTextAs_value _ v⟩⟩,
    ⟨readBool_skipsSpace, fun v => ⟨_, readBool_value v⟩⟩,
    ⟨readTextAs_skipsSpace _, fun v => ⟨_, readTextAs_value _ v⟩⟩,
    ⟨readUInt8_skipsSpace, fun v => ⟨_, readUInt8_value v⟩⟩,
    ⟨readData_skipsSpace, fun v => ⟨_, readData_value v⟩⟩, trivial⟩

/-! Fields with a default are what the values that are found for them say. -/

theorem textField_value?_iff (key d : String) (values : List Value) (t : String) :
    ((textField key).withDefault d).value? (values.map Value.bytes) = some t ↔
      Yields values d Value.IsText t :=
  RecordField.value?_eq_some_iff _ rfl (readTextAs_value _)
    (fun _ _ => Value.string?_eq_some_iff) values

theorem flagField_value?_iff (key : String) (d : Bool) (values : List Value) (t : Bool) :
    ((flagField key).withDefault d).value? (values.map Value.bytes) = some t ↔
      Yields values d Value.IsFlag t :=
  RecordField.value?_eq_some_iff _ rfl readBool_value
    (fun _ _ => Value.truth?_eq_some_iff) values

theorem byteField_value?_iff (key : String) (d : UInt8) (values : List Value) (n : UInt8) :
    ((byteField key).withDefault d).value? (values.map Value.bytes) = some n ↔
      Yields values d Value.IsByte n :=
  RecordField.value?_eq_some_iff _ rfl readUInt8_value
    (fun _ _ => Value.byte?_eq_some_iff) values

theorem dataField_value?_iff (key : String) (d : Bytes) (values : List Value) (b : Bytes) :
    ((dataField key).withDefault d).value? (values.map Value.bytes) = some b ↔
      Yields values d Value.IsData b :=
  RecordField.value?_eq_some_iff _ rfl readData_value
    (fun _ _ => Value.frameData?_eq_some_iff) values

/-- Looking up all fields of a command. -/
theorem commandRecord_row?_iff :
    commandRecord.fields.row? (membersBytes o.members) = some (commandRecord.parts c) ↔
      o.Describes c := by
  have hreference := textField_value?_iff "reference" "" (o.valuesOf "reference") c.reference
  have hconfirmed := flagField_value?_iff "confirmed" false (o.valuesOf "confirmed") c.confirmed
  have hdevice := textField_value?_iff "devEUI" "" (o.valuesOf "devEUI") c.device
  have hport := byteField_value?_iff "fPort" 0 (o.valuesOf "fPort") c.port
  have hdata := dataField_value?_iff "data" [] (o.valuesOf "data") c.data
  simp only [← textsOf_membersBytes] at hreference hconfirmed hdevice hport hdata
  refine (Fields.row?_cons_eq_some_iff.trans (and_congr hreference
    (Fields.row?_cons_eq_some_iff.trans (and_congr hconfirmed
    (Fields.row?_cons_eq_some_iff.trans (and_congr hdevice
    (Fields.row?_cons_eq_some_iff.trans (and_congr hport
    (Fields.row?_cons_eq_some_iff.trans (and_congr hdata Iff.rfl)))))))))).trans ?_
  constructor
  · rintro ⟨h₁, h₂, h₃, h₄, h₅, -⟩
    exact ⟨h₁, h₂, h₃, h₄, h₅⟩
  · rintro ⟨h₁, h₂, h₃, h₄, h₅⟩
    exact ⟨h₁, h₂, h₃, h₄, h₅, rfl⟩

/-- A command is decoded if the record of its fields is. -/
theorem decode_eq_ok_iff_row {payload : Bytes} {row? : Option (Row commandRecord.types)}
    (h : (commandRecord.decode payload).toOption = row?.map commandRecord.build) :
    Command.decode payload = .ok c ↔ row? = some (commandRecord.parts c) := by
  have hbuild : ∀ row, commandRecord.build row = c ↔ row = commandRecord.parts c := by
    intro row
    exact ⟨by rintro rfl; rfl, by rintro rfl; rfl⟩
  have hok : Command.decode payload = .ok c ↔ (commandRecord.decode payload).toOption = some c := by
    rw [Command.decode, decode]
    cases commandRecord.decode payload with
    | error f => exact iff_of_false nofun nofun
    | ok c' =>
      constructor
      · rintro ⟨⟩
        rfl
      · rintro ⟨⟩
        rfl
  rw [hok, h, Option.map_eq_some_iff]
  simp [hbuild]

/-- The command that is decoded from an object is the one that it describes. -/
theorem decode_eq_ok_iff : Command.decode o.bytes = .ok c ↔ o.Describes c :=
  (decode_eq_ok_iff_row
    (commandRecord.decode_object_eq (by decide) commandRecord_readsValues o)).trans
    commandRecord_row?_iff

theorem isCommand_iff : (∃ c, o.Describes c) ↔ o.IsCommand := by
  constructor
  · rintro ⟨c, h⟩
    have hreference := exists_yields_iff.mp ⟨_, h.reference⟩
    have hconfirmed := exists_yields_iff.mp ⟨_, h.confirmed⟩
    have hdevice := exists_yields_iff.mp ⟨_, h.device⟩
    have hport := exists_yields_iff.mp ⟨_, h.port⟩
    have hdata := exists_yields_iff.mp ⟨_, h.data⟩
    refine ⟨?_, hreference.2, hconfirmed.2, hdevice.2, hport.2, hdata.2⟩
    simp only [Command.keys, List.forall_mem_cons]
    exact ⟨hreference.1, hconfirmed.1, hdevice.1, hport.1, hdata.1, List.forall_mem_nil _⟩
  · rintro ⟨honce, hreference, hconfirmed, hdevice, hport, hdata⟩
    obtain ⟨reference, h₁⟩ := exists_yields_iff.mpr ⟨honce "reference" (by decide), hreference⟩
    obtain ⟨confirmed, h₂⟩ := exists_yields_iff.mpr ⟨honce "confirmed" (by decide), hconfirmed⟩
    obtain ⟨device, h₃⟩ := exists_yields_iff.mpr ⟨honce "devEUI" (by decide), hdevice⟩
    obtain ⟨port, h₄⟩ := exists_yields_iff.mpr ⟨honce "fPort" (by decide), hport⟩
    obtain ⟨data, h₅⟩ := exists_yields_iff.mpr ⟨honce "data" (by decide), hdata⟩
    exact ⟨{ reference, confirmed, device, port, data }, h₁, h₂, h₃, h₄, h₅⟩

/-- Objects with the same members that count, in any order, give the same values to keys that
    count. -/
theorem valuesOf_perm (h : o.known.Perm o'.known) {key : String} (hkey : key ∈ Command.keys) :
    (o.valuesOf key).Perm (o'.valuesOf key) := by
  have hvalues : ∀ o : Object,
      o.valuesOf key = (o.known.filter fun p => p.1 = some key).map Prod.snd := by
    intro o
    rw [Object.valuesOf, Object.known, List.filter_map, List.map_map, List.filter_filter]
    congr 1
    refine List.filter_congr fun m _ => ?_
    by_cases hname : m.name? = some key <;> simp [hname, hkey]
  rw [hvalues, hvalues]
  exact (h.filter _).map _

theorem Json.Yields.perm {α : Type} {values values' : List Value} {default a : α}
    {denotes : Value → α → Prop} (h : Yields values default denotes a)
    (hperm : values.Perm values') :
    Yields values' default denotes a := by
  match values with
  | [] => rwa [List.nil_perm.mp hperm]
  | [v] => rwa [← List.singleton_perm.mp hperm]
  | _ :: _ :: _ => cases h

theorem Json.Object.Describes.perm (h : o.Describes c) (hperm : o.known.Perm o'.known) :
    o'.Describes c where
  reference := h.reference.perm (valuesOf_perm hperm (by decide))
  confirmed := h.confirmed.perm (valuesOf_perm hperm (by decide))
  device := h.device.perm (valuesOf_perm hperm (by decide))
  port := h.port.perm (valuesOf_perm hperm (by decide))
  data := h.data.perm (valuesOf_perm hperm (by decide))

/-- Decoding a command is looking up its keys. It succeeds on the objects that are commands and
    gives the command that is described; members that do not count and the order of members make
    no difference. -/
theorem command_lookup (o : Object) :
    ((∃ c, Command.decode o.bytes = .ok c) ↔ o.IsCommand) ∧
      (∀ c, Command.decode o.bytes = .ok c ↔ o.Describes c) ∧
      ∀ (o' : Object) (c : Command), o.known.Perm o'.known → Command.decode o.bytes = .ok c →
        Command.decode o'.bytes = .ok c := by
  refine ⟨?_, fun c => decode_eq_ok_iff, fun o' c hperm hdecode => ?_⟩
  · rw [← isCommand_iff]
    exact exists_congr fun c => decode_eq_ok_iff
  · exact decode_eq_ok_iff.mpr ((decode_eq_ok_iff.mp hdecode).perm hperm)

/-- The device `ab`, its first letter escaped, port 5 and two bytes of data. -/
def portMembers : List (Member Value) :=
  [{ key := piecesOf "devEUI",
     value := .text (.word 48 48 54 49 97 rfl :: piecesOf "b") },
   { key := piecesOf "fPort", gap := { bytes := [32] },
     value := .number { whole := .ofNat 5, noLeadingZero := Digits.noLeadingZero_ofNat 5 } },
   { key := piecesOf "data", value := .text (piecesOf "AP8=") }]

/-- A member that does not count, with half of a character and a second port inside. -/
def unknownMember : Member Value where
  key := piecesOf "x"
  value := .list .empty [
    { value := .object .empty [{ key := piecesOf "fPort", value := .boolean true }] },
    { value := .text [.word 100 56 48 48 0xd800 rfl], after := { bytes := [10, 9] } }]

def portCommand : Object where
  members := portMembers
  named := by simp [portMembers, Member.name?]

def shuffledCommand : Object where
  members := unknownMember :: portMembers.reverse
  named := by simp [portMembers, unknownMember, Member.name?]

theorem command_lookup_shuffled :
    Command.decode portCommand.bytes = .ok { device := "ab", port := 5, data := [0, 255] } ∧
      Command.decode shuffledCommand.bytes =
        .ok { device := "ab", port := 5, data := [0, 255] } := by
  have hperm : portCommand.known.Perm shuffledCommand.known := by
    have hreverse : shuffledCommand.known = portCommand.known.reverse := by
      simp [Object.known, shuffledCommand, portCommand, unknownMember, portMembers, Member.name?,
        Command.keys]
    rw [hreverse]
    exact (List.reverse_perm _).symm
  have hdevice : portCommand.valuesOf "devEUI" =
      [.text (.word 48 48 54 49 97 rfl :: piecesOf "b")] := by
    simp [Object.valuesOf, portCommand, portMembers, Member.name?]
  have hdata : portCommand.valuesOf "data" = [.text (piecesOf "AP8=")] := by
    simp [Object.valuesOf, portCommand, portMembers, Member.name?]
  have hbase64 : Base64.encodeText [0, 255] = "AP8=" := by decide
  have hport : Command.decode portCommand.bytes =
      .ok { device := "ab", port := 5, data := [0, 255] } := by
    refine ((command_lookup portCommand).2.1 _).mpr ⟨?_, ?_, ?_, ?_, ?_⟩
    · simp [Object.valuesOf, portCommand, portMembers, Member.name?, Yields]
    · simp [Object.valuesOf, portCommand, portMembers, Member.name?, Yields]
    · rw [hdevice]
      exact ⟨_, rfl, by decide⟩
    · simp [Object.valuesOf, portCommand, portMembers, Member.name?, Yields, Value.IsByte]
    · rw [hdata]
      exact .inr ⟨_, rfl, by rw [text?_piecesOf, hbase64]⟩
  exact ⟨hport, (command_lookup portCommand).2.2 shuffledCommand _ hperm hport⟩

end LoraBridge
