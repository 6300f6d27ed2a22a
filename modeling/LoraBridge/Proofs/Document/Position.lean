import LoraBridge.Proofs.Document.Lookup
import LoraBridge.Proofs.Handler.Gate

/-! # Commands read by position

  A record is read from a list as well as from an object, and then its fields have no names: each
  takes the element at its place, and fields beyond the last element take their defaults. So a
  payload that is no object can still be a command, namely if it is a list of at most five values
  that have the types of the fields in their order.

  - `Fields.placed?` gives the fields of a record by the elements of a list. `Record.decode_list`
    says that this is what decoding a list comes to.
  - `Command.PlacedIn` says which command values are by position.
  - `decode_by_position`: that is what decoding gives for every document that is no object, and
    what a handler forwards of a message with such a payload.
-/

namespace LoraBridge

open Json Text

namespace Json

variable {α : Type} {types : List Type} {field : RecordField α} {fields : Fields types}
  {e : Element Value} {elements : List (Element Value)} {rest s : Bytes}

/-! ### The text of a list -/

/-- The text of a list from the element with this number on, and what follows the list. Only before
    the first element there is no comma. -/
def listFrom (index : Nat) (before : Space) (elements : List (Element Value)) (rest : Bytes) :
    Bytes :=
  let parts := (elementsBytes elements).map Element.bytes
  before.bytes ++ ((if index = 0 then separated parts else parts.flatMap (44 :: ·)) ++ 93 :: rest)

theorem listBytes_append (inner : Space) (elements : List (Element Value)) (rest : Bytes) :
    listBytes inner (elementsBytes elements) ++ rest = 91 :: listFrom 0 inner elements rest := by
  simp [listBytes, listFrom]

theorem listFrom_nil (index : Nat) (before : Space) (rest : Bytes) :
    listFrom index before [] rest = before.bytes ++ 93 :: rest := by
  rw [listFrom]
  split <;> rfl

/-- The comma before an element. -/
def comma (index : Nat) : Bytes := if index = 0 then [] else [44]

theorem listFrom_cons (index : Nat) (before : Space) (e : Element Value)
    (elements : List (Element Value)) (rest : Bytes) :
    listFrom index before (e :: elements) rest = before.bytes ++ (comma index ++
      (e.before.bytes ++ (e.value.bytes ++ listFrom (index + 1) e.after elements rest))) := by
  by_cases hindex : index = 0
  · simp [listFrom, comma, hindex, elementsBytes, separated_cons, Element.bytes]
  · simp [listFrom, comma, hindex, elementsBytes, Element.bytes]

theorem stops_listFrom (index : Nat) (before : Space) (elements : List (Element Value))
    (rest : Bytes) : Stops (listFrom (index + 1) before elements rest) := by
  rw [listFrom, if_neg (Nat.succ_ne_zero index)]
  exact stops_space before (Skip.stops_tail _ (stops_bracket rest))

/-! ### Going through a list -/

theorem nextElement_listFrom_nil (index : Nat) (before : Space) (rest : Bytes) :
    nextElement (index = 0) (listFrom index before [] rest) = .ok none := by
  rw [listFrom_nil, nextElement, skipSpace_space before (by decide)]
  rfl

/-- A list goes on at its next value, space and comma before it being passed over. -/
theorem nextElement_listFrom_cons (index : Nat) (before : Space) (e : Element Value)
    (elements : List (Element Value)) (rest : Bytes) :
    nextElement (index = 0) (listFrom index before (e :: elements) rest) =
      .ok (some (e.value.bytes ++ listFrom (index + 1) e.after elements rest)) := by
  obtain ⟨b, more, hcons, hbegins⟩ := e.value.exists_begins
  obtain ⟨hspace, hb⟩ := hbegins.isSpace
  rw [listFrom_cons, hcons, List.cons_append, nextElement, skipSpace_append, comma]
  by_cases hindex : index = 0
  · simp [hindex, skipSpace_space e.before hspace, hb]
  · simp [hindex, skipSpace_cons (b := 44) (by decide), skipSpace_space e.before hspace, hb]

/-- The end of a list is read where no element is left. -/
theorem endList_listFrom (index : Nat) (before : Space) (elements : List (Element Value))
    (rest : Bytes) :
    (endList (listFrom index before elements rest)).toOption =
      if elements = [] then some rest else none := by
  cases elements with
  | nil =>
    rw [listFrom_nil, endList, skipSpace_space before (by decide)]
    rfl
  | cons e elements =>
    obtain ⟨b, more, hcons, hbegins⟩ := e.value.exists_begins
    obtain ⟨hspace, hb⟩ := hbegins.isSpace
    rw [listFrom_cons, hcons, List.cons_append, endList, skipSpace_append, comma]
    -- a comma is refused as well as a value, whatever comes after it
    by_cases hindex : index = 0
    · simp only [hindex, if_true, List.nil_append, skipSpace_space e.before hspace, hb, if_false]
      split
      · split <;> rfl
      · rfl
    · simp only [hindex, if_false, List.singleton_append, skipSpace_cons (b := 44) (by decide),
        skipSpace_space e.before hspace]
      rw [if_neg (by decide), if_pos trivial]
      split <;> rfl

/-- What was read, if a list ends behind it. -/
def closed? (q? : Option (α × Bytes)) : Option (α × Bytes) :=
  q?.bind fun q => (endList q.2).toOption.map fun s => (q.1, s)

theorem closed?_map {β : Type} (f : α → β) (q? : Option (α × Bytes)) :
    closed? (q?.map fun q => (f q.1, q.2)) = (closed? q?).map fun q => (f q.1, q.2) := by
  cases q? with
  | none => rfl
  | some q => simp [closed?, Function.comp_def]

/-! ### Fields by position -/

namespace Fields

/-- The fields of a record by the texts of the elements of a list. A field without an element takes
    its default, and no element may be left. -/
def placed? {types : List Type} (fields : Fields types) (texts : List Bytes) : Option (Row types) :=
  match fields with
  | .nil => if texts = [] then some () else none
  | .cons field rest =>
    (field.value? texts.head?.toList).bind fun a => (rest.placed? texts.tail).map (Row.cons a)

/-- A field is read, and then the others. -/
theorem readRow_cons (record : String) (total index : Nat) (s : Bytes) :
    ((cons field fields).readRow record total index s).toOption =
      (nextElement (index = 0) s).toOption.bind fun next? =>
        (next?.elim (field.default?.map fun a => (a, s)) fun s => (field.read s).toOption).bind
          fun p => (fields.readRow record total (index + 1) p.2).toOption.map
            fun q => (Row.cons p.1 q.1, q.2) := by
  rw [readRow, toOption_bind]
  refine Option.bind_congr fun next? _ => ?_
  have hrest : ∀ p : α × Bytes, (fields.readRow record total (index + 1) p.2 >>= fun q =>
      (Except.ok (Row.cons p.1 q.1, q.2) : Except Fault (Row (α :: types) × Bytes))).toOption =
        (fields.readRow record total (index + 1) p.2).toOption.map
          fun q => (Row.cons p.1 q.1, q.2) := by
    intro p
    cases fields.readRow record total (index + 1) p.2 <;> rfl
  cases next? with
  | some s =>
    rw [toOption_bind]
    exact Option.bind_congr fun p _ => hrest p
  | none =>
    cases field.default? with
    | none => rfl
    | some a => exact hrest (a, s)

/-- The fields are read from the elements, and then the end of the list. -/
theorem readRow_listFrom (h : fields.ReadsValues) (record : String) (total index : Nat)
    (before : Space) (elements : List (Element Value)) (rest : Bytes) :
    closed? (fields.readRow record total index (listFrom index before elements rest)).toOption =
      (fields.placed? (elements.map fun e => e.value.bytes)).map fun row => (row, rest) := by
  induction fields generalizing index before elements with
  | nil =>
    rw [readRow, toOption_ok, closed?, Option.bind_some, endList_listFrom, placed?]
    cases elements <;> rfl
  | cons field fields ih =>
    obtain ⟨⟨-, hreads⟩, hfields⟩ := h
    rw [readRow_cons, placed?]
    cases elements with
    | nil =>
      have hsame : listFrom index before [] rest = listFrom (index + 1) before [] rest := by
        rw [listFrom_nil, listFrom_nil]
      rw [nextElement_listFrom_nil, hsame]
      simp only [toOption_ok, Option.bind_some, Option.elim, List.map_nil, List.head?_nil,
        Option.toList_none, List.tail_nil, RecordField.value?]
      cases field.default? with
      | none => rfl
      | some a =>
        simp only [Option.map_some, Option.bind_some, closed?_map,
          ih hfields (index + 1) before []]
        simp [Function.comp_def]
    | cons e elements =>
      obtain ⟨a?, hgives⟩ := hreads e.value
      have hvalue := hgives.of_valueOf? _ (stops_listFrom index e.after elements rest)
      rw [nextElement_listFrom_cons]
      simp only [toOption_ok, Option.bind_some, Option.elim, List.map_cons, List.head?_cons,
        Option.toList_some, List.tail_cons, RecordField.value?, hvalue]
      cases valueOf? field.read e.value.bytes with
      | none => rfl
      | some a =>
        simp only [Option.map_some, Option.bind_some, closed?_map, ih hfields]
        simp [Function.comp_def]

theorem placed?_cons_eq_some_iff {values : List Value} {a : α} {row : Row types} :
    (cons field fields).placed? (values.map Value.bytes) = some (Row.cons a row) ↔
      field.value? (values.head?.toList.map Value.bytes) = some a ∧
        fields.placed? (values.tail.map Value.bytes) = some row := by
  have hinj : ∀ a' row', Row.cons a' row' = Row.cons a row ↔ a' = a ∧ row' = row :=
    fun _ _ => Prod.mk.injEq .. ▸ Iff.rfl
  have hhead : (values.map Value.bytes).head?.toList = values.head?.toList.map Value.bytes := by
    cases values <;> rfl
  rw [placed?, hhead, ← List.map_tail]
  cases field.value? (values.head?.toList.map Value.bytes) with
  | none => simp
  | some a' => cases fields.placed? (values.tail.map Value.bytes) <;> simp [hinj]

end Fields

/-! ### Records by position -/

/-- A value that is all of a document, with the space around it. -/
structure Document where
  before : Space := .empty
  value : Value
  after : Space := .empty

/-- A document as a payload. -/
def Document.bytes (d : Document) : Bytes := d.before.bytes ++ d.value.bytes ++ d.after.bytes

/-- A list is read as the fields of a record by position. -/
theorem Record.read_list (record : Record α) (hreads : record.fields.ReadsValues) (inner : Space)
    (elements : List (Element Value)) :
    Gives record.read (Value.list inner elements).bytes
      ((record.fields.placed? (elements.map fun e => e.value.bytes)).map record.build) := by
  intro rest _
  have hrow := record.fields.readRow_listFrom hreads record.name record.fields.count 0 inner
    elements rest
  have hbuild : ∀ q? : Option (Row record.types × Bytes),
      (q?.bind fun q => (endList q.2).toOption.bind fun s => some (record.build q.1, s)) =
        (closed? q?).map fun q => (record.build q.1, q.2) := by
    intro q?
    cases q? with
    | none => rfl
    | some q => cases hend : endList q.2 <;> simp [closed?, hend]
  rw [Value.bytes, listBytes_append, read, skipSpace_cons (by decide)]
  simp only [toOption_bind, toOption_ok, hbuild, hrow, Option.map_map, Function.comp_def]

/-- What is neither a list nor an object is no record. -/
theorem Record.read_scalar (record : Record α) {v : Value}
    (hlist : ∀ inner elements, v ≠ .list inner elements)
    (hobject : ∀ inner members, v ≠ .object inner members) : Gives record.read v.bytes none := by
  refine gives_none fun b s hspace hb => ?_
  rw [read, skipSpace_cons hspace]
  split
  · next heq =>
    rw [(List.cons.inj heq).1] at hb
    obtain ⟨inner, elements, rfl⟩ := hb.eq_list
    exact absurd rfl (hlist inner elements)
  · next heq =>
    rw [(List.cons.inj heq).1] at hb
    obtain ⟨inner, members, rfl⟩ := hb.eq_object
    exact absurd rfl (hobject inner members)
  · rfl

/-- The values of a list. -/
def Value.elements? : Value → Option (List Value)
  | .list _ elements => some (elements.map Element.value)
  | _ => none

/-- What is decoded from a document that is no object: the fields of a list by position, and
    nothing from any other value. -/
theorem Record.decode_document_eq (record : Record α) (hreads : record.fields.ReadsValues)
    {d : Document} (hobject : ∀ inner members, d.value ≠ .object inner members) :
    (record.decode d.bytes).toOption =
      (d.value.elements?.bind fun values => record.fields.placed? (values.map Value.bytes)).map
        record.build := by
  have hread : Gives record.read d.value.bytes
      ((d.value.elements?.bind fun values =>
        record.fields.placed? (values.map Value.bytes)).map record.build) := by
    by_cases hlist : ∃ inner elements, d.value = .list inner elements
    · obtain ⟨inner, elements, hvalue⟩ := hlist
      have hread := record.read_list hreads inner elements
      rw [hvalue, Value.elements?, Option.bind_some, List.map_map]
      exact hread
    · have hnone : d.value.elements? = none := by
        cases hvalue : d.value with
        | list inner elements => exact absurd ⟨inner, elements, hvalue⟩ hlist
        | null | boolean _ | number _ | text _ | object _ _ => rfl
      rw [hnone]
      exact record.read_scalar (fun inner elements h => hlist ⟨inner, elements, h⟩) hobject
  have hend := hread d.after.bytes (by simpa using stops_space d.after stops_nil)
  rw [decode, toOption_bind, Document.bytes, List.append_assoc, record.read_skipsSpace.append, hend]
  cases (d.value.elements?.bind fun values =>
    record.fields.placed? (values.map Value.bytes)).map record.build with
  | none => rfl
  | some a => simp [skipSpace_all]

end Json

/-! ### Commands by position -/

/-- Whether values are this command by position. -/
structure Command.PlacedIn (c : Command) (values : List Value) : Prop where
  length : values.length ≤ 5
  reference : Yields values[0]?.toList "" Value.IsText c.reference
  confirmed : Yields values[1]?.toList false Value.IsFlag c.confirmed
  device : Yields values[2]?.toList "" Value.IsText c.device
  port : Yields values[3]?.toList 0 Value.IsByte c.port
  data : Yields values[4]?.toList [] Value.IsData c.data

variable {c : Command} {values : List Value}

theorem commandRecord_placed?_iff :
    commandRecord.fields.placed? (values.map Value.bytes) = some (commandRecord.parts c) ↔
      c.PlacedIn values := by
  have hend : Fields.nil.placed? (values.tail.tail.tail.tail.tail.map Value.bytes) = some () ↔
      values.length ≤ 5 := by
    have hnil : values.tail.tail.tail.tail.tail = [] ↔ values.length ≤ 5 := by
      rw [← List.length_eq_zero_iff]
      simp only [List.length_tail]
      omega
    simp only [Fields.placed?, List.map_eq_nil_iff, hnil]
    by_cases h : values.length ≤ 5
    · exact iff_of_true (if_pos h) h
    · exact iff_of_false (by simp [h]) h
  refine (Fields.placed?_cons_eq_some_iff.trans (and_congr (textField_value?_iff ..)
    (Fields.placed?_cons_eq_some_iff.trans (and_congr (flagField_value?_iff ..)
    (Fields.placed?_cons_eq_some_iff.trans (and_congr (textField_value?_iff ..)
    (Fields.placed?_cons_eq_some_iff.trans (and_congr (byteField_value?_iff ..)
    (Fields.placed?_cons_eq_some_iff.trans (and_congr (dataField_value?_iff ..) hend)))))))))).trans
    ?_
  simp only [List.head?_eq_getElem?, List.getElem?_tail]
  constructor
  · rintro ⟨h₁, h₂, h₃, h₄, h₅, hlength⟩
    exact ⟨hlength, h₁, h₂, h₃, h₄, h₅⟩
  · rintro ⟨hlength, h₁, h₂, h₃, h₄, h₅⟩
    exact ⟨h₁, h₂, h₃, h₄, h₅, hlength⟩

/-- What is decoded from a document that is no object is the command that its list is by
    position. -/
theorem decode_document_eq_ok_iff {d : Document}
    (hobject : ∀ inner members, d.value ≠ .object inner members) :
    Command.decode d.bytes = .ok c ↔
      ∃ values, d.value.elements? = some values ∧ c.PlacedIn values := by
  rw [decode_eq_ok_iff_row
    (commandRecord.decode_document_eq commandRecord_readsValues hobject), Option.bind_eq_some_iff]
  exact exists_congr fun values => and_congr_right fun _ => commandRecord_placed?_iff

/-- A document that is no object is a command if it is a list of at most five values that are the
    fields of a command by position, those that are missing taking their defaults. No text, number,
    truth value or `null` is one. And what a handler forwards of a message with such a payload is
    this very command, if its third element names the device of the topic. -/
theorem decode_by_position (d : Document)
    (hobject : ∀ inner members, d.value ≠ .object inner members) :
    (∀ c, Command.decode d.bytes = .ok c ↔
      ∃ values, d.value.elements? = some values ∧ c.PlacedIn values) ∧
      ∀ steps s, Run Handler.State.step? {} steps s → ∀ t topic c,
        .accepted t topic d.bytes ∈ Handler.record steps →
        .forwarded t c ∈ Handler.record steps →
        ∃ values address, d.value.elements? = some values ∧ c.PlacedIn values ∧
          TopicAddress.ofCommandTopic? topic = some address ∧
          Yields values[2]?.toList "" Value.IsText address.device := by
  refine ⟨fun c => decode_document_eq_ok_iff hobject,
    fun steps s hrun t topic c haccepted hforwarded => ?_⟩
  have hjudge := ((Handler.story_of_run hrun t).judged (Handler.mem_about haccepted rfl)).2 c
    (Handler.mem_about hforwarded rfl)
  obtain ⟨address, htopic, hok, hdevice⟩ := Handler.judge_eq_command.mp hjudge
  obtain ⟨values, hvalue, hplaced⟩ := (decode_document_eq_ok_iff hobject).mp hok
  exact ⟨values, address, hvalue, hplaced, htopic, hdevice ▸ hplaced.device⟩

/-! ### An example -/

/-- A list of a reference, a truth value, a device and a port, and no data. -/
def positional : Document where
  value := .list .empty [
    { value := .text (piecesOf "r1") }, { value := .boolean true },
    { value := .text (piecesOf "d1") }, { value := .number (.ofInt 5) }]

theorem positional_not_object (inner : Space) (members : List (Member Value)) :
    positional.value ≠ .object inner members := by
  intro h
  cases h

/-- The command that it is. -/
def positionalCommand : Command :=
  { reference := "r1", confirmed := true, device := "d1", port := 5 }

/-- A handler that accepts this list for the device of its third element puts its command on the
    queue. -/
theorem positional_run : ∃ steps s, Run Handler.State.step? {} steps s ∧
    .accepted 0 Handler.sampleTopic positional.bytes ∈ Handler.record steps ∧
    .forwarded 0 positionalCommand ∈ Handler.record steps := by
  have hcomputed : (Run.steps? Handler.State.step? {}
      [.dispatch (.message Handler.sampleTopic positional.bytes), .judge 0,
        .lockReply 0 (.ok true), .queueUp 0, .send]).map (fun run => Handler.record run.1) =
      some [.accepted 0 Handler.sampleTopic positional.bytes,
        .asked 0 (Handler.lockKey positionalCommand), .answered 0 (.ok true),
        .forwarded 0 positionalCommand] := rfl
  obtain ⟨⟨steps, s⟩, hrun, hrecord⟩ := Option.map_eq_some_iff.mp hcomputed
  refine ⟨steps, s, Run.of_steps? hrun, ?_, ?_⟩ <;> simp [hrecord]

theorem decode_by_position_fourFields :
    (∀ inner members, positional.value ≠ .object inner members) ∧
      Command.decode positional.bytes = .ok positionalCommand ∧
      ∃ values, positional.value.elements? = some values ∧ values.length = 4 ∧
        positionalCommand.PlacedIn values := by
  obtain ⟨hdecode, hforwarded⟩ := decode_by_position positional positional_not_object
  obtain ⟨steps, s, hrun, haccepted, hqueued⟩ := positional_run
  obtain ⟨values, _, hvalues, hplaced, -, -⟩ := hforwarded steps s hrun 0 _ _ haccepted hqueued
  have hlength : values.length = 4 := by
    cases hvalues
    rfl
  exact ⟨positional_not_object, (hdecode _).mpr ⟨values, hvalues, hplaced⟩, values, hvalues,
    hlength, hplaced⟩

/-- The payload `["r1",true,"d1",5]` is no object, and yet it is decoded, and a handler forwards
    its command. -/
theorem forwarded_by_position :
    (∀ inner members, positional.value ≠ .object inner members) ∧
      positional.bytes = Text.bytes "[\"r1\",true,\"d1\",5]" ∧
      Command.decode positional.bytes = .ok positionalCommand ∧
      ∃ steps s, Run Handler.State.step? {} steps s ∧
        .accepted 0 Handler.sampleTopic positional.bytes ∈ Handler.record steps ∧
        .forwarded 0 positionalCommand ∈ Handler.record steps :=
  ⟨positional_not_object, by decide, by rfl, positional_run⟩

end LoraBridge
