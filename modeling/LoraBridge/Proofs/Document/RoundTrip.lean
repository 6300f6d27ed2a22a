import LoraBridge.Document.Codec
import LoraBridge.Proofs.Json.Record

/-! # Documents are read as they were written

  Every field of a document is read back, and so is the document. There are two exceptions, both in
  uplinks. A spread factor or bit rate of zero is not written and is read as none. A time with a
  fraction of a thousand million nanoseconds or more is read in the next second, unless it is in a
  leap second.

  - `textField_restores` and its like say so of each kind of field, `uplink_gives` and its like of
    each record.
  - `Uplink.normalized` is what is read of an uplink, with both exceptions.
  - `documents_roundTrip` is the main result. It speaks of all documents that go out;
    `Command.decode_encode` does of commands. `leapFraction_carried` is a time that is not read as
    it was written.
-/

namespace LoraBridge

open Json Text

/-! ### Kinds of fields -/

namespace Json

variable {α : Type} {a a' : α} {field : RecordField α}

theorem RecordField.restores_of_gives (hspace : SkipsSpace field.read)
    (hwritten : field.isOmitted a = false)
    (h : Gives field.read (charsBytes (field.write a)) (some a)) : field.Restores a a := by
  refine ⟨hspace, ?_⟩
  rw [if_neg (by simp [hwritten])]
  exact h

/-- A default changes nothing for a field that is always written. -/
theorem RecordField.Restores.withDefault (h : field.Restores a a')
    (hwritten : field.isOmitted a = false) (d : α) : (field.withDefault d).Restores a a' := by
  obtain ⟨hspace, hread⟩ := h
  rw [if_neg (by simp [hwritten])] at hread
  refine ⟨hspace, ?_⟩
  have hwritten' : (field.withDefault d).isOmitted a = false := hwritten
  rw [if_neg (by simp [hwritten'])]
  exact hread

/-- What an optional field does not write is read as nothing. -/
theorem RecordField.optional_restores_none {unset : α → Bool} {a? : Option α}
    (h : a?.all unset = true) : (field.optional unset).Restores a? none := by
  refine ⟨readOption_skipsSpace field.read, ?_⟩
  have homitted : (field.optional unset).isOmitted a? = true := h
  rw [if_pos homitted]
  rfl

/-- What it writes is read as the field itself reads it, as long as it does not look like `null`. -/
theorem RecordField.optional_restores_some {unset : α → Bool} (hset : unset a = false)
    (h : Gives field.read (charsBytes (field.write a)) (some a'))
    (hbegins : ∃ b more, charsBytes (field.write a) = b :: more ∧
      Skip.isSpace b = false ∧ b ≠ 110) :
    (field.optional unset).Restores (some a) (some a') := by
  refine ⟨readOption_skipsSpace field.read, ?_⟩
  have hwritten : (field.optional unset).isOmitted (some a) = false := hset
  rw [if_neg (by simp [hwritten])]
  exact h.option hbegins

/-- An optional field that is written only if its value is not zero. -/
theorem RecordField.nonzero_restores [Zero α] [DecidableEq α] (field : RecordField α)
    (h : ∀ a, Gives field.read (charsBytes (field.write a)) (some a) ∧
      ∃ b more, charsBytes (field.write a) = b :: more ∧ Skip.isSpace b = false ∧ b ≠ 110)
    (a? : Option α) : (field.optional (· = 0)).Restores a? (a?.filter (· ≠ 0)) := by
  cases a? with
  | none => exact optional_restores_none rfl
  | some a =>
    by_cases ha : a = 0
    · rw [Option.filter_some_neg (by simp [ha])]
      exact optional_restores_none (by simp [ha])
    · rw [Option.filter_some_pos (by simp [ha])]
      exact optional_restores_some (by simp [ha]) (h a).1 (h a).2

end Json

theorem textField_restores (key t : String) : (textField key).Restores t t :=
  RecordField.restores_of_gives (readTextAs_skipsSpace _) rfl (readTextAs_escape _ t)

theorem flagField_restores (key : String) (t : Bool) : (flagField key).Restores t t :=
  RecordField.restores_of_gives readBool_skipsSpace rfl (readBool_writeBool t)

theorem byteField_restores (key : String) (n : UInt8) : (byteField key).Restores n n :=
  RecordField.restores_of_gives readUInt8_skipsSpace rfl (readUInt8_writeNat n)

theorem wordField_restores (key : String) (n : UInt32) : (wordField key).Restores n n :=
  RecordField.restores_of_gives readUInt32_skipsSpace rfl (readUInt32_writeNat n)

theorem dataField_restores (key : String) (b : Bytes) : (dataField key).Restores b b :=
  RecordField.restores_of_gives readData_skipsSpace rfl (readData_writeData b)

/-- A number of no sign begins with a digit, so it is not taken for `null`. -/
theorem writeNat_begins (n : Nat) :
    ∃ b more, charsBytes (writeNat n) = b :: more ∧ Skip.isSpace b = false ∧ b ≠ 110 := by
  rw [← writeInt_ofNat, charsBytes_writeInt]
  obtain ⟨b, more, hcons, hb⟩ := (Numeral.ofInt n).exists_cons
  refine ⟨b, more, hcons, (Value.Begins.isSpace (v := .number (Numeral.ofInt n)) hb).1, ?_⟩
  rintro rfl
  rcases hb with h | h <;> cases h

/-! ### Records inside an uplink -/

/-- The data rate as it is read back: zero counts as none. -/
def DataRate.normalized (r : DataRate) : DataRate :=
  { r with
    spreadFactor? := r.spreadFactor?.filter (· ≠ 0)
    bitrate? := r.bitrate?.filter (· ≠ 0) }

theorem dataRate_gives (r : DataRate) :
    Gives dataRateRecord.read (charsBytes (dataRateRecord.write r)) (some r.normalized) := by
  have hspread := RecordField.nonzero_restores (byteField "spreadFactor")
    (fun n => ⟨readUInt8_writeNat n, writeNat_begins n.toNat⟩) r.spreadFactor?
  have hbitrate := RecordField.nonzero_restores (wordField "bitrate")
    (fun n => ⟨readUInt32_writeNat n, writeNat_begins n.toNat⟩) r.bitrate?
  have hrestores : dataRateRecord.fields.Restores (dataRateRecord.parts r)
      (dataRateRecord.parts r.normalized) :=
    ⟨textField_restores _ _, wordField_restores _ _, hspread, hbitrate, trivial⟩
  exact dataRateRecord.read_write (by decide) _ hrestores

/-- The transmission as it is read back. -/
def Transmission.normalized (t : Transmission) : Transmission :=
  { t with dataRate := t.dataRate.normalized }

theorem transmission_gives (t : Transmission) :
    Gives transmissionRecord.read (charsBytes (transmissionRecord.write t))
      (some t.normalized) := by
  have hrestores : transmissionRecord.fields.Restores (transmissionRecord.parts t)
      (transmissionRecord.parts t.normalized) :=
    ⟨RecordField.restores_of_gives readInt64_skipsSpace rfl (readInt64_writeInt _),
      ⟨dataRateRecord.read_skipsSpace, dataRate_gives t.dataRate⟩,
      flagField_restores _ _, textField_restores _ _, trivial⟩
  exact transmissionRecord.read_write (by decide) _ hrestores

/-- The time of a reception, if there is one, is always written. -/
theorem time_restores (time? : Option Instant) :
    (RecordField.optional { key := "time", read := readInstant, write := writeInstant }
      fun _ => false).Restores time? (time?.map Instant.normalized) := by
  cases time? with
  | none => exact RecordField.optional_restores_none rfl
  | some t =>
    exact RecordField.optional_restores_some rfl (readInstant_writeInstant t)
      ⟨34, _, charsBytes_escape _, by decide, by decide⟩

/-- The reception as it is read back. -/
def Reception.normalized (r : Reception) : Reception :=
  { r with time? := r.time?.map Instant.normalized }

/-- Whether the ratio of signal to noise is read back from its written form. A double that is no
    finite number is not: it is written as `null`. -/
def Reception.IsFaithful (r : Reception) : Prop :=
  readReal (Text.bytes (String.ofList (writeReal r.snr))) = .ok (r.snr, [])

theorem reception_gives {r : Reception} (h : r.IsFaithful) :
    Gives receptionRecord.read (charsBytes (receptionRecord.write r)) (some r.normalized) := by
  rw [Reception.IsFaithful, Text.bytes_ofList] at h
  have hrestores : receptionRecord.fields.Restores (receptionRecord.parts r)
      (receptionRecord.parts r.normalized) :=
    ⟨textField_restores _ _, time_restores r.time?,
      RecordField.restores_of_gives readInt32_skipsSpace rfl (readInt32_writeInt _),
      RecordField.restores_of_gives readReal_skipsSpace rfl (readReal_of_eq_ok h), trivial⟩
  exact receptionRecord.read_write (by decide) _ hrestores

/-! ### Documents -/

/-- A payload is the document that its record gives. -/
theorem decode_of_gives {α : Type} {record : Record α} {a a' : α}
    (h : Gives record.read (charsBytes (record.write a)) (some a')) :
    decode record (encode record a) = .ok a' := by
  have hread := toOption_eq_some_iff.mp (h [] stops_nil)
  rw [List.append_nil] at hread
  rw [decode, encode, Text.bytes_ofList, Record.decode, hread]
  rfl

/-- The uplink as it is read back: nothing but its times and its data rate may differ. -/
def Uplink.normalized (u : Uplink) : Uplink :=
  { u with
    receptions := u.receptions.map Reception.normalized
    transmission := u.transmission.normalized }

theorem uplink_gives {u : Uplink} (h : ∀ r ∈ u.receptions, r.IsFaithful) :
    Gives uplinkRecord.read (charsBytes (uplinkRecord.write u)) (some u.normalized) := by
  have helements : ∀ r ∈ u.receptions, ReturnsElement receptionRecord.read
      (charsBytes (receptionRecord.write r)) (some r.normalized) := by
    intro r hr
    exact ⟨reception_gives (h r hr), 123, _, rfl, by decide, by decide⟩
  have hrestores : uplinkRecord.fields.Restores (uplinkRecord.parts u)
      (uplinkRecord.parts u.normalized) :=
    ⟨textField_restores _ _, ⟨readList_skipsSpace _, readList_writeList helements⟩,
      ⟨transmissionRecord.read_skipsSpace, transmission_gives u.transmission⟩,
      wordField_restores _ _, byteField_restores _ _, dataField_restores _ _, trivial⟩
  exact uplinkRecord.read_write (by decide) _ hrestores

theorem join_gives (n : JoinNotice) :
    Gives joinRecord.read (charsBytes (joinRecord.write n)) (some n) :=
  joinRecord.read_write (by decide) (joinRecord.parts n)
    ⟨textField_restores _ _, textField_restores _ _, trivial⟩

theorem ack_gives (n : AckNotice) :
    Gives ackRecord.read (charsBytes (ackRecord.write n)) (some n) :=
  ackRecord.read_write (by decide) (ackRecord.parts n)
    ⟨textField_restores _ _, textField_restores _ _, trivial⟩

theorem error_gives (n : ErrorNotice) :
    Gives errorRecord.read (charsBytes (errorRecord.write n)) (some n) :=
  errorRecord.read_write (by decide) (errorRecord.parts n)
    ⟨textField_restores _ _, textField_restores _ _, textField_restores _ _, trivial⟩

theorem command_gives (c : Command) :
    Gives commandRecord.read (charsBytes (commandRecord.write c)) (some c) :=
  commandRecord.read_write (by decide) (commandRecord.parts c)
    ⟨(textField_restores _ _).withDefault rfl _, (flagField_restores _ _).withDefault rfl _,
      (textField_restores _ _).withDefault rfl _, (byteField_restores _ _).withDefault rfl _,
      (dataField_restores _ _).withDefault rfl _, trivial⟩

/-- Every document that goes out is read from its payload as it was, save that in an uplink a
    spread factor or bit rate of zero is read as none, and a time with a fraction of a thousand
    million nanoseconds or more in the next second of its minute, if there is one. Writing never
    fails: every document has a payload. -/
theorem documents_roundTrip (u : Uplink) (h : ∀ r ∈ u.receptions, r.IsFaithful)
    (join : JoinNotice) (ack : AckNotice) (error : ErrorNotice) :
    decode uplinkRecord (Notice.data u).encode = .ok u.normalized ∧
      decode joinRecord (Notice.join join).encode = .ok join ∧
      decode ackRecord (Notice.ack ack).encode = .ok ack ∧
      decode errorRecord (Notice.error error).encode = .ok error :=
  ⟨decode_of_gives (uplink_gives h), decode_of_gives (join_gives join),
    decode_of_gives (ack_gives ack), decode_of_gives (error_gives error)⟩

theorem readReal_sevenAndHalf :
    readReal (Text.bytes (String.ofList (writeReal 7.5))) = .ok (7.5, []) := by
  have htext : Text.bytes (String.ofList (writeReal 7.5)) = [55, 46, 53] := by decide +kernel
  have hscale : scale? (75 : Nat).toUInt64.toFloat (-1) = some 7.5 := by
    rw [scale?, if_pos (by decide), if_neg (by decide)]
    decide +kernel
  have hreal : toReal false 75 (-1) = .ok (.real 7.5) := by
    rw [toReal, hscale]
    rfl
  have hread : readNumber [55, 46, 53] = toReal false 75 (-1) >>= fun x => .ok (x, []) := rfl
  have hskip : skipSpace [55, 46, 53] = [55, 46, 53] := by decide
  rw [htext, readReal, hskip, if_pos (by decide), hread, hreal]
  rfl

/-- A reception in the leap second of a year before the year zero. -/
def leapSecondReception : Reception where
  mac := "gw"
  time? := some ⟨-5, 12, 31, 23, 59, 59, 1500000000, by decide⟩
  rssi := -120
  snr := 7.5

/-- A reception with such a fraction in another second. -/
def longSecondReception : Reception where
  mac := "gw"
  time? := some ⟨1970, 1, 1, 23, 56, 4, 1333333333, by decide⟩
  snr := 7.5

/-- An uplink with both. -/
def leapSecondUplink : Uplink where
  device := "a\n\"\\é𝄞"
  receptions := [leapSecondReception, longSecondReception]
  transmission := {
    frequency := 868100000
    dataRate := { modulation := "LORA", spreadFactor? := some 0, bitrate? := some 50000 } }
  data := [0, 255, 16]

theorem leapSecondUplink_faithful : ∀ r ∈ leapSecondUplink.receptions, r.IsFaithful :=
  List.forall_mem_cons.mpr ⟨readReal_sevenAndHalf,
    List.forall_mem_cons.mpr ⟨readReal_sevenAndHalf, List.forall_mem_nil _⟩⟩

theorem documents_roundTrip_leapSecond :
    (∀ r ∈ leapSecondUplink.receptions, r.IsFaithful) ∧
      decode uplinkRecord (Notice.data leapSecondUplink).encode = .ok leapSecondUplink.normalized ∧
      leapSecondUplink.normalized.receptions.map (·.time?) =
        [some ⟨-5, 12, 31, 23, 59, 59, 1500000000, by decide⟩,
          some ⟨1970, 1, 1, 23, 56, 5, 333333333, by decide⟩] ∧
      leapSecondUplink.normalized.transmission.dataRate.spreadFactor? = none ∧
      leapSecondUplink.normalized.transmission.dataRate.bitrate? = some 50000 :=
  ⟨leapSecondUplink_faithful,
    (documents_roundTrip leapSecondUplink leapSecondUplink_faithful {} {} {}).1, rfl, rfl, rfl⟩

/-- An uplink with nothing of note but the time of its reception. -/
def longSecondUplink : Uplink where
  device := "d1"
  receptions := [longSecondReception]

/-- It is read back with another time. -/
theorem leapFraction_carried :
    (∀ r ∈ longSecondUplink.receptions, r.IsFaithful) ∧
      decode uplinkRecord (Notice.data longSecondUplink).encode ≠
        .ok { longSecondUplink with transmission := longSecondUplink.transmission.normalized } := by
  have hfaithful : ∀ r ∈ longSecondUplink.receptions, r.IsFaithful :=
    List.forall_mem_cons.mpr ⟨readReal_sevenAndHalf, List.forall_mem_nil _⟩
  refine ⟨hfaithful, ?_⟩
  intro hsame
  -- what is read is known, and its time is in the next second
  have hread : decode uplinkRecord (Notice.data longSecondUplink).encode =
      .ok longSecondUplink.normalized := decode_of_gives (uplink_gives hfaithful)
  have hequal : longSecondUplink.normalized.receptions = longSecondUplink.receptions :=
    congrArg Uplink.receptions (Except.ok.inj (hread.symm.trans hsame))
  have htimes : longSecondUplink.normalized.receptions.map (·.time?) ≠
      longSecondUplink.receptions.map (·.time?) := by decide
  exact htimes (congrArg (List.map (·.time?)) hequal)

/-- A command is read from its payload as it was. -/
theorem Command.decode_encode (c : Command) : Command.decode c.encode = .ok c :=
  decode_of_gives (command_gives c)

end LoraBridge
