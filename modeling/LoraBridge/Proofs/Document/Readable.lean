import LoraBridge.Proofs.Document.RoundTrip
import LoraBridge.Proofs.Json.Real
import Mathlib.Tactic.Choose

/-! # Which uplinks can be read

  Writing never fails, and every double has a place in an uplink: it may be the ratio of signal to
  noise of a reception. A double that is no finite number is written as `null`, which is not read
  as a number. So not everything that is published can be read.

  - `reception_returns`: what is read of a reception that was written.
  - `decode_uplink_iff`: an uplink can be read exactly if the ratios of its receptions are finite.
-/

namespace LoraBridge

open Json Text

namespace Json

variable {α β : Type} {field : RecordField α}

theorem RecordField.returns_of_gives {a : α} {a'? : Option α} (hspace : SkipsSpace field.read)
    (hwritten : field.isOmitted a = false)
    (h : Gives field.read (charsBytes (field.write a)) a'?) : field.Returns a a'? := by
  refine ⟨hspace, ?_⟩
  rw [if_neg (by simp [hwritten])]
  exact h

theorem isSome_mapM (outcome : β → Option α) (xs : List β) :
    (xs.mapM outcome).isSome = xs.all fun x => (outcome x).isSome := by
  induction xs with
  | nil => rfl
  | cons x xs ih =>
    rw [mapM_cons, List.all_cons, ← ih]
    cases outcome x with
    | none => rfl
    | some a => cases xs.mapM outcome <;> rfl

end Json

/-- Of a reception only the ratio of signal to noise may be refused. -/
theorem reception_returns (r : Reception) :
    ∃ r'?, Gives receptionRecord.read (charsBytes (receptionRecord.write r)) r'? ∧
      r'?.isSome = r.snr.isFinite := by
  obtain ⟨snr?, hread, hfinite⟩ := readReal_writeReal r.snr
  have hrssi : RecordField.Restores
      { key := "rssi", read := readInt32, write := fun n => writeInt n.toInt } r.rssi r.rssi :=
    RecordField.restores_of_gives readInt32_skipsSpace rfl (readInt32_writeInt _)
  have hsnr : RecordField.Returns
      { key := "loRaSNR", read := readReal, write := writeReal } r.snr snr? :=
    RecordField.returns_of_gives readReal_skipsSpace rfl hread
  have hreturns : receptionRecord.fields.Returns (receptionRecord.parts r) _ :=
    .cons_restores (textField_restores "mac" r.mac) <| .cons_restores (time_restores r.time?) <|
      .cons_restores hrssi <| .last hsnr
  exact ⟨_, receptionRecord.returns_write (by decide) hreturns,
    Option.isSome_map.trans <| Option.isSome_map.trans <| Option.isSome_map.trans <|
      Option.isSome_map.trans <| Option.isSome_map.trans hfinite⟩

/-- Of an uplink only its receptions may be refused. -/
theorem uplink_returns (u : Uplink) :
    ∃ u'?, Gives uplinkRecord.read (charsBytes (uplinkRecord.write u)) u'? ∧
      u'?.isSome = u.receptions.all fun r => r.snr.isFinite := by
  choose outcome houtcome hfinite using reception_returns
  have helements : ∀ r ∈ u.receptions, ReturnsElement receptionRecord.read
      (charsBytes (receptionRecord.write r)) (outcome r) := fun r _ =>
    ⟨houtcome r, 123, _, rfl, by decide, by decide⟩
  have hreceptions : RecordField.Returns
      { key := "rxInfo", read := readList receptionRecord.read,
        write := writeList receptionRecord.write } u.receptions (u.receptions.mapM outcome) :=
    RecordField.returns_of_gives (readList_skipsSpace _) rfl (readList_returns helements)
  have htransmission : RecordField.Restores
      { key := "txInfo", read := transmissionRecord.read, write := transmissionRecord.write }
      u.transmission u.transmission.normalized :=
    ⟨transmissionRecord.read_skipsSpace, transmission_gives u.transmission⟩
  let others : Row [Transmission, UInt32, UInt8, Bytes] :=
    (u.transmission.normalized, u.frameCount, u.port, u.data, ())
  have hreturns : uplinkRecord.fields.Returns (uplinkRecord.parts u) _ :=
    .cons_restores (textField_restores "devEUI" u.device) <|
      .cons_returns others hreceptions
        ⟨htransmission, wordField_restores _ _, byteField_restores _ _, dataField_restores _ _,
          trivial⟩
  have hall : (u.receptions.mapM outcome).isSome = u.receptions.all fun r => r.snr.isFinite := by
    simp only [isSome_mapM, hfinite]
  exact ⟨_, uplinkRecord.returns_write (by decide) hreturns,
    Option.isSome_map.trans <| Option.isSome_map.trans <| Option.isSome_map.trans hall⟩

/-- A payload that the record refuses is no document. -/
theorem decode_of_gives_none {α : Type} {record : Record α} {a : α}
    (h : Gives record.read (charsBytes (record.write a)) none) (a' : α) :
    decode record (encode record a) ≠ .ok a' := by
  have hread := h [] stops_nil
  rw [List.append_nil] at hread
  rw [decode, encode, Text.bytes_ofList, Record.decode]
  cases hfault : record.read (charsBytes (record.write a)) with
  | ok p =>
    rw [hfault] at hread
    cases hread
  | error f =>
    intro heq
    cases heq

/-- An uplink can be read from its payload exactly if the ratios of signal to noise of all its
    receptions are finite. -/
theorem decode_uplink_iff (u : Uplink) :
    (∃ u', decode uplinkRecord (Notice.data u).encode = .ok u') ↔
      ∀ r ∈ u.receptions, r.snr.isFinite = true := by
  obtain ⟨u'?, hgives, hsome⟩ := uplink_returns u
  rw [← List.all_eq_true, ← hsome]
  cases u'? with
  | some u' => exact ⟨fun _ => rfl, fun _ => ⟨u', decode_of_gives hgives⟩⟩
  | none =>
    refine ⟨fun hread => ?_, fun h => by cases h⟩
    obtain ⟨u', hread⟩ := hread
    exact absurd hread (decode_of_gives_none hgives u')

/-- An uplink with a reception whose ratio of signal to noise is not a number. -/
def unmeasuredUplink : Uplink where
  device := "d1"
  receptions := [{ mac := "gw", snr := .ofBits 0x7ff8000000000000 }]

/-- It is written all the same, with `null` for the ratio, and refused where it is read. -/
theorem unmeasured_refused :
    ¬ ∃ u', decode uplinkRecord (Notice.data unmeasuredUplink).encode = .ok u' := by
  obtain ⟨u'?, hgives, hsome⟩ := uplink_returns unmeasuredUplink
  have hinfinite : (unmeasuredUplink.receptions.all fun r => r.snr.isFinite) = false := by
    decide +kernel
  cases u'? with
  | some u' =>
    rw [hinfinite] at hsome
    cases hsome
  | none =>
    intro hread
    obtain ⟨u', hread⟩ := hread
    exact decode_of_gives_none hgives u' hread

end LoraBridge
