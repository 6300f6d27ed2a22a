import LoraBridge.Document.Basic
import LoraBridge.Json.Record

/-! # The form of documents

  The record of each type of document: the keys, order and types of its fields.

  A spread factor or bit rate of zero counts as none and is not written. All fields of a command
  may be missing, and so may the optional fields of receptions and data rates.
-/

namespace LoraBridge

open Json

/-! ### Fields -/

/-- A field that holds a text. -/
def textField (key : String) : RecordField String := { key, read := readString, write := escape }

/-- A field that holds a truth value. -/
def flagField (key : String) : RecordField Bool := { key, read := readBool, write := writeBool }

/-- A field that holds a number of eight bits. -/
def byteField (key : String) : RecordField UInt8 :=
  { key, read := readUInt8, write := fun n => writeNat n.toNat }

/-- A field that holds a number of 32 bits. -/
def wordField (key : String) : RecordField UInt32 :=
  { key, read := readUInt32, write := fun n => writeNat n.toNat }

/-- A field that holds frame data. -/
def dataField (key : String) : RecordField Bytes := { key, read := readData, write := writeData }

/-- The same field, but with a default. -/
def Json.RecordField.withDefault {α : Type} (field : RecordField α) (a : α) : RecordField α :=
  { field with default? := some a }

/-- The same field, but optional: it may be missing or `null`, and where there is nothing or the
    value is one that `unset` names, it is not written. -/
def Json.RecordField.optional {α : Type} (field : RecordField α) (unset : α → Bool) :
    RecordField (Option α) where
  key := field.key
  read := readOption field.read
  write := writeOption field.write
  default? := some none
  isOmitted a := a.all unset

/-! ### Records -/

/-- The record of a data rate. -/
def dataRateRecord : Record DataRate where
  name := "DataRate"
  types := [String, UInt32, Option UInt8, Option UInt32]
  fields :=
    .cons (textField "modulation") <| .cons (wordField "bandwidth") <|
    .cons ((byteField "spreadFactor").optional (· = 0)) <|
    .cons ((wordField "bitrate").optional (· = 0)) .nil
  build := fun (modulation, bandwidth, spreadFactor?, bitrate?, _) =>
    { modulation, bandwidth, spreadFactor?, bitrate? }
  parts r := (r.modulation, r.bandwidth, r.spreadFactor?, r.bitrate?, ())

/-- The record of a reception. -/
def receptionRecord : Record Reception where
  name := "RxInfo"
  types := [String, Option Instant, Int32, Float]
  fields :=
    .cons (textField "mac") <|
    .cons (RecordField.optional { key := "time", read := readInstant, write := writeInstant }
      fun _ => false) <|
    .cons { key := "rssi", read := readInt32, write := fun n => writeInt n.toInt } <|
    .cons { key := "loRaSNR", read := readReal, write := writeReal } .nil
  build := fun (mac, time?, rssi, snr, _) => { mac, time?, rssi, snr }
  parts r := (r.mac, r.time?, r.rssi, r.snr, ())

/-- The record of a transmission. -/
def transmissionRecord : Record Transmission where
  name := "TxInfo"
  types := [Int64, DataRate, Bool, String]
  fields :=
    .cons { key := "frequency", read := readInt64, write := fun n => writeInt n.toInt } <|
    .cons { key := "dataRate", read := dataRateRecord.read, write := dataRateRecord.write } <|
    .cons (flagField "adr") <| .cons (textField "codeRate") .nil
  build := fun (frequency, dataRate, adaptive, codeRate, _) =>
    { frequency, dataRate, adaptive, codeRate }
  parts t := (t.frequency, t.dataRate, t.adaptive, t.codeRate, ())

/-- The record of an uplink. -/
def uplinkRecord : Record Uplink where
  name := "DataUpPayload"
  types := [String, List Reception, Transmission, UInt32, UInt8, Bytes]
  fields :=
    .cons (textField "devEUI") <|
    .cons { key := "rxInfo", read := readList receptionRecord.read,
            write := writeList receptionRecord.write } <|
    .cons { key := "txInfo", read := transmissionRecord.read,
            write := transmissionRecord.write } <|
    .cons (wordField "fCnt") <| .cons (byteField "fPort") <| .cons (dataField "data") .nil
  build := fun (device, receptions, transmission, frameCount, port, data, _) =>
    { device, receptions, transmission, frameCount, port, data }
  parts u := (u.device, u.receptions, u.transmission, u.frameCount, u.port, u.data, ())

/-- The record of a join notice. -/
def joinRecord : Record JoinNotice where
  name := "JoinNotification"
  types := [String, String]
  fields := .cons (textField "devAddr") <| .cons (textField "devEUI") .nil
  build := fun (address, device, _) => { address, device }
  parts n := (n.address, n.device, ())

/-- The record of an ack notice. -/
def ackRecord : Record AckNotice where
  name := "AckNotification"
  types := [String, String]
  fields := .cons (textField "reference") <| .cons (textField "devEUI") .nil
  build := fun (reference, device, _) => { reference, device }
  parts n := (n.reference, n.device, ())

/-- The record of an error notice. -/
def errorRecord : Record ErrorNotice where
  name := "ErrorNotification"
  types := [String, String, String]
  fields := .cons (textField "devEUI") <| .cons (textField "type") <|
    .cons (textField "error") .nil
  build := fun (device, type, text, _) => { device, type, text }
  parts n := (n.device, n.type, n.text, ())

/-- The record of a command. -/
def commandRecord : Record Command where
  name := "DataDownPayload"
  types := [String, Bool, String, UInt8, Bytes]
  fields :=
    .cons ((textField "reference").withDefault "") <|
    .cons ((flagField "confirmed").withDefault false) <|
    .cons ((textField "devEUI").withDefault "") <|
    .cons ((byteField "fPort").withDefault 0) <|
    .cons ((dataField "data").withDefault []) .nil
  build := fun (reference, confirmed, device, port, data, _) =>
    { reference, confirmed, device, port, data }
  parts c := (c.reference, c.confirmed, c.device, c.port, c.data, ())

end LoraBridge
