import LoraBridge.Instant.Basic
import LoraBridge.Text.Utf8

/-! # Documents

  What the network server and its applications tell each other about devices. A device is named
  by its EUI, a text that this library does not look into.

  - An `Uplink` is a frame that a device sent, with a `Reception` from each gateway that heard it
    and the `Transmission` that they heard.
  - A `JoinNotice`, an `AckNotice` and an `ErrorNotice` report on a device.
  - A `Command` asks for a frame to be sent to a device.

  The first four go out to applications and are the cases of `Notice`; commands come in.
-/

namespace LoraBridge

/-- The data rate of a transmission: LoRa has a spread factor, FSK a bit rate. -/
structure DataRate where
  modulation : String := ""
  bandwidth : UInt32 := 0
  spreadFactor? : Option UInt8 := none
  bitrate? : Option UInt32 := none
deriving DecidableEq, Inhabited, Repr

/-- How one gateway received a frame. -/
structure Reception where
  /-- The gateway. -/
  mac : String := ""
  time? : Option Instant := none
  rssi : Int32 := 0
  /-- The ratio of signal to noise. -/
  snr : Float := 0
deriving DecidableEq, Inhabited

/-- How a frame was sent. -/
structure Transmission where
  frequency : Int64 := 0
  dataRate : DataRate := {}
  /-- Whether the device lets the network choose its data rate. -/
  adaptive : Bool := false
  codeRate : String := ""
deriving DecidableEq, Inhabited, Repr

/-- A frame that a device sent. -/
structure Uplink where
  device : String := ""
  receptions : List Reception := []
  transmission : Transmission := {}
  frameCount : UInt32 := 0
  port : UInt8 := 0
  data : Bytes := []
deriving DecidableEq, Inhabited

/-- A device has joined. -/
structure JoinNotice where
  address : String := ""
  device : String := ""
deriving DecidableEq, Inhabited, Repr

/-- A device has acknowledged a confirmed command. -/
structure AckNotice where
  reference : String := ""
  device : String := ""
deriving DecidableEq, Inhabited, Repr

/-- Handling the traffic of a device has failed. -/
structure ErrorNotice where
  device : String := ""
  type : String := ""
  text : String := ""
deriving DecidableEq, Inhabited, Repr

/-- A frame to be sent to a device. -/
structure Command where
  /-- What its acknowledgement will refer to. -/
  reference : String := ""
  confirmed : Bool := false
  device : String := ""
  port : UInt8 := 0
  data : Bytes := []
deriving DecidableEq, Inhabited, Repr

/-! ### What goes out -/

/-- The kinds of documents that go out. -/
inductive Kind where
  | data
  | join
  | ack
  | error
deriving DecidableEq, Inhabited, Repr

/-- What reports call a document of this kind. -/
def Kind.name : Kind → String
  | .data => "data-up"
  | .join => "join notification"
  | .ack => "ack notification"
  | .error => "error notification"

/-- A document that goes out. -/
inductive Notice where
  | data (uplink : Uplink)
  | join (notice : JoinNotice)
  | ack (notice : AckNotice)
  | error (notice : ErrorNotice)
deriving DecidableEq, Inhabited

/-- The kind of a document that goes out. -/
def Notice.kind : Notice → Kind
  | .data _ => .data
  | .join _ => .join
  | .ack _ => .ack
  | .error _ => .error

end LoraBridge
