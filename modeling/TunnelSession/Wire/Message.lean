/-
  TunnelSession.Wire.Message

  What a client and the daemon say to each other. A frame is one JSON object on
  a line of its own; its member `type` names the message, the others are the
  message's fields.
-/
import TunnelSession.Wire.Records

namespace TunnelSession

/-- What a client asks of the daemon. -/
inductive Request
  | activate (config : TunnelConfig)
  | deactivate
  | status
  | logs
  | cleanLogs
  deriving DecidableEq

/-- The daemon's account of its tunnel. The time is zero while there is none. -/
structure StatusReport where
  connected : Bool := false
  gatewayV4 : String := ""
  deviceV4 : String := ""
  date : UInt64 := 0
  txBytes : UInt64 := 0
  rxBytes : UInt64 := 0
  deriving DecidableEq

/-- What the daemon answers, and what it tells all clients. -/
inductive Reply
  | status (report : StatusReport)
  | logs (text : String)
  | connected (serverKey : String)
  | disconnected
  | backendFailure
  deriving DecidableEq

/-- Why a line is no frame. -/
inductive FrameError
  | notJson
  | notObject
  | notUtf8
  | missingType
  | unknownType (kind : String)
  | invalidPayload (kind : String)
  | tooLong
  deriving DecidableEq

def FrameError.message : FrameError → String
  | .notJson => "Malformed frame"
  | .notObject => "Malformed frame: not a JSON object"
  | .notUtf8 => "Malformed frame: invalid UTF-8"
  | .missingType => "Frame has no type field"
  | .unknownType kind => "Unknown frame type: " ++ kind
  | .invalidPayload kind => s!"Invalid {kind} payload"
  | .tooLong => "Frame exceeds maximum length"

/-! ## Frames -/

/-- The parts of a frame: the kind of its message and the fields. -/
structure FrameParts where
  kind : String
  fields : List (String × Json)

/-- The text of a frame, with the line feed that ends it. -/
def FrameParts.text (p : FrameParts) : String :=
  Json.write (.object (("type", .text p.kind) :: p.fields)) ++ "\n"

/-- Reads a frame of one of the given kinds; `payload` reads the fields. -/
def readFrame (kinds : List String) (payload : String → Json → Option α) (line : String) :
    Except FrameError α :=
  match Json.readSettled? line with
  | none => .error .notJson
  | some frame@(.object _) =>
    match (frame.member? "type").bind Json.text? with
    | none => .error .missingType
    | some kind =>
      if kind ∈ kinds then
        match payload kind frame with
        | some message => .ok message
        | none => .error (.invalidPayload kind)
      else .error (.unknownType kind)
  | some _ => .error .notObject

/-! ## Requests -/

namespace Request

/-- The name of a request on the wire. -/
def kind : Request → String
  | activate _ => "activate"
  | deactivate => "deactivate"
  | status => "status"
  | logs => "logs"
  | cleanLogs => "cleanlogs"

def kinds : List String :=
  ["activate", "deactivate", "status", "logs", "cleanlogs"]

def parts : Request → FrameParts
  | activate config => ⟨"activate", config.members⟩
  | r => ⟨r.kind, []⟩

/-- The frame of a request. -/
def frame (r : Request) : String := r.parts.text

/-- The request of a kind with the fields that an object gives. -/
def ofPayload? (kind : String) (frame : Json) : Option Request :=
  match kind with
  | "activate" => (TunnelConfig.ofJson? frame).map activate
  | "deactivate" => some deactivate
  | "status" => some status
  | "logs" => some logs
  | "cleanlogs" => some cleanLogs
  | _ => none

/-- Reads the frame of a request. -/
def read (line : String) : Except FrameError Request :=
  readFrame kinds ofPayload? line

end Request

/-! ## Replies -/

namespace StatusReport

def members (s : StatusReport) : List (String × Json) := [
  ("connected", .bool s.connected),
  ("serverIpv4Gateway", .text s.gatewayV4),
  ("deviceIpv4Address", .text s.deviceV4),
  ("date", .ofNat s.date.toNat),
  ("txBytes", .ofNat s.txBytes.toNat),
  ("rxBytes", .ofNat s.rxBytes.toNat)]

/-- Reads a counter of 64 bits that is zero where it is missing. -/
def counter? (j : Option Json) : Option UInt64 :=
  (Json.orDefault 0 (Json.nat? 0xFFFFFFFFFFFFFFFF) j).map UInt64.ofNat

def ofJson? (j : Json) : Option StatusReport := do
  let [connected, gatewayV4, deviceV4, date, txBytes, rxBytes] ← j.fields? [
    "connected", "serverIpv4Gateway", "deviceIpv4Address", "date", "txBytes", "rxBytes"] | none
  some {
    connected := ← connected.bind Json.bool?
    gatewayV4 := ← Json.orDefault "" Json.text? gatewayV4
    deviceV4 := ← Json.orDefault "" Json.text? deviceV4
    date := ← counter? date
    txBytes := ← counter? txBytes
    rxBytes := ← counter? rxBytes }

end StatusReport

namespace Reply

/-- The name of a reply on the wire. -/
def kind : Reply → String
  | status _ => "status"
  | logs _ => "logs"
  | connected _ => "connected"
  | disconnected => "disconnected"
  | backendFailure => "backendFailure"

def kinds : List String :=
  ["status", "logs", "connected", "disconnected", "backendFailure"]

def parts : Reply → FrameParts
  | status report => ⟨"status", report.members⟩
  | logs text => ⟨"logs", [("logs", .text text)]⟩
  | connected serverKey => ⟨"connected", [("pubkey", .text serverKey)]⟩
  | disconnected => ⟨"disconnected", []⟩
  | backendFailure => ⟨"backendFailure", []⟩

/-- The frame of a reply. -/
def frame (r : Reply) : String := r.parts.text

/-- The reply of a kind with the fields that an object gives. -/
def ofPayload? (kind : String) (frame : Json) : Option Reply :=
  match kind with
  | "status" => (StatusReport.ofJson? frame).map status
  | "logs" => ((frame.member? "logs").bind Json.text?).map logs
  | "connected" => ((frame.member? "pubkey").bind Json.text?).map connected
  | "disconnected" => some disconnected
  | "backendFailure" => some backendFailure
  | _ => none

/-- Reads the frame of a reply. -/
def read (line : String) : Except FrameError Reply :=
  readFrame kinds ofPayload? line

end Reply

end TunnelSession
