import StreamGateway.Text

/-!
# Requests and configurations

The request types double as the stored configurations of inputs and outputs. Each of them
still has the fields of an older naming scheme (`listen_port`, `target_addr`,
`destination_addr`), and the getters decide which field counts.
-/
namespace StreamGateway

/-! ## Stream status -/

inductive StreamStatus
  | stopped | listening | connecting | connected | reconnecting | error
  deriving DecidableEq, Repr

instance : ToString StreamStatus where
  toString
    | .stopped => "stopped"
    | .listening => "listening"
    | .connecting => "connecting"
    | .connected => "connected"
    | .reconnecting => "reconnecting"
    | .error => "error"

/-- Uptime is counted in this state only. -/
def StreamStatus.isConnected : StreamStatus → Bool
  | .connected => true
  | _ => false

/-- Neither stopped nor in error. -/
def StreamStatus.isActive : StreamStatus → Bool
  | .listening | .connecting | .connected | .reconnecting => true
  | .stopped | .error => false

inductive AnalysisType
  | mux | tr101
  deriving DecidableEq, Repr

instance : ToString AnalysisType where
  toString
    | .mux => "mux"
    | .tr101 => "tr101"

/-! ## SRT settings -/

/-- Forward error correction of an SRT stream. -/
structure FecConfig where
  cols : UInt32
  rows : UInt32
  arqLevel : Option UInt32
  staircase : Bool
  deriving DecidableEq, Repr

structure SrtCommonConfig where
  latencyMs : Option Int32
  streamId : Option String
  passphrase : Option String
  expectedBitrateKbps : Option UInt32
  fec : Option FecConfig
  deriving DecidableEq, Repr

/-- `SrtCommonConfig::default()`. -/
def SrtCommonConfig.default : SrtCommonConfig := ⟨none, none, none, none, none⟩

inductive SrtInputConfig
  | listener (bindHost : Option String) (bindPort : Option UInt16)
      (automaticPort : Option Bool) (common : SrtCommonConfig) (listenPort : Option UInt16)
  | caller (remoteHost : Option String) (remotePort : Option UInt16)
      (common : SrtCommonConfig) (bindHost : Option String) (targetAddr : Option String)
  deriving DecidableEq, Repr

inductive SrtOutputConfig
  | listener (bindHost : Option String) (bindPort : Option UInt16)
      (automaticPort : Option Bool) (common : SrtCommonConfig) (listenPort : Option UInt16)
  | caller (remoteHost : Option String) (remotePort : Option UInt16)
      (common : SrtCommonConfig) (bindHost : Option String) (destinationAddr : Option String)
  deriving DecidableEq, Repr

/-! ## Requests -/

inductive CreateInputRequest
  | udp (bindHost : Option String) (bindPort : Option UInt16) (automaticPort : Option Bool)
      (name : Option String) (multicastGroup : Option String)
      (sourceSpecificMulticast : Option String) (listenPort : Option UInt16)
  | srt (name : Option String) (config : SrtInputConfig)
  | spts (sourceInputId : Int) (programNumber : UInt16) (fillWithNulls : Option Bool)
      (name : Option String)
  deriving DecidableEq, Repr

inductive CreateOutputRequest
  | udp (inputId : Int) (remoteHost : Option String) (remotePort : Option UInt16)
      (automaticPort : Option Bool) (name : Option String) (bindHost : Option String)
      (multicastTtl : Option UInt8) (multicastInterface : Option String)
      (destinationAddr : Option String)
  | srt (inputId : Int) (name : Option String) (config : SrtOutputConfig)
  deriving DecidableEq, Repr

/-- The SRT settings of an update. A field that the request leaves out is `none`. For
`passphrase` and `streamId`, an empty string in the request is `some none` and clears the
field. -/
structure SrtUpdate where
  latencyMs : Option Int32
  passphrase : Option (Option String)
  streamId : Option (Option String)
  expectedBitrateKbps : Option UInt32
  fec : Option FecConfig
  deriving DecidableEq, Repr

/-- `UpdateSrtInputConfig` and `UpdateSrtOutputConfig`, which have the same fields. -/
inductive UpdateSrtConfig
  | listener (bindHost : Option String) (bindPort : Option UInt16) (common : SrtUpdate)
  | caller (remoteHost : Option String) (remotePort : Option UInt16) (bindHost : Option String)
      (common : SrtUpdate)
  deriving DecidableEq, Repr

inductive UpdateInputRequest
  | udp (bindHost : Option String) (bindPort : Option UInt16) (name : Option String)
      (multicastGroup : Option String) (sourceSpecificMulticast : Option String)
  | srt (name : Option String) (config : UpdateSrtConfig)
  | spts (name : Option String) (fillWithNulls : Option Bool)
  deriving DecidableEq, Repr

inductive UpdateOutputRequest
  | udp (remoteHost : Option String) (remotePort : Option UInt16) (bindHost : Option String)
      (multicastTtl : Option UInt8) (multicastInterface : Option String)
      (name : Option String)
  | srt (name : Option String) (config : UpdateSrtConfig)
  deriving DecidableEq, Repr

/-! ## Automatic ports -/

def shouldUseAutoPortInput (bindPort legacyListenPort : Option UInt16) : Bool :=
  match bindPort, legacyListenPort with
  | none, none => true
  | some 0, _ => true
  | none, some 0 => true
  | some _, none => false
  | none, some _ => false
  | some _, some _ => false

/-- The legacy address asks for an automatic port by `auto` or by port 0. -/
def shouldUseAutoPortOutput (remotePort bindPort : Option UInt16) (legacyAddr : Option String) :
    Bool :=
  if legacyAddr.any fun addr => addr = "auto" ∨ [':', '0'] <:+ addr.toList ∨ addr = ":0" then true
  else match remotePort, bindPort with
    | some 0, _ => true
    | _, some 0 => true
    | none, none => true
    | _, _ => false

/-- An explicit `automatic_port` decides, else the ports do. -/
def automaticPortOr (automaticPort : Option Bool) (byPorts : Bool) : Bool :=
  automaticPort.getD byPorts

def SrtInputConfig.isAutomaticPort : SrtInputConfig → Bool
  | .listener _ bindPort automaticPort _ listenPort =>
    automaticPortOr automaticPort (shouldUseAutoPortInput bindPort listenPort)
  | .caller .. => false

def CreateInputRequest.isAutomaticPort : CreateInputRequest → Bool
  | .udp _ bindPort automaticPort _ _ _ listenPort =>
    automaticPortOr automaticPort (shouldUseAutoPortInput bindPort listenPort)
  | .srt _ config => config.isAutomaticPort
  | .spts .. => false

def SrtOutputConfig.isAutomaticPort : SrtOutputConfig → Bool
  | .listener _ bindPort automaticPort _ listenPort =>
    automaticPortOr automaticPort
      (shouldUseAutoPortOutput none bindPort none || shouldUseAutoPortInput bindPort listenPort)
  | .caller .. => false

def CreateOutputRequest.isAutomaticPort : CreateOutputRequest → Bool
  | .udp _ _ remotePort automaticPort _ _ _ _ destinationAddr =>
    automaticPortOr automaticPort (shouldUseAutoPortOutput remotePort none destinationAddr)
  | .srt _ _ config => config.isAutomaticPort

/-! ## Effective endpoints -/

/-- The new field if it is given, where an empty host counts as none, and else the host of
the legacy address. -/
def preferHost (remoteHost legacyAddr : Option String) : Option String :=
  match remoteHost, legacyAddr with
  | some host, _ => if host ≠ "" then some host else none
  | none, some addr => hostPart addr
  | none, none => none

/-- The new field if it is given, where port 0 counts as none, and else the port of the
legacy address. -/
def preferPort (remotePort : Option UInt16) (legacyAddr : Option String) : Option UInt16 :=
  match remotePort, legacyAddr with
  | some port, _ => if port ≠ 0 then some port else none
  | none, some addr => portPart addr
  | none, none => none

namespace SrtInputConfig

def getBindPort : SrtInputConfig → UInt16
  | .listener _ bindPort _ _ listenPort => (listenPort.or bindPort).getD 0
  | .caller .. => 0

def getBindHost : SrtInputConfig → String
  | .listener bindHost .. => bindHost.getD "0.0.0.0"
  | .caller .. => "0.0.0.0"

def getRemoteHost : SrtInputConfig → Option String
  | .listener .. => none
  | .caller remoteHost _ _ _ targetAddr => preferHost remoteHost targetAddr

def getCallerBindHost : SrtInputConfig → Option String
  | .listener .. => none
  | .caller _ _ _ bindHost _ => bindHost

def getRemotePort : SrtInputConfig → Option UInt16
  | .listener .. => none
  | .caller _ remotePort _ _ targetAddr => preferPort remotePort targetAddr

end SrtInputConfig

namespace CreateInputRequest

def getBindPort : CreateInputRequest → UInt16
  | .udp _ bindPort _ _ _ _ listenPort => (listenPort.or bindPort).getD 0
  | .srt _ config => config.getBindPort
  | .spts .. => 0

def getBindHost : CreateInputRequest → String
  | .udp bindHost .. => bindHost.getD "0.0.0.0"
  | .srt _ config => config.getBindHost
  | .spts .. => "0.0.0.0"

end CreateInputRequest

namespace SrtOutputConfig

def getRemoteHost : SrtOutputConfig → Option String
  | .listener .. => none
  | .caller remoteHost _ _ _ destinationAddr => preferHost remoteHost destinationAddr

def getCallerBindHost : SrtOutputConfig → Option String
  | .listener .. => none
  | .caller _ _ _ bindHost _ => bindHost

def getRemotePort : SrtOutputConfig → Option UInt16
  | .listener .. => none
  | .caller _ remotePort _ _ destinationAddr => preferPort remotePort destinationAddr

def getBindPort : SrtOutputConfig → Option UInt16
  | .listener _ bindPort _ _ listenPort => listenPort.or bindPort
  | .caller .. => none

def getBindHost : SrtOutputConfig → Option String
  | .listener bindHost .. => some (bindHost.getD "0.0.0.0")
  | .caller .. => none

def common : SrtOutputConfig → SrtCommonConfig
  | .listener _ _ _ common _ => common
  | .caller _ _ common _ _ => common

end SrtOutputConfig

namespace CreateOutputRequest

def inputId : CreateOutputRequest → Int
  | .udp inputId .. => inputId
  | .srt inputId .. => inputId

def name : CreateOutputRequest → Option String
  | .udp _ _ _ _ name .. => name
  | .srt _ name _ => name

def getRemoteHost : CreateOutputRequest → Option String
  | .udp _ remoteHost _ _ _ _ _ _ destinationAddr => preferHost remoteHost destinationAddr
  | .srt _ _ config => config.getRemoteHost

def getRemotePort : CreateOutputRequest → Option UInt16
  | .udp _ _ remotePort _ _ _ _ _ destinationAddr => preferPort remotePort destinationAddr
  | .srt _ _ config => config.getRemotePort

end CreateOutputRequest

/-! ## Kinds and names -/

def inputKindString : CreateInputRequest → String
  | .udp .. => "udp"
  | .srt _ (.listener ..) => "srt_listener"
  | .srt _ (.caller ..) => "srt_caller"
  | .spts .. => "spts"

def getNameFromRequest : CreateInputRequest → Option String
  | .udp _ _ _ name .. => name
  | .srt name _ => name
  | .spts _ _ _ name => name

def generateInputName (req : CreateInputRequest) : Option String :=
  match req with
  | .udp .. => some ("UDP Listener " ++ toString req.getBindPort)
  | .srt _ config =>
    match config with
    | .listener .. => some ("SRT Listener " ++ toString config.getBindPort)
    | .caller .. =>
      some ("SRT Caller " ++
        hostPort (config.getRemoteHost.getD "unknown") (config.getRemotePort.getD 0))
  | .spts sourceInputId programNumber _ _ =>
    some ("SPTS Program " ++ toString programNumber ++ " from Input " ++ toString sourceInputId)

inductive OutputKind
  | udp | srtCaller | srtListener
  deriving DecidableEq, Repr

end StreamGateway
