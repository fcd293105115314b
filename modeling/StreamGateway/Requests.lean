import StreamGateway.State

/-!
# Checking and merging requests

What a handler does to a request before it touches the streams: it validates the addresses
in it, names the stream, and for an update merges it with the stored configuration.
-/
namespace StreamGateway

/-! ## Validation -/

def validateMulticastGroup (groupAddr : String) : Except String Unit :=
  match parseIpAddr groupAddr with
  | none => .error s!"Invalid IP address format: '{groupAddr}'"
  | some (.v4 octets) =>
    if (IpAddr.v4 octets).isMulticast then .ok ()
    else .error (s!"Address '{groupAddr}' is not a valid IPv4 multicast address " ++
      "(must be in range 224.0.0.0 - 239.255.255.255)")
  | some (.v6 groups) =>
    if (IpAddr.v6 groups).isMulticast then .ok ()
    else .error s!"Address '{groupAddr}' is not a valid IPv6 multicast address"

/-- The wildcards are valid, other addresses must be those of a network interface. -/
def isValidBindAddress (env : Env) (bindAddr : String) : Bool :=
  if bindAddr = "0.0.0.0" ∨ bindAddr = "::" then true
  else
    match parseIpAddr bindAddr, env.interfaces with
    | some target, some interfaces => target ∈ interfaces
    | _, _ => false

def validateBindAddress (env : Env) (bindAddr : String) : Except String Unit :=
  if bindAddr = "0.0.0.0" ∨ bindAddr = "::" then .ok ()
  else
    match parseIpAddr bindAddr with
    | none => .error s!"Invalid bind IP address format: '{bindAddr}'"
    | some _ =>
      if isValidBindAddress env bindAddr then .ok ()
      else .error (s!"Bind address '{bindAddr}' not found in system interfaces. " ++
        "Use GET /interfaces to see available addresses.")

/-- A field that is absent or empty is not checked. -/
def validateOptional (check : String → Except String Unit) (field : Option String) :
    Except String Unit :=
  match field with
  | some addr => if addr ≠ "" then check addr else .ok ()
  | none => .ok ()

def validateSourceSpecific (multicastGroup : Option String) (sourceAddr : String) :
    Except String Unit :=
  if multicastGroup.getD "" = "" then
    .error "Source-specific multicast requires a multicast group to be specified"
  else
    match parseIpAddr sourceAddr with
    | none => .error s!"Invalid source IP address format: '{sourceAddr}'"
    | some _ => .ok ()

def validateUdpInputConfig (env : Env) : CreateInputRequest → Except String Unit
  | .udp bindHost _ _ _ multicastGroup sourceSpecificMulticast _ => do
    validateOptional (validateBindAddress env) bindHost
    validateOptional validateMulticastGroup multicastGroup
    validateOptional (validateSourceSpecific multicastGroup) sourceSpecificMulticast
  | _ => .ok ()

def validateSrtConfig (env : Env) : CreateInputRequest → Except String Unit
  | .srt _ (.listener bindHost ..) => validateOptional (validateBindAddress env) bindHost
  | .srt _ (.caller _ _ _ bindHost _) => validateOptional (validateBindAddress env) bindHost
  | _ => .ok ()

def validateUdpOutputConfig (env : Env) : CreateOutputRequest → Except String Unit
  | .udp _ _ _ _ _ bindHost multicastTtl multicastInterface _ => do
    validateOptional (validateBindAddress env) bindHost
    validateOptional (validateBindAddress env) multicastInterface
    if multicastTtl = some 0 then .error "Multicast TTL must be between 1 and 255"
  | _ => .ok ()

def validateSrtOutputConfig (env : Env) : CreateOutputRequest → Except String Unit
  | .srt _ _ (.listener bindHost ..) => validateOptional (validateBindAddress env) bindHost
  | .srt _ _ (.caller _ _ _ bindHost _) => validateOptional (validateBindAddress env) bindHost
  | _ => .ok ()

/-- The two checks of an input request. -/
def validateInput (env : Env) (req : CreateInputRequest) : Except String Unit := do
  validateUdpInputConfig env req
  validateSrtConfig env req

/-- The two checks of an output request. -/
def validateOutput (env : Env) (req : CreateOutputRequest) : Except String Unit := do
  validateUdpOutputConfig env req
  validateSrtOutputConfig env req

/-! ## Merging -/

/-- An absent field keeps the current value. A present one replaces it, also by nothing. -/
def mergeOptionalField (update : Option (Option String)) (current : Option String) :
    Option String :=
  match update with
  | none => current
  | some inner => inner

def mergeCommon (common : SrtCommonConfig) (update : SrtUpdate) : SrtCommonConfig where
  latencyMs := update.latencyMs.or common.latencyMs
  streamId := mergeOptionalField update.streamId common.streamId
  passphrase := mergeOptionalField update.passphrase common.passphrase
  expectedBitrateKbps := update.expectedBitrateKbps.or common.expectedBitrateKbps
  fec := update.fec.or common.fec

/-- The legacy fields are not preserved. -/
def mergeInputConfig (current : CreateInputRequest) (update : UpdateInputRequest) :
    Except String CreateInputRequest :=
  match current, update with
  | .udp bindHost bindPort _ name multicastGroup sourceSpecificMulticast _,
    .udp newBindHost newBindPort newName newMulticastGroup newSsm =>
    .ok (.udp (newBindHost.or bindHost) (newBindPort.or bindPort) none (newName.or name)
      (newMulticastGroup.or multicastGroup) (newSsm.or sourceSpecificMulticast) none)
  | .srt name config, .srt newName updateConfig =>
    match config, updateConfig with
    | .listener bindHost bindPort _ common _, .listener newBindHost newBindPort newCommon =>
      .ok (.srt (newName.or name) (.listener (newBindHost.or bindHost) (newBindPort.or bindPort)
        none (mergeCommon common newCommon) none))
    | .caller remoteHost remotePort common bindHost _,
      .caller newRemoteHost newRemotePort newBindHost newCommon =>
      .ok (.srt (newName.or name) (.caller (newRemoteHost.or remoteHost)
        (newRemotePort.or remotePort) (mergeCommon common newCommon)
        (newBindHost.or bindHost) none))
    | _, _ => .error "Cannot change SRT mode (listener/caller) via update"
  | .spts sourceInputId programNumber fillWithNulls name, .spts newName newFill =>
    .ok (.spts sourceInputId programNumber (newFill.or fillWithNulls) (newName.or name))
  | _, _ => .error "Cannot change input type via update"

def mergeOutputConfig (current : CreateOutputRequest) (update : UpdateOutputRequest) :
    Except String CreateOutputRequest :=
  match current, update with
  | .udp inputId remoteHost remotePort _ name bindHost multicastTtl multicastInterface _,
    .udp newRemoteHost newRemotePort newBindHost newTtl newInterface newName =>
    .ok (.udp inputId (newRemoteHost.or remoteHost) (newRemotePort.or remotePort) none
      (newName.or name) (newBindHost.or bindHost) (newTtl.or multicastTtl)
      (newInterface.or multicastInterface) none)
  | .srt inputId name config, .srt newName updateConfig =>
    match config, updateConfig with
    | .listener bindHost bindPort _ common _, .listener newBindHost newBindPort newCommon =>
      .ok (.srt inputId (newName.or name) (.listener (newBindHost.or bindHost)
        (newBindPort.or bindPort) none (mergeCommon common newCommon) none))
    | .caller remoteHost remotePort common bindHost _,
      .caller newRemoteHost newRemotePort newBindHost newCommon =>
      .ok (.srt inputId (newName.or name) (.caller (newRemoteHost.or remoteHost)
        (newRemotePort.or remotePort) (mergeCommon common newCommon)
        (newBindHost.or bindHost) none))
    | _, _ => .error "Cannot change SRT mode (listener/caller) via update"
  | _, _ => .error "Cannot change output type via update"

/-! ## Assigned ports -/

/-- The request of an input with an automatic port. A caller binds no port. -/
def CreateInputRequest.withAssignedPort (req : CreateInputRequest) (port : UInt16) :
    CreateInputRequest :=
  match req with
  | .udp bindHost _ _ name multicastGroup sourceSpecificMulticast _ =>
    .udp bindHost (some port) none name multicastGroup sourceSpecificMulticast (some port)
  | .srt name (.listener bindHost _ _ common _) =>
    .srt name (.listener bindHost (some port) none common (some port))
  | .srt name config => .srt name config
  | .spts sourceInputId programNumber fillWithNulls name =>
    .spts sourceInputId programNumber fillWithNulls name

def CreateOutputRequest.withAssignedPort (req : CreateOutputRequest) (port : UInt16) :
    CreateOutputRequest :=
  match req with
  | .udp inputId remoteHost _ _ name bindHost multicastTtl multicastInterface
      destinationAddr =>
    .udp inputId remoteHost (some port) none name bindHost multicastTtl multicastInterface
      destinationAddr
  | .srt inputId name (.listener bindHost _ _ common _) =>
    .srt inputId name (.listener bindHost (some port) none common (some port))
  | .srt inputId name config => .srt inputId name config

end StreamGateway
