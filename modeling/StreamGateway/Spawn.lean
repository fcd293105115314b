import StreamGateway.State

/-!
# Spawning streams

The functions below create the channel and the task of a stream, and the record that the
gateway keeps of it. They change only the runtime. An input gets a fresh channel; an output
receives from the channel that its input has at that moment.
-/
namespace StreamGateway

/-- An error that a handler answers with. -/
structure HttpError where
  status : ℕ
  message : String
  deriving DecidableEq, Repr

def errorBadRequest (message : String) : HttpError := ⟨400, message⟩

def errorInternalServerError (message : String) : HttpError := ⟨500, message⟩

/-! ## Outputs -/

def spawnOutputSender (packetRx : ChannelId) (destAddr : SocketAddr) (inputId outputId : Int)
    (outputName bindHost : Option String) (multicastConfig : Option MulticastOutputConfig)
    (rt : Runtime) : Task × Runtime :=
  let spec := TaskSpec.udpOutput inputId outputId outputName destAddr bindHost multicastConfig
    packetRx
  (rt.newTask spec, rt.spawn spec)

/-- The first address that the resolver gives. -/
def resolve (env : Env) (destinationAddr : String) : Except HttpError SocketAddr :=
  match env.lookupHost destinationAddr with
  | .error e => .error (errorBadRequest s!"Error resolviendo '{destinationAddr}': {e}")
  | .ok [] => .error (errorBadRequest s!"No se pudo resolver '{destinationAddr}'")
  | .ok (addr :: _) => .ok addr

/-- The output is connected at once. Its stored configuration has the destination in the
legacy form only. -/
def udpOutputInfo (destinationAddr : String) (input : InputInfo) (outputId : Int)
    (finalName bindHost : Option String) (multicastConfig : Option MulticastOutputConfig)
    (stateTx : Option StateChangeSender) (abortHandle : Task) (now : ℕ) : OutputInfo where
  id := outputId
  name := finalName
  inputId := input.id
  destination := destinationAddr
  kind := .udp
  status := .connected
  abortHandle := some abortHandle
  config := .udp input.id none none none finalName bindHost (multicastConfig.map (·.ttl))
    (multicastConfig.bind (·.interface)) (some destinationAddr)
  startedAt := some now
  connectedAt := some now
  stateTx := stateTx
  peerAddress := none
  errorMessage := none

def createUdpOutput (env : Env) (destinationAddr : String) (input : InputInfo) (outputId : Int)
    (name bindHost : Option String) (multicastConfig : Option MulticastOutputConfig)
    (stateTx : Option StateChangeSender) (rt : Runtime) :
    Except HttpError (OutputInfo × Runtime) := do
  let destAddr ← resolve env destinationAddr
  let finalName := name.or (some ("UDP Output to " ++ destinationAddr))
  let (abortHandle, rt) := spawnOutputSender input.packetTx destAddr input.id outputId finalName
    bindHost multicastConfig rt
  return (udpOutputInfo destinationAddr input outputId finalName bindHost multicastConfig stateTx
    abortHandle rt.clock, rt.record .incrementActiveOutputs)

def spawnSrtOutput (config : SrtOutputConfig) (packetRx : ChannelId) (inputId outputId : Int)
    (outputName : Option String) (stateTx : Option StateChangeSender) (rt : Runtime) :
    Task × Runtime :=
  let spec := TaskSpec.srtOutput inputId outputId outputName config stateTx packetRx
  (rt.newTask spec, rt.spawn spec)

/-- The destination of an SRT output as the API shows it. -/
def srtDestination (cfg : SrtOutputConfig) : String :=
  match cfg with
  | .caller .. => hostPort (cfg.getRemoteHost.getD "unknown") (cfg.getRemotePort.getD 0)
  | .listener .. => ":" ++ toString (cfg.getBindPort.getD 0)

def srtOutputName (cfg : SrtOutputConfig) : String :=
  match cfg with
  | .caller .. =>
    "SRT Caller to " ++ hostPort (cfg.getRemoteHost.getD "unknown") (cfg.getRemotePort.getD 0)
  | .listener .. => "SRT Listener on " ++ toString (cfg.getBindPort.getD 0)

def srtOutputInfo (inputId : Int) (cfg : SrtOutputConfig) (outputId : Int)
    (finalName : Option String) (stateTx : Option StateChangeSender) (abortHandle : Task)
    (now : ℕ) : OutputInfo where
  id := outputId
  name := finalName
  inputId := inputId
  kind := match cfg with
    | .caller .. => .srtCaller
    | .listener .. => .srtListener
  status := match cfg with
    | .caller .. => .connecting
    | .listener .. => .listening
  destination := srtDestination cfg
  abortHandle := some abortHandle
  config := .srt inputId finalName cfg
  startedAt := some now
  connectedAt := none
  stateTx := stateTx
  peerAddress := none
  errorMessage := none

def createSrtOutput (inputId : Int) (cfg : SrtOutputConfig) (input : InputInfo) (outputId : Int)
    (name : Option String) (stateTx : Option StateChangeSender) (rt : Runtime) :
    OutputInfo × Runtime :=
  let finalName := name.or (some (srtOutputName cfg))
  let (abortHandle, rt) := spawnSrtOutput cfg input.packetTx inputId outputId finalName stateTx rt
  (srtOutputInfo inputId cfg outputId finalName stateTx abortHandle rt.clock,
    rt.record .incrementActiveOutputs)

/-! ## Inputs -/

/-- An input without a task. -/
def idleInput (id : Int) (name : Option String) (status : StreamStatus) (packetTx : ChannelId)
    (config : CreateInputRequest) (stateTx : Option StateChangeSender)
    (errorMessage : Option String) : InputInfo where
  id := id
  name := name
  status := status
  packetTx := packetTx
  taskHandle := none
  config := config
  outputTasks := ∅
  stoppedOutputs := ∅
  analysisTasks := ∅
  pausedAnalysis := []
  startedAt := none
  connectedAt := none
  stateTx := stateTx
  sourceAddress := none
  errorMessage := errorMessage

def spawnUdpInputWithStats (id : Int) (name : Option String) (listenPort : UInt16)
    (bindHost multicastGroup sourceSpecificMulticast : Option String)
    (stateTx : Option StateChangeSender) (rt : Runtime) : InputInfo × Runtime :=
  let tx := rt.nextChannel
  let spec := TaskSpec.udpInput id name listenPort bindHost multicastGroup
    sourceSpecificMulticast stateTx tx
  let config := CreateInputRequest.udp bindHost (some listenPort) none name multicastGroup
    sourceSpecificMulticast (some listenPort)
  ({ idleInput id name .listening tx config stateTx none with
      taskHandle := some (rt.newTask spec)
      startedAt := some rt.clock },
    (rt.openChannel.spawn spec).record .incrementActiveInputs)

/-- `Forwarder::spawn_with_stats` with the SRT source of the configuration. -/
def forwarderSpawnWithStats (config : SrtInputConfig) (inputId : Int) (inputName : Option String)
    (stateTx : Option StateChangeSender) (rt : Runtime) : (Task × ChannelId) × Runtime :=
  let tx := rt.nextChannel
  let spec := TaskSpec.srtInput inputId inputName config stateTx tx
  ((rt.newTask spec, tx), (rt.openChannel.spawn spec).record .incrementActiveInputs)

def sptsSourceAddress (sourceInputId : Int) (programNumber : UInt16) : String :=
  "MPTS Input " ++ toString sourceInputId ++ " Program " ++ toString programNumber

def spawnSptsInput (sourceInput : InputInfo) (sptsId : Int) (programNumber : UInt16)
    (fillWithNulls : Bool) (name : Option String) (stateTx : Option StateChangeSender)
    (rt : Runtime) : InputInfo × Runtime :=
  let tx := rt.nextChannel
  let spec := TaskSpec.sptsInput sptsId name sourceInput.id programNumber fillWithNulls stateTx
    sourceInput.packetTx tx
  let finalName := name.or (some ("SPTS Program " ++ toString programNumber ++ " from Input " ++
    toString sourceInput.id))
  let config := CreateInputRequest.spts sourceInput.id programNumber (some fillWithNulls) finalName
  ({ idleInput sptsId finalName .listening tx config stateTx none with
      taskHandle := some (rt.newTask spec)
      startedAt := some rt.clock
      sourceAddress := some (sptsSourceAddress sourceInput.id programNumber) },
    (rt.openChannel.spawn spec).record .incrementActiveInputs)

/-- The status of an SRT input whose task has just been spawned. -/
def srtInputStatus : SrtInputConfig → StreamStatus
  | .listener .. => .listening
  | .caller .. => .connecting

end StreamGateway
