import StreamGateway.Database
import StreamGateway.Requests
import StreamGateway.StreamControl

/-!
# Request handlers

The handlers that create, update, delete, start and stop streams. Creating an output and
deleting streams hold the write guard to the end, also across database queries. Creating
and updating an input work in sections, and between them other calls may come in.
-/
namespace StreamGateway

open Prog

inductive Body
  | text (s : String)
  | json (j : Json)

structure Response where
  status : ℕ
  body : Body

namespace Response

def ok (fields : Fields) : Response := ⟨200, .json (.obj fields)⟩
def created (fields : Fields) : Response := ⟨201, .json (.obj fields)⟩
def notFound (message : String) : Response := ⟨404, .text message⟩
def conflict (message : String) : Response := ⟨409, .text message⟩
def badRequest (message : String) : Response := ⟨400, .text message⟩
def internalServerError (message : String) : Response := ⟨500, .text message⟩
def ofError (e : HttpError) : Response := ⟨e.status, .text e.message⟩

end Response

open Response

def inputNotFound (inputId : Int) : Response :=
  notFound s!"Input con ID '{inputId}' no encontrado"

def databaseError (e : String) : Response := internalServerError ("Database error: " ++ e)

/-- `response["assigned_port"] = json!(port)`. -/
def assignedPortField (assignedPort : Option UInt16) : Fields :=
  skipNone "assigned_port" assignedPort

/-! ## Creating an input -/

def spawnUdpSection (listenPort : UInt16)
    (bindHost multicastGroup sourceSpecificMulticast : Option String) (id : Int)
    (name : Option String) (w : World) : InputInfo × World :=
  let (info, rt) := spawnUdpInputWithStats id name listenPort bindHost multicastGroup
    sourceSpecificMulticast w.rt.stateChangeTx w.rt
  (info, { w with rt := rt })

def spawnSrtSection (req : CreateInputRequest) (config : SrtInputConfig) (id : Int)
    (name : Option String) (w : World) : InputInfo × World :=
  let ((handle, tx), rt) := forwarderSpawnWithStats config id name w.rt.stateChangeTx w.rt
  ({ idleInput id name (srtInputStatus config) tx req w.rt.stateChangeTx none with
      taskHandle := some handle
      startedAt := some rt.clock }, { w with rt := rt })

/-- The spawn of a program filter under a read guard. -/
def spawnSptsSection (id sourceInputId : Int) (programNumber : UInt16)
    (fillWithNulls : Option Bool) (name : Option String) (w : World) :
    Except HttpError InputInfo × World :=
  match w.streams.lookup sourceInputId with
  | none => (.error (errorBadRequest s!"Source input {sourceInputId} not found or not active"), w)
  | some sourceInput =>
    let (info, rt) := spawnSptsInput sourceInput id programNumber (fillWithNulls.getD false) name
      w.rt.stateChangeTx w.rt
    (.ok info, { w with rt := rt })

/-- `get_state_change_sender().await`, a lock of its own. -/
def getStateChangeSender : Prog World (Option StateChangeSender) :=
  atomic fun w => (w.rt.stateChangeTx, w)

/-- Only a program filter can fail to spawn. For SRT the sender is asked for once more when the
task is spawned already. -/
def spawnInput (req : CreateInputRequest) (id : Int) (name : Option String) :
    Prog World (Except HttpError InputInfo) :=
  match req with
  | .udp _ _ _ _ multicastGroup sourceSpecificMulticast _ => do
    let info ← atomic (spawnUdpSection req.getBindPort (bindHostFilter req.getBindHost)
      multicastGroup sourceSpecificMulticast id name)
    return .ok info
  | .srt _ config => do
    let info ← atomic (spawnSrtSection req config id name)
    let stateTx ← getStateChangeSender
    return .ok { info with stateTx := stateTx }
  | .spts sourceInputId programNumber fillWithNulls _ =>
    locked .read (spawnSptsSection id sourceInputId programNumber fillWithNulls name)

def insertInput (info : InputInfo) (w : World) : Unit × World :=
  ((), { w with streams := w.streams.insert info.id info })

/-- The input with no task that stands for a failed spawn. -/
def failedInput (id : Int) (name : Option String) (config : CreateInputRequest)
    (stateTx : Option StateChangeSender) (message : String) (w : World) : InputInfo × World :=
  (idleInput id name .error w.rt.nextChannel config stateTx (some message),
    { w with rt := w.rt.openChannel })

/-- The request with its port, and the port if it was assigned here. -/
def assignInputPort (env : Env) (req : CreateInputRequest) :
    Prog World (Except Response (CreateInputRequest × Option UInt16)) := do
  if req.isAutomaticPort then
    match ← findAvailablePort env with
    | .error e => return .error (internalServerError ("Failed to find available port: " ++ e))
    | .ok port => return .ok (req.withAssignedPort port, some port)
  else return .ok (req, none)

/-- The name of an input is that of the request, or one made up for the request. -/
def inputName (req : CreateInputRequest) : Option String :=
  (getNameFromRequest req).or (generateInputName req)

def installInput (id : Int) (name : Option String) (assignedPort : Option UInt16)
    (info : InputInfo) : Prog World Response := do
  locked .write (insertInput info)
  return created ([("id", toJson id), ("name", optionJson name)] ++ assignedPortField assignedPort)

/-- The row stays, and so does an entry in error. -/
def installFailedInput (env : Env) (id : Int) (name : Option String)
    (finalReq : CreateInputRequest) (e : HttpError) : Prog World Response := do
  let info ← atomic fun w => failedInput id name finalReq w.rt.stateChangeTx e.message w
  acquire .write do
    atomic (insertInput info)
    let _ ← atomic (updateInputStatusInDb env id "error")
    release (return internalServerError ("Failed to start input: " ++ e.message))

def createInput (env : Env) (req : CreateInputRequest) : Prog World Response := do
  match validateInput env req with
  | .error e => return badRequest e
  | .ok () =>
  match ← assignInputPort env req with
  | .error r => return r
  | .ok (finalReq, assignedPort) =>
  match ← atomic (saveInputToDb env (inputName req) finalReq) with
  | .error e => return databaseError e
  | .ok id =>
  match ← spawnInput finalReq id (inputName req) with
  | .ok info => installInput id (inputName req) assignedPort info
  | .error e => installFailedInput env id (inputName req) finalReq e

/-! ## Deleting an input -/

def abortOutputs (outputs : List (Int × OutputInfo)) (rt : Runtime) : Runtime :=
  outputs.foldl (fun rt o => rt.abortHandle o.2.abortHandle) rt

/-- The part of the deletion in memory. -/
def removeInputSection (inputId : Int) (w : World) : Bool × World :=
  match w.streams.lookup inputId with
  | none => (false, w)
  | some info =>
    let rt := (w.rt.abortHandle info.taskHandle).record .decrementActiveInputs
    let rt := abortOutputs info.outputTasks.toPairs rt
    let rt := info.outputTasks.toPairs.foldl (fun rt _ => rt.record .decrementActiveOutputs) rt
    (true, { w with
      streams := w.streams.erase inputId
      rt := abortAnalyses info.analysisTasks.toPairs rt })

/-- A failed query is only logged. -/
def deleteInput (env : Env) (inputId : Int) : Prog World Response :=
  acquire .write do
    if ← atomic (removeInputSection inputId) then
      let _ ← atomic (deleteInputFromDb env inputId)
      release (return ok [("message", .str "Input eliminado"), ("id", toJson inputId)])
    else release (return inputNotFound inputId)

/-! ## Updating an input -/

/-- The stored configuration merged with the update and checked. -/
def mergedInput (env : Env) (req : UpdateInputRequest) (row : InputRow) :
    Except Response CreateInputRequest :=
  match row.configJson.read CreateInputRequest.ofFields with
  | none => .error (internalServerError ("Failed to parse current config: " ++ env.jsonError))
  | some currentConfig =>
    match mergeInputConfig currentConfig req with
    | .error e => .error (badRequest e)
    | .ok mergedConfig =>
      match validateInput env mergedConfig with
      | .error e => .error (badRequest e)
      | .ok () => .ok mergedConfig

def storedInput (env : Env) (inputId : Int) (req : UpdateInputRequest) (w : World) :
    Except Response CreateInputRequest × World :=
  match getInputById env inputId w with
  | (.error e, w) => (.error (databaseError e), w)
  | (.ok none, w) => (.error (inputNotFound inputId), w)
  | (.ok (some row), w) => (mergedInput env req row, w)

def setConfig (inputId : Int) (config : CreateInputRequest) (w : World) : Unit × World :=
  match w.streams.lookup inputId with
  | none => ((), w)
  | some info => ((), { w with streams := w.streams.insert inputId { info with config := config } })

def isActiveInput (inputId : Int) (w : World) : Bool × World :=
  ((w.streams.lookup inputId).any fun info => info.status.isActive, w)

def stopIfActive (inputId : Int) : Prog World (Except String Unit) := do
  if ← locked .read (isActiveInput inputId) then stopInput inputId
  else return .ok ()

/-- The input is stopped if it is active, and started in any case. -/
def applyInputUpdate (env : Env) (inputId : Int) (mergedConfig : CreateInputRequest) :
    Prog World Response := do
  match ← stopIfActive inputId with
  | .error e => return internalServerError ("Failed to stop input: " ++ e)
  | .ok () =>
  locked .write (setConfig inputId mergedConfig)
  match ← startInput env inputId with
  | .error e => return internalServerError ("Failed to start input: " ++ e)
  | .ok () =>
  let _ ← atomic (updateInputStatusInDb env inputId "listening")
  return ok [("message", .str "Input actualizado y reiniciado"), ("id", toJson inputId),
    ("name", optionJson (getNameFromRequest mergedConfig))]

def updateInput (env : Env) (inputId : Int) (req : UpdateInputRequest) :
    Prog World Response := do
  match ← atomic (storedInput env inputId req) with
  | .error r => return r
  | .ok mergedConfig =>
  match ← atomic (updateInputInDb env inputId (getNameFromRequest mergedConfig)
      (.obj mergedConfig.toFields)) with
  | .error e => return databaseError e
  | .ok () => applyInputUpdate env inputId mergedConfig

/-! ## Creating an output -/

/-- The destination that the row of an output gets, and the port a listener listens on. -/
def outputDestination (req : CreateOutputRequest) : String × Option UInt16 :=
  match req with
  | .srt _ _ (.listener bindHost bindPort automaticPort common listenPort) =>
    let config := SrtOutputConfig.listener bindHost bindPort automaticPort common listenPort
    let port := config.getBindPort.getD 8000
    (":" ++ toString port, some port)
  | _ => (hostPort (req.getRemoteHost.getD "127.0.0.1") (req.getRemotePort.getD 8000), none)

def outputRowName (req : CreateOutputRequest) (destinationAddr : String) : Option String :=
  match req with
  | .udp .. => req.name.or (some ("UDP Output to " ++ destinationAddr))
  | .srt _ _ config => req.name.or (some (srtOutputName config))

def outputRowKind : CreateOutputRequest → String
  | .udp .. => "udp"
  | .srt _ _ (.caller ..) => "srt_caller"
  | .srt _ _ (.listener ..) => "srt_listener"

def assignOutputPort (env : Env) (req : CreateOutputRequest) :
    Prog World (Except Response (CreateOutputRequest × Option UInt16)) := do
  if req.isAutomaticPort then
    match ← findAvailablePort env with
    | .error e => return .error (internalServerError ("Failed to find available port: " ++ e))
    | .ok port => return .ok (req.withAssignedPort port, some port)
  else return .ok (req, none)

/-- The two checks against the rows of other outputs. -/
def checkConflicts (env : Env) (inputId : Int) (destinationAddr : String)
    (listenPort : Option UInt16) : Prog World (Except Response Unit) := do
  match ← atomic (checkOutputExists env inputId destinationAddr) with
  | .error e => return .error (databaseError e)
  | .ok true =>
    return .error (conflict
      s!"Output ya existe para input {inputId} con destino '{destinationAddr}'")
  | .ok false =>
  match listenPort with
  | none => return .ok ()
  | some port =>
    match ← atomic (checkPortConflict env port) with
    | .error e => return .error (databaseError e)
    | .ok true => return .error (conflict s!"Puerto {port} ya está en uso por otro output")
    | .ok false => return .ok ()

/-- Only the new field `remote_host` decides whether the destination is multicast. -/
def createMulticastConfig (remoteHost : Option String) (multicastTtl : Option UInt8)
    (multicastInterface : Option String) : Option MulticastOutputConfig :=
  remoteHost.bind fun host => multicastConfigFor host multicastTtl multicastInterface

def spawnOutput (env : Env) (finalReq : CreateOutputRequest) (input : InputInfo)
    (inputId outputId : Int) (destinationAddr : String) (rt : Runtime) :
    Except HttpError (OutputInfo × Runtime) :=
  match finalReq with
  | .udp _ remoteHost _ _ userName bindHost multicastTtl multicastInterface _ =>
    createUdpOutput env destinationAddr input outputId userName bindHost
      (createMulticastConfig remoteHost multicastTtl multicastInterface) rt.stateChangeTx rt
  | .srt _ userName config =>
    .ok (createSrtOutput inputId config input outputId userName rt.stateChangeTx rt)

/-- The new entry goes to the input that the entry names, which is there as long as the
guard is held. -/
def installOutputSection (env : Env) (finalReq : CreateOutputRequest) (inputId outputId : Int)
    (destinationAddr : String) (w : World) : Except HttpError OutputInfo × World :=
  match w.streams.lookup inputId with
  | none => (.error (errorInternalServerError "Input debe existir aquí"), w)
  | some input =>
    match spawnOutput env finalReq input inputId outputId destinationAddr w.rt with
    | .error e => (.error e, w)
    | .ok (outputInfo, rt) =>
      match w.streams.lookup outputInfo.inputId with
      | none => (.error (errorInternalServerError "Input debe existir aquí"), { w with rt := rt })
      | some input =>
        let input := { input with
          outputTasks := input.outputTasks.insert outputInfo.id outputInfo }
        (.ok outputInfo, { w with
          streams := w.streams.insert outputInfo.inputId input
          rt := rt })

def kindDisplay : OutputKind → String
  | .udp => "UDP"
  | .srtCaller => "SRT Caller"
  | .srtListener => "SRT Listener"

def outputCreated (outputInfo : OutputInfo) (assignedPort : Option UInt16) : Response :=
  created ([("message", .str "Output creado"), ("output_id", toJson outputInfo.id),
    ("input_id", toJson outputInfo.inputId), ("destination", toJson outputInfo.destination),
    ("type", toJson (kindDisplay outputInfo.kind))] ++ assignedPortField assignedPort)

/-- What follows when the input is there. -/
def createOutputHeld (env : Env) (req : CreateOutputRequest) : Prog World Response := do
  match ← assignOutputPort env req with
  | .error r => return r
  | .ok (finalReq, assignedPort) =>
  let (destinationAddr, listenPort) := outputDestination finalReq
  match ← checkConflicts env req.inputId destinationAddr listenPort with
  | .error r => return r
  | .ok () =>
  match ← atomic (saveOutputToDb env (outputRowName finalReq destinationAddr) req.inputId
      (outputRowKind finalReq) destinationAddr (some (.obj finalReq.toFields)) listenPort) with
  | .error e => return databaseError e
  | .ok outputId =>
  match ← atomic (installOutputSection env finalReq req.inputId outputId destinationAddr) with
  | .error e => return ofError e
  | .ok outputInfo => return outputCreated outputInfo assignedPort

def hasInput (inputId : Int) (w : World) : Bool × World :=
  ((w.streams.lookup inputId).isSome, w)

/-- What runs under the guard. -/
def createOutputGuarded (env : Env) (req : CreateOutputRequest) : Prog World Response := do
  if ← atomic (hasInput req.inputId) then createOutputHeld env req
  else return inputNotFound req.inputId

def createOutput (env : Env) (req : CreateOutputRequest) : Prog World Response :=
  match validateOutput env req with
  | .error e => return badRequest e
  | .ok () =>
    acquire .write do
      let response ← createOutputGuarded env req
      release (return response)

/-! ## Deleting an output -/

/-- The part of the deletion in memory. The entry may be in either map. -/
def removeOutputSection (inputId outputId : Int) (w : World) : Except Response Unit × World :=
  match w.streams.lookup inputId with
  | none => (.error (inputNotFound inputId), w)
  | some info =>
    match info.outputTasks.lookup outputId with
    | some outputInfo =>
      let info := { info with outputTasks := info.outputTasks.erase outputId }
      (.ok (), { w with
        streams := w.streams.insert inputId info
        rt := (w.rt.abortHandle outputInfo.abortHandle).record .decrementActiveOutputs })
    | none =>
      if outputId ∈ info.stoppedOutputs then
        let info := { info with stoppedOutputs := info.stoppedOutputs.erase outputId }
        (.ok (), { w with streams := w.streams.insert inputId info })
      else
        (.error (notFound
          s!"Output con ID '{outputId}' no encontrado para Input '{inputId}'"), w)

def deleteOutput (env : Env) (inputId outputId : Int) : Prog World Response :=
  acquire .write do
    match ← atomic (removeOutputSection inputId outputId) with
    | .error r => release (return r)
    | .ok () =>
      let _ ← atomic (deleteOutputFromDb env outputId)
      release (return ok [("message", .str "Output eliminado"), ("input_id", toJson inputId),
        ("output_id", toJson outputId)])

/-! ## Updating an output -/

/-- A row without a configuration is rebuilt for UDP only. -/
def currentOutputConfig (env : Env) (row : OutputRow) : Except Response CreateOutputRequest :=
  match row.configJson with
  | some configJson =>
    match configJson.read CreateOutputRequest.ofFields with
    | none => .error (internalServerError ("Failed to parse current config: " ++ env.jsonError))
    | some config => .ok config
  | none =>
    if row.kind = "udp" then
      let destination := row.destination.getD ""
      .ok (.udp row.inputId (hostPart destination) (portPart destination) none row.name none none
        none (some destination))
    else .error (internalServerError "Cannot update output without config_json")

def mergedOutput (env : Env) (req : UpdateOutputRequest) (row : OutputRow) :
    Except Response CreateOutputRequest :=
  match currentOutputConfig env row with
  | .error r => .error r
  | .ok currentConfig =>
    match mergeOutputConfig currentConfig req with
    | .error e => .error (badRequest e)
    | .ok mergedConfig =>
      match validateOutput env mergedConfig with
      | .error e => .error (badRequest e)
      | .ok () => .ok mergedConfig

/-- The input of the output, with the merged configuration. -/
def storedOutput (env : Env) (outputId : Int) (req : UpdateOutputRequest) (w : World) :
    Except Response (Int × CreateOutputRequest) × World :=
  match getOutputById env outputId w with
  | (.error e, w) => (.error (databaseError e), w)
  | (.ok none, w) => (.error (notFound s!"Output con ID '{outputId}' no encontrado"), w)
  | (.ok (some row), w) => ((mergedOutput env req row).map fun config => (row.inputId, config), w)

/-- Unlike at creation, an absent host or port is shown as such, and an absent listener port
stays absent. -/
def updatedDestination (config : CreateOutputRequest) : String × Option UInt16 :=
  match config with
  | .udp .. =>
    (hostPort (config.getRemoteHost.getD "127.0.0.1") (config.getRemotePort.getD 8000), none)
  | .srt _ _ srtConfig => (srtDestination srtConfig, srtConfig.getBindPort)

/-- Whether the input is there, and whether the output is active. -/
def outputStanding (inputId outputId : Int) (w : World) : Option Bool × World :=
  ((w.streams.lookup inputId).map fun info => decide (outputId ∈ info.outputTasks), w)

def setStoppedConfig (inputId outputId : Int) (config : CreateOutputRequest) (w : World) :
    Unit × World :=
  match w.streams.lookup inputId with
  | none => ((), w)
  | some info =>
    let info := { info with stoppedOutputs := info.stoppedOutputs.insert outputId config }
    ((), { w with streams := w.streams.insert inputId info })

def applyOutputUpdate (env : Env) (inputId outputId : Int) (mergedConfig : CreateOutputRequest)
    (isActive : Bool) : Prog World Response := do
  match ← (if isActive then stopOutput inputId outputId else return .ok ()) with
  | .error e => return internalServerError ("Failed to stop output: " ++ e)
  | .ok () =>
  locked .write (setStoppedConfig inputId outputId mergedConfig)
  match ← startOutput env inputId outputId with
  | .error e => return internalServerError ("Failed to start output: " ++ e)
  | .ok () =>
  let _ ← atomic (updateOutputStatusInDb env outputId "connecting")
  return ok [("message", .str "Output actualizado y reiniciado"), ("output_id", toJson outputId),
    ("input_id", toJson inputId), ("destination", toJson (updatedDestination mergedConfig).1)]

def updateOutput (env : Env) (outputId : Int) (req : UpdateOutputRequest) :
    Prog World Response := do
  match ← atomic (storedOutput env outputId req) with
  | .error r => return r
  | .ok (inputId, mergedConfig) =>
  let (destinationAddr, listenPort) := updatedDestination mergedConfig
  match ← atomic (updateOutputInDb env outputId mergedConfig.name destinationAddr
      (some (.obj mergedConfig.toFields)) listenPort) with
  | .error e => return databaseError e
  | .ok () =>
  match ← locked .read (outputStanding inputId outputId) with
  | none => return inputNotFound inputId
  | some isActive => applyOutputUpdate env inputId outputId mergedConfig isActive

/-! ## Starting and stopping -/

/-- The status of the input, which goes to the database. -/
def inputStatusText (inputId : Int) (w : World) : String × World :=
  (((w.streams.lookup inputId).map fun info => toString info.status).getD "listening", w)

def startInputEndpoint (env : Env) (inputId : Int) : Prog World Response := do
  match ← startInput env inputId with
  | .error e => return internalServerError ("Failed to start input: " ++ e)
  | .ok () =>
  let statusStr ← locked .read (inputStatusText inputId)
  let _ ← atomic (updateInputStatusInDb env inputId statusStr)
  return ok [("message", .str "Input started successfully"), ("input_id", toJson inputId),
    ("status", toJson statusStr)]

def stopInputEndpoint (env : Env) (inputId : Int) : Prog World Response := do
  match ← stopInput inputId with
  | .error e => return internalServerError ("Failed to stop input: " ++ e)
  | .ok () =>
  let _ ← atomic (updateInputStatusInDb env inputId "stopped")
  return ok [("message", .str "Input stopped successfully"), ("input_id", toJson inputId),
    ("status", .str "stopped")]

def outputStatusText (inputId outputId : Int) (w : World) : String × World :=
  ((((w.streams.lookup inputId).bind fun info => info.outputTasks.lookup outputId).map
    fun output => toString output.status).getD "connecting", w)

def startOutputEndpoint (env : Env) (outputId : Int) : Prog World Response := do
  match ← atomic (getInputIdForOutput env outputId) with
  | .error e => return internalServerError ("Failed to find input for output: " ++ e)
  | .ok inputId =>
  match ← startOutput env inputId outputId with
  | .error e => return internalServerError ("Failed to start output: " ++ e)
  | .ok () =>
  let statusStr ← locked .read (outputStatusText inputId outputId)
  let _ ← atomic (updateOutputStatusInDb env outputId statusStr)
  return ok [("message", .str "Output started successfully"), ("output_id", toJson outputId),
    ("input_id", toJson inputId), ("status", toJson statusStr)]

def stopOutputEndpoint (env : Env) (outputId : Int) : Prog World Response := do
  match ← atomic (getInputIdForOutput env outputId) with
  | .error e => return internalServerError ("Failed to find input for output: " ++ e)
  | .ok inputId =>
  match ← stopOutput inputId outputId with
  | .error e => return internalServerError ("Failed to stop output: " ++ e)
  | .ok () =>
  let _ ← atomic (updateOutputStatusInDb env outputId "stopped")
  return ok [("message", .str "Output stopped successfully"), ("output_id", toJson outputId),
    ("input_id", toJson inputId), ("status", .str "stopped")]

end StreamGateway
