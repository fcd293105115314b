import StreamGateway.Analysis
import StreamGateway.Spawn

/-!
# Starting and stopping streams

Each function here takes and drops the guard of `ACTIVE_STREAMS` as the source does. What a
function does under one guard is a section: a function of the state of its own. Starting an
input takes two sections for UDP and SRT, and five for a program filter, and then restarts
the paused analyses. For UDP and SRT it does so with the guard of the second section.
-/
namespace StreamGateway

open Prog

/-! ## Restarting outputs -/

/-- A destination that is a multicast address gets a multicast configuration. -/
def multicastConfigFor (host : String) (multicastTtl : Option UInt8)
    (multicastInterface : Option String) : Option MulticastOutputConfig :=
  match parseIpAddr host with
  | some addr => if addr.isMulticast then some ⟨multicastTtl.getD 1, multicastInterface⟩ else none
  | none => none

/-- The new entry goes to `output_tasks`. A failure leaves the input as it was. -/
def startOutputInternal (env : Env) (inputInfo : InputInfo) (outputId : Int)
    (outputConfig : CreateOutputRequest) (rt : Runtime) : Except String (InputInfo × Runtime) :=
  match outputConfig with
  | .udp _ _ _ _ name bindHost multicastTtl multicastInterface _ =>
    let host := outputConfig.getRemoteHost.getD "127.0.0.1"
    let port := outputConfig.getRemotePort.getD 8000
    match createUdpOutput env (hostPort host port) inputInfo outputId name bindHost
        (multicastConfigFor host multicastTtl multicastInterface) rt.stateChangeTx rt with
    | .error e => .error ("Failed to create UDP output: " ++ e.message)
    | .ok (outputInfo, rt) =>
      .ok ({ inputInfo with outputTasks := inputInfo.outputTasks.insert outputId outputInfo }, rt)
  | .srt inputId name config =>
    let (outputInfo, rt) :=
      createSrtOutput inputId config inputInfo outputId name rt.stateChangeTx rt
    .ok ({ inputInfo with outputTasks := inputInfo.outputTasks.insert outputId outputInfo }, rt)

/-- A failure is only logged. -/
def startOutputs (env : Env) : List (Int × CreateOutputRequest) → InputInfo → Runtime →
    InputInfo × Runtime
  | [], inputInfo, rt => (inputInfo, rt)
  | (outputId, outputConfig) :: rest, inputInfo, rt =>
    match startOutputInternal env inputInfo outputId outputConfig rt with
    | .ok (inputInfo, rt) => startOutputs env rest inputInfo rt
    | .error _ => startOutputs env rest inputInfo rt

/-- All stopped outputs are drained and started. -/
def restartStopped (env : Env) (inputInfo : InputInfo) (rt : Runtime) : InputInfo × Runtime :=
  startOutputs env inputInfo.stoppedOutputs.toPairs { inputInfo with stoppedOutputs := ∅ } rt

/-! ## Starting an input -/

/-- What `start_input` keeps from its first section. -/
structure StartPlan where
  config : CreateInputRequest
  inputId : Int
  name : Option String
  stateTx : Option StateChangeSender

def planStart (inputId : Int) (w : World) : Except String StartPlan :=
  match w.streams.lookup inputId with
  | none => .error s!"Input {inputId} not found"
  | some info =>
    if info.status.isActive then .error s!"Input {inputId} is already running"
    else .ok ⟨info.config, info.id, info.name, info.stateTx⟩

/-- `Some(config.get_bind_host()).filter(|h| h != "0.0.0.0")`. -/
def bindHostFilter (host : String) : Option String :=
  if host ≠ "0.0.0.0" then some host else none

/-- The input gets a new task, a new channel and a new status. The caller excludes program
filters, for which this leaves the input as it is. -/
def recreateTask (plan : StartPlan) (inputInfo : InputInfo) (rt : Runtime) :
    InputInfo × Runtime :=
  match plan.config with
  | .udp _ _ _ _ multicastGroup sourceSpecificMulticast _ =>
    let (newInputInfo, rt) := spawnUdpInputWithStats plan.inputId plan.name
      plan.config.getBindPort (bindHostFilter plan.config.getBindHost) multicastGroup
      sourceSpecificMulticast plan.stateTx rt
    ({ inputInfo with
        taskHandle := newInputInfo.taskHandle
        packetTx := newInputInfo.packetTx
        status := .listening
        startedAt := some rt.clock }, rt)
  | .srt _ srtConfig =>
    let ((handle, tx), rt) :=
      forwarderSpawnWithStats srtConfig plan.inputId plan.name plan.stateTx rt
    ({ inputInfo with
        taskHandle := some handle
        packetTx := tx
        status := srtInputStatus srtConfig
        startedAt := some rt.clock }, rt)
  | .spts .. => (inputInfo, rt)

/-- The analyses that were paused are taken out of the input. -/
def takePaused (w : World) (inputId : Int) (inputInfo : InputInfo) (rt : Runtime) :
    List AnalysisType × World :=
  (inputInfo.pausedAnalysis, { w with
    streams := w.streams.insert inputId { inputInfo with pausedAnalysis := [] }
    rt := rt })

/-- The second section for UDP and SRT. -/
def restartSection (env : Env) (plan : StartPlan) (w : World) :
    Except String (List AnalysisType) × World :=
  match w.streams.lookup plan.inputId with
  | none => (.error s!"Input {plan.inputId} not found after lock re-acquisition", w)
  | some inputInfo =>
    let (inputInfo, rt) := recreateTask plan inputInfo w.rt
    let (inputInfo, rt) := restartStopped env inputInfo rt
    let (paused, w) := takePaused w plan.inputId inputInfo rt
    (.ok paused, w)

/-- An analysis that was not restarted goes back to the list. -/
def pauseAgain (inputId : Int) (analysisType : AnalysisType) (w : World) : Unit × World :=
  match w.streams.lookup inputId with
  | none => ((), w)
  | some info =>
    let info := { info with pausedAnalysis := info.pausedAnalysis ++ [analysisType] }
    ((), { w with streams := w.streams.insert inputId info })

/-- The guard is held here, so the first analysis in the list requests a second one. -/
def restartPausedHeld (env : Env) (inputId : Int) : List AnalysisType → Prog World Unit
  | [] => return ()
  | analysisType :: rest => do
    match ← startAnalysis env inputId analysisType none with
    | .error _ => atomic (pauseAgain inputId analysisType)
    | .ok _ => pure ()
    restartPausedHeld env inputId rest

/-- The second section of a program filter finds its entry and lets the guard go. -/
def sptsEntrySection (inputId : Int) (w : World) : Except String Unit :=
  match w.streams.lookup inputId with
  | none => .error s!"Input {inputId} not found after lock re-acquisition"
  | some _ => .ok ()

def sptsSourceSection (inputId sourceInputId : Int) (w : World) : Except String Unit :=
  if (w.streams.lookup sourceInputId).any fun src => src.status.isActive then .ok ()
  else .error (s!"Cannot start SPTS input {inputId}: Source input {sourceInputId} " ++
    "not found or not active. Please start the source input first.")

def sptsSpawnSection (plan : StartPlan) (sourceInputId : Int) (programNumber : UInt16)
    (fillWithNulls : Option Bool) (w : World) : Except String InputInfo × World :=
  match w.streams.lookup sourceInputId with
  | none => (.error s!"Source input {sourceInputId} not found", w)
  | some sourceInput =>
    let (newInputInfo, rt) := spawnSptsInput sourceInput plan.inputId programNumber
      (fillWithNulls.getD false) plan.name plan.stateTx w.rt
    (.ok newInputInfo, { w with rt := rt })

/-- The last section of a program filter. -/
def sptsInstallSection (env : Env) (inputId : Int) (newInputInfo : InputInfo) (w : World) :
    Except String (List AnalysisType) × World :=
  match w.streams.lookup inputId with
  | none => (.error s!"Input {inputId} not found after SPTS recreation", w)
  | some inputInfo =>
    let inputInfo := { inputInfo with
      taskHandle := newInputInfo.taskHandle
      packetTx := newInputInfo.packetTx
      status := .listening
      startedAt := some w.rt.clock }
    let (inputInfo, rt) := restartStopped env inputInfo w.rt
    let (paused, w) := takePaused w inputId inputInfo rt
    (.ok paused, w)

/-- No guard is held here. A failure is only logged. -/
def restartPaused (env : Env) (inputId : Int) : List AnalysisType → Prog World Unit
  | [] => return ()
  | analysisType :: rest => do
    let _ ← startAnalysis env inputId analysisType none
    restartPaused env inputId rest

def startSpts (env : Env) (plan : StartPlan) (sourceInputId : Int) (programNumber : UInt16)
    (fillWithNulls : Option Bool) : Prog World (Except String Unit) := do
  match ← locked .write fun w => (sptsEntrySection plan.inputId w, w) with
  | .error e => return .error e
  | .ok () =>
  match ← locked .read fun w => (sptsSourceSection plan.inputId sourceInputId w, w) with
  | .error e => return .error e
  | .ok () =>
  match ← locked .read (sptsSpawnSection plan sourceInputId programNumber fillWithNulls) with
  | .error e => return .error e
  | .ok newInputInfo =>
  match ← locked .write (sptsInstallSection env plan.inputId newInputInfo) with
  | .error e => return .error e
  | .ok paused =>
    restartPaused env plan.inputId paused
    return .ok ()

def startBase (env : Env) (plan : StartPlan) : Prog World (Except String Unit) :=
  acquire .write do
    match ← atomic (restartSection env plan) with
    | .error e => release (return .error e)
    | .ok paused =>
      restartPausedHeld env plan.inputId paused
      release (return .ok ())

/-- `STATE_CHANGE_TX.lock().await.clone()`, a lock of its own. -/
def stateTxOrGlobal (stateTx : Option StateChangeSender) :
    Prog World (Option StateChangeSender) :=
  if stateTx.isSome then return stateTx else atomic fun w => (w.rt.stateChangeTx, w)

def startInput (env : Env) (inputId : Int) : Prog World (Except String Unit) := do
  match ← locked .write fun w => (planStart inputId w, w) with
  | .error e => return .error e
  | .ok plan =>
    let stateTx ← stateTxOrGlobal plan.stateTx
    let plan := { plan with stateTx := stateTx }
    match plan.config with
    | .spts sourceInputId programNumber fillWithNulls _ =>
      startSpts env plan sourceInputId programNumber fillWithNulls
    | _ => startBase env plan

/-! ## Stopping an input -/

/-- Active outputs are aborted and their configurations kept. An output that is not active
is dropped. -/
def stopOutputs : List (Int × OutputInfo) → Runtime →
    HashMap Int CreateOutputRequest × Runtime
  | [], rt => (∅, rt)
  | (outputId, outputInfo) :: rest, rt =>
    if outputInfo.status.isActive then
      let (stopped, rt) := stopOutputs rest (rt.abortHandle outputInfo.abortHandle)
      (stopped.insert outputId outputInfo.config, rt)
    else stopOutputs rest rt

def stopInputInfo (inputInfo : InputInfo) (rt : Runtime) : InputInfo × Runtime :=
  let rt := rt.abortHandle inputInfo.taskHandle
  let (outputsToStop, rt) := stopOutputs inputInfo.outputTasks.toPairs rt
  let analyses := inputInfo.analysisTasks.toPairs
  ({ inputInfo with
      taskHandle := none
      outputTasks := ∅
      stoppedOutputs := inputInfo.stoppedOutputs.extend outputsToStop
      analysisTasks := ∅
      pausedAnalysis := inputInfo.pausedAnalysis ++ analyses.map fun a => a.2.analysisType
      status := .stopped
      startedAt := none },
    abortAnalyses analyses rt)

def stopInputSection (inputId : Int) (w : World) : Except String Unit × World :=
  match w.streams.lookup inputId with
  | none => (.error s!"Input {inputId} not found", w)
  | some inputInfo =>
    if inputInfo.status = .stopped then (.error s!"Input {inputId} is already stopped", w)
    else
      let (inputInfo, rt) := stopInputInfo inputInfo w.rt
      (.ok (), { w with streams := w.streams.insert inputId inputInfo, rt := rt })

def stopInput (inputId : Int) : Prog World (Except String Unit) :=
  locked .write (stopInputSection inputId)

/-! ## Outputs -/

/-- The configuration is out of `stopped_outputs` before the start is tried. -/
def startOutputSection (env : Env) (inputId outputId : Int) (w : World) :
    Except String Unit × World :=
  match w.streams.lookup inputId with
  | none => (.error s!"Input {inputId} not found", w)
  | some inputInfo =>
    if inputInfo.status = .stopped then
      (.error s!"Cannot start output {outputId} because input {inputId} is stopped", w)
    else
      match inputInfo.stoppedOutputs.lookup outputId with
      | some outputConfig =>
        let inputInfo := { inputInfo with
          stoppedOutputs := inputInfo.stoppedOutputs.erase outputId }
        match startOutputInternal env inputInfo outputId outputConfig w.rt with
        | .ok (inputInfo, rt) =>
          (.ok (), { w with streams := w.streams.insert inputId inputInfo, rt := rt })
        | .error e => (.error e, { w with streams := w.streams.insert inputId inputInfo })
      | none =>
        if outputId ∈ inputInfo.outputTasks then
          (.error s!"Output {outputId} is already running", w)
        else (.error s!"Output {outputId} not found in input {inputId}", w)

def startOutput (env : Env) (inputId outputId : Int) : Prog World (Except String Unit) :=
  locked .write (startOutputSection env inputId outputId)

def stopOutputSection (inputId outputId : Int) (w : World) : Except String Unit × World :=
  match w.streams.lookup inputId with
  | none => (.error s!"Input {inputId} not found", w)
  | some inputInfo =>
    match inputInfo.outputTasks.lookup outputId with
    | some outputInfo =>
      let inputInfo := { inputInfo with
        outputTasks := inputInfo.outputTasks.erase outputId
        stoppedOutputs := inputInfo.stoppedOutputs.insert outputId outputInfo.config }
      (.ok (), { w with
        streams := w.streams.insert inputId inputInfo
        rt := w.rt.abortHandle outputInfo.abortHandle })
    | none =>
      if outputId ∈ inputInfo.stoppedOutputs then
        (.error s!"Output {outputId} is already stopped", w)
      else (.error s!"Output {outputId} not found in input {inputId}", w)

def stopOutput (inputId outputId : Int) : Prog World (Except String Unit) :=
  locked .write (stopOutputSection inputId outputId)

end StreamGateway
