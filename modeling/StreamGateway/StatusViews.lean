import StreamGateway.BufferSizes
import StreamGateway.ReadEndpoints

/-!
# Reading the streams

Four more endpoints read the streams: the list of the inputs, the detail of an input, the list of
its outputs, and the status of everything. Each copies what it shows from the entries in its own
way, and two of them ask the database for more. What they all show is the same.
-/
namespace StreamGateway

/-! ## What a configuration shows -/

/-- A caller binds no port. -/
def SrtInputConfig.extractAssignedPort : SrtInputConfig → Option UInt16
  | .listener _ bindPort _ _ listenPort => (listenPort.or bindPort).filter (· ≠ 0)
  | .caller .. => none

namespace CreateInputRequest

def extractAssignedPort : CreateInputRequest → Option UInt16
  | .udp _ bindPort _ _ _ _ listenPort => (listenPort.or bindPort).filter (· ≠ 0)
  | .srt _ config => config.extractAssignedPort
  | .spts .. => none

def getExpectedBitrateKbps : CreateInputRequest → Option UInt32
  | .udp .. => none
  | .srt _ config => config.common.expectedBitrateKbps
  | .spts .. => none

def getFecConfig : CreateInputRequest → Option FecConfig
  | .udp .. => none
  | .srt _ config => config.common.fec
  | .spts .. => none

end CreateInputRequest

def inputTypeDisplayString (kind : String) : String :=
  match kind with
  | "udp" => "UDP Listener"
  | "srt_listener" => "SRT Listener"
  | "srt_caller" => "SRT Caller"
  | "spts" => "SPTS Filter"
  | _ => "Unknown"

/-! ## The list of the inputs -/

structure InputListResponse where
  id : Int
  name : Option String
  inputType : String
  status : String
  assignedPort : Option UInt16
  outputCount : ℕ
  uptimeSeconds : Option ℕ
  sourceAddress : Option String
  errorMessage : Option String
  expectedBitrateKbps : Option UInt32
  fecConfig : Option FecConfig

/-- `GET /inputs`. -/
def listInputs (w : World) : List InputListResponse :=
  w.streams.toPairs.map fun (inputId, inputInfo) =>
    { id := inputId
      name := inputInfo.name
      inputType := inputTypeDisplayString (inputKindString inputInfo.config)
      status := toString inputInfo.status
      assignedPort := inputInfo.config.extractAssignedPort
      outputCount := inputInfo.outputTasks.toPairs.length
      uptimeSeconds := calculateConnectionUptime inputInfo.status inputInfo.connectedAt w.rt.clock
      sourceAddress := inputInfo.sourceAddress
      errorMessage := inputInfo.errorMessage
      expectedBitrateKbps := inputInfo.config.getExpectedBitrateKbps
      fecConfig := inputInfo.config.getFecConfig }

/-! ## The detail of an input -/

structure InputDetailResponse where
  id : Int
  name : Option String
  inputType : String
  status : String
  assignedPort : Option UInt16
  outputs : List OutputDetailResponse
  uptimeSeconds : Option ℕ
  sourceAddress : Option String
  config : Option Json
  errorMessage : Option String
  expectedBitrateKbps : Option UInt32
  fecConfig : Option FecConfig

/-- A stopped output shows its configuration in memory. -/
def stoppedDetail (outputId inputId : Int) (outputConfig : CreateOutputRequest) :
    OutputDetailResponse where
  id := outputId
  name := outputConfig.name
  inputId := inputId
  destination := (stoppedDestination outputConfig).1
  outputType := (stoppedDestination outputConfig).2
  status := "stopped"
  assignedPort := outputConfig.extractAssignedPort
  config := some (.obj outputConfig.toFields)
  uptimeSeconds := none
  peerAddress := none
  errorMessage := none
  expectedBitrateKbps := outputConfig.getExpectedBitrateKbps
  fecConfig := outputConfig.getFecConfig

/-- The running outputs and then the stopped ones. -/
def InputInfo.outputDetails (env : Env) (inputId : Int) (inputInfo : InputInfo) (w : World) :
    List OutputDetailResponse :=
  (inputInfo.outputTasks.toPairs.map fun (outputId, outputInfo) =>
    outputInfo.detail outputId inputId (storedConfigAndPort env outputId w) w.rt.clock) ++
  inputInfo.stoppedOutputs.toPairs.map fun (outputId, outputConfig) =>
    stoppedDetail outputId inputId outputConfig

/-- The type and the configuration in the database. -/
def storedTypeAndConfig (env : Env) (inputId : Int) (w : World) : String × Option Json :=
  match (getInputById env inputId w).1 with
  | .ok (some dbInput) => (inputTypeDisplayString dbInput.kind, some dbInput.configJson)
  | _ => ("Unknown", none)

def storedInputPort (env : Env) (inputId : Int) (w : World) : Option UInt16 :=
  match (getInputById env inputId w).1 with
  | .ok (some dbInput) =>
    (dbInput.configJson.read CreateInputRequest.ofFields).bind (·.extractAssignedPort)
  | _ => none

/-- `GET /inputs/{id}`. -/
def getInput (env : Env) (inputId : Int) (w : World) : Except Response InputDetailResponse :=
  match w.streams.lookup inputId with
  | some inputInfo =>
    let (inputType, configJson) := storedTypeAndConfig env inputId w
    .ok
      { id := inputId
        name := inputInfo.name
        inputType
        status := toString inputInfo.status
        assignedPort := storedInputPort env inputId w
        outputs := inputInfo.outputDetails env inputId w
        uptimeSeconds :=
          calculateConnectionUptime inputInfo.status inputInfo.connectedAt w.rt.clock
        sourceAddress := inputInfo.sourceAddress
        config := configJson
        errorMessage := inputInfo.errorMessage
        expectedBitrateKbps := inputInfo.config.getExpectedBitrateKbps
        fecConfig := inputInfo.config.getFecConfig }
  | none => .error (inputNotFound inputId)

/-- `GET /inputs/{input_id}/outputs`. -/
def getInputOutputs (env : Env) (inputId : Int) (w : World) :
    Except Response (List OutputDetailResponse) :=
  match w.streams.lookup inputId with
  | some inputInfo => .ok (inputInfo.outputDetails env inputId w)
  | none => .error (inputNotFound inputId)

/-! ## The status -/

structure OutputResponse where
  id : Int
  name : Option String
  inputId : Int
  destination : String
  outputType : String
  status : String
  assignedPort : Option UInt16
  uptimeSeconds : Option ℕ
  peerAddress : Option String
  bitrateBps : Option ℕ
  errorMessage : Option String
  expectedBitrateKbps : Option UInt32
  fecConfig : Option FecConfig

structure InputResponse where
  id : Int
  name : Option String
  status : String
  assignedPort : Option UInt16
  outputs : List OutputResponse
  uptimeSeconds : Option ℕ
  sourceAddress : Option String
  bitrateBps : Option ℕ
  errorMessage : Option String
  expectedBitrateKbps : Option UInt32
  fecConfig : Option FecConfig

/-- The rates in the statistics that the tasks have published. -/
structure Bitrates where
  input : Int → Option ℕ
  output : Int → Int → Option ℕ

def InputInfo.outputResponses (rates : Bitrates) (inputId : Int) (inputInfo : InputInfo)
    (now : ℕ) : List OutputResponse :=
  (inputInfo.outputTasks.toPairs.map fun (outputId, outputInfo) =>
    { id := outputId
      name := outputInfo.name
      inputId
      destination := outputInfo.destination
      outputType := outputKindString outputInfo.kind
      status := toString outputInfo.status
      assignedPort := outputInfo.config.extractAssignedPort
      uptimeSeconds := calculateConnectionUptime outputInfo.status outputInfo.connectedAt now
      peerAddress := outputInfo.peerAddress
      bitrateBps := rates.output inputId outputId
      errorMessage := outputInfo.errorMessage
      expectedBitrateKbps := outputInfo.config.getExpectedBitrateKbps
      fecConfig := outputInfo.config.getFecConfig }) ++
  inputInfo.stoppedOutputs.toPairs.map fun (outputId, outputConfig) =>
    { id := outputId
      name := outputConfig.name
      inputId
      destination := (stoppedDestination outputConfig).1
      outputType := (stoppedDestination outputConfig).2
      status := "stopped"
      assignedPort := outputConfig.extractAssignedPort
      uptimeSeconds := none
      peerAddress := none
      bitrateBps := none
      errorMessage := none
      expectedBitrateKbps := outputConfig.getExpectedBitrateKbps
      fecConfig := outputConfig.getFecConfig }

/-- `GET /status`. -/
def getStatus (rates : Bitrates) (w : World) : List InputResponse :=
  w.streams.toPairs.map fun (inputId, inputInfo) =>
    { id := inputId
      name := inputInfo.name
      status := toString inputInfo.status
      assignedPort := inputInfo.config.extractAssignedPort
      outputs := inputInfo.outputResponses rates inputId w.rt.clock
      uptimeSeconds := calculateConnectionUptime inputInfo.status inputInfo.connectedAt w.rt.clock
      sourceAddress := inputInfo.sourceAddress
      bitrateBps := rates.input inputId
      errorMessage := inputInfo.errorMessage
      expectedBitrateKbps := inputInfo.config.getExpectedBitrateKbps
      fecConfig := inputInfo.config.getFecConfig }

/-! ## Agreement -/

/-- What all endpoints show of an input. -/
structure InputView where
  id : Int
  name : Option String
  status : String
  uptimeSeconds : Option ℕ
  sourceAddress : Option String
  errorMessage : Option String
  expectedBitrateKbps : Option UInt32
  fecConfig : Option FecConfig

/-- What all endpoints show of an output. -/
structure OutputView where
  id : Int
  name : Option String
  inputId : Int
  destination : String
  outputType : String
  status : String
  uptimeSeconds : Option ℕ
  peerAddress : Option String
  errorMessage : Option String
  expectedBitrateKbps : Option UInt32
  fecConfig : Option FecConfig

def InputListResponse.view (r : InputListResponse) : InputView :=
  { r with }

def InputDetailResponse.view (r : InputDetailResponse) : InputView :=
  { r with }

def InputResponse.view (r : InputResponse) : InputView :=
  { r with }

def OutputListResponse.view (r : OutputListResponse) : OutputView :=
  { r with }

def OutputDetailResponse.view (r : OutputDetailResponse) : OutputView :=
  { r with }

def OutputResponse.view (r : OutputResponse) : OutputView :=
  { r with }

def InputInfo.view (info : InputInfo) (inputId : Int) (now : ℕ) : InputView where
  id := inputId
  name := info.name
  status := toString info.status
  uptimeSeconds := calculateConnectionUptime info.status info.connectedAt now
  sourceAddress := info.sourceAddress
  errorMessage := info.errorMessage
  expectedBitrateKbps := info.config.getExpectedBitrateKbps
  fecConfig := info.config.getFecConfig

def OutputInfo.view (o : OutputInfo) (outputId inputId : Int) (now : ℕ) : OutputView where
  id := outputId
  name := o.name
  inputId := inputId
  destination := o.destination
  outputType := outputKindString o.kind
  status := toString o.status
  uptimeSeconds := calculateConnectionUptime o.status o.connectedAt now
  peerAddress := o.peerAddress
  errorMessage := o.errorMessage
  expectedBitrateKbps := o.config.getExpectedBitrateKbps
  fecConfig := o.config.getFecConfig

def stoppedView (outputId inputId : Int) (config : CreateOutputRequest) : OutputView :=
  (stoppedDetail outputId inputId config).view

def InputInfo.outputViews (info : InputInfo) (inputId : Int) (now : ℕ) : List OutputView :=
  (info.outputTasks.toPairs.map fun (outputId, o) => o.view outputId inputId now) ++
  info.stoppedOutputs.toPairs.map fun (outputId, config) => stoppedView outputId inputId config

section Views

variable (env : Env) (rates : Bitrates) (w : World) (info : InputInfo) (i : Int)

theorem outputDetails_views :
    (info.outputDetails env i w).map OutputDetailResponse.view =
      info.outputViews i w.rt.clock := by
  rw [InputInfo.outputDetails, List.map_append, List.map_map, List.map_map]
  rfl

theorem outputResponses_views (now : ℕ) :
    (info.outputResponses rates i now).map OutputResponse.view = info.outputViews i now := by
  rw [InputInfo.outputResponses, List.map_append, List.map_map, List.map_map]
  rfl

theorem outputsSnapshot_views (now : ℕ) :
    (info.outputsSnapshot i).map (fun s => (s.response now).view) = info.outputViews i now := by
  rw [InputInfo.outputsSnapshot, List.map_append, List.map_map, List.map_map]
  rfl

theorem listInputs_views : (listInputs w).map InputListResponse.view =
    w.streams.toPairs.map fun e => e.2.view e.1 w.rt.clock := by
  rw [listInputs, List.map_map]
  rfl

theorem getStatus_views : (getStatus rates w).map InputResponse.view =
    w.streams.toPairs.map fun e => e.2.view e.1 w.rt.clock := by
  rw [getStatus, List.map_map]
  rfl

theorem listOutputs_views : (listOutputs w).map OutputListResponse.view =
    w.streams.toPairs.flatMap fun e => e.2.outputViews e.1 w.rt.clock := by
  rw [listOutputs, List.map_map, List.map_flatMap]
  exact List.flatMap_congr fun e _ => outputsSnapshot_views e.2 e.1 w.rt.clock

end Views

/-- The endpoints show the same inputs, the same outputs of each, and of all of them the same. The
number of outputs in the list of the inputs is that of the outputs that are not stopped. -/
structure ViewsAgree (env : Env) (rates : Bitrates) (w : World) : Prop where
  inputs : (listInputs w).map InputListResponse.view = (getStatus rates w).map InputResponse.view
  outputs : (listOutputs w).map OutputListResponse.view =
    (getStatus rates w).flatMap fun r => r.outputs.map OutputResponse.view
  detail : ∀ r ∈ getStatus rates w, ∃ d, getInput env r.id w = .ok d ∧ d.view = r.view ∧
    d.outputs.map OutputDetailResponse.view = r.outputs.map OutputResponse.view ∧
    getInputOutputs env r.id w = .ok d.outputs
  missing : ∀ i, (∀ r ∈ getStatus rates w, r.id ≠ i) →
    getInput env i w = .error (inputNotFound i) ∧
    getInputOutputs env i w = .error (inputNotFound i)
  counts : ∀ r ∈ listInputs w, ∀ outputs, getInputOutputs env r.id w = .ok outputs →
    r.outputCount = outputs.countP fun o => o.status ≠ "stopped"

/-- A running output never shows that it is stopped. -/
theorem countP_outputDetails {env : Env} {w : World} {info : InputInfo} {i : Int}
    (hlive : ∀ k o, info.outputTasks.lookup k = some o → o.status ≠ .stopped) :
    (info.outputDetails env i w).countP (fun o => o.status ≠ "stopped") =
      info.outputTasks.toPairs.length := by
  have hrunning : ∀ e ∈ info.outputTasks.toPairs, (e.2.detail e.1 i (storedConfigAndPort env e.1 w)
      w.rt.clock).status ≠ "stopped" :=
    fun e he => toString_ne_stopped (hlive e.1 e.2 (HashMap.mem_toPairs.mp he))
  rw [InputInfo.outputDetails, List.countP_append, List.countP_map, List.countP_map]
  have hall : info.outputTasks.toPairs.countP ((fun o => decide (o.status ≠ "stopped")) ∘
      fun e => e.2.detail e.1 i (storedConfigAndPort env e.1 w) w.rt.clock) =
      info.outputTasks.toPairs.length :=
    List.countP_eq_length.mpr fun e he => decide_eq_true (hrunning e he)
  have hnone : info.stoppedOutputs.toPairs.countP ((fun o => decide (o.status ≠ "stopped")) ∘
      fun e => stoppedDetail e.1 i e.2) = 0 :=
    List.countP_eq_zero.mpr fun e _ => by simp [stoppedDetail]
  rw [hall, hnone, Nat.add_zero]

/-- In every reachable state the five endpoints tell the same. -/
theorem views_agree {env : Env} {rates : Bitrates} {w : World} (h : Reachable w) :
    ViewsAgree env rates w := by
  have hlive := (reachable_outputsLive h).records
  have hid : ∀ {i : Int}, (∃ r ∈ getStatus rates w, r.id = i) ↔ i ∈ w.streams := by
    intro i
    rw [getStatus, HashMap.mem_iff]
    simp [HashMap.mem_toPairs]
  refine ⟨?_, ?_, fun r hr => ?_, fun i hi => ?_, fun r hr outputs houtputs => ?_⟩
  · rw [listInputs_views, getStatus_views]
  · rw [listOutputs_views, getStatus, List.flatMap_map]
    exact List.flatMap_congr fun e _ => (outputResponses_views rates e.2 e.1 w.rt.clock).symm
  · obtain ⟨⟨i, info⟩, hi, rfl⟩ := List.mem_map.mp hr
    have hi := HashMap.mem_toPairs.mp hi
    refine ⟨_, by rw [getInput, hi], rfl, ?_, by rw [getInputOutputs, hi]⟩
    rw [outputResponses_views]
    exact outputDetails_views env w info i
  · have hnone : w.streams.lookup i = none := by
      refine AList.lookup_eq_none.mpr fun hmem => ?_
      obtain ⟨r, hr, hri⟩ := hid.mpr hmem
      exact hi r hr hri
    exact ⟨by rw [getInput, hnone], by rw [getInputOutputs, hnone]⟩
  · obtain ⟨⟨i, info⟩, hi, rfl⟩ := List.mem_map.mp hr
    have hi := HashMap.mem_toPairs.mp hi
    rw [getInputOutputs, hi] at houtputs
    obtain rfl := Except.ok.inj houtputs
    exact (countP_outputDetails fun k o ho => (hlive i info hi k o ho).status).symm

theorem views_agree_srtOutput : (listInputs (World.withOutput (srtOutputRequest 9000))).map
      (fun r => (r.id, r.outputCount)) = [(1, 1)] ∧
    ViewsAgree localEnv ⟨fun _ => none, fun _ _ => none⟩
      (World.withOutput (srtOutputRequest 9000)) :=
  ⟨by decide +kernel, views_agree reachable_srtOutput⟩

end StreamGateway
