import StreamGateway.Deletions
import StreamGateway.OutputRecords

/-!
# Reading the outputs

Two endpoints read the outputs. The list walks both maps of every entry and takes the port of
an output from its configuration in memory. The detail looks for a running output only, and
takes the port from the configuration in the database. Both take the rest from memory.
-/
namespace StreamGateway

open Prog

/-! ## What a configuration shows -/

/-- Port 0 counts as none. -/
def SrtOutputConfig.extractAssignedPort : SrtOutputConfig → Option UInt16
  | .listener _ bindPort _ _ listenPort => (listenPort.or bindPort).filter (· ≠ 0)
  | .caller _ remotePort _ _ _ => remotePort.filter (· ≠ 0)

namespace CreateOutputRequest

def extractAssignedPort : CreateOutputRequest → Option UInt16
  | .udp _ _ remotePort .. => remotePort.filter (· ≠ 0)
  | .srt _ _ config => config.extractAssignedPort

def getExpectedBitrateKbps : CreateOutputRequest → Option UInt32
  | .udp .. => none
  | .srt _ _ config => config.common.expectedBitrateKbps

def getFecConfig : CreateOutputRequest → Option FecConfig
  | .udp .. => none
  | .srt _ _ config => config.common.fec

end CreateOutputRequest

def outputKindString : OutputKind → String
  | .udp => "udp"
  | .srtCaller => "srt_caller"
  | .srtListener => "srt_listener"

/-- Whole seconds. A time that is still to come gives none. -/
def calculateUptimeSeconds (connectedAt : Option ℕ) (now : ℕ) : Option ℕ :=
  (connectedAt.filter (· ≤ now)).map fun t => (now - t) / 1000

def calculateConnectionUptime (status : StreamStatus) (connectedAt : Option ℕ) (now : ℕ) :
    Option ℕ :=
  if status.isConnected then calculateUptimeSeconds connectedAt now else none

/-! ## The list -/

structure OutputListResponse where
  id : Int
  name : Option String
  inputId : Int
  inputName : Option String
  destination : String
  outputType : String
  status : String
  assignedPort : Option UInt16
  uptimeSeconds : Option ℕ
  peerAddress : Option String
  errorMessage : Option String
  config : Option Json
  expectedBitrateKbps : Option UInt32
  fecConfig : Option FecConfig

/-- What is copied under the guard. -/
inductive OutputSnapshotData
  | active (id : Int) (name : Option String) (inputId : Int) (inputName : Option String)
      (destination : String) (kind : OutputKind) (status : StreamStatus)
      (assignedPort : Option UInt16) (connectedAt : Option ℕ)
      (peerAddress errorMessage : Option String) (expectedBitrateKbps : Option UInt32)
      (fecConfig : Option FecConfig)
  | stopped (id : Int) (inputId : Int) (inputName : Option String)
      (config : CreateOutputRequest)

def InputInfo.outputsSnapshot (inputId : Int) (inputInfo : InputInfo) : List OutputSnapshotData :=
  (inputInfo.outputTasks.toPairs.map fun (outputId, outputInfo) =>
    .active outputId outputInfo.name inputId inputInfo.name outputInfo.destination
      outputInfo.kind outputInfo.status outputInfo.config.extractAssignedPort
      outputInfo.connectedAt outputInfo.peerAddress outputInfo.errorMessage
      outputInfo.config.getExpectedBitrateKbps outputInfo.config.getFecConfig) ++
  inputInfo.stoppedOutputs.toPairs.map fun (outputId, outputConfig) =>
    .stopped outputId inputId inputInfo.name outputConfig

/-- The destination and the type of a stopped output. -/
def stoppedDestination (config : CreateOutputRequest) : String × String :=
  match config with
  | .udp .. =>
    (hostPort (config.getRemoteHost.getD "127.0.0.1") (config.getRemotePort.getD 8000), "udp")
  | .srt _ _ srtConfig =>
    (srtDestination srtConfig,
      match srtConfig with
      | .caller .. => "srt_caller"
      | .listener .. => "srt_listener")

/-- The configuration of an active output is left out. -/
def OutputSnapshotData.response (now : ℕ) : OutputSnapshotData → OutputListResponse
  | active id name inputId inputName destination kind status assignedPort connectedAt
      peerAddress errorMessage expectedBitrateKbps fecConfig =>
    { id, name, inputId, inputName, destination
      outputType := outputKindString kind
      status := toString status
      assignedPort
      uptimeSeconds := calculateConnectionUptime status connectedAt now
      peerAddress, errorMessage
      config := none
      expectedBitrateKbps, fecConfig }
  | stopped id inputId inputName config =>
    { id
      name := config.name
      inputId, inputName
      destination := (stoppedDestination config).1
      outputType := (stoppedDestination config).2
      status := "stopped"
      assignedPort := config.extractAssignedPort
      uptimeSeconds := none
      peerAddress := none
      errorMessage := none
      config := some (.obj config.toFields)
      expectedBitrateKbps := config.getExpectedBitrateKbps
      fecConfig := config.getFecConfig }

/-- `GET /outputs`. -/
def listOutputs (w : World) : List OutputListResponse :=
  (w.streams.toPairs.flatMap fun (inputId, inputInfo) => inputInfo.outputsSnapshot inputId).map
    fun snapshotData => snapshotData.response w.rt.clock

/-! ## The detail -/

structure OutputDetailResponse where
  id : Int
  name : Option String
  inputId : Int
  destination : String
  outputType : String
  status : String
  assignedPort : Option UInt16
  config : Option Json
  uptimeSeconds : Option ℕ
  peerAddress : Option String
  errorMessage : Option String
  expectedBitrateKbps : Option UInt32
  fecConfig : Option FecConfig

/-- The configuration in the database, and the port that it gives. A query that fails and a row
that is missing give neither, and text that cannot be read gives no port. -/
def storedConfigAndPort (env : Env) (outputId : Int) (w : World) :
    Option Json × Option UInt16 :=
  match (getOutputById env outputId w).1 with
  | .ok (some dbOutput) =>
    (dbOutput.configJson, (dbOutput.configJson.bind fun configJson =>
      configJson.read CreateOutputRequest.ofFields).bind (·.extractAssignedPort))
  | _ => (none, none)

def OutputInfo.detail (outputInfo : OutputInfo) (outputId inputId : Int)
    (stored : Option Json × Option UInt16) (now : ℕ) : OutputDetailResponse where
  id := outputId
  name := outputInfo.name
  inputId := inputId
  destination := outputInfo.destination
  outputType := outputKindString outputInfo.kind
  status := toString outputInfo.status
  assignedPort := stored.2
  config := stored.1
  uptimeSeconds := calculateConnectionUptime outputInfo.status outputInfo.connectedAt now
  peerAddress := outputInfo.peerAddress
  errorMessage := outputInfo.errorMessage
  expectedBitrateKbps := outputInfo.config.getExpectedBitrateKbps
  fecConfig := outputInfo.config.getFecConfig

/-- The first entry with a running output of this id. -/
def findRunning (outputId : Int) (w : World) : Option (Int × OutputInfo) :=
  w.streams.toPairs.findSome? fun (inputId, inputInfo) =>
    (inputInfo.outputTasks.lookup outputId).map fun outputInfo => (inputId, outputInfo)

/-- `GET /outputs/{id}`. -/
def getOutput (env : Env) (outputId : Int) (w : World) : Except Response OutputDetailResponse :=
  match findRunning outputId w with
  | some (inputId, outputInfo) =>
    .ok (outputInfo.detail outputId inputId (storedConfigAndPort env outputId w) w.rt.clock)
  | none => .error (.notFound s!"Output con ID '{outputId}' no encontrado")

/-! ## Agreement -/

/-- The endpoints show the same outputs, and of each output the same. -/
structure ReadsAgree (env : Env) (w : World) : Prop where
  found : ∀ k, (∃ r ∈ listOutputs w, r.id = k) ↔ ∃ d, getOutput env k w = .ok d
  same : ∀ k d, getOutput env k w = .ok d → ∀ r ∈ listOutputs w, r.id = k →
    r.status = d.status ∧ r.destination = d.destination ∧ r.assignedPort = d.assignedPort

/-- Every input has the same outputs in memory and in the database. -/
def World.OutputsStored (w : World) : Prop :=
  ∀ i k, (∃ info, w.streams.lookup i = some info ∧ info.HasOutput k) ↔
    ∃ row, w.db.outputs.find k = some row ∧ row.inputId = i

/-- The field of an SRT output that has its port. A listener with both of its fields listens on
the newer one. -/
inductive SrtOutputConfig.NamesPort : SrtOutputConfig → UInt16 → Prop
  | listenPort {bindHost : Option String} {bindPort : Option UInt16}
      {automaticPort : Option Bool} {common : SrtCommonConfig} {port : UInt16} :
      NamesPort (.listener bindHost bindPort automaticPort common (some port)) port
  | bindPort {bindHost : Option String} {automaticPort : Option Bool}
      {common : SrtCommonConfig} {port : UInt16} :
      NamesPort (.listener bindHost (some port) automaticPort common none) port
  | remotePort {remoteHost : Option String} {common : SrtCommonConfig}
      {bindHost destinationAddr : Option String} {port : UInt16} :
      NamesPort (.caller remoteHost (some port) common bindHost destinationAddr) port

inductive CreateOutputRequest.NamesPort : CreateOutputRequest → UInt16 → Prop
  | udp {inputId : Int} {remoteHost : Option String} {automaticPort : Option Bool}
      {name bindHost : Option String} {multicastTtl : Option UInt8}
      {multicastInterface destinationAddr : Option String} {port : UInt16} :
      NamesPort (.udp inputId remoteHost (some port) automaticPort name bindHost multicastTtl
        multicastInterface destinationAddr) port
  | srt {inputId : Int} {name : Option String} {config : SrtOutputConfig} {port : UInt16} :
      config.NamesPort port → NamesPort (.srt inputId name config) port

/-- The row of the output can be read, and holds the request. -/
def World.Holds (env : Env) (w : World) (k : Int) (request : CreateOutputRequest) : Prop :=
  env.queryError .getOutputById = none ∧ ∃ row configJson, w.db.outputs.find k = some row ∧
    row.configJson = some configJson ∧
    configJson.read CreateOutputRequest.ofFields = some request

/-- No output of the entry is stopped, and the rows of the running ones name no port for UDP and
the port of memory for SRT. Port 0 counts as none. -/
structure InputInfo.ReadsAlike (env : Env) (w : World) (info : InputInfo) : Prop where
  stopped : info.stoppedOutputs.keys = []
  ports : ∀ k o, info.outputTasks.lookup k = some o → ∀ port, port ≠ 0 →
    ((∃ request, w.Holds env k request ∧ request.NamesPort port) ↔
      ∃ inputId name config, o.config = .srt inputId name config ∧ config.NamesPort port)

/-! ## The ports -/

theorem SrtOutputConfig.extractAssignedPort_eq_some {config : SrtOutputConfig} {port : UInt16} :
    config.extractAssignedPort = some port ↔ port ≠ 0 ∧ config.NamesPort port := by
  cases config with
  | listener bindHost bindPort automaticPort common listenPort =>
    rw [extractAssignedPort, Option.filter_eq_some_iff]
    constructor
    · rintro ⟨hport, hne⟩
      refine ⟨by simpa using hne, ?_⟩
      cases listenPort with
      | none =>
        obtain rfl : bindPort = some port := hport
        exact .bindPort
      | some listenPort =>
        obtain rfl : listenPort = port := Option.some.inj hport
        exact .listenPort
    · rintro ⟨hne, h⟩
      cases h with
      | listenPort => exact ⟨rfl, by simpa using hne⟩
      | bindPort => exact ⟨rfl, by simpa using hne⟩
  | caller remoteHost remotePort common bindHost destinationAddr =>
    rw [extractAssignedPort, Option.filter_eq_some_iff]
    constructor
    · rintro ⟨rfl, hne⟩
      exact ⟨by simpa using hne, .remotePort⟩
    · rintro ⟨hne, h⟩
      cases h
      exact ⟨rfl, by simpa using hne⟩

theorem CreateOutputRequest.extractAssignedPort_eq_some {request : CreateOutputRequest}
    {port : UInt16} :
    request.extractAssignedPort = some port ↔ port ≠ 0 ∧ request.NamesPort port := by
  cases request with
  | udp inputId remoteHost remotePort automaticPort name bindHost multicastTtl
      multicastInterface destinationAddr =>
    rw [extractAssignedPort, Option.filter_eq_some_iff]
    constructor
    · rintro ⟨rfl, hne⟩
      exact ⟨by simpa using hne, .udp⟩
    · rintro ⟨hne, h⟩
      cases h
      exact ⟨rfl, by simpa using hne⟩
  | srt inputId name config =>
    rw [extractAssignedPort, SrtOutputConfig.extractAssignedPort_eq_some]
    exact and_congr_right fun _ => ⟨.srt, fun h => by cases h; assumption⟩

theorem storedPort_eq_some {env : Env} {w : World} {k : Int} {port : UInt16} :
    (storedConfigAndPort env k w).2 = some port ↔
      port ≠ 0 ∧ ∃ request, w.Holds env k request ∧ request.NamesPort port := by
  have hstored : (storedConfigAndPort env k w).2 = some port ↔
      ∃ request, w.Holds env k request ∧ request.extractAssignedPort = some port := by
    unfold storedConfigAndPort World.Holds getOutputById select query
    cases env.queryError .getOutputById with
    | some e => simp
    | none =>
      cases hfind : w.db.outputs.find k with
      | none => simp [hfind]
      | some row => simp [hfind, Option.bind_eq_some_iff]
  rw [hstored]
  constructor
  · rintro ⟨request, hholds, hport⟩
    obtain ⟨hne, hnames⟩ := CreateOutputRequest.extractAssignedPort_eq_some.mp hport
    exact ⟨hne, request, hholds, hnames⟩
  · rintro ⟨hne, request, hholds, hnames⟩
    exact ⟨request, hholds, CreateOutputRequest.extractAssignedPort_eq_some.mpr ⟨hne, hnames⟩⟩

/-- The port that a running output shows in the list: none for UDP, whose configuration in
memory has the destination in the legacy form only. -/
def OutputInfo.listedPort (o : OutputInfo) : Option UInt16 :=
  match o.config with
  | .udp .. => none
  | .srt _ _ config => config.extractAssignedPort

theorem OutputInfo.listedPort_eq_some {o : OutputInfo} {port : UInt16} :
    o.listedPort = some port ↔ port ≠ 0 ∧
      ∃ inputId name config, o.config = .srt inputId name config ∧ config.NamesPort port := by
  unfold listedPort
  cases o.config with
  | udp => simp
  | srt inputId name config => simp [SrtOutputConfig.extractAssignedPort_eq_some]

theorem InputInfo.readsAlike_iff {env : Env} {w : World} {info : InputInfo} :
    info.ReadsAlike env w ↔ info.stoppedOutputs.keys = [] ∧
      ∀ o ∈ info.outputTasks.toPairs, (storedConfigAndPort env o.1 w).2 = o.2.listedPort := by
  constructor
  · intro h
    refine ⟨h.stopped, fun o ho => Option.ext fun port => ?_⟩
    rw [storedPort_eq_some, OutputInfo.listedPort_eq_some]
    exact and_congr_right fun hne => h.ports o.1 o.2 (HashMap.mem_toPairs.mp ho) port hne
  · rintro ⟨hstopped, hports⟩
    refine ⟨hstopped, fun k o ho port hne => ?_⟩
    have hport := hports (k, o) (HashMap.mem_toPairs.mpr ho)
    have hsome : (storedConfigAndPort env k w).2 = some port ↔ o.listedPort = some port := by
      rw [hport]
    rw [storedPort_eq_some, OutputInfo.listedPort_eq_some] at hsome
    exact (and_congr_right_iff.mp hsome) hne

instance (env : Env) (w : World) (info : InputInfo) : Decidable (info.ReadsAlike env w) :=
  decidable_of_iff' _ InputInfo.readsAlike_iff

theorem OutputInfo.Live.listedPort {o : OutputInfo} (h : o.Live) :
    o.config.extractAssignedPort = o.listedPort := by
  unfold OutputInfo.listedPort
  cases hc : o.config with
  | udp inputId remoteHost remotePort automaticPort name bindHost multicastTtl
      multicastInterface destinationAddr =>
    obtain rfl := h.remotePort _ _ _ _ _ _ _ _ _ hc
    rfl
  | srt => rfl

theorem toString_ne_stopped {status : StreamStatus} (h : status ≠ .stopped) :
    toString status ≠ "stopped" := by
  cases status with
  | stopped => exact absurd rfl h
  | _ => decide

section Agreement

variable {env : Env} {w : World}

theorem mem_listOutputs {r : OutputListResponse} :
    r ∈ listOutputs w ↔ ∃ i info, w.streams.lookup i = some info ∧
      ∃ s ∈ info.outputsSnapshot i, r = s.response w.rt.clock := by
  unfold listOutputs
  rw [List.mem_map]
  constructor
  · rintro ⟨s, hs, rfl⟩
    obtain ⟨⟨i, info⟩, hi, hs⟩ := List.mem_flatMap.mp hs
    exact ⟨i, info, HashMap.mem_toPairs.mp hi, s, hs, rfl⟩
  · rintro ⟨i, info, hi, s, hs, rfl⟩
    exact ⟨s, List.mem_flatMap.mpr ⟨(i, info), HashMap.mem_toPairs.mpr hi, hs⟩, rfl⟩

/-- A running output is in the list, with the port of its configuration in memory. -/
theorem running_listed {i k : Int} {info : InputInfo} {o : OutputInfo}
    (hi : w.streams.lookup i = some info) (ho : info.outputTasks.lookup k = some o) :
    ∃ r ∈ listOutputs w, r.id = k ∧ r.status = toString o.status ∧
      r.destination = o.destination ∧ r.assignedPort = o.config.extractAssignedPort := by
  have hs : OutputSnapshotData.active k o.name i info.name o.destination o.kind o.status
      o.config.extractAssignedPort o.connectedAt o.peerAddress o.errorMessage
      o.config.getExpectedBitrateKbps o.config.getFecConfig ∈ info.outputsSnapshot i :=
    List.mem_append_left _ (List.mem_map.mpr ⟨(k, o), HashMap.mem_toPairs.mpr ho, rfl⟩)
  exact ⟨_, mem_listOutputs.mpr ⟨i, info, hi, _, hs, rfl⟩, rfl, rfl, rfl, rfl⟩

/-- A stopped output is in the list, as stopped. -/
theorem stopped_listed {i k : Int} {info : InputInfo} {config : CreateOutputRequest}
    (hi : w.streams.lookup i = some info) (hc : info.stoppedOutputs.lookup k = some config) :
    ∃ r ∈ listOutputs w, r.id = k ∧ r.status = "stopped" := by
  have hs : OutputSnapshotData.stopped k i info.name config ∈ info.outputsSnapshot i :=
    List.mem_append_right _ (List.mem_map.mpr ⟨(k, config), HashMap.mem_toPairs.mpr hc, rfl⟩)
  exact ⟨_, mem_listOutputs.mpr ⟨i, info, hi, _, hs, rfl⟩, rfl, rfl⟩

/-- Without stopped outputs the list has the running ones only. -/
theorem listed_running (hstopped : ∀ i info, w.streams.lookup i = some info →
    info.stoppedOutputs = ∅) {r : OutputListResponse} (hr : r ∈ listOutputs w) :
    ∃ i info o, w.streams.lookup i = some info ∧ info.outputTasks.lookup r.id = some o ∧
      r.status = toString o.status ∧ r.destination = o.destination ∧
      r.assignedPort = o.config.extractAssignedPort := by
  obtain ⟨i, info, hi, s, hs, rfl⟩ := mem_listOutputs.mp hr
  rcases List.mem_append.mp hs with hs | hs
  · obtain ⟨⟨k, o⟩, ho, rfl⟩ := List.mem_map.mp hs
    exact ⟨i, info, o, hi, HashMap.mem_toPairs.mp ho, rfl, rfl, rfl⟩
  · rw [hstopped i info hi] at hs
    exact absurd hs (by simp [HashMap.toPairs])

theorem findRunning_some {i k : Int} {o : OutputInfo} (h : findRunning k w = some (i, o)) :
    ∃ info, w.streams.lookup i = some info ∧ info.outputTasks.lookup k = some o := by
  obtain ⟨⟨j, info⟩, hj, ho⟩ := List.exists_of_findSome?_eq_some h
  obtain ⟨o', ho', heq⟩ := Option.map_eq_some_iff.mp ho
  obtain ⟨rfl, rfl⟩ := Prod.mk.inj heq
  exact ⟨info, HashMap.mem_toPairs.mp hj, ho'⟩

theorem getOutput_ok {k : Int} {d : OutputDetailResponse} (h : getOutput env k w = .ok d) :
    ∃ i info o, w.streams.lookup i = some info ∧ info.outputTasks.lookup k = some o ∧
      d = o.detail k i (storedConfigAndPort env k w) w.rt.clock := by
  unfold getOutput at h
  split at h
  · rename_i i o hfind
    obtain ⟨info, hi, ho⟩ := findRunning_some hfind
    exact ⟨i, info, o, hi, ho, (Except.ok.inj h).symm⟩
  · exact absurd h (by simp)

/-- The entries that hold an output are one, so the detail is about that one. -/
theorem World.OutputsStored.getOutput_running (hw : w.OutputsStored) {i k : Int}
    {info : InputInfo} {o : OutputInfo} (hi : w.streams.lookup i = some info)
    (ho : info.outputTasks.lookup k = some o) :
    getOutput env k w = .ok (o.detail k i (storedConfigAndPort env k w) w.rt.clock) := by
  have hfind : findRunning k w = some (i, o) := by
    cases hf : findRunning k w with
    | none =>
      have hnone := List.findSome?_eq_none_iff.mp hf (i, info) (HashMap.mem_toPairs.mpr hi)
      simp [ho] at hnone
    | some found =>
      obtain ⟨j, o'⟩ := found
      obtain ⟨info', hj, ho'⟩ := findRunning_some hf
      obtain ⟨row, hrow, hrowi⟩ := (hw i k).mp ⟨info, hi, hasOutput_of_running ho⟩
      obtain ⟨row', hrow', hrowj⟩ := (hw j k).mp ⟨info', hj, hasOutput_of_running ho'⟩
      obtain rfl := Option.some.inj (hrow.symm.trans hrow')
      obtain rfl : i = j := hrowi.symm.trans hrowj
      obtain rfl := Option.some.inj (hi.symm.trans hj)
      obtain rfl := Option.some.inj (ho.symm.trans ho')
      rfl
  rw [getOutput, hfind]

end Agreement

/-- In a state in which memory and database have the same outputs, the endpoints agree if and
only if no output is stopped, no row of a UDP output names a port, and those of the SRT outputs
name the ports of memory. -/
theorem readsAgree_iff {env : Env} {w : World} (h : Reachable w) (hw : w.OutputsStored) :
    ReadsAgree env w ↔ ∀ e ∈ w.streams.toPairs, e.2.ReadsAlike env w := by
  have hlive := (reachable_outputsLive h).records
  constructor
  · intro hagree e he
    obtain ⟨i, info⟩ := e
    have hi := HashMap.mem_toPairs.mp he
    refine InputInfo.readsAlike_iff.mpr ⟨?_, fun o ho => ?_⟩
    · by_contra hne
      obtain ⟨k, hk⟩ := List.exists_mem_of_ne_nil _ hne
      obtain ⟨config, hc⟩ := HashMap.mem_iff.mp (AList.mem_keys.mpr hk)
      obtain ⟨r, hr, hrk, hstatus⟩ := stopped_listed hi hc
      obtain ⟨d, hd⟩ := (hagree.found k).mp ⟨r, hr, hrk⟩
      obtain ⟨j, info', o, hj, ho, rfl⟩ := getOutput_ok hd
      have hshown := (hagree.same k _ hd r hr hrk).1
      rw [hstatus] at hshown
      exact toString_ne_stopped (hlive j info' hj k o ho).status hshown.symm
    · obtain ⟨k, o⟩ := o
      have ho' := HashMap.mem_toPairs.mp ho
      obtain ⟨r, hr, hrk, _, _, hport⟩ := running_listed hi ho'
      have hshown := (hagree.same k _ (hw.getOutput_running hi ho') r hr hrk).2.2
      rw [hport, (hlive i info hi k o ho').listedPort] at hshown
      exact hshown.symm
  · intro halike
    have hstopped : ∀ i info, w.streams.lookup i = some info → info.stoppedOutputs = ∅ := by
      intro i info hi
      have hnil := (halike (i, info) (HashMap.mem_toPairs.mpr hi)).stopped
      refine HashMap.eq_empty fun k config hc => ?_
      have hk := AList.mem_keys.mp (HashMap.mem_iff.mpr ⟨_, hc⟩)
      rw [hnil] at hk
      exact absurd hk List.not_mem_nil
    refine ⟨fun k => ⟨?_, ?_⟩, fun k d hd r hr hrk => ?_⟩
    · rintro ⟨r, hr, rfl⟩
      obtain ⟨i, info, o, hi, ho, _⟩ := listed_running hstopped hr
      exact ⟨_, hw.getOutput_running hi ho⟩
    · rintro ⟨d, hd⟩
      obtain ⟨i, info, o, hi, ho, _⟩ := getOutput_ok hd
      obtain ⟨r, hr, hrk, _⟩ := running_listed hi ho
      exact ⟨r, hr, hrk⟩
    · subst hrk
      obtain ⟨i, info, o, hi, ho, hstatus, hdest, hport⟩ := listed_running hstopped hr
      obtain rfl := Except.ok.inj (hd.symm.trans (hw.getOutput_running hi ho))
      refine ⟨hstatus, hdest, ?_⟩
      rw [hport, (hlive i info hi _ o ho).listedPort]
      have hports := (InputInfo.readsAlike_iff.mp (halike (i, info) (HashMap.mem_toPairs.mpr hi))).2
      exact (hports _ (HashMap.mem_toPairs.mpr ho)).symm

/-! ## Two outputs -/

/-- The inputs and outputs of memory and of the rows. -/
def World.outputPairs (w : World) : List (Int × Int) × List (Int × Int) :=
  (w.streams.toPairs.flatMap fun e =>
      (e.2.outputTasks.keys ++ e.2.stoppedOutputs.keys).map fun k => (e.1, k),
    w.db.outputs.rows.map fun r => (r.2.inputId, r.1))

theorem outputsStored_of_pairs {w : World} (h : w.outputPairs.1 = w.outputPairs.2) :
    w.OutputsStored := by
  intro i k
  have hmemory : (∃ info, w.streams.lookup i = some info ∧ info.HasOutput k) ↔
      (i, k) ∈ w.outputPairs.1 := by
    simp only [World.outputPairs, List.mem_flatMap, List.mem_map, List.mem_append, Prod.exists,
      HashMap.mem_toPairs, Prod.mk.injEq, AList.mem_keys.symm, InputInfo.HasOutput]
    constructor
    · rintro ⟨info, hi, hk⟩
      exact ⟨i, info, hi, k, hk, rfl, rfl⟩
    · rintro ⟨j, info, hi, k', hk, rfl, rfl⟩
      exact ⟨info, hi, hk⟩
  have hrows : (∃ row, w.db.outputs.find k = some row ∧ row.inputId = i) ↔
      (i, k) ∈ w.outputPairs.2 := by
    simp only [World.outputPairs, List.mem_map, Prod.exists, Prod.mk.injEq, Table.find_eq_some]
    constructor
    · rintro ⟨row, hrow, rfl⟩
      exact ⟨k, row, hrow, rfl, rfl⟩
    · rintro ⟨k', row, hrow, hi, rfl⟩
      exact ⟨row, hrow, hi⟩
  rw [hmemory, hrows, h]

/-- An SRT listener on the given port as an output of the first input. -/
def srtOutputRequest (port : UInt16) : CreateOutputRequest :=
  .srt 1 none (.listener none (some port) none .default none)

/-- A UDP input with an output. -/
def World.withOutput (req : CreateOutputRequest) : World :=
  runningWorld.after ((Operation.createOutput req).prog localEnv)

theorem reachable_srtOutput : Reachable (World.withOutput (srtOutputRequest 9000)) :=
  (rests_runningWorld.after (.createOutput (srtOutputRequest 9000)) (by decide +kernel)).reachable

theorem srtOutput_readsAgree : ReadsAgree localEnv (World.withOutput (srtOutputRequest 9000)) :=
  (readsAgree_iff reachable_srtOutput (outputsStored_of_pairs (by decide +kernel))).mpr
    (by decide +kernel)

/-- The port of a UDP output is in its row and not in memory. -/
theorem udpOutput_reads_differ :
    ¬ ∀ env w, Reachable w → w.OutputsStored → ReadsAgree env w := by
  intro h
  have hreach : Reachable (World.withOutput (udpOutputRequest "127.0.0.1")) :=
    (rests_runningWorld.after (.createOutput (udpOutputRequest "127.0.0.1"))
      (by decide +kernel)).reachable
  have hagree := h localEnv _ hreach (outputsStored_of_pairs (by decide +kernel))
  have hlist : (listOutputs (.withOutput (udpOutputRequest "127.0.0.1"))).map
      (fun r => (r.id, r.assignedPort)) = [(1, none)] := by
    decide +kernel
  have hdetail : (getOutput localEnv 1 (.withOutput (udpOutputRequest "127.0.0.1"))).toOption.map
      (·.assignedPort) = some (some 9000) := by
    decide +kernel
  obtain ⟨r, hr, hrk⟩ := List.mem_map.mp (hlist.symm ▸ List.mem_singleton_self (1, none))
  obtain ⟨hid, hnone⟩ := Prod.mk.inj hrk
  obtain ⟨d, hd, hport⟩ := Option.map_eq_some_iff.mp hdetail
  cases hget : getOutput localEnv 1 (.withOutput (udpOutputRequest "127.0.0.1")) with
  | error e =>
    rw [hget] at hd
    exact absurd hd (by simp [Except.toOption])
  | ok d' =>
    rw [hget] at hd
    obtain rfl := Option.some.inj hd
    have hsame := (hagree.same 1 _ hget r hr hid).2.2
    rw [hport, hnone] at hsame
    exact absurd hsame (by simp)

end StreamGateway
