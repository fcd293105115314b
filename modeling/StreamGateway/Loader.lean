import StreamGateway.Api

/-!
# Loading the stored streams

At startup the rows of the database become streams again. Inputs that are not program
filters come first, so that the filters find their sources, and the outputs come last,
input by input. A row that cannot be decoded ends the whole load with an error. A spawn
that fails leaves an entry in error or, for an output, no entry.
-/
namespace StreamGateway

open Prog

/-! ## Inputs -/

/-- The request of a row that is not a program filter, or nothing for an unknown kind. The
inner `none` is a deserialization error. -/
def baseRequest (row : InputRow) (srtName : Option String) : Option (Option CreateInputRequest) :=
  if row.kind = "udp" then some (row.configJson.read CreateInputRequest.ofFields)
  else if row.kind = "srt_listener" ∨ row.kind = "srt_caller" then
    some ((row.configJson.read SrtInputConfig.ofFields).map (.srt srtName))
  else none

/-- An entry without a task, with a channel of its own. -/
def openIdle (id : Int) (name : Option String) (status : StreamStatus)
    (config : CreateInputRequest) (errorMessage : Option String) (w : World) :
    InputInfo × World :=
  (idleInput id name status w.rt.nextChannel config none errorMessage,
    { w with rt := w.rt.openChannel })

/-- Spawns the input, or gives an entry in error. -/
def respawnInput (req : CreateInputRequest) (id : Int) (name : Option String)
    (failure : String) : Prog World InputInfo := do
  match ← spawnInput req id name with
  | .ok info => return info
  | .error e => atomic (openIdle id name .error req (some (failure ++ e.message)))

def loadBaseInput (id : Int) (row : InputRow) (req : CreateInputRequest) :
    Prog World InputInfo :=
  if row.status = "stopped" then atomic (openIdle id row.name .stopped req none)
  else respawnInput req id row.name "Failed to recreate input: "

/-- Phase 1. The name of the row goes into the configuration of a stopped SRT input only. -/
def loadBaseInputs (env : Env) : List (Int × InputRow) → HashMap Int InputInfo →
    Prog World (Except String (HashMap Int InputInfo))
  | [], loaded => return .ok loaded
  | (id, row) :: rest, loaded =>
    match baseRequest row (if row.status = "stopped" then row.name else none) with
    | none => loadBaseInputs env rest loaded
    | some none => return .error env.jsonError
    | some (some req) => do
      let info ← loadBaseInput id row req
      loadBaseInputs env rest (loaded.insert id info)

/-- The source that a request names must be in memory. -/
def missingSource (req : CreateInputRequest) (w : World) : Option Int × World :=
  match req with
  | .spts sourceInputId .. =>
    (if sourceInputId ∈ w.streams then none else some sourceInputId, w)
  | _ => (none, w)

def loadSptsInput (id : Int) (row : InputRow) (req : CreateInputRequest) :
    Prog World InputInfo := do
  if row.status = "stopped" then atomic (openIdle id row.name .stopped req none)
  else
    match ← locked .read (missingSource req) with
    | some sourceId =>
      atomic (openIdle id row.name .stopped req (some s!"Source input {sourceId} not found"))
    | none => respawnInput req id row.name "Failed to recreate SPTS input: "

/-- Phase 2. -/
def loadSptsInputs (env : Env) : List (Int × InputRow) → HashMap Int InputInfo →
    Prog World (Except String (HashMap Int InputInfo))
  | [], loaded => return .ok loaded
  | (id, row) :: rest, loaded =>
    match row.configJson.read CreateInputRequest.ofFields with
    | none => return .error env.jsonError
    | some req => do
      let info ← loadSptsInput id row req
      loadSptsInputs env rest (loaded.insert id info)

def insertInputs (loaded : HashMap Int InputInfo) (w : World) : Unit × World :=
  ((), { w with streams := w.streams.extend loaded })

/-! ## Outputs -/

/-- The stored request, read at the type of the inner configuration. -/
def storedSrtConfig (row : OutputRow) (fallback : SrtOutputConfig) : SrtOutputConfig :=
  (row.configJson.bind fun j => j.read SrtOutputConfig.ofFields).getD fallback

/-- The configuration of a stopped output, or nothing for an unknown kind. -/
def stoppedOutputConfig (inputId : Int) (row : OutputRow) : Option CreateOutputRequest :=
  let destination := row.destination.getD ""
  if row.kind = "udp" then
    some (.udp inputId none none none row.name none none none (some destination))
  else if row.kind = "srt_caller" then
    some (.srt inputId row.name (storedSrtConfig row
      (.caller none none .default none (some destination))))
  else if row.kind = "srt_listener" then
    some (.srt inputId row.name (storedSrtConfig row
      (.listener none none none .default (some (row.listenPort.getD 8000)))))
  else none

/-- The stored request, read at the type of the common settings. -/
def storedCommon (env : Env) (row : OutputRow) : Except String SrtCommonConfig :=
  match row.configJson with
  | none => .ok .default
  | some j =>
    match j.read SrtCommonConfig.ofFields with
    | none => .error env.jsonError
    | some common => .ok common

/-- A running output again. The result is nothing when the output is skipped or fails. -/
def recreateOutput (env : Env) (inputId : Int) (input : InputInfo) (id : Int) (row : OutputRow)
    (rt : Runtime) : Except String (Option (OutputInfo × Runtime)) :=
  let destination := row.destination.getD ""
  if row.kind = "udp" then
    if (parseSocketAddr destination).isSome then
      match createUdpOutput env destination input id row.name none none rt.stateChangeTx rt with
      | .ok r => .ok (some r)
      | .error _ => .ok none
    else .ok none
  else if row.kind = "srt_caller" then
    match storedCommon env row with
    | .error e => .error e
    | .ok common =>
      .ok (some (createSrtOutput inputId (.caller none none common none (some destination)) input
        id row.name rt.stateChangeTx rt))
  else if row.kind = "srt_listener" then
    match storedCommon env row, row.listenPort with
    | .error e, _ => .error e
    | .ok _, none => .error s!"Missing listen_port for SRT Listener output {id}"
    | .ok common, some port =>
      .ok (some (createSrtOutput inputId (.listener none none none common (some port)) input id
        row.name rt.stateChangeTx rt))
  else .ok none

def loadOutput (env : Env) (inputId : Int) (input : InputInfo) (id : Int) (row : OutputRow)
    (rt : Runtime) : Except String (InputInfo × Runtime) :=
  if row.status = "stopped" then
    match stoppedOutputConfig inputId row with
    | none => .ok (input, rt)
    | some config =>
      .ok ({ input with stoppedOutputs := input.stoppedOutputs.insert id config }, rt)
  else
    match recreateOutput env inputId input id row rt with
    | .error e => .error e
    | .ok none => .ok (input, rt)
    | .ok (some (outputInfo, rt)) =>
      .ok ({ input with outputTasks := input.outputTasks.insert id outputInfo }, rt)

/-- A task is that of a UDP output or of an SRT output. -/
theorem recreateOutput_some {env : Env} {inputId id : Int} {input : InputInfo} {row : OutputRow}
    {rt : Runtime} {r : OutputInfo × Runtime}
    (h : recreateOutput env inputId input id row rt = .ok (some r)) :
    createUdpOutput env (row.destination.getD "") input id row.name none none rt.stateChangeTx rt =
        .ok r ∨
      ∃ config, createSrtOutput inputId config input id row.name rt.stateChangeTx rt = r := by
  unfold recreateOutput at h
  dsimp only at h
  split at h
  · split at h
    · split at h
      · rename_i hr
        obtain rfl := Option.some.inj (Except.ok.inj h)
        exact .inl hr
      · exact absurd h (by simp)
    · exact absurd h (by simp)
  split at h
  · split at h
    · exact absurd h (by simp)
    · exact .inr ⟨_, Option.some.inj (Except.ok.inj h)⟩
  split at h
  · split at h
    · exact absurd h (by simp)
    · exact absurd h (by simp)
    · exact .inr ⟨_, Option.some.inj (Except.ok.inj h)⟩
  · exact absurd h (by simp)

/-- The input as it was, with a stopped output or with a running one. -/
inductive OutputLoaded (env : Env) (inputId : Int) (input : InputInfo) (id : Int)
    (row : OutputRow) (rt : Runtime) : InputInfo → Runtime → Prop
  | skipped : OutputLoaded env inputId input id row rt input rt
  | stopped {config : CreateOutputRequest} : stoppedOutputConfig inputId row = some config →
      OutputLoaded env inputId input id row rt
        { input with stoppedOutputs := input.stoppedOutputs.insert id config } rt
  | running {output : OutputInfo} {rt' : Runtime} :
      recreateOutput env inputId input id row rt = .ok (some (output, rt')) →
      OutputLoaded env inputId input id row rt
        { input with outputTasks := input.outputTasks.insert id output } rt'

theorem loadOutput_loaded {env : Env} {inputId id : Int} {input input' : InputInfo}
    {row : OutputRow} {rt rt' : Runtime}
    (h : loadOutput env inputId input id row rt = .ok (input', rt')) :
    OutputLoaded env inputId input id row rt input' rt' := by
  unfold loadOutput at h
  split at h
  · split at h
    · obtain ⟨rfl, rfl⟩ := Prod.mk.inj (Except.ok.inj h)
      exact .skipped
    · rename_i hconfig
      obtain ⟨rfl, rfl⟩ := Prod.mk.inj (Except.ok.inj h)
      exact .stopped hconfig
  · split at h
    · exact absurd h (by simp)
    · obtain ⟨rfl, rfl⟩ := Prod.mk.inj (Except.ok.inj h)
      exact .skipped
    · rename_i hr
      obtain ⟨rfl, rfl⟩ := Prod.mk.inj (Except.ok.inj h)
      exact .running hr

/-- The outputs of one input. What was loaded before an error stays. -/
def loadOutputs (env : Env) (inputId : Int) : List (Int × OutputRow) → InputInfo → Runtime →
    Except String Unit × InputInfo × Runtime
  | [], input, rt => (.ok (), input, rt)
  | (id, row) :: rest, input, rt =>
    match loadOutput env inputId input id row rt with
    | .error e => (.error e, input, rt)
    | .ok (input, rt) => loadOutputs env inputId rest input rt

/-- What each loaded output keeps, they all keep. -/
theorem loadOutputs_keeps {P : InputInfo → Runtime → Prop} {env : Env} {inputId : Int}
    {outputs : List (Int × OutputRow)} {input : InputInfo} {rt : Runtime}
    (hload : ∀ id row input rt input' rt', (id, row) ∈ outputs → P input rt →
      OutputLoaded env inputId input id row rt input' rt' → P input' rt') (h : P input rt) :
    P (loadOutputs env inputId outputs input rt).2.1
      (loadOutputs env inputId outputs input rt).2.2 := by
  induction outputs generalizing input rt with
  | nil => exact h
  | cons o outputs ih =>
    obtain ⟨id, row⟩ := o
    simp only [loadOutputs]
    split
    · exact h
    · rename_i input' rt' hr
      refine ih (fun id row input rt input' rt' hmem =>
        hload id row input rt input' rt' (List.mem_cons_of_mem _ hmem)) ?_
      exact hload id row input rt input' rt' List.mem_cons_self h (loadOutput_loaded hr)

def loadGroupSection (env : Env) (inputId : Int) (outputs : List (Int × OutputRow)) (w : World) :
    Except String Unit × World :=
  match w.streams.lookup inputId with
  | none => (.ok (), w)
  | some input =>
    let (result, input, rt) := loadOutputs env inputId outputs input w.rt
    (result, { w with streams := w.streams.insert inputId input, rt := rt })

/-- One guard for each input. -/
def loadGroups (env : Env) (outs : List (Int × OutputRow)) :
    List Int → Prog World (Except String Unit)
  | [] => return .ok ()
  | inputId :: rest => do
    let outputs := outs.filter fun o => o.2.inputId = inputId
    match ← locked .write (loadGroupSection env inputId outputs) with
    | .error e => return .error e
    | .ok () => loadGroups env outs rest

/-! ## The load -/

def loadFromDb (env : Env) : Prog World (Except String Unit) := do
  match ← atomic (getAllInputs env) with
  | .error e => return .error e
  | .ok rows =>
  match ← loadBaseInputs env (rows.filter fun r => r.2.kind ≠ "spts") ∅ with
  | .error e => return .error e
  | .ok loadedInputs =>
  locked .write (insertInputs loadedInputs)
  match ← loadSptsInputs env (rows.filter fun r => r.2.kind = "spts") ∅ with
  | .error e => return .error e
  | .ok sptsLoadedInputs =>
  match ← atomic (getAllOutputs env) with
  | .error e => return .error e
  | .ok outs =>
  locked .write (insertInputs sptsLoadedInputs)
  loadGroups env outs (outs.map fun o => o.2.inputId).dedup

end StreamGateway
