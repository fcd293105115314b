import StreamGateway.OutputRoundTrips
import StreamGateway.UpdateFailures

/-!
# One destination

The row of an output, its entry, its socket and an update each put the destination together
from the same optional fields, with defaults of their own. A destination without a host, as
listeners have it, stands for the unspecified address.
-/
namespace StreamGateway

/-! ## Addresses -/

def namedHost (host : String) : String := if host = "" then "0.0.0.0" else host

/-- The address is of this host and port. -/
def Denotes (addr host : String) (port : UInt16) : Prop :=
  ∃ h, addr = hostPort h port ∧ namedHost h = host

theorem denotes_hostPort {h host : String} {p port : UInt16} :
    Denotes (hostPort h p) host port ↔ namedHost h = host ∧ p = port := by
  constructor
  · rintro ⟨h', heq, rfl⟩
    obtain ⟨rfl, rfl⟩ := hostPort_inj.mp heq
    exact ⟨rfl, rfl⟩
  · rintro ⟨rfl, rfl⟩
    exact ⟨h, rfl, rfl⟩

theorem colon_port (port : UInt16) : ":" ++ toString port = hostPort "" port := by
  simp [hostPort]

/-- The address that `get_socket` connects to or listens on. -/
def SrtOutputConfig.socketAddr (config : SrtOutputConfig) : String :=
  match config with
  | .caller .. =>
    hostPort (config.getRemoteHost.getD "127.0.0.1") (config.getRemotePort.getD 8000)
  | .listener .. =>
    hostPort (config.getBindHost.getD "0.0.0.0") (config.getBindPort.getD 8000)

/-- The task of an output works with the address. A UDP sender has what it was resolved to. -/
def TaskSpec.WorksWith (env : Env) : TaskSpec → String → Prop
  | .udpOutput _ _ _ destAddr _ _ _, addr => resolve env addr = .ok destAddr
  | .srtOutput _ _ _ config _ _, addr => addr = config.socketAddr
  | _, _ => False

/-! ## Updates without an endpoint -/

/-- The destination after an update that names no host and no port. -/
def CreateOutputRequest.keptDestination : CreateOutputRequest → String
  | .udp _ remoteHost remotePort .. =>
    hostPort ((preferHost remoteHost none).getD "127.0.0.1")
      ((preferPort remotePort none).getD 8000)
  | .srt _ _ (.caller remoteHost remotePort ..) =>
    hostPort ((preferHost remoteHost none).getD "unknown") ((preferPort remotePort none).getD 0)
  | .srt _ _ (.listener _ bindPort ..) => hostPort "" (bindPort.getD 0)

theorem updatedDestination_merged {current merged : CreateOutputRequest}
    {update : UpdateOutputRequest} (h : mergeOutputConfig current update = .ok merged)
    (hnone : (UpdateRequest.output update).endpoint = ⟨none, none⟩) :
    (updatedDestination merged).1 = current.keptDestination := by
  unfold mergeOutputConfig at h
  split at h
  · obtain rfl := Except.ok.inj h
    obtain ⟨rfl, rfl⟩ := Endpoint.mk.inj hnone
    rfl
  · split at h
    · obtain rfl := Except.ok.inj h
      obtain ⟨rfl, rfl⟩ := Endpoint.mk.inj hnone
      exact colon_port _
    · obtain rfl := Except.ok.inj h
      obtain ⟨rfl, rfl⟩ := Endpoint.mk.inj hnone
      rfl
    · exact absurd h (by simp)
  · exact absurd h (by simp)

/-- An update that names nothing at all. -/
def CreateOutputRequest.bareUpdate : CreateOutputRequest → UpdateOutputRequest
  | .udp .. => .udp none none none none none none
  | .srt _ _ (.caller ..) => .srt none (.caller none none none ⟨none, none, none, none, none⟩)
  | .srt _ _ (.listener ..) => .srt none (.listener none none ⟨none, none, none, none, none⟩)

theorem bareUpdate_endpoint (current : CreateOutputRequest) :
    (UpdateRequest.output current.bareUpdate).endpoint = ⟨none, none⟩ := by
  cases current with
  | udp => rfl
  | srt inputId name config => cases config <;> rfl

/-- It is accepted where the request was. -/
theorem bareUpdate_merges (env : Env) {current : CreateOutputRequest}
    (h : validateOutput env current = .ok ()) :
    ∃ merged, mergeOutputConfig current current.bareUpdate = .ok merged ∧
      validateOutput env merged = .ok () := by
  cases current with
  | udp => exact ⟨_, rfl, h⟩
  | srt inputId name config => cases config <;> exact ⟨_, rfl, h⟩

/-! ## The endpoints of a request -/

/-- For UDP, the new fields give the effective host and port, or the defaults do. An SRT caller
has a host and a port, and a listener has a port and no bind host of its own, and they are
those that an update keeps. -/
def CreateOutputRequest.OneEndpoint : CreateOutputRequest → Prop
  | .udp _ remoteHost remotePort _ _ _ _ _ destinationAddr =>
    (preferHost remoteHost destinationAddr).getD "127.0.0.1" =
        (preferHost remoteHost none).getD "127.0.0.1" ∧
      (preferPort remotePort destinationAddr).getD 8000 = (preferPort remotePort none).getD 8000
  | .srt _ _ (.caller remoteHost remotePort _ _ destinationAddr) =>
    preferHost remoteHost destinationAddr = some ((preferHost remoteHost none).getD "unknown") ∧
      preferPort remotePort destinationAddr = some ((preferPort remotePort none).getD 0)
  | .srt _ _ (.listener bindHost bindPort _ _ listenPort) =>
    namedHost (bindHost.getD "0.0.0.0") = "0.0.0.0" ∧
      listenPort.or bindPort = some (bindPort.getD 0)

/-- The destination that the API shows. -/
def CreateOutputRequest.shownDestination : CreateOutputRequest → String
  | .srt _ _ config => srtDestination config
  | req => (outputDestination req).1

/-- The address that the task gets. -/
def CreateOutputRequest.senderAddr : CreateOutputRequest → String
  | .srt _ _ config => config.socketAddr
  | req => (outputDestination req).1

/-- The four addresses are of one host and port. -/
structure CreateOutputRequest.Agrees (req : CreateOutputRequest) (host : String)
    (port : UInt16) : Prop where
  stored : Denotes (outputDestination req).1 host port
  shown : Denotes req.shownDestination host port
  sent : Denotes req.senderAddr host port
  kept : Denotes req.keptDestination host port

/-- The host of the new field is not empty. -/
theorem namedHost_newField (remoteHost : Option String) {default : String}
    (h : default ≠ "") :
    namedHost ((preferHost remoteHost none).getD default) =
      (preferHost remoteHost none).getD default := by
  cases remoteHost with
  | none => simp [preferHost, namedHost, h]
  | some host =>
    by_cases hhost : host = ""
    · simp [preferHost, namedHost, hhost, h]
    · simp [preferHost, namedHost, hhost]

theorem namedHost_eq {h host : String} (hempty : host ≠ "") (hlocal : host ≠ "0.0.0.0") :
    namedHost h = host ↔ h = host := by
  unfold namedHost
  split
  · rename_i heq
    rw [heq]
    exact iff_of_false (Ne.symm hlocal) (Ne.symm hempty)
  · rfl

/-- Only a legacy host can be empty, and then it is not the default. -/
theorem namedHost_effective (remoteHost legacyAddr : Option String) {default : String}
    (hempty : default ≠ "") (hlocal : default ≠ "0.0.0.0") :
    namedHost ((preferHost remoteHost legacyAddr).getD default) =
        (preferHost remoteHost none).getD default ↔
      (preferHost remoteHost legacyAddr).getD default =
        (preferHost remoteHost none).getD default := by
  cases remoteHost with
  | some host =>
    have hsame : preferHost (some host) legacyAddr = preferHost (some host) none := rfl
    rw [hsame, namedHost_newField _ hempty]
  | none => exact namedHost_eq hempty hlocal

theorem agrees_udp {inputId : Int} {remoteHost : Option String} {remotePort : Option UInt16}
    {automaticPort : Option Bool} {name bindHost : Option String} {multicastTtl : Option UInt8}
    {multicastInterface destinationAddr : Option String} :
    (∃ host port, CreateOutputRequest.Agrees (.udp inputId remoteHost remotePort automaticPort
        name bindHost multicastTtl multicastInterface destinationAddr) host port) ↔
      CreateOutputRequest.OneEndpoint (.udp inputId remoteHost remotePort automaticPort name
        bindHost multicastTtl multicastInterface destinationAddr) := by
  have hnew := @namedHost_newField remoteHost "127.0.0.1" (by decide)
  have hiff := @namedHost_effective remoteHost destinationAddr "127.0.0.1" (by decide)
    (by decide)
  constructor
  · rintro ⟨host, port, hstored, _, _, hkept⟩
    obtain ⟨rfl, rfl⟩ := denotes_hostPort.mp hstored
    obtain ⟨hhost, hport⟩ := denotes_hostPort.mp hkept
    rw [hnew] at hhost
    exact ⟨hiff.mp hhost.symm, hport.symm⟩
  · rintro ⟨hhost, hport⟩
    have hstored := denotes_hostPort.mpr ⟨hiff.mpr hhost, hport⟩
    exact ⟨_, _, hstored, hstored, hstored, denotes_hostPort.mpr ⟨hnew, rfl⟩⟩

theorem agrees_caller {inputId : Int} {name remoteHost : Option String}
    {remotePort : Option UInt16} {common : SrtCommonConfig}
    {bindHost destinationAddr : Option String} :
    (∃ host port, CreateOutputRequest.Agrees (.srt inputId name
        (.caller remoteHost remotePort common bindHost destinationAddr)) host port) ↔
      CreateOutputRequest.OneEndpoint (.srt inputId name
        (.caller remoteHost remotePort common bindHost destinationAddr)) := by
  have hnew := @namedHost_newField remoteHost "unknown" (by decide)
  have hiff := @namedHost_effective remoteHost destinationAddr "unknown" (by decide) (by decide)
  constructor
  · rintro ⟨host, port, hstored, hshown, _, hkept⟩
    obtain ⟨hhost, hport⟩ := denotes_hostPort.mp hstored
    obtain ⟨hhost', hport'⟩ := denotes_hostPort.mp hshown
    obtain ⟨hhost'', hport''⟩ := denotes_hostPort.mp hkept
    simp only [SrtOutputConfig.getRemoteHost, SrtOutputConfig.getRemotePort,
      CreateOutputRequest.getRemoteHost, CreateOutputRequest.getRemotePort]
      at hhost hhost' hport hport'
    have hsame := hiff.mp (hhost'.trans (hhost''.symm.trans hnew))
    constructor
    · cases heffective : preferHost remoteHost destinationAddr with
      | none =>
        rw [heffective] at hhost hhost'
        exact absurd (hhost.trans hhost'.symm) (by decide)
      | some h =>
        rw [heffective] at hsame
        exact congrArg some hsame
    · cases heffective : preferPort remotePort destinationAddr with
      | none =>
        rw [heffective] at hport hport'
        exact absurd (hport.trans hport'.symm) (by decide)
      | some p =>
        rw [heffective] at hport'
        exact congrArg some (hport'.trans hport''.symm)
  · rintro ⟨hhost, hport⟩
    refine ⟨(preferHost remoteHost none).getD "unknown", (preferPort remotePort none).getD 0,
      ?_, ?_, ?_, denotes_hostPort.mpr ⟨hnew, rfl⟩⟩
    all_goals
      refine denotes_hostPort.mpr ?_
      simp only [SrtOutputConfig.getRemoteHost, SrtOutputConfig.getRemotePort,
        CreateOutputRequest.getRemoteHost, CreateOutputRequest.getRemotePort, hhost, hport,
        Option.getD_some]
      exact ⟨hnew, trivial⟩

theorem agrees_listener {inputId : Int} {name bindHost : Option String}
    {bindPort : Option UInt16} {automaticPort : Option Bool} {common : SrtCommonConfig}
    {listenPort : Option UInt16} :
    (∃ host port, CreateOutputRequest.Agrees (.srt inputId name
        (.listener bindHost bindPort automaticPort common listenPort)) host port) ↔
      CreateOutputRequest.OneEndpoint (.srt inputId name
        (.listener bindHost bindPort automaticPort common listenPort)) := by
  constructor
  · rintro ⟨host, port, hstored, hshown, hsent, hkept⟩
    simp only [outputDestination, colon_port] at hstored
    simp only [CreateOutputRequest.shownDestination, srtDestination, colon_port] at hshown
    obtain ⟨rfl, hport⟩ := denotes_hostPort.mp hstored
    obtain ⟨_, hport'⟩ := denotes_hostPort.mp hshown
    obtain ⟨hhost, _⟩ := denotes_hostPort.mp hsent
    obtain ⟨_, hport''⟩ := denotes_hostPort.mp hkept
    refine ⟨hhost, ?_⟩
    simp only [SrtOutputConfig.getBindPort] at hport hport'
    cases heffective : listenPort.or bindPort with
    | none =>
      rw [heffective] at hport hport'
      exact absurd (hport.trans hport'.symm) (by decide)
    | some p =>
      rw [heffective] at hport'
      exact congrArg some (hport'.trans hport''.symm)
  · rintro ⟨hhost, hport⟩
    refine ⟨"0.0.0.0", bindPort.getD 0, ?_, ?_, ?_, denotes_hostPort.mpr ⟨rfl, rfl⟩⟩
    · simp only [outputDestination, colon_port, SrtOutputConfig.getBindPort, hport]
      exact denotes_hostPort.mpr ⟨rfl, rfl⟩
    · simp only [CreateOutputRequest.shownDestination, srtDestination, colon_port,
        SrtOutputConfig.getBindPort, hport]
      exact denotes_hostPort.mpr ⟨rfl, rfl⟩
    · simp only [CreateOutputRequest.senderAddr, SrtOutputConfig.socketAddr,
        SrtOutputConfig.getBindPort, SrtOutputConfig.getBindHost, hport]
      exact denotes_hostPort.mpr ⟨hhost, rfl⟩

theorem agrees_iff (req : CreateOutputRequest) :
    (∃ host port, req.Agrees host port) ↔ req.OneEndpoint := by
  cases req with
  | udp => exact agrees_udp
  | srt inputId name config =>
    cases config with
    | caller => exact agrees_caller
    | listener => exact agrees_listener

/-! ## The created output -/

def World.storedDestination (w : World) (k : Int) : Option String :=
  (w.db.outputs.find k).bind OutputRow.destination

/-- The row, the entry and the task have one host and port, and an update that names none
stores them again. -/
structure OneDestination (env : Env) (w : World) (i k : Int) (host : String) (port : UInt16) :
    Prop where
  stored : ∃ addr, w.storedDestination k = some addr ∧ Denotes addr host port
  running : ∃ o task addr, w.runningOutput i k = some o ∧ Denotes o.destination host port ∧
    o.abortHandle = some task ∧ task.spec.WorksWith env addr ∧ Denotes addr host port
  updated : ∀ env' update response held w',
    (UpdateRequest.output update).endpoint = ⟨none, none⟩ →
    (updateOutput env' k update).alone false w = some (response, held, w') →
    ∃ addr, w'.storedDestination k = some addr ∧ Denotes addr host port

section Created

variable {env : Env} {w w' : World} {i k : Int} {stored merged : CreateOutputRequest}
  {update : UpdateOutputRequest} {held : Bool} {response : Response} {output : OutputInfo}

theorem spawnOutput_addr {input : InputInfo} {rt rt' : Runtime}
    (h : spawnOutput env stored input i k (outputDestination stored).1 rt =
      .ok (output, rt')) :
    output.destination = stored.shownDestination ∧ ∃ task, output.abortHandle = some task ∧
      task.spec.WorksWith env stored.senderAddr ∧ ∀ addr host port,
        task.spec.WorksWith env addr → Denotes addr host port →
        Denotes (outputDestination stored).1 host port → Denotes stored.senderAddr host port := by
  cases stored with
  | udp =>
    obtain ⟨addr, hresolve, rfl, _⟩ := createUdpOutput_ok h
    exact ⟨rfl, _, rfl, hresolve, fun _ _ _ _ _ hstored => hstored⟩
  | srt _ name config =>
    obtain ⟨rfl, rfl⟩ := Prod.mk.inj (Except.ok.inj h)
    refine ⟨rfl, _, rfl, rfl, fun addr host port haddr hdenotes _ => ?_⟩
    obtain rfl : addr = config.socketAddr := haddr
    exact hdenotes

/-- An update that is refused leaves the destination, and else it stores its own. -/
theorem updateOutput_storedDestination
    (h : (updateOutput env k update).alone false w = some (response, held, w')) :
    (w'.storedDestination k = w.storedDestination k ∧
      ∀ inputId merged, ¬ MergesOutput env k update w inputId merged) ∨
    ∃ inputId merged, MergesOutput env k update w inputId merged ∧
      w'.storedDestination k = some (updatedDestination merged).1 := by
  have hwritten : ∀ {inputId merged}, MergesOutput env k update w inputId merged →
      (w'.db.outputs.find k).map OutputRow.destination =
        ((w.withOutputRow k merged).db.outputs.find k).map OutputRow.destination →
      w'.storedDestination k = some (updatedDestination merged).1 := by
    intro inputId merged hmerges hrow
    obtain ⟨row, hfind, _⟩ := (storedOutput_spec env k update w).2 _ _ hmerges.stored
    rw [World.withOutputRow, Table.find_update, if_pos rfl, hfind, Option.map_some,
      Option.map_some] at hrow
    obtain ⟨row', hfind', hdestination⟩ := Option.map_eq_some_iff.mp hrow
    rw [World.storedDestination, hfind', Option.bind_some, hdestination]
    rfl
  cases updateOutput_outcome h with
  | refused _ hnone => exact .inl ⟨rfl, hnone⟩
  | notStarted inputId merged _ hmerges _ hdb _ =>
    exact .inr ⟨inputId, merged, hmerges, hwritten hmerges (by rw [hdb])⟩
  | started inputId merged _ hmerges _ hrow =>
    exact .inr ⟨inputId, merged, hmerges, hwritten hmerges hrow⟩

theorem currentOutputConfig_row (env : Env) (stored : CreateOutputRequest) (inputId : Int) :
    currentOutputConfig env (stored.row inputId) = .ok stored := by
  have hread : (Json.obj stored.toFields).read CreateOutputRequest.ofFields = some stored :=
    CreateOutputRequest.ofFields_toFields stored
  simp only [currentOutputConfig, CreateOutputRequest.row, hread]

theorem MergesOutput.merge_eq {inputId : Int} (h : MergesOutput env k update w inputId merged)
    (hrow : w.db.outputs.find k = some (stored.row i)) :
    mergeOutputConfig stored update = .ok merged := by
  obtain ⟨row, hfind, _, hmerged⟩ := (storedOutput_spec env k update w).2 _ _ h.stored
  obtain rfl := Option.some.inj (hrow.symm.trans hfind)
  unfold mergedOutput at hmerged
  rw [currentOutputConfig_row] at hmerged
  dsimp only at hmerged
  split at hmerged
  · exact absurd hmerged (by simp)
  · split at hmerged
    · exact absurd hmerged (by simp)
    · rename_i hm _ _
      rw [hm, Except.ok.inj hmerged]

theorem mergesOutput_of_merge (hqueries : ∀ q, env.queryError q = none)
    (hrow : w.db.outputs.find k = some (stored.row i))
    (hmerge : mergeOutputConfig stored update = .ok merged)
    (hvalid : validateOutput env merged = .ok ()) : MergesOutput env k update w i merged := by
  refine ⟨?_, hqueries _⟩
  have hmerged : mergedOutput env update (stored.row i) = .ok merged := by
    unfold mergedOutput
    rw [currentOutputConfig_row]
    simp only [hmerge, hvalid]
  simp only [storedOutput, getOutputById, select, query, hqueries, hrow, hmerged, Except.map]
  rfl

theorem validateOutput_withAssignedPort (env : Env) (req : CreateOutputRequest)
    (port : UInt16) : validateOutput env (req.withAssignedPort port) = validateOutput env req := by
  cases req with
  | udp => rfl
  | srt inputId name config => cases config <;> rfl

theorem Stores.validStored {req : CreateOutputRequest} (h : Stores env w req stored) :
    validateOutput env stored = .ok () := by
  rcases h.request with rfl | ⟨port, rfl⟩
  · exact h.valid
  · exact (validateOutput_withAssignedPort env req port).trans h.valid

/-- An update that names nothing stores the destination that is kept. -/
theorem bareUpdate_storedDestination (hrow : w.db.outputs.find k = some (stored.row i))
    (hvalid : validateOutput env stored = .ok ()) :
    ∃ env' response held w',
      (updateOutput env' k stored.bareUpdate).alone false w = some (response, held, w') ∧
      w'.storedDestination k = some stored.keptDestination := by
  obtain ⟨merged, hmerge, hmerged⟩ := bareUpdate_merges env hvalid
  let env' : Env := { env with queryError := fun _ => none }
  have hmerges : MergesOutput env' k stored.bareUpdate w i merged :=
    mergesOutput_of_merge (fun _ => rfl) hrow hmerge hmerged
  obtain ⟨response, w', hr⟩ := ends_updateOutput env' k stored.bareUpdate w
  refine ⟨env', response, false, w', hr, ?_⟩
  rcases updateOutput_storedDestination hr with ⟨_, hnone⟩ | ⟨inputId, merged', hmerges', hs⟩
  · exact absurd hmerges (hnone i merged)
  · rw [hs, updatedDestination_merged (hmerges'.merge_eq hrow) (bareUpdate_endpoint stored)]

end Created

/-- A created output has one destination everywhere if and only if its stored request has one
endpoint. -/
theorem oneDestination_iff {env : Env} {req : CreateOutputRequest} {w w₁ : World} {held : Bool}
    {response : Response} (hw : Reachable w)
    (h : (createOutput env req).alone false w = some (response, held, w₁))
    (hs : response.status = 201) :
    (∃ host port, OneDestination env w₁ req.inputId (w.db.outputs.lastId + 1) host port) ↔
      ∀ stored, Stores env w req stored → stored.OneEndpoint := by
  cases createOutput_outcome hw.idsMatch h with
  | refused hstatus _ => omega
  | rowLeft _ hstatus _ _ => omega
  | created stored input output _ hstores _ hinstalls =>
  have hcondition : (∀ stored', Stores env w req stored' → stored'.OneEndpoint) ↔
      stored.OneEndpoint :=
    ⟨fun h => h stored hstores, fun h stored' hstores' => hstores.unique hstores' ▸ h⟩
  have hrow : w₁.db.outputs.find (w.db.outputs.lastId + 1) =
      some (stored.row req.inputId) := by
    rw [hinstalls.db, World.withRow, Table.find_insert, if_pos rfl]
  have hstored : w₁.storedDestination (w.db.outputs.lastId + 1) =
      some (outputDestination stored).1 := by
    rw [World.storedDestination, hrow]
    rfl
  have hrunning : w₁.runningOutput req.inputId (w.db.outputs.lastId + 1) = some output := by
    simp only [World.runningOutput, hinstalls.streams, AList.lookup_insert, Option.bind_some]
  obtain ⟨hshown, task, htask, hworks, hdenoted⟩ := spawnOutput_addr hinstalls.spawn
  rw [hcondition, ← agrees_iff]
  refine exists_congr fun host => exists_congr fun port => ⟨fun hone => ?_, fun hagrees => ?_⟩
  · obtain ⟨addr, haddr, hdenotes⟩ := hone.stored
    obtain rfl := Option.some.inj (hstored.symm.trans haddr)
    obtain ⟨o, task', addr, ho, hdestination, htask', hworks', hsent⟩ := hone.running
    obtain rfl := Option.some.inj (hrunning.symm.trans ho)
    obtain rfl := Option.some.inj (htask.symm.trans htask')
    obtain ⟨env', response', held', w', hr, hkept⟩ :=
      bareUpdate_storedDestination hrow hstores.validStored
    obtain ⟨addr', haddr', hdenotes'⟩ :=
      hone.updated env' _ _ _ _ (bareUpdate_endpoint stored) hr
    obtain rfl := Option.some.inj (hkept.symm.trans haddr')
    exact ⟨hdenotes, hshown ▸ hdestination, hdenoted addr host port hworks' hsent hdenotes,
      hdenotes'⟩
  · refine ⟨⟨_, hstored, hagrees.stored⟩,
      ⟨output, task, _, hrunning, hshown ▸ hagrees.shown, htask, hworks, hagrees.sent⟩, ?_⟩
    intro env' update response' held' w' hnone hr
    rcases updateOutput_storedDestination hr with ⟨hkept, _⟩ | ⟨inputId, merged, hmerges, hkept⟩
    · exact ⟨_, hkept.trans hstored, hagrees.stored⟩
    · rw [updatedDestination_merged (hmerges.merge_eq hrow) hnone] at hkept
      exact ⟨_, hkept, hagrees.kept⟩

/-- The UDP output of the state with one input and one output. -/
theorem pairedWorld_oneDestination :
    ∃ host port, OneDestination localEnv pairedWorld 1 1 host port := by
  obtain ⟨response, held, hr, hstatus⟩ := pairedWorld_created
  refine (oneDestination_iff rests_runningWorld.reachable hr hstatus).mpr
    fun stored hstores => ?_
  rcases hstores.request with rfl | ⟨port, rfl⟩
  · exact ⟨rfl, rfl⟩
  · exact ⟨rfl, rfl⟩

/-- An SRT caller without a host and a port. -/
def bareCallerRequest : CreateOutputRequest :=
  .srt 1 none (.caller none none ⟨none, none, none, none, none⟩ none none)

/-- The row has 127.0.0.1:8000, to which the socket connects, and the entry unknown:0. -/
theorem bareCaller_destinations :
    ¬ ∀ env req w w₁ held response, Reachable w →
      (createOutput env req).alone false w = some (response, held, w₁) →
      response.status = 201 →
      ∃ host port, OneDestination env w₁ req.inputId (w.db.outputs.lastId + 1) host port := by
  intro h
  obtain ⟨response, held, hr, hstatus⟩ :=
    @alone_answers (createOutput localEnv bareCallerRequest) runningWorld 201
      (by decide +kernel)
  obtain ⟨host, port, hone⟩ := h _ _ _ _ _ _ rests_runningWorld.reachable hr hstatus
  have hstored : (runningWorld.after (createOutput localEnv bareCallerRequest).ignore
      ).storedDestination 1 = some (hostPort "127.0.0.1" 8000) := by decide +kernel
  have hshown : ((runningWorld.after (createOutput localEnv bareCallerRequest).ignore
      ).runningOutput 1 1).map OutputInfo.destination = some (hostPort "unknown" 0) := by
    decide +kernel
  obtain ⟨addr, haddr, hdenotes⟩ := hone.stored
  obtain rfl := Option.some.inj (hstored.symm.trans haddr)
  obtain ⟨o, _, _, ho, hdestination, _⟩ := hone.running
  have ho' := (congrArg (Option.map OutputInfo.destination) ho).symm.trans hshown
  rw [Option.some.inj ho'] at hdestination
  have hport := (denotes_hostPort.mp hdenotes).2.trans (denotes_hostPort.mp hdestination).2.symm
  exact absurd hport (by decide)

end StreamGateway
