import StreamGateway.Invariants
import StreamGateway.Loading

/-!
# Outputs over a restart of the gateway

The row of an output has the whole request, but the loader rebuilds most outputs from the
destination of the row alone. An output comes back with the settings it was created with
when the destination says all there is to say.
-/
namespace StreamGateway

open Prog

/-! ## Settings -/

/-- An interface that is not an IPv4 address is not set. -/
def interfaceOf (interface : String) : Option IpAddr :=
  match parseIpAddr interface with
  | some (.v4 octets) => some (.v4 octets)
  | _ => none

/-- The TTL and the interface of the multicast packets of a socket. The TTL of a socket on
which none is set is 1. -/
def multicastSettings (multicastConfig : Option MulticastOutputConfig) : UInt8 × Option IpAddr :=
  match multicastConfig with
  | none => (1, none)
  | some config => (config.ttl, config.interface.bind interfaceOf)

/-- What an output does with the packets: where it sends them from and to or where it waits
for a peer, and how. The destination of a UDP output determines its host and its port. -/
inductive OutputSettings
  | udp (destination : String) (bindHost : String) (multicast : UInt8 × Option IpAddr)
  | srtCaller (host : String) (port : UInt16) (bindHost : Option String)
      (common : SrtCommonConfig)
  | srtListener (bindHost : String) (port : UInt16) (common : SrtCommonConfig)
  deriving DecidableEq, Repr

/-- The local address that an SRT caller is to use, if it names one. -/
def SrtOutputConfig.localAddress (config : SrtOutputConfig) : Option String :=
  config.getCallerBindHost.filter fun h => h ≠ "" ∧ h ≠ "0.0.0.0"

/-- The values that `get_socket` takes from the configuration. -/
def SrtOutputConfig.settings (config : SrtOutputConfig) : OutputSettings :=
  match config with
  | .caller .. => .srtCaller (config.getRemoteHost.getD "127.0.0.1")
      (config.getRemotePort.getD 8000) config.localAddress config.common
  | .listener .. => .srtListener (config.getBindHost.getD "0.0.0.0")
      (config.getBindPort.getD 8000) config.common

/-- The settings of the task of a running output. -/
def OutputInfo.settings (output : OutputInfo) : Option OutputSettings :=
  output.abortHandle.bind fun task =>
    match task.spec with
    | .udpOutput _ _ _ _ bindHost multicastConfig _ =>
      some (.udp output.destination (bindHost.getD "0.0.0.0") (multicastSettings multicastConfig))
    | .srtOutput _ _ _ config _ _ => some config.settings
    | _ => none

/-- The settings that a stopped output starts with. -/
def CreateOutputRequest.settings (config : CreateOutputRequest) : OutputSettings :=
  match config with
  | .udp _ _ _ _ _ bindHost multicastTtl multicastInterface _ =>
    let host := config.getRemoteHost.getD "127.0.0.1"
    .udp (hostPort host (config.getRemotePort.getD 8000)) (bindHost.getD "0.0.0.0")
      (multicastSettings (multicastConfigFor host multicastTtl multicastInterface))
  | .srt _ _ srtConfig => srtConfig.settings

/-- The settings that an output is created with. -/
def CreateOutputRequest.createdSettings (req : CreateOutputRequest) : OutputSettings :=
  match req with
  | .udp _ remoteHost _ _ _ bindHost multicastTtl multicastInterface _ =>
    .udp (outputDestination req).1 (bindHost.getD "0.0.0.0")
      (multicastSettings (createMulticastConfig remoteHost multicastTtl multicastInterface))
  | .srt _ _ config => config.settings

def InputInfo.outputSettings (info : InputInfo) (k : Int) : Option OutputSettings :=
  match info.outputTasks.lookup k with
  | some output => output.settings
  | none => (info.stoppedOutputs.lookup k).map CreateOutputRequest.settings

def World.outputSettings (w : World) (inputId k : Int) : Option OutputSettings :=
  (w.streams.lookup inputId).bind fun info => info.outputSettings k

theorem SameOutput.settings {k : Int} {info info' : InputInfo} (h : SameOutput k info info') :
    info'.outputSettings k = info.outputSettings k := by
  rw [InputInfo.outputSettings, h.1, h.2, InputInfo.outputSettings]

theorem createUdpOutput_settings {env : Env} {destinationAddr : String} {input : InputInfo}
    {outputId : Int} {name bindHost : Option String}
    {multicastConfig : Option MulticastOutputConfig} {stateTx : Option StateChangeSender}
    {rt rt' : Runtime} {output : OutputInfo}
    (h : createUdpOutput env destinationAddr input outputId name bindHost multicastConfig stateTx
      rt = .ok (output, rt')) :
    output.settings = some (.udp destinationAddr (bindHost.getD "0.0.0.0")
      (multicastSettings multicastConfig)) := by
  obtain ⟨_, _, rfl, _⟩ := createUdpOutput_ok h
  rfl

theorem createSrtOutput_settings (inputId : Int) (config : SrtOutputConfig) (input : InputInfo)
    (outputId : Int) (name : Option String) (stateTx : Option StateChangeSender) (rt : Runtime) :
    (createSrtOutput inputId config input outputId name stateTx rt).1.settings =
      some config.settings := rfl

/-! ## The creation -/

/-- The row that `create_output` writes. -/
def CreateOutputRequest.row (req : CreateOutputRequest) (inputId : Int) : OutputRow where
  name := outputRowName req (outputDestination req).1
  inputId := inputId
  kind := outputRowKind req
  destination := some (outputDestination req).1
  listenPort := (outputDestination req).2
  configJson := some (.obj req.toFields)
  status := "connecting"

/-- The request that the row of an output has. -/
def World.storedRequest (w : World) (k : Int) : Option CreateOutputRequest := do
  let row ← w.db.outputs.find k
  let json ← row.configJson
  json.read CreateOutputRequest.ofFields

theorem saveOutputToDb_ok {env : Env} {name : Option String} {inputId k : Int}
    {kind destination : String} {configJson : Option Json} {listenPort : Option UInt16} {w : World}
    (h : (saveOutputToDb env name inputId kind destination configJson listenPort w).1 = .ok k) :
    k = w.db.outputs.lastId + 1 ∧ (w.db.inputs.find inputId).isSome = true ∧
      (saveOutputToDb env name inputId kind destination configJson listenPort w).2 =
        { w with
          db := { w.db with
            outputs := w.db.outputs.insert ⟨name, inputId, kind, some destination, listenPort,
              configJson, "connecting"⟩ } } := by
  unfold saveOutputToDb at h ⊢
  split at h
  · exact absurd h (by simp)
  rename_i hinput
  unfold query at h
  split at h
  · exact absurd h (by simp)
  rename_i hquery
  refine ⟨(Except.ok.inj h).symm, Option.isSome_iff_ne_none.mpr (by simpa using hinput), ?_⟩
  simp only [hinput, query, hquery]
  rfl

theorem spawnOutput_settings {env : Env} {req : CreateOutputRequest} {input : InputInfo}
    {inputId outputId : Int} {rt rt' : Runtime} {output : OutputInfo}
    (h : spawnOutput env req input inputId outputId (outputDestination req).1 rt =
      .ok (output, rt')) : output.settings = some req.createdSettings := by
  cases req with
  | udp => exact createUdpOutput_settings h
  | srt reqInputId name config =>
    obtain ⟨rfl, _⟩ := Prod.mk.inj (Except.ok.inj h)
    rfl

theorem spawnOutput_error {env : Env} {req : CreateOutputRequest} {input : InputInfo}
    {inputId outputId : Int} {destinationAddr : String} {rt : Runtime} {e : HttpError}
    (h : spawnOutput env req input inputId outputId destinationAddr rt = .error e) :
    400 ≤ e.status := by
  cases req with
  | srt => exact absurd h (by simp [spawnOutput])
  | udp =>
    simp only [spawnOutput, createUdpOutput] at h
    cases hr : resolve env destinationAddr with
    | ok addr =>
      rw [hr] at h
      exact absurd (show (Except.ok _ : Except HttpError (OutputInfo × Runtime)) = .error e from h)
        (by simp)
    | error e' =>
      rw [hr] at h
      obtain rfl : e' = e := Except.error.inj h
      unfold resolve at hr
      split at hr
      · rw [← Except.error.inj hr]
        simp [errorBadRequest]
      · rw [← Except.error.inj hr]
        simp [errorBadRequest]
      · exact absurd hr (by simp)

/-- The output is in memory, in the entry of its input. -/
theorem installOutputSection_ok {env : Env} {req : CreateOutputRequest} {inputId k : Int}
    {w : World} {output : OutputInfo} (hids : w.IdsMatch)
    (h : (installOutputSection env req inputId k (outputDestination req).1 w).1 = .ok output) :
    (installOutputSection env req inputId k (outputDestination req).1 w).2.db = w.db ∧
    (installOutputSection env req inputId k (outputDestination req).1 w).2.outputSettings inputId
      k = some req.createdSettings := by
  unfold installOutputSection at h ⊢
  cases hinput : w.streams.lookup inputId with
  | none => simp [hinput] at h
  | some input =>
  rw [hinput] at h
  dsimp only at h ⊢
  cases hspawn : spawnOutput env req input inputId k (outputDestination req).1 w.rt with
  | error e => simp [hspawn] at h
  | ok r =>
  obtain ⟨output', rt'⟩ := r
  obtain ⟨i, spec, hi, hl⟩ := spawnOutput_launch hspawn
  have hid : output'.inputId = inputId := by
    rw [hids inputId input hinput, or_self] at hi
    rw [hl.inputId_eq, hi]
  dsimp only
  rw [hid, hinput]
  refine ⟨rfl, ?_⟩
  simp only [World.outputSettings, AList.lookup_insert, Option.bind_some,
    InputInfo.outputSettings, hl.outputId_eq]
  exact spawnOutput_settings hspawn

theorem installOutputSection_error {env : Env} {req : CreateOutputRequest} {inputId k : Int}
    {destinationAddr : String} {w : World} {e : HttpError}
    (h : (installOutputSection env req inputId k destinationAddr w).1 = .error e) :
    400 ≤ e.status := by
  unfold installOutputSection at h
  split at h
  · rw [← Except.error.inj h]
    simp [errorInternalServerError]
  split at h
  · rename_i e' hspawn
    rw [← Except.error.inj h]
    exact spawnOutput_error hspawn
  split at h
  · rw [← Except.error.inj h]
    simp [errorInternalServerError]
  · exact absurd h (by simp)

/-- A creation that goes through has stored the request, maybe with a port that was assigned,
and installed the output. -/
theorem createOutputHeld_created {env : Env} {req : CreateOutputRequest} {w w' : World}
    {held : Bool} {response : Response}
    (h : (createOutputHeld env req).alone true w = some (response, held, w'))
    (hs : response.status < 400) :
    ∃ stored k output w₁, (stored = req ∨ ∃ port, stored = req.withAssignedPort port) ∧
      saveOutputToDb env (outputRowName stored (outputDestination stored).1) req.inputId
        (outputRowKind stored) (outputDestination stored).1 (some (.obj stored.toFields))
        (outputDestination stored).2 w = (.ok k, w₁) ∧
      installOutputSection env stored req.inputId k (outputDestination stored).1 w₁ =
        (.ok output, w') := by
  have hfailed : ∀ {r : Response}, 400 ≤ r.status → r ≠ response := by
    rintro r hr rfl
    omega
  obtain ⟨r, _, _, hassign, h⟩ := alone_bind_eq_some.mp h
  obtain ⟨rfl, rfl, hassigned⟩ := (reads_assignOutputPort env req).eq hassign
  rcases r with r | ⟨stored, assignedPort⟩
  · obtain ⟨rfl, _⟩ := alone_ret_eq_some.mp h
    exact absurd rfl (hfailed (hassigned.refused _ rfl))
  obtain ⟨r, _, _, hconflicts, h⟩ := alone_bind_eq_some.mp h
  obtain ⟨rfl, rfl, herror⟩ := (reads_checkConflicts env _ _ _).eq hconflicts
  cases r with
  | error r =>
    obtain ⟨rfl, _⟩ := alone_ret_eq_some.mp h
    exact absurd rfl (hfailed (herror _ rfl))
  | ok _ =>
  dsimp only at h
  rw [alone_atomic_bind] at h
  split at h
  · obtain ⟨rfl, _⟩ := alone_ret_eq_some.mp h
    exact absurd rfl (hfailed (by simp [databaseError, Response.internalServerError]))
  rename_i k hk
  rw [alone_atomic_bind] at h
  split at h
  · rename_i e he
    obtain ⟨rfl, _⟩ := alone_ret_eq_some.mp h
    exact absurd rfl (hfailed (installOutputSection_error he))
  rename_i output ho
  obtain ⟨_, _, rfl⟩ := alone_ret_eq_some.mp h
  exact ⟨stored, k, output, _, hassigned.request _ _ rfl, Prod.ext hk rfl, Prod.ext ho rfl⟩

theorem createOutput_goesThrough {env : Env} {req : CreateOutputRequest} {w w' : World}
    {held : Bool} {response : Response}
    (h : (createOutput env req).alone false w = some (response, held, w'))
    (hs : response.status < 400) :
    ∃ stored k output w₁, (stored = req ∨ ∃ port, stored = req.withAssignedPort port) ∧
      saveOutputToDb env (outputRowName stored (outputDestination stored).1) req.inputId
        (outputRowKind stored) (outputDestination stored).1 (some (.obj stored.toFields))
        (outputDestination stored).2 w = (.ok k, w₁) ∧
      installOutputSection env stored req.inputId k (outputDestination stored).1 w₁ =
        (.ok output, w') := by
  unfold createOutput at h
  split at h
  · obtain ⟨rfl, _⟩ := alone_ret_eq_some.mp h
    exact absurd hs (by simp [Response.badRequest])
  rw [alone_acquire] at h
  obtain ⟨r, _, w₁, hguarded, hret⟩ := alone_bind_eq_some.mp h
  obtain ⟨rfl, _, rfl⟩ := alone_ret_eq_some.mp hret
  unfold createOutputGuarded at hguarded
  rw [alone_atomic_bind] at hguarded
  split at hguarded
  · exact createOutputHeld_created hguarded hs
  · obtain ⟨rfl, _⟩ := alone_ret_eq_some.mp hguarded
    exact absurd hs (by simp [inputNotFound, Response.notFound])

/-- The destination of a UDP output can be resolved. -/
def CreateOutputRequest.Resolves (env : Env) (req : CreateOutputRequest) : Prop :=
  match req with
  | .udp .. => ∃ addr, resolve env (outputDestination req).1 = .ok addr
  | .srt .. => True

theorem spawnOutput_resolves {env : Env} {req : CreateOutputRequest} {input : InputInfo}
    {inputId outputId : Int} {rt rt' : Runtime} {output : OutputInfo}
    (h : spawnOutput env req input inputId outputId (outputDestination req).1 rt =
      .ok (output, rt')) : req.Resolves env := by
  cases req with
  | srt => trivial
  | udp =>
    obtain ⟨addr, hr, _⟩ := createUdpOutput_ok h
    exact ⟨addr, hr⟩

/-- A creation that goes through leaves the row and the output in memory. The input has a row. -/
theorem createOutput_created {env : Env} {req : CreateOutputRequest} {w w' : World}
    {held : Bool} {response : Response} (hids : w.IdsMatch)
    (h : (createOutput env req).alone false w = some (response, held, w'))
    (hs : response.status = 201) :
    ∃ stored : CreateOutputRequest, stored.Resolves env ∧
      (w'.db.inputs.find req.inputId).isSome = true ∧
      w'.db.outputs.find (w.db.outputs.lastId + 1) = some (stored.row req.inputId) ∧
      w'.outputSettings req.inputId (w.db.outputs.lastId + 1) = some stored.createdSettings := by
  obtain ⟨stored, k, output, w₂, _, hsave, hinstall⟩ := createOutput_goesThrough h (by omega)
  obtain ⟨rfl, hinput, hw₂⟩ := saveOutputToDb_ok (congrArg Prod.fst hsave)
  rw [hsave] at hw₂
  dsimp only at hw₂
  have hids₂ : w₂.IdsMatch := by
    rw [hw₂]
    exact hids
  have hok := congrArg Prod.fst hinstall
  obtain ⟨hdb, hsettings⟩ := installOutputSection_ok hids₂ hok
  rw [hinstall] at hdb hsettings
  refine ⟨stored, ?_, ?_, ?_, hsettings⟩
  · unfold installOutputSection at hok
    split at hok
    · exact absurd hok (by simp)
    split at hok
    · exact absurd hok (by simp)
    · rename_i hspawn
      exact spawnOutput_resolves hspawn
  · dsimp only at hdb
    rw [hdb, hw₂]
    exact hinput
  · dsimp only at hdb
    rw [hdb, hw₂]
    exact Table.find_eq_some.mpr (Table.mem_insert.mpr (.inr rfl))

/-! ## The load -/

/-- The output comes back with its settings, from a row with the given status. For a running
UDP output, the destination is parsed as a socket address. A stopped one and a running SRT
caller take the destination apart at its colons. Of the rest of the request, the loader
reads the common settings, and the whole configuration of a stopped SRT output. -/
def CreateOutputRequest.Survives (req : CreateOutputRequest) (status : String) : Prop :=
  match req with
  | .udp _ remoteHost _ _ _ bindHost multicastTtl multicastInterface _ =>
    bindHost.getD "0.0.0.0" = "0.0.0.0" ∧
      multicastSettings (createMulticastConfig remoteHost multicastTtl multicastInterface) =
        (1, none) ∧
      if status = "stopped" then ':' ∉ (req.getRemoteHost.getD "127.0.0.1").toList
      else (parseSocketAddr (outputDestination req).1).isSome
  | .srt _ _ config =>
    status = "stopped" ∨
      match config with
      | .caller .. =>
        ':' ∉ (config.getRemoteHost.getD "127.0.0.1").toList ∧ config.localAddress = none
      | .listener .. => config.getBindHost.getD "0.0.0.0" = "0.0.0.0"

instance (req : CreateOutputRequest) (status : String) : Decidable (req.Survives status) :=
  match req with
  | .udp .. => inferInstanceAs (Decidable (_ ∧ _ ∧ ite _ _ _))
  | .srt _ _ (.caller ..) => inferInstanceAs (Decidable (_ ∨ _ ∧ _))
  | .srt _ _ (.listener ..) => inferInstanceAs (Decidable (_ ∨ _))

/-- What is before the first colon has no colon. -/
theorem hostPart_eq_iff {host : String} {port : UInt16} :
    (hostPart (hostPort host port)).getD "127.0.0.1" = host ↔ ':' ∉ host.toList := by
  constructor
  · intro h
    cases hp : hostPart (hostPort host port) with
    | none =>
      rw [hp] at h
      rw [← h]
      decide
    | some host' =>
      rw [hp] at h
      rw [← h]
      exact colon_notMem_hostPart hp
  · intro h
    rw [hostPart_hostPort h]
    rfl

/-- The destination is put together again from its parts. -/
theorem hostPort_parts_iff {host : String} {port : UInt16} :
    hostPort ((hostPart (hostPort host port)).getD "127.0.0.1")
      ((portPart (hostPort host port)).getD 8000) = hostPort host port ↔ ':' ∉ host.toList := by
  rw [hostPort_inj, hostPart_eq_iff, and_iff_left_iff_imp]
  intro h
  rw [portPart_hostPort h]
  rfl

theorem storedSrtConfig_row {inputId : Int} {name : Option String} {config : SrtOutputConfig}
    {row : OutputRow} (h : row.configJson = some (.obj (CreateOutputRequest.srt inputId name
      config).toFields)) (fallback : SrtOutputConfig) : storedSrtConfig row fallback = config := by
  rw [storedSrtConfig, h]
  have hsame := sameConfig_srtOutput inputId name config
  simp [Json.read, SrtOutputConfig.ofFields_of_sameConfig hsame]

theorem storedCommon_row (env : Env) {inputId : Int} {name : Option String}
    {config : SrtOutputConfig} {row : OutputRow} (h : row.configJson = some
      (.obj (CreateOutputRequest.srt inputId name config).toFields)) :
    storedCommon env row = .ok config.common := by
  rw [storedCommon, h]
  simp [Json.read, SrtOutputConfig.common_ofFields (sameConfig_srtOutput inputId name config)]

theorem multicastSettings_default (host : String) :
    multicastSettings (multicastConfigFor host none none) = (1, none) := by
  unfold multicastConfigFor
  split
  · split <;> rfl
  · rfl

/-- A UDP configuration that has a destination alone starts with the settings that the
destination stands for, if its parts make it up. -/
theorem settings_of_destination {inputId : Int} {name : Option String} {host bindHost : String}
    {port : UInt16} {multicast : UInt8 × Option IpAddr} :
    CreateOutputRequest.settings
        (.udp inputId none none none name none none none (some (hostPort host port))) =
      .udp (hostPort host port) bindHost multicast ↔
    bindHost = "0.0.0.0" ∧ multicast = (1, none) ∧ ':' ∉ host.toList := by
  show OutputSettings.udp (hostPort ((hostPart (hostPort host port)).getD "127.0.0.1")
      ((portPart (hostPort host port)).getD 8000)) "0.0.0.0"
      (multicastSettings (multicastConfigFor ((hostPart (hostPort host port)).getD "127.0.0.1")
        none none)) = _ ↔ _
  rw [OutputSettings.udp.injEq, hostPort_parts_iff, multicastSettings_default]
  constructor
  · rintro ⟨hcolon, hbind, hmulticast⟩
    exact ⟨hbind.symm, hmulticast.symm, hcolon⟩
  · rintro ⟨hbind, hmulticast, hcolon⟩
    exact ⟨hcolon, hbind.symm, hmulticast.symm⟩

/-- The settings of a stopped output after the load. -/
theorem stoppedOutputConfig_settings (inputId : Int) {stored : CreateOutputRequest}
    {row : OutputRow} (hkind : row.kind = outputRowKind stored)
    (hdestination : row.destination = some (outputDestination stored).1)
    (hjson : row.configJson = some (.obj stored.toFields)) :
    ∃ config, stoppedOutputConfig inputId row = some config ∧
      (config.settings = stored.createdSettings ↔ stored.Survives "stopped") := by
  cases stored with
  | udp reqInputId remoteHost remotePort automaticPort name bindHost multicastTtl
      multicastInterface destinationAddr =>
    refine ⟨_, if_pos hkind, ?_⟩
    rw [hdestination]
    exact settings_of_destination
  | srt reqInputId name config =>
    have hsettings : ∀ fallback, CreateOutputRequest.settings (.srt inputId row.name
        (storedSrtConfig row fallback)) = config.settings := fun fallback => by
      rw [storedSrtConfig_row hjson]
      rfl
    have hsurvives : CreateOutputRequest.Survives (.srt reqInputId name config) "stopped" :=
      .inl rfl
    cases config with
    | caller =>
      have hne : row.kind ≠ "udp" := by simp [hkind, outputRowKind]
      exact ⟨_, (if_neg hne).trans (if_pos hkind), iff_of_true (hsettings _) hsurvives⟩
    | listener =>
      have hne : row.kind ≠ "udp" := by simp [hkind, outputRowKind]
      have hne' : row.kind ≠ "srt_caller" := by simp [hkind, outputRowKind]
      exact ⟨_, (if_neg hne).trans ((if_neg hne').trans (if_pos hkind)),
        iff_of_true (hsettings _) hsurvives⟩

/-- An SRT caller that has a destination and the common settings alone. -/
theorem settings_of_callerDestination {host : String} {port : UInt16} {common : SrtCommonConfig}
    {localAddress : Option String} :
    SrtOutputConfig.settings (.caller none none common none (some (hostPort host port))) =
      .srtCaller host port localAddress common ↔ ':' ∉ host.toList ∧ localAddress = none := by
  show OutputSettings.srtCaller ((hostPart (hostPort host port)).getD "127.0.0.1")
      ((portPart (hostPort host port)).getD 8000) none common = _ ↔ _
  rw [OutputSettings.srtCaller.injEq, hostPart_eq_iff]
  constructor
  · rintro ⟨hcolon, _, hlocal, _⟩
    exact ⟨hcolon, hlocal.symm⟩
  · rintro ⟨hcolon, rfl⟩
    refine ⟨hcolon, ?_, rfl, rfl⟩
    rw [portPart_hostPort hcolon]
    rfl

/-- What the loader makes of the row of a running UDP output. -/
theorem recreateOutput_udp {env : Env} (inputId k : Int) (input : InputInfo) {row : OutputRow}
    {destination : String} {addr : SocketAddr} (rt : Runtime) (hkind : row.kind = "udp")
    (hdestination : row.destination = some destination)
    (hresolve : resolve env destination = .ok addr) :
    ((parseSocketAddr destination).isSome = false ∧
      recreateOutput env inputId input k row rt = .ok none) ∨
    (parseSocketAddr destination).isSome = true ∧
      ∃ output rt', recreateOutput env inputId input k row rt = .ok (some (output, rt')) ∧
        output.settings = some (.udp destination "0.0.0.0" (1, none)) := by
  unfold recreateOutput
  rw [if_pos hkind, hdestination]
  by_cases hparse : (parseSocketAddr destination).isSome = true
  · refine .inr ⟨hparse, ?_⟩
    cases hc : createUdpOutput env destination input k row.name none none rt.stateChangeTx rt with
    | error e =>
      unfold createUdpOutput at hc
      rw [hresolve] at hc
      exact absurd (show (Except.ok _ : Except HttpError (OutputInfo × Runtime)) = .error e from hc)
        (by simp)
    | ok r =>
      refine ⟨r.1, r.2, ?_, createUdpOutput_settings hc⟩
      simp only [Option.getD_some, hparse, if_true, hc]
  · refine .inl ⟨by simpa using hparse, ?_⟩
    simp only [Option.getD_some, hparse, Bool.false_eq_true, if_false]

theorem recreateOutput_caller {env : Env} (inputId k : Int) (input : InputInfo) {row : OutputRow}
    {destination : String} {common : SrtCommonConfig} (rt : Runtime)
    (hkind : row.kind = "srt_caller") (hdestination : row.destination = some destination)
    (hcommon : storedCommon env row = .ok common) :
    ∃ output rt', recreateOutput env inputId input k row rt = .ok (some (output, rt')) ∧
      output.settings =
        some (SrtOutputConfig.settings (.caller none none common none (some destination))) := by
  have hne : row.kind ≠ "udp" := by simp [hkind]
  unfold recreateOutput
  rw [if_neg hne, if_pos hkind, hcommon, hdestination]
  exact ⟨_, _, rfl, createSrtOutput_settings ..⟩

theorem recreateOutput_listener {env : Env} (inputId k : Int) (input : InputInfo)
    {row : OutputRow} {port : UInt16} {common : SrtCommonConfig} (rt : Runtime)
    (hkind : row.kind = "srt_listener") (hport : row.listenPort = some port)
    (hcommon : storedCommon env row = .ok common) :
    ∃ output rt', recreateOutput env inputId input k row rt = .ok (some (output, rt')) ∧
      output.settings =
        some (SrtOutputConfig.settings (.listener none none none common (some port))) := by
  have hne : row.kind ≠ "udp" := by simp [hkind]
  have hne' : row.kind ≠ "srt_caller" := by simp [hkind]
  unfold recreateOutput
  rw [if_neg hne, if_neg hne', if_pos hkind, hcommon, hport]
  exact ⟨_, _, rfl, createSrtOutput_settings ..⟩

/-- The settings of a running output after the load. -/
theorem recreateOutput_settings {env : Env} (inputId k : Int) (input : InputInfo)
    {stored : CreateOutputRequest} {row : OutputRow} {status : String} (rt : Runtime)
    (hkind : row.kind = outputRowKind stored)
    (hdestination : row.destination = some (outputDestination stored).1)
    (hport : row.listenPort = (outputDestination stored).2)
    (hjson : row.configJson = some (.obj stored.toFields)) (hresolves : stored.Resolves env)
    (hstatus : status ≠ "stopped") :
    (recreateOutput env inputId input k row rt = .ok none ∧ ¬ stored.Survives status) ∨
      ∃ output rt', recreateOutput env inputId input k row rt = .ok (some (output, rt')) ∧
        (output.settings = some stored.createdSettings ↔ stored.Survives status) := by
  cases stored with
  | udp reqInputId remoteHost remotePort automaticPort name bindHost multicastTtl
      multicastInterface destinationAddr =>
    obtain ⟨addr, hresolve⟩ := hresolves
    simp only [CreateOutputRequest.Survives, hstatus, if_false]
    rcases recreateOutput_udp inputId k input rt hkind hdestination hresolve with
      ⟨hparse, hr⟩ | ⟨hparse, output, rt', hr, hsettings⟩
    · exact .inl ⟨hr, fun h => by simp [hparse] at h⟩
    · refine .inr ⟨output, rt', hr, ?_⟩
      rw [hsettings, Option.some.injEq, CreateOutputRequest.createdSettings,
        OutputSettings.udp.injEq]
      constructor
      · rintro ⟨_, hbind, hmulticast⟩
        exact ⟨hbind.symm, hmulticast.symm, hparse⟩
      · rintro ⟨hbind, hmulticast, _⟩
        exact ⟨rfl, hbind.symm, hmulticast.symm⟩
  | srt reqInputId name config =>
    have hcommon := storedCommon_row env hjson
    simp only [CreateOutputRequest.Survives, hstatus, false_or]
    cases config with
    | caller remoteHost remotePort common bindHost destinationAddr =>
      obtain ⟨output, rt', hr, hsettings⟩ :=
        recreateOutput_caller inputId k input rt hkind hdestination hcommon
      refine .inr ⟨output, rt', hr, ?_⟩
      rw [hsettings, Option.some.injEq]
      exact settings_of_callerDestination
    | listener bindHost bindPort automaticPort common listenPort =>
      obtain ⟨output, rt', hr, hsettings⟩ :=
        recreateOutput_listener inputId k input rt hkind hport hcommon
      refine .inr ⟨output, rt', hr, ?_⟩
      rw [hsettings, Option.some.injEq]
      show OutputSettings.srtListener "0.0.0.0" _ _ = .srtListener _ _ _ ↔ _
      rw [OutputSettings.srtListener.injEq]
      constructor
      · rintro ⟨hbind, _⟩
        exact hbind.symm
      · exact fun hbind => ⟨hbind.symm, rfl, rfl⟩

/-- An output that is loaded where none was has the settings it was created with if and only if
they survive. -/
theorem loadOutput_settings {env : Env} {inputId k : Int} {input input' : InputInfo}
    {stored : CreateOutputRequest} {status : String} {rt rt' : Runtime}
    (htasks : input.outputTasks.lookup k = none)
    (hstopped : input.stoppedOutputs.lookup k = none) (hresolves : stored.Resolves env)
    (h : loadOutput env inputId input k { stored.row inputId with status := status } rt =
      .ok (input', rt')) :
    input'.outputSettings k = some stored.createdSettings ↔ stored.Survives status := by
  unfold loadOutput at h
  by_cases hs : status = "stopped"
  · subst hs
    obtain ⟨config, hconfig, hsettings⟩ :=
      @stoppedOutputConfig_settings inputId stored { stored.row inputId with status := "stopped" }
        rfl rfl rfl
    rw [if_pos rfl, hconfig] at h
    obtain ⟨rfl, _⟩ := Prod.mk.inj (Except.ok.inj h)
    rw [← hsettings]
    simp [InputInfo.outputSettings, htasks]
  · rw [if_neg hs] at h
    rcases @recreateOutput_settings env inputId k input stored
      { stored.row inputId with status := status } status rt rfl rfl rfl rfl hresolves hs with
      ⟨hr, hnot⟩ | ⟨output, rt'', hr, hsettings⟩
    · rw [hr] at h
      obtain ⟨rfl, _⟩ := Prod.mk.inj (Except.ok.inj h)
      simp [InputInfo.outputSettings, htasks, hstopped, hnot]
    · rw [hr] at h
      obtain ⟨rfl, _⟩ := Prod.mk.inj (Except.ok.inj h)
      rw [← hsettings]
      simp [InputInfo.outputSettings]

/-- The database at the shutdown. The row of the output is as it was, but for its status, and
the row of its input still has its kind. -/
structure Shutdown (inputId k : Int) (status : String) (db db' : Database) : Prop where
  output : db'.outputs.find k = (db.outputs.find k).map fun row => { row with status := status }
  input : (db'.inputs.find inputId).map InputRow.kind = (db.inputs.find inputId).map InputRow.kind

/-- The loader knows the kind of the input. -/
def Database.Loads (db : Database) (inputId : Int) : Prop :=
  ∃ row, db.inputs.find inputId = some row ∧ row.kind ∈ storedKinds

instance (db : Database) (inputId : Int) : Decidable (db.Loads inputId) :=
  decidable_of_iff
    ((db.inputs.find inputId).any (fun row => decide (row.kind ∈ storedKinds)) = true)
    (by simp [Database.Loads, Option.any_eq_true])

/-- After a restart of the gateway an output has the settings it was created with, if and only
if its input is loaded and they survive. -/
theorem outputSettings_reload_iff {env env' : Env} {req stored : CreateOutputRequest}
    {w w₁ w' : World} {response : Response} {held held' : Bool} {db : Database}
    {status : String} (hw : Reachable w)
    (hcreate : (createOutput env req).alone false w = some (response, held, w₁))
    (hcreated : response.status = 201)
    (hstored : w₁.storedRequest (w.db.outputs.lastId + 1) = some stored)
    (hdb : Shutdown req.inputId (w.db.outputs.lastId + 1) status w₁.db db)
    (hdns : env'.lookupHost = env.lookupHost)
    (hload : (loadFromDb env').alone false (.boot db) = some (.ok (), held', w')) :
    w'.outputSettings req.inputId (w.db.outputs.lastId + 1) =
      w₁.outputSettings req.inputId (w.db.outputs.lastId + 1) ↔
    w₁.db.Loads req.inputId ∧ stored.Survives status := by
  obtain ⟨stored', hresolves, hinput, hrow, hsettings⟩ :=
    createOutput_created hw.idsMatch hcreate hcreated
  obtain rfl : stored' = stored := by
    simpa [World.storedRequest, hrow, CreateOutputRequest.row, Json.read,
      CreateOutputRequest.ofFields_toFields] using hstored
  have hresolves' : stored'.Resolves env' := by
    cases stored' with
    | srt => trivial
    | udp =>
      unfold CreateOutputRequest.Resolves resolve at hresolves ⊢
      rwa [hdns]
  have hrow' := hdb.output
  rw [hrow, Option.map_some] at hrow'
  obtain ⟨inputRow, hinput₁⟩ := Option.isSome_iff_exists.mp hinput
  have hinput' := hdb.input
  rw [hinput₁, Option.map_some] at hinput'
  obtain ⟨inputRow', hfind, hkind⟩ := Option.map_eq_some_iff.mp hinput'
  have hloads : w₁.db.Loads req.inputId ↔ inputRow'.kind ∈ storedKinds := by
    rw [Database.Loads, hinput₁, hkind]
    simp
  rw [hsettings, hloads]
  by_cases hstoredKind : inputRow'.kind ∈ storedKinds
  · obtain ⟨info, rt, info', rt', info'', htasks, hstopped, hout, hi, hsame⟩ :=
      loadFromDb_output hload (Table.find_eq_some.mp hrow') (Table.find_eq_some.mp hfind)
        hstoredKind
    have hinfo : w'.outputSettings req.inputId (w.db.outputs.lastId + 1) =
        info'.outputSettings (w.db.outputs.lastId + 1) := by
      rw [← hsame.settings]
      unfold World.outputSettings
      rw [show w'.streams.lookup req.inputId = some info'' from hi]
      rfl
    rw [hinfo, and_iff_right hstoredKind]
    exact loadOutput_settings htasks hstopped hresolves' hout
  · refine iff_of_false ?_ fun h => hstoredKind h.1
    unfold World.outputSettings
    rw [loadFromDb_unknown hload (Table.find_eq_some.mp hfind) hstoredKind]
    simp

/-! ## An address and a name -/

/-- An output to the given host was created. -/
def sendingWorld (host : String) : World :=
  runningWorld.after ((Operation.createOutput (udpOutputRequest host)).prog localEnv)

/-- The gateway was shut down and started again. -/
def reloadedWorld (host : String) : World :=
  (World.boot (sendingWorld host).db).after (loadFromDb localEnv).ignore

theorem sendingWorld_created (host : String)
    (h : ((createOutput localEnv (udpOutputRequest host)).alone false runningWorld).any
      (fun r => decide (r.1.status = 201)) = true) :
    ∃ response held, (createOutput localEnv (udpOutputRequest host)).alone false runningWorld =
      some (response, held, sendingWorld host) ∧ response.status = 201 := by
  obtain ⟨response, held, hr, hs⟩ :=
    @alone_eq_after _ _ _ (fun response : Response => decide (response.status = 201)) h
  exact ⟨response, held, hr, of_decide_eq_true hs⟩

theorem reloadedWorld_loaded (host : String)
    (h : ((loadFromDb localEnv).alone false (.boot (sendingWorld host).db)).any
      (fun r => r.1.isOk) = true) :
    ∃ held, (loadFromDb localEnv).alone false (.boot (sendingWorld host).db) =
      some (.ok (), held, reloadedWorld host) := by
  obtain ⟨r, held, hr, hok⟩ := @alone_eq_after _ _ _ Except.isOk h
  cases r with
  | error e => exact absurd hok (by simp [Except.isOk, Except.toBool])
  | ok _ => exact ⟨held, hr⟩

theorem shutdown_refl {inputId k : Int} {db : Database}
    (h : (db.outputs.find k).map OutputRow.status = some "connecting") :
    Shutdown inputId k "connecting" db db := by
  refine ⟨?_, rfl⟩
  obtain ⟨row, hrow, hstatus⟩ := Option.map_eq_some_iff.mp h
  rw [hrow, Option.map_some, ← hstatus]

/-- An output to an address comes back. -/
theorem sendingWorld_reloaded :
    (reloadedWorld "127.0.0.1").outputSettings 1 1 =
      (sendingWorld "127.0.0.1").outputSettings 1 1 := by
  obtain ⟨response, held, hcreate, hs⟩ := sendingWorld_created "127.0.0.1" (by decide +kernel)
  obtain ⟨held', hload⟩ := reloadedWorld_loaded "127.0.0.1" (by decide +kernel)
  have hstored : (sendingWorld "127.0.0.1").storedRequest 1 =
      some (udpOutputRequest "127.0.0.1") := by decide +kernel
  have hdb : Shutdown 1 1 "connecting" (sendingWorld "127.0.0.1").db
      (sendingWorld "127.0.0.1").db := shutdown_refl (by decide +kernel)
  have hloads : (sendingWorld "127.0.0.1").db.Loads 1 := by decide +kernel
  exact (outputSettings_reload_iff rests_runningWorld.reachable hcreate hs hstored hdb rfl
    hload).mpr ⟨hloads, by decide +kernel⟩

/-- An output to a name is not in memory after the restart. -/
theorem reload_loses_output :
    ¬ ∀ (env env' : Env) (req stored : CreateOutputRequest) (w w₁ w' : World)
      (response : Response) (held held' : Bool) (db : Database) (status : String),
      Reachable w →
      (createOutput env req).alone false w = some (response, held, w₁) →
      response.status = 201 →
      w₁.storedRequest (w.db.outputs.lastId + 1) = some stored →
      Shutdown req.inputId (w.db.outputs.lastId + 1) status w₁.db db →
      env'.lookupHost = env.lookupHost →
      (loadFromDb env').alone false (.boot db) = some (.ok (), held', w') →
      w'.outputSettings req.inputId (w.db.outputs.lastId + 1) =
        w₁.outputSettings req.inputId (w.db.outputs.lastId + 1) := by
  intro h
  obtain ⟨response, held, hcreate, hs⟩ := sendingWorld_created "localhost" (by decide +kernel)
  obtain ⟨held', hload⟩ := reloadedWorld_loaded "localhost" (by decide +kernel)
  have hstored : (sendingWorld "localhost").storedRequest 1 =
      some (udpOutputRequest "localhost") := by decide +kernel
  have hdb : Shutdown 1 1 "connecting" (sendingWorld "localhost").db
      (sendingWorld "localhost").db := shutdown_refl (by decide +kernel)
  have hkept := h localEnv localEnv _ _ _ _ _ _ _ _ _ _ rests_runningWorld.reachable hcreate hs
    hstored hdb rfl hload
  have hlost : (reloadedWorld "localhost").outputSettings 1 1 ≠
      (sendingWorld "localhost").outputSettings 1 1 := by decide +kernel
  exact hlost hkept

end StreamGateway
