import StreamGateway.KeptStanding

/-!
# Stored SRT requests

The database has one JSON object for each stream, and the object is read at three types: the
whole request when a stream is updated, the inner configuration when a stream is loaded, and
the common settings when a running output is loaded. The tags, the flattened fields and the
legacy fields have keys of their own, so each reading finds its part of the request.
-/
namespace StreamGateway

/-! ## The keys -/

theorem listenerFields_nodup (bindHost : Option String) (bindPort : Option UInt16)
    (automaticPort : Option Bool) (common : SrtCommonConfig) (listenPort : Option UInt16) :
    ((listenerFields bindHost bindPort automaticPort common listenPort).map Prod.fst).Nodup := by
  cases listenPort <;> simp [listenerFields, SrtCommonConfig.toFields, skipNone]

/-- The key of a legacy address must not be one of the others. -/
theorem callerFields_nodup {legacyKey : String}
    (h : legacyKey ∉ ["mode", "remote_host", "remote_port", "bind_host"] ++ SrtCommonConfig.keys)
    (remoteHost : Option String) (remotePort : Option UInt16) (common : SrtCommonConfig)
    (bindHost legacyAddr : Option String) :
    ((callerFields legacyKey remoteHost remotePort common bindHost
      legacyAddr).map Prod.fst).Nodup := by
  cases legacyAddr with
  | none => simp [callerFields, SrtCommonConfig.toFields, skipNone]
  | some legacyAddr =>
    have hne : ∀ key ∈ ["mode", "remote_host", "remote_port", "bind_host"] ++
        SrtCommonConfig.keys, key ≠ legacyKey := fun key hkey he => h (he ▸ hkey)
    simp [SrtCommonConfig.keys] at hne
    simp [callerFields, SrtCommonConfig.toFields, skipNone, hne]

theorem SrtInputConfig.toFields_nodup (config : SrtInputConfig) :
    (config.toFields.map Prod.fst).Nodup := by
  cases config with
  | listener => exact listenerFields_nodup ..
  | caller => exact callerFields_nodup (by decide) ..

theorem SrtOutputConfig.toFields_nodup (config : SrtOutputConfig) :
    (config.toFields.map Prod.fst).Nodup := by
  cases config with
  | listener => exact listenerFields_nodup ..
  | caller => exact callerFields_nodup (by decide) ..

theorem SrtInputConfig.toFields_disjoint (config : SrtInputConfig) :
    List.Disjoint requestKeys (config.toFields.map Prod.fst) := by
  cases config with
  | listener bindHost bindPort automaticPort common listenPort =>
    cases listenPort <;> simp [SrtInputConfig.toFields, listenerFields,
      SrtCommonConfig.toFields, skipNone, requestKeys]
  | caller remoteHost remotePort common bindHost targetAddr =>
    cases targetAddr <;> simp [SrtInputConfig.toFields, callerFields,
      SrtCommonConfig.toFields, skipNone, requestKeys]

theorem SrtOutputConfig.toFields_disjoint (config : SrtOutputConfig) :
    List.Disjoint requestKeys (config.toFields.map Prod.fst) := by
  cases config with
  | listener bindHost bindPort automaticPort common listenPort =>
    cases listenPort <;> simp [SrtOutputConfig.toFields, listenerFields,
      SrtCommonConfig.toFields, skipNone, requestKeys]
  | caller remoteHost remotePort common bindHost destinationAddr =>
    cases destinationAddr <;> simp [SrtOutputConfig.toFields, callerFields,
      SrtCommonConfig.toFields, skipNone, requestKeys]

/-- The keys of a request and those of its configuration are put into one object. -/
theorem nodup_flatten {outer inner : Fields} (ho : (outer.map Prod.fst).Nodup)
    (hi : (inner.map Prod.fst).Nodup) (hkeys : outer.map Prod.fst ⊆ requestKeys)
    (hdisjoint : List.Disjoint requestKeys (inner.map Prod.fst)) :
    ((outer ++ inner).map Prod.fst).Nodup := by
  rw [List.map_append]
  exact List.Nodup.append ho hi fun key hkey => hdisjoint (hkeys hkey)

theorem srtInput_nodup (name : Option String) (config : SrtInputConfig) :
    ((CreateInputRequest.srt name config).toFields.map Prod.fst).Nodup :=
  nodup_flatten (by simp) config.toFields_nodup (by simp [requestKeys]) config.toFields_disjoint

theorem srtOutput_nodup (inputId : Int) (name : Option String) (config : SrtOutputConfig) :
    ((CreateOutputRequest.srt inputId name config).toFields.map Prod.fst).Nodup :=
  nodup_flatten (by simp) config.toFields_nodup (by simp [requestKeys]) config.toFields_disjoint

/-! ## The readings -/

/-- The object has no key twice. It reads as the request, and where the loader looks for the
configuration alone, as the configuration. -/
structure HoldsSrtInput (row : InputRow) (name : Option String) (config : SrtInputConfig) :
    Prop where
  keys : ∃ o, row.configJson = .obj o ∧ (o.map Prod.fst).Nodup
  request : row.configJson.read CreateInputRequest.ofFields = some (.srt name config)
  inner : row.configJson.read SrtInputConfig.ofFields = some config
  loaded : ∀ srtName, baseRequest row srtName = some (some (.srt srtName config))

/-- The object of an output is also read at the type of the common settings. -/
structure HoldsSrtOutput (row : OutputRow) (inputId : Int) (name : Option String)
    (config : SrtOutputConfig) : Prop where
  keys : ∃ o, row.configJson = some (.obj o) ∧ (o.map Prod.fst).Nodup
  request : (row.configJson.bind fun j => j.read CreateOutputRequest.ofFields) =
    some (.srt inputId name config)
  inner : (row.configJson.bind fun j => j.read SrtOutputConfig.ofFields) = some config
  common : (row.configJson.bind fun j => j.read SrtCommonConfig.ofFields) = some config.common
  stopped : ∀ id, stoppedOutputConfig id row = some (.srt id row.name config)
  loaded : ∀ env, storedCommon env row = .ok config.common

theorem holdsSrtInput_row (rowName name : Option String) (config : SrtInputConfig) :
    HoldsSrtInput ((CreateInputRequest.srt name config).row rowName) name config := by
  have hconfig : (Json.obj (CreateInputRequest.srt name config).toFields).read
      SrtInputConfig.ofFields = some config :=
    SrtInputConfig.ofFields_of_sameConfig (sameConfig_srtInput name config)
  refine ⟨⟨_, rfl, srtInput_nodup name config⟩,
    CreateInputRequest.ofFields_toFields (.srt name config), hconfig, fun srtName => ?_⟩
  unfold baseRequest CreateInputRequest.row
  simp only [hconfig]
  cases config <;> rfl

theorem holdsSrtOutput_row (rowInput inputId : Int) (name : Option String)
    (config : SrtOutputConfig) :
    HoldsSrtOutput ((CreateOutputRequest.srt inputId name config).row rowInput) inputId name
      config := by
  have hsame := sameConfig_srtOutput inputId name config
  refine ⟨⟨_, rfl, srtOutput_nodup inputId name config⟩,
    CreateOutputRequest.ofFields_toFields (.srt inputId name config),
    SrtOutputConfig.ofFields_of_sameConfig hsame, SrtOutputConfig.common_ofFields hsame,
    fun id => ?_, fun env => storedCommon_row env rfl⟩
  unfold stoppedOutputConfig
  simp only [storedSrtConfig_row (show ((CreateOutputRequest.srt inputId name config).row
    rowInput).configJson = _ from rfl)]
  cases config <;> rfl

/-- The decoders of the loader agree with the encoder: what the two insertions store for an
SRT request reads back as the request, as its configuration, and as its common settings. -/
theorem storedSrt_decodes :
    (∀ (env : Env) (rowName name : Option String) (config : SrtInputConfig) (id : Int)
      (w w' : World), saveInputToDb env rowName (.srt name config) w = (.ok id, w') →
      ∃ row, w'.db.inputs.find id = some row ∧ HoldsSrtInput row name config) ∧
    ∀ (env : Env) (inputId i : Int) (name : Option String) (config : SrtOutputConfig) (id : Int)
      (w w' : World), let req := CreateOutputRequest.srt i name config
      let (destinationAddr, listenPort) := outputDestination req
      saveOutputToDb env (outputRowName req destinationAddr) inputId (outputRowKind req)
        destinationAddr (some (.obj req.toFields)) listenPort w = (.ok id, w') →
      ∃ row, w'.db.outputs.find id = some row ∧ HoldsSrtOutput row i name config := by
  refine ⟨fun env rowName name config id w w' h => ?_,
    fun env inputId i name config id w w' h => ?_⟩
  · obtain ⟨rfl, hw⟩ := saveInputToDb_ok (congrArg Prod.fst h)
    obtain rfl : _ = w' := hw.symm.trans (congrArg Prod.snd h)
    exact ⟨_, Table.find_eq_some.mpr (Table.mem_insert.mpr (.inr rfl)),
      holdsSrtInput_row rowName name config⟩
  · obtain ⟨rfl, _, hw⟩ := saveOutputToDb_ok (congrArg Prod.fst h)
    obtain rfl : _ = w' := hw.symm.trans (congrArg Prod.snd h)
    exact ⟨_, Table.find_eq_some.mpr (Table.mem_insert.mpr (.inr rfl)),
      holdsSrtOutput_row inputId i name config⟩

/-- A caller with a legacy address, and a listener of an output with error correction. -/
theorem storedSrt_decodes_caller_listener :
    let legacy := SrtInputConfig.caller none none .default none (some "10.0.0.1:9000")
    let fec := SrtOutputConfig.listener none (some 9000) none
      { SrtCommonConfig.default with fec := some ⟨8, 4, some 1, true⟩ } none
    let req := CreateOutputRequest.srt 1 (some "a") fec
    let w := (saveInputToDb localEnv none (.srt none legacy) (.boot emptyDatabase)).2
    let w' := (saveOutputToDb localEnv (some "a") 1 "srt_listener" (outputDestination req).1
      (some (.obj req.toFields)) (outputDestination req).2 w).2
    (∃ row, w.db.inputs.find 1 = some row ∧ HoldsSrtInput row none legacy) ∧
      ∃ row, w'.db.outputs.find 1 = some row ∧ HoldsSrtOutput row 1 (some "a") fec := by
  intro legacy fec req w w'
  exact ⟨storedSrt_decodes.1 localEnv none none legacy 1 (.boot emptyDatabase) w rfl,
    storedSrt_decodes.2 localEnv 1 1 (some "a") fec 1 w w' rfl⟩

end StreamGateway
