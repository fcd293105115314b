import StreamGateway.KeptStanding
import StreamGateway.OperationDeeds

/-!
# Updates of inputs

`update_input` writes the merged configuration into the row, stops the input if it is active,
puts the configuration into the entry and starts the input. The start takes the configuration
and the name from the entry, and the update does not touch the name there.
-/
namespace StreamGateway

open Prog

/-! ## The task of an input -/

/-- What the task of an input works with. An absent bind host is the unspecified address. -/
inductive InputParameters
  | udp (listenPort : UInt16) (bindHost : String)
      (multicastGroup sourceSpecificMulticast : Option String)
  | srt (config : SrtInputConfig)
  | spts (sourceInputId : Int) (programNumber : UInt16) (fillWithNulls : Bool)
  deriving DecidableEq, Repr

/-- The id, the name and the parameters of the input that the task is for. -/
def TaskSpec.inputParameters : TaskSpec → Option (Int × Option String × InputParameters)
  | .udpInput id name listenPort bindHost multicastGroup sourceSpecificMulticast _ _ =>
    some (id, name, .udp listenPort (bindHost.getD "0.0.0.0") multicastGroup
      sourceSpecificMulticast)
  | .srtInput id name config _ _ => some (id, name, .srt config)
  | .sptsInput id name sourceInputId programNumber fillWithNulls _ _ _ =>
    some (id, name, .spts sourceInputId programNumber fillWithNulls)
  | _ => none

def CreateInputRequest.parameters (config : CreateInputRequest) : InputParameters :=
  match config with
  | .udp _ _ _ _ multicastGroup sourceSpecificMulticast _ =>
    .udp config.getBindPort config.getBindHost multicastGroup sourceSpecificMulticast
  | .srt _ srtConfig => .srt srtConfig
  | .spts sourceInputId programNumber fillWithNulls _ =>
    .spts sourceInputId programNumber (fillWithNulls.getD false)

/-- The entry has the name and the configuration, and holds the task, which is live. -/
def World.Runs (w : World) (i : Int) (name : Option String) (config : CreateInputRequest)
    (t : Task) : Prop :=
  t ∈ w.rt.live ∧ ∃ info, w.streams.lookup i = some info ∧ info.name = name ∧
    info.config = config ∧ info.taskHandle = some t

section Starts

variable {env : Env} {w w' : World} {i : Int} {name : Option String}
  {config : CreateInputRequest} {t : Task} {held : Bool}

theorem bindHostFilter_getD (host : String) : (bindHostFilter host).getD "0.0.0.0" = host := by
  unfold bindHostFilter
  split
  · rfl
  · rename_i h
    simp only [ne_eq, Decidable.not_not] at h
    exact h.symm

/-- The task of a UDP or SRT input. -/
theorem recreateTask_runs {plan : StartPlan} (h : plan.config.isSpts = false) (info : InputInfo)
    (rt : Runtime) : ∃ t, (recreateTask plan info rt).1.taskHandle = some t ∧
      t ∈ (recreateTask plan info rt).2.live ∧
      t.spec.inputParameters = some (plan.inputId, plan.name, plan.config.parameters) ∧
      (recreateTask plan info rt).1.name = info.name ∧
      (recreateTask plan info rt).1.config = info.config := by
  unfold recreateTask
  cases hc : plan.config with
  | udp =>
    refine ⟨_, rfl, List.mem_append_right _ (List.mem_singleton_self _), ?_, rfl, rfl⟩
    simp only [TaskSpec.inputParameters, Runtime.newTask, bindHostFilter_getD,
      CreateInputRequest.parameters]
  | srt => exact ⟨_, rfl, List.mem_append_right _ (List.mem_singleton_self _), rfl, rfl, rfl⟩
  | spts =>
    rw [hc] at h
    exact absurd h (by simp [CreateInputRequest.isSpts])

/-- The task of a program filter. -/
theorem spawnSptsInput_runs (source : InputInfo) (id : Int) (programNumber : UInt16)
    (fillWithNulls : Bool) (name : Option String) (stateTx : Option StateChangeSender)
    (rt : Runtime) :
    ∃ t, (spawnSptsInput source id programNumber fillWithNulls name stateTx rt).1.taskHandle =
        some t ∧
      t ∈ (spawnSptsInput source id programNumber fillWithNulls name stateTx rt).2.live ∧
      t.spec.inputParameters =
        some (id, name, .spts source.id programNumber fillWithNulls) :=
  ⟨_, rfl, List.mem_append_right _ (List.mem_singleton_self _), rfl⟩

/-- The entry has got a new task, and its stopped outputs are started. -/
theorem runs_restarted {input : InputInfo} {rt : Runtime} {paused : List AnalysisType}
    (hhandle : input.taskHandle = some t) (hlive : t ∈ rt.live)
    (hs : w'.streams = w.streams.insert i
      { (restartStopped env input rt).1 with pausedAnalysis := paused })
    (hrt : w'.rt = (restartStopped env input rt).2) : w'.Runs i input.name input.config t := by
  obtain ⟨tasks, hstarted⟩ := restartStopped_started env input rt
  refine ⟨?_, _, by rw [hs]; exact AList.lookup_insert _, ?_⟩
  · rw [hrt, hstarted.launches.live]
    exact List.mem_append_left _ hlive
  · dsimp only
    rw [hstarted.frame]
    exact ⟨rfl, rfl, hhandle⟩

/-- The restart of the analyses leaves the task of the input alone. -/
theorem Sections.runs (w w' : World) (h : w.Runs i name config t)
    (hs : Sections [.spawn, .analyse] w w') : w'.Runs i name config t := by
  obtain ⟨hlive, info, hi, hinfo⟩ := h
  rcases hs with hs | ⟨k, hk, hs⟩
  · refine ⟨?_, info, by rw [hs.streams, hi], hinfo⟩
    rwa [hs.runtime.live, List.append_nil]
  cases hs with
  | spawn u hl _ hs =>
    refine ⟨?_, info, by rw [hs, hi], hinfo⟩
    rw [hl.live]
    exact List.mem_append_left _ hlive
  | analyse j a =>
    rcases insertAnalysis_ok j a w with hw | ⟨entry, hj, hw⟩ <;> rw [hw]
    · exact ⟨hlive, info, hi, hinfo⟩
    by_cases hij : i = j
    · subst hij
      obtain rfl := Option.some.inj (hi.symm.trans hj)
      exact ⟨hlive, _, AList.lookup_insert _, hinfo⟩
    · exact ⟨hlive, info, by rwa [AList.lookup_insert_ne hij], hinfo⟩
  | _ => simp at hk

theorem World.Runs.of_eq (h : w.Runs i name config t) (hs : w'.streams = w.streams)
    (hrt : w'.rt = w.rt) : w'.Runs i name config t := by
  rwa [World.Runs, hs, hrt]

theorem startBase_runs {plan : StartPlan} {info : InputInfo} {r : Except String Unit}
    (hi : w.streams.lookup plan.inputId = some info) (hspts : plan.config.isSpts = false)
    (h : (startBase env plan).alone false w = some (r, held, w')) :
    r = .ok () ∧ w'.db = w.db ∧ ∃ t, w'.Runs plan.inputId info.name info.config t ∧
      t.spec.inputParameters = some (plan.inputId, plan.name, plan.config.parameters) := by
  obtain ⟨t, hhandle, hlive, hparameters, hname, hconfig⟩ := recreateTask_runs hspts info w.rt
  rw [alone_startBase] at h
  unfold restartSection at h
  rw [hi] at h
  dsimp only at h
  split at h
  · obtain ⟨rfl, _, rfl⟩ : .ok () = r ∧ _ ∧ _ = w' := by simpa using h
    have hruns := @runs_restarted env w (takePaused w plan.inputId _ _).2 plan.inputId t _ _ []
      hhandle hlive rfl rfl
    rw [hname, hconfig] at hruns
    exact ⟨rfl, rfl, t, hruns, hparameters⟩
  · exact absurd h (by simp)

theorem startSpts_runs {plan : StartPlan} {info : InputInfo} {sourceInputId : Int}
    {programNumber : UInt16} {fillWithNulls : Option Bool} {r : Except String Unit}
    (hids : w.IdsMatch) (hi : w.streams.lookup plan.inputId = some info)
    (hsource : (w.streams.lookup sourceInputId).any (fun src => src.status.isActive) = true)
    (h : (startSpts env plan sourceInputId programNumber fillWithNulls).alone false w =
      some (r, held, w')) :
    r = .ok () ∧ w'.db = w.db ∧ ∃ t, w'.Runs plan.inputId info.name info.config t ∧
      t.spec.inputParameters = some (plan.inputId, plan.name,
        .spts sourceInputId programNumber (fillWithNulls.getD false)) := by
  obtain ⟨source, hsrc, hsource⟩ := (Option.any_eq_true _ _).mp hsource
  obtain ⟨t, hhandle, hlive, hparameters⟩ := spawnSptsInput_runs source plan.inputId
    programNumber (fillWithNulls.getD false) plan.name plan.stateTx w.rt
  rw [hids sourceInputId source hsrc] at hparameters
  rcases hspawn : spawnSptsInput source plan.inputId programNumber (fillWithNulls.getD false)
    plan.name plan.stateTx w.rt with ⟨new, rt₁⟩
  rw [hspawn] at hhandle hlive
  obtain ⟨rfl, _, hpaused⟩ := alone_startSpts_active plan hi hsrc hsource hspawn rfl h
  have hruns := @runs_restarted env w (takePaused w plan.inputId _ _).2 plan.inputId t { info with
      taskHandle := new.taskHandle
      packetTx := new.packetTx
      status := .listening
      startedAt := some rt₁.clock } rt₁ [] hhandle hlive rfl rfl
  exact ⟨rfl, (sameStanding_restartPaused hpaused).db, t,
    (Follows.alone Sections.runs (takes_restartPaused env plan.inputId _ _) hruns hpaused).1,
    hparameters⟩

/-- A start of an input that is not active refuses only its source, and then changes
nothing. -/
theorem startInput_outcome {info : InputInfo} {r : Except String Unit} (hids : w.IdsMatch)
    (hi : w.streams.lookup i = some info) (hinactive : info.status.isActive = false)
    (h : (startInput env i).alone false w = some (r, held, w')) :
    (info.config.mayStart w = false ∧ (∃ e, r = .error e) ∧ w' = w) ∨
      info.config.mayStart w = true ∧ r = .ok () ∧ w'.db = w.db ∧
      ∃ t, w'.Runs i info.name info.config t ∧
        t.spec.inputParameters = some (i, info.name, info.config.parameters) := by
  rcases alone_startInput env i w with ⟨e, _, hactive⟩ | ⟨info', stateTx, hi', _, ha⟩
  · exact absurd (hactive info hi) (by simp [hinactive])
  obtain rfl := Option.some.inj (hi.symm.trans hi')
  obtain rfl : info.id = i := hids i info hi
  rw [ha] at h
  cases hc : info.config with
  | udp =>
    rw [hc] at h
    have hruns := @startBase_runs env w w' held ⟨_, info.id, info.name, stateTx⟩ info r hi rfl h
    rw [hc] at hruns
    exact .inr ⟨rfl, hruns⟩
  | srt =>
    rw [hc] at h
    have hruns := @startBase_runs env w w' held ⟨_, info.id, info.name, stateTx⟩ info r hi rfl h
    rw [hc] at hruns
    exact .inr ⟨rfl, hruns⟩
  | spts sourceInputId programNumber fillWithNulls name =>
    rw [hc] at h
    dsimp only at h
    by_cases hsource : (w.streams.lookup sourceInputId).any fun src => src.status.isActive
    · have hruns := @startSpts_runs env w w' held ⟨_, info.id, info.name, stateTx⟩ info
        sourceInputId programNumber fillWithNulls r hids hi hsource h
      rw [hc] at hruns
      exact .inr ⟨hsource, hruns⟩
    · rw [Bool.not_eq_true] at hsource
      obtain ⟨e, hrefused⟩ := @alone_startSpts_refused env w ⟨_, info.id, info.name, stateTx⟩
        info sourceInputId programNumber fillWithNulls hi hsource
      rw [hrefused] at h
      obtain ⟨rfl, _, rfl⟩ : .error e = r ∧ _ ∧ w = w' := by simpa using h
      exact .inl ⟨hsource, ⟨e, rfl⟩, rfl⟩

end Starts

/-! ## The update -/

/-- The request is merged with the row, and the row is written. -/
structure MergesInput (env : Env) (i : Int) (req : UpdateInputRequest) (w : World)
    (merged : CreateInputRequest) : Prop where
  stored : (storedInput env i req w).1 = .ok merged
  query : env.queryError .updateInput = none

def InputRow.withConfig (row : InputRow) (config : CreateInputRequest) : InputRow :=
  { row with name := getNameFromRequest config, configJson := .obj config.toFields }

def World.withInputRow (w : World) (i : Int) (merged : CreateInputRequest) : World :=
  { w with db := { w.db with
    inputs := w.db.inputs.update i fun row => row.withConfig merged } }

/-- The state in which `update_input` starts the input. -/
def World.withInputUpdate (w : World) (i : Int) (merged : CreateInputRequest) : World :=
  (setConfig i merged ((w.withInputRow i merged).stoppedIfActive i)).2

/-- The input is there, and the source of a program filter is another one that is active. -/
def CreateInputRequest.CanStart (config : CreateInputRequest) (i : Int) (w : World) : Prop :=
  i ∈ w.streams ∧ config.mayStart w = true ∧ ∀ source, config.source = some source → source ≠ i

section Updates

variable {env : Env} {w w' : World} {i : Int} {req : UpdateInputRequest}
  {merged : CreateInputRequest} {held : Bool} {response : Response}

/-- What becomes of the entry before the start. -/
def InputInfo.updated (info : InputInfo) (merged : CreateInputRequest) (rt : Runtime) :
    InputInfo :=
  { (if info.status.isActive then (stopInputInfo info rt).1 else info) with config := merged }

theorem InputInfo.updated_name (info : InputInfo) (merged : CreateInputRequest) (rt : Runtime) :
    (info.updated merged rt).name = info.name := by
  unfold InputInfo.updated
  split <;> rfl

theorem InputInfo.updated_inactive (info : InputInfo) (merged : CreateInputRequest)
    (rt : Runtime) : (info.updated merged rt).status.isActive = false := by
  unfold InputInfo.updated
  split
  · rfl
  · rename_i h
    simpa using h

theorem withInputUpdate_none (hi : w.streams.lookup i = none) (merged : CreateInputRequest) :
    w.withInputUpdate i merged = w.withInputRow i merged := by
  have hi' : (w.withInputRow i merged).streams.lookup i = none := hi
  rw [World.withInputUpdate, stoppedIfActive_none hi', setConfig, hi']

theorem withInputUpdate_streams {info : InputInfo} (hi : w.streams.lookup i = some info)
    (merged : CreateInputRequest) (j : Int) :
    (w.withInputUpdate i merged).streams.lookup j =
      if j = i then some (info.updated merged w.rt) else w.streams.lookup j := by
  have hi' : (w.withInputRow i merged).streams.lookup i = some info := hi
  have hstop : ((w.withInputRow i merged).stoppedIfActive i).streams.lookup i =
      some (if info.status.isActive then (stopInputInfo info w.rt).1 else info) ∧
      (j ≠ i → ((w.withInputRow i merged).stoppedIfActive i).streams.lookup j =
        w.streams.lookup j) := by
    cases ha : info.status.isActive with
    | true =>
      rw [stoppedIfActive_active hi' ha]
      exact ⟨AList.lookup_insert _, fun hj => AList.lookup_insert_ne hj⟩
    | false =>
      rw [stoppedIfActive_inactive hi' ha]
      exact ⟨hi, fun _ => rfl⟩
  simp only [World.withInputUpdate, setConfig, hstop.1]
  rw [HashMap.lookup_insert_eq]
  split
  · rfl
  · next hj => exact hstop.2 hj

theorem withInputUpdate_db (w : World) (i : Int) (merged : CreateInputRequest) :
    (w.withInputUpdate i merged).db = (w.withInputRow i merged).db := by
  have hstop : ((w.withInputRow i merged).stoppedIfActive i).db =
      (w.withInputRow i merged).db := by
    unfold World.stoppedIfActive stopInputSection
    split
    · split
      · rfl
      · split <;> rfl
    · rfl
  unfold World.withInputUpdate setConfig
  split
  · exact hstop
  · exact hstop

theorem withInputUpdate_idsMatch (h : w.IdsMatch) (i : Int) (merged : CreateInputRequest) :
    (w.withInputUpdate i merged).IdsMatch := by
  refine setConfig_idsMatch ?_
  unfold World.stoppedIfActive
  split
  · exact (Section.stop i).idsMatch h
  · exact h

/-- Before the start, the input itself is not active. -/
theorem mayStart_withInputUpdate {info : InputInfo} (hi : w.streams.lookup i = some info)
    (merged : CreateInputRequest) :
    merged.mayStart (w.withInputUpdate i merged) = true ↔ merged.CanStart i w := by
  have hmem : i ∈ w.streams := HashMap.mem_iff.mpr ⟨_, hi⟩
  cases merged with
  | udp => exact iff_of_true rfl ⟨hmem, rfl, fun _ h => nomatch h⟩
  | srt => exact iff_of_true rfl ⟨hmem, rfl, fun _ h => nomatch h⟩
  | spts source programNumber fillWithNulls name =>
    simp only [CreateInputRequest.mayStart, CreateInputRequest.CanStart, hmem, true_and,
      withInputUpdate_streams hi, CreateInputRequest.source, Option.some.injEq, forall_eq']
    by_cases hsource : source = i
    · subst hsource
      simp [InputInfo.updated_inactive]
    · simp [hsource]

/-- What an update comes to. -/
inductive InputUpdateOutcome (env : Env) (i : Int) (req : UpdateInputRequest) (w : World) :
    Response → World → Prop
  | refused {response : Response} : 400 ≤ response.status →
      (∀ merged, ¬ MergesInput env i req w merged) → InputUpdateOutcome env i req w response w
  | notStarted {response : Response} (merged : CreateInputRequest) : 400 ≤ response.status →
      MergesInput env i req w merged → ¬ merged.CanStart i w →
      InputUpdateOutcome env i req w response (w.withInputUpdate i merged)
  | started {response : Response} {w' : World} (merged : CreateInputRequest) (info : InputInfo)
      (t : Task) : response.status = 200 → MergesInput env i req w merged →
      merged.CanStart i w → w.streams.lookup i = some info →
      w'.Runs i info.name merged t →
      t.spec.inputParameters = some (i, info.name, merged.parameters) →
      (w'.db.inputs.find i).map (fun row => (row.name, row.configJson)) =
        ((w.db.inputs.find i).map fun row => row.withConfig merged).map
          (fun row => (row.name, row.configJson)) →
      InputUpdateOutcome env i req w response w'

/-- The status goes to a column of its own. -/
theorem updateInputStatusInDb_frame (env : Env) (i : Int) (status : String) (w : World) :
    (updateInputStatusInDb env i status w).2.streams = w.streams ∧
      (updateInputStatusInDb env i status w).2.rt = w.rt ∧
      ((updateInputStatusInDb env i status w).2.db.inputs.find i).map
          (fun row => (row.name, row.configJson)) =
        (w.db.inputs.find i).map fun row => (row.name, row.configJson) := by
  refine ⟨query_streams _ _ _ _, query_rt _ _ _ _, ?_⟩
  unfold updateInputStatusInDb query
  split
  · rfl
  · dsimp only
    rw [Table.find_update, if_pos rfl, Option.map_map]
    rfl

theorem storedInput_error {r : Response} (h : (storedInput env i req w).1 = .error r) :
    400 ≤ r.status := by
  unfold storedInput at h
  split at h
  · obtain rfl := Except.error.inj h
    simp [databaseError, Response.internalServerError]
  · obtain rfl := Except.error.inj h
    simp [inputNotFound, Response.notFound]
  · rename_i row _ _
    unfold mergedInput at h
    split at h
    · obtain rfl := Except.error.inj h
      simp [Response.internalServerError]
    · split at h
      · obtain rfl := Except.error.inj h
        simp [Response.badRequest]
      · split at h
        · obtain rfl := Except.error.inj h
          simp [Response.badRequest]
        · exact absurd h (by simp)

/-- What the merged configuration comes to once it is stored. -/
theorem applyInputUpdate_outcome (hids : w.IdsMatch) (hmerges : MergesInput env i req w merged)
    (h : (applyInputUpdate env i merged).alone false (w.withInputRow i merged) =
      some (response, held, w')) : InputUpdateOutcome env i req w response w' := by
  unfold applyInputUpdate at h
  rw [alone_bind, alone_stopIfActive_eq] at h
  dsimp only [Option.bind_some] at h
  rw [alone_locked_bind] at h
  change ((startInput env i).bind _).alone false (w.withInputUpdate i merged) = _ at h
  obtain ⟨r, _, w₁, hstart, h⟩ := alone_bind_eq_some.mp h
  cases hi : w.streams.lookup i with
  | none =>
    have hi' : (w.withInputUpdate i merged).streams.lookup i = none := by
      rw [withInputUpdate_none hi]
      exact hi
    rcases alone_startInput env i (w.withInputUpdate i merged) with
      ⟨e, ha, _⟩ | ⟨info, _, hinfo, _⟩
    · obtain ⟨rfl, rfl, rfl⟩ : .error e = r ∧ false = _ ∧ _ = w₁ := by
        simpa using ha.symm.trans hstart
      obtain ⟨rfl, _, rfl⟩ := alone_ret_eq_some.mp h
      refine .notStarted merged (by simp [Response.internalServerError])
        hmerges fun hcan => ?_
      exact absurd (AList.lookup_isSome.mpr hcan.1) (by simp [hi])
    · exact absurd (hi'.symm.trans hinfo) (by simp)
  | some info =>
  have hi' := (withInputUpdate_streams hi merged i).trans (if_pos rfl)
  rcases startInput_outcome (withInputUpdate_idsMatch hids i merged) hi'
      (info.updated_inactive merged w.rt) hstart with
    ⟨hmay, ⟨e, rfl⟩, rfl⟩ | ⟨hmay, rfl, hdb, t, hruns, hparameters⟩
  · obtain ⟨rfl, _, rfl⟩ := alone_ret_eq_some.mp h
    refine .notStarted merged (by simp [Response.internalServerError])
      hmerges fun hcan => ?_
    rw [← mayStart_withInputUpdate hi merged] at hcan
    exact absurd (hmay.symm.trans hcan) (by simp)
  · obtain ⟨rfl, _, rfl⟩ := alone_ret_eq_some.mp h
    have hstatus := updateInputStatusInDb_frame env i "listening" w₁
    rw [InputInfo.updated_name] at hruns hparameters
    refine .started merged info t rfl hmerges ((mayStart_withInputUpdate hi merged).mp hmay) hi
      (hruns.of_eq hstatus.1 hstatus.2.1) hparameters ?_
    rw [hstatus.2.2, hdb, withInputUpdate_db, World.withInputRow, Table.find_update, if_pos rfl]

theorem updateInput_outcome (hids : w.IdsMatch)
    (h : (updateInput env i req).alone false w = some (response, held, w')) :
    InputUpdateOutcome env i req w response w' := by
  unfold updateInput at h
  rw [alone_atomic_bind, storedInput_world] at h
  cases hstored : (storedInput env i req w).1 with
  | error r =>
    rw [hstored] at h
    obtain ⟨rfl, _, rfl⟩ := alone_ret_eq_some.mp h
    refine .refused (storedInput_error hstored) fun merged hmerges => ?_
    exact absurd (hstored.symm.trans hmerges.stored) (by simp)
  | ok merged =>
  rw [hstored] at h
  dsimp only at h
  rw [alone_atomic_bind] at h
  unfold updateInputInDb query at h
  cases hq : env.queryError .updateInput with
  | some e =>
    rw [hq] at h
    obtain ⟨rfl, _, rfl⟩ := alone_ret_eq_some.mp h
    refine .refused (by simp [databaseError, Response.internalServerError]) fun _ hmerges => ?_
    exact absurd (hq.symm.trans hmerges.query) (by simp)
  | none =>
    rw [hq] at h
    exact applyInputUpdate_outcome hids ⟨hstored, hq⟩ h

end Updates

/-! ## Agreement -/

/-- The entry has the name and the configuration of the row, and the task that it holds works
with them. -/
def World.InputAgrees (w : World) (i : Int) : Prop :=
  ∃ row config t, w.db.inputs.find i = some row ∧
    row.configJson.read CreateInputRequest.ofFields = some config ∧
    w.Runs i row.name config t ∧
    t.spec.inputParameters = some (i, row.name, config.parameters)

/-- After an update that succeeds memory and database agree if and only if the entry had the
name of the merged configuration before. -/
theorem updatedInput_agrees_iff {env : Env} {i : Int} {req : UpdateInputRequest} {w w' : World}
    {held : Bool} {response : Response} (hw : Reachable w)
    (h : (updateInput env i req).alone false w = some (response, held, w'))
    (hs : response.status = 200) :
    w'.InputAgrees i ↔ ∀ merged info, (storedInput env i req w).1 = .ok merged →
      w.streams.lookup i = some info → info.name = getNameFromRequest merged := by
  cases updateInput_outcome hw.idsMatch h with
  | refused hstatus _ => omega
  | notStarted _ hstatus _ _ => omega
  | started merged info t _ hmerges _ hi hruns hparameters hrow =>
    obtain ⟨row₀, hrow₀, _⟩ := (storedInput_spec env i req w).2 merged hmerges.stored
    rw [hrow₀, Option.map_some, Option.map_some] at hrow
    obtain ⟨row, hfind, heq⟩ := Option.map_eq_some_iff.mp hrow
    obtain ⟨hname, hjson⟩ := Prod.mk.inj heq
    have hread : row.configJson.read CreateInputRequest.ofFields = some merged := by
      rw [hjson]
      exact CreateInputRequest.ofFields_toFields merged
    have hname' : row.name = getNameFromRequest merged := hname
    constructor
    · rintro ⟨row', config, t', hfind', _, ⟨_, info', hi', hnamed, _⟩, _⟩
      obtain rfl := Option.some.inj (hfind.symm.trans hfind')
      obtain ⟨_, info'', hi'', hkept, _⟩ := hruns
      obtain rfl := Option.some.inj (hi'.symm.trans hi'')
      intro merged' info₀ hstored hi₀
      obtain rfl := Except.ok.inj (hmerges.stored.symm.trans hstored)
      obtain rfl := Option.some.inj (hi.symm.trans hi₀)
      exact hkept.symm.trans (hnamed.trans hname')
    · intro hkept
      have hsame := hkept merged info hmerges.stored hi
      rw [hsame, ← hname'] at hruns hparameters
      exact ⟨row, merged, t, hfind, hread, hruns, hparameters⟩

/-- A UDP input with a name was created. -/
def namedWorld : World :=
  (World.boot emptyDatabase).after ((Operation.createInput
    (.udp none (some 5000) none (some "TV Channel 1") none none none)).prog localEnv)

theorem rests_namedWorld : Rests namedWorld :=
  rests_empty.after (.createInput
    (.udp none (some 5000) none (some "TV Channel 1") none none none)) rfl

/-- An update that moves a UDP input to another port, and may rename it. -/
def portUpdate (name : Option String) : UpdateInputRequest :=
  .udp none (some 5001) name none none

theorem movedInput_agrees :
    (namedWorld.after (updateInput localEnv 1 (portUpdate none)).ignore).InputAgrees 1 := by
  obtain ⟨response, held, hr, hstatus⟩ :=
    @alone_answers (updateInput localEnv 1 (portUpdate none)) namedWorld 200 (by decide +kernel)
  refine (updatedInput_agrees_iff rests_namedWorld.reachable hr hstatus).mpr
    fun merged info hmerged hinfo => ?_
  have hnames : (storedInput localEnv 1 (portUpdate none) namedWorld).1.toOption.map
      getNameFromRequest = (namedWorld.streams.lookup 1).map InputInfo.name := by decide +kernel
  rw [hmerged, hinfo] at hnames
  exact (Option.some.inj hnames).symm

/-- The row gets the new name, and the entry keeps the old one. -/
theorem renamedInput_disagrees :
    ¬ ∀ env i req w w' held response, Reachable w →
      (updateInput env i req).alone false w = some (response, held, w') →
      response.status = 200 → w'.InputAgrees i := by
  intro h
  obtain ⟨response, held, hr, hstatus⟩ :=
    @alone_answers (updateInput localEnv 1 (portUpdate (some "TV Channel 2"))) namedWorld 200
      (by decide +kernel)
  obtain ⟨row, config, t, hrow, _, ⟨_, info, hi, hname, _⟩, _⟩ :=
    h _ _ _ _ _ _ _ rests_namedWorld.reachable hr hstatus
  have hnames : ((namedWorld.after (updateInput localEnv 1
        (portUpdate (some "TV Channel 2"))).ignore).db.inputs.find 1).map InputRow.name ≠
      ((namedWorld.after (updateInput localEnv 1
        (portUpdate (some "TV Channel 2"))).ignore).streams.lookup 1).map InputInfo.name := by
    decide +kernel
  rw [hrow, hi] at hnames
  exact hnames (congrArg some hname.symm)

end StreamGateway
