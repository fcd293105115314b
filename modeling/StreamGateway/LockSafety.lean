import StreamGateway.Invariants

/-!
# Guards of `ACTIVE_STREAMS`

The lock is not re-entrant, so a call that requests it while it holds a guard never ends.
All operations but two run to their end alone from every state. Starting an input does not
when the input is UDP or SRT and has paused analyses, which are restarted under the guard,
and neither does updating an input, which starts it.
-/
namespace StreamGateway

open Prog

variable {held : Bool}

/-! ## Operations that always end -/

theorem ends_startAnalysis (env : Env) (inputId : Int) (analysisType : AnalysisType)
    (timeoutMinutes : Option UInt64) :
    Ends false false (startAnalysis env inputId analysisType timeoutMinutes) := by
  refine Ends.bind (Ends.atomic _) fun analysisId => Ends.bind (Ends.locked _ _) fun r => ?_
  cases r with
  | error e => exact Ends.ret _
  | ok rx =>
  refine Ends.bind (Ends.atomic _) fun r => ?_
  cases r with
  | error e => exact Ends.ret _
  | ok a => exact Ends.locked _ _

theorem ends_restartPaused (env : Env) (inputId : Int) (paused : List AnalysisType) :
    Ends false false (restartPaused env inputId paused) := by
  induction paused with
  | nil => exact Ends.ret _
  | cons analysisType rest ih =>
    exact Ends.bind (ends_startAnalysis env inputId analysisType none) fun _ => ih

theorem ends_startSpts (env : Env) (plan : StartPlan) (sourceInputId : Int)
    (programNumber : UInt16) (fillWithNulls : Option Bool) :
    Ends false false (startSpts env plan sourceInputId programNumber fillWithNulls) := by
  refine Ends.bind (Ends.locked _ _) fun r => ?_
  cases r with
  | error e => exact Ends.ret _
  | ok _ =>
  refine Ends.bind (Ends.locked _ _) fun r => ?_
  cases r with
  | error e => exact Ends.ret _
  | ok _ =>
  refine Ends.bind (Ends.locked _ _) fun r => ?_
  cases r with
  | error e => exact Ends.ret _
  | ok new =>
  refine Ends.bind (Ends.locked _ _) fun r => ?_
  cases r with
  | error e => exact Ends.ret _
  | ok paused => exact Ends.bind (ends_restartPaused env plan.inputId paused) fun _ => Ends.ret _

theorem ends_spawnInput (req : CreateInputRequest) (id : Int) (name : Option String) :
    Ends false false (spawnInput req id name) := by
  cases req with
  | udp => exact Ends.bind (Ends.atomic _) fun _ => Ends.ret _
  | srt => exact Ends.bind (Ends.atomic _) fun _ => Ends.bind (Ends.atomic _) fun _ => Ends.ret _
  | spts => exact Ends.locked _ _

theorem ends_createInput (env : Env) (req : CreateInputRequest) :
    Ends false false (createInput env req) := by
  unfold createInput
  split
  · exact Ends.ret _
  refine Ends.bind (reads_assignInputPort env req).ends fun r => ?_
  rcases r with r | ⟨finalReq, assignedPort⟩
  · exact Ends.ret _
  refine Ends.bind (Ends.atomic _) fun r => ?_
  cases r with
  | error e => exact Ends.ret _
  | ok id =>
  refine Ends.bind (ends_spawnInput finalReq id (inputName req)) fun r => ?_
  cases r with
  | ok info => exact Ends.bind (Ends.locked _ _) fun _ => Ends.ret _
  | error e =>
    refine Ends.bind (Ends.atomic _) fun info => Ends.acquire ?_
    refine Ends.bind (Ends.atomic _) fun _ => Ends.bind (Ends.atomic _) fun _ => ?_
    exact Ends.release (Ends.ret _)

theorem ends_deleteInput (env : Env) (inputId : Int) :
    Ends false false (deleteInput env inputId) := by
  refine Ends.acquire (Ends.bind (Ends.atomic _) fun found => ?_)
  cases found with
  | false => exact Ends.release (Ends.ret _)
  | true => exact Ends.bind (Ends.atomic _) fun _ => Ends.release (Ends.ret _)

theorem ends_createOutputHeld (env : Env) (req : CreateOutputRequest) :
    Ends true true (createOutputHeld env req) := by
  refine Ends.bind (reads_assignOutputPort env req).ends fun r => ?_
  rcases r with r | ⟨finalReq, assignedPort⟩
  · exact Ends.ret _
  refine Ends.bind (reads_checkConflicts env _ _ _).ends fun r => ?_
  cases r with
  | error r => exact Ends.ret _
  | ok _ =>
  refine Ends.bind (Ends.atomic _) fun r => ?_
  cases r with
  | error e => exact Ends.ret _
  | ok outputId =>
  exact Ends.bind (Ends.atomic _) fun r => by cases r <;> exact Ends.ret _

theorem ends_createOutput (env : Env) (req : CreateOutputRequest) :
    Ends false false (createOutput env req) := by
  unfold createOutput
  split
  · exact Ends.ret _
  refine Ends.acquire (Ends.bind (show Ends true true (createOutputGuarded env req) from ?_)
    fun _ => Ends.release (Ends.ret _))
  refine Ends.bind (Ends.atomic _) fun found => ?_
  cases found with
  | false => exact Ends.ret _
  | true => exact ends_createOutputHeld env req

theorem ends_deleteOutput (env : Env) (inputId outputId : Int) :
    Ends false false (deleteOutput env inputId outputId) := by
  refine Ends.acquire (Ends.bind (Ends.atomic _) fun r => ?_)
  cases r with
  | error r => exact Ends.release (Ends.ret _)
  | ok _ => exact Ends.bind (Ends.atomic _) fun _ => Ends.release (Ends.ret _)

theorem ends_updateOutput (env : Env) (outputId : Int) (req : UpdateOutputRequest) :
    Ends false false (updateOutput env outputId req) := by
  refine Ends.bind (Ends.atomic _) fun r => ?_
  rcases r with r | ⟨inputId, mergedConfig⟩
  · exact Ends.ret _
  refine Ends.bind (Ends.atomic _) fun r => ?_
  cases r with
  | error e => exact Ends.ret _
  | ok _ =>
  refine Ends.bind (Ends.locked _ _) fun r => ?_
  cases r with
  | none => exact Ends.ret _
  | some isActive =>
  refine Ends.bind (show Ends false false _ from ?_) fun r => ?_
  · cases isActive with
    | false => exact Ends.ret _
    | true => exact Ends.locked _ _
  cases r with
  | error e => exact Ends.ret _
  | ok _ =>
  refine Ends.bind (Ends.locked _ _) fun _ => Ends.bind (Ends.locked _ _) fun r => ?_
  cases r with
  | error e => exact Ends.ret _
  | ok _ => exact Ends.bind (Ends.atomic _) fun _ => Ends.ret _

theorem ends_stopInputEndpoint (env : Env) (inputId : Int) :
    Ends false false (stopInputEndpoint env inputId) := by
  refine Ends.bind (Ends.locked _ _) fun r => ?_
  cases r with
  | error e => exact Ends.ret _
  | ok _ => exact Ends.bind (Ends.atomic _) fun _ => Ends.ret _

theorem ends_startOutputEndpoint (env : Env) (outputId : Int) :
    Ends false false (startOutputEndpoint env outputId) := by
  refine Ends.bind (Ends.atomic _) fun r => ?_
  cases r with
  | error e => exact Ends.ret _
  | ok inputId =>
  refine Ends.bind (Ends.locked _ _) fun r => ?_
  cases r with
  | error e => exact Ends.ret _
  | ok _ =>
  exact Ends.bind (Ends.locked _ _) fun _ => Ends.bind (Ends.atomic _) fun _ => Ends.ret _

theorem ends_stopOutputEndpoint (env : Env) (outputId : Int) :
    Ends false false (stopOutputEndpoint env outputId) := by
  refine Ends.bind (Ends.atomic _) fun r => ?_
  cases r with
  | error e => exact Ends.ret _
  | ok inputId =>
  refine Ends.bind (Ends.locked _ _) fun r => ?_
  cases r with
  | error e => exact Ends.ret _
  | ok _ => exact Ends.bind (Ends.atomic _) fun _ => Ends.ret _

/-! ## Starting an input -/

/-- Under a guard an analysis never starts. -/
theorem alone_startAnalysis_held (env : Env) (inputId : Int) (analysisType : AnalysisType)
    (timeoutMinutes : Option UInt64) (w : World) :
    (startAnalysis env inputId analysisType timeoutMinutes).alone true w = none := rfl

theorem alone_restartPausedHeld (env : Env) (inputId : Int) (paused : List AnalysisType)
    (w : World) :
    (restartPausedHeld env inputId paused).alone true w =
      if paused = [] then some ((), true, w) else none := by
  cases paused with
  | nil => rfl
  | cons analysisType rest =>
    rw [restartPausedHeld, alone_bind, alone_startAnalysis_held]
    rfl

theorem alone_startBase (env : Env) (plan : StartPlan) (w : World) :
    (startBase env plan).alone false w =
      match restartSection env plan w with
      | (.error e, w') => some (.error e, false, w')
      | (.ok paused, w') => if paused = [] then some (.ok (), false, w') else none := by
  unfold startBase
  rw [alone_acquire, alone_atomic_bind]
  rcases restartSection env plan w with ⟨r | paused, w'⟩
  · rfl
  · dsimp only
    rw [alone_bind, alone_restartPausedHeld]
    split <;> rfl

theorem alone_stateTxOrGlobal (held : Bool) (stateTx : Option StateChangeSender) (w : World) :
    ∃ stateTx', (stateTxOrGlobal stateTx).alone held w = some (stateTx', held, w) := by
  unfold stateTxOrGlobal
  split
  · exact ⟨stateTx, rfl⟩
  · exact ⟨w.rt.stateChangeTx, rfl⟩

/-- What `start_input` does alone: nothing when it refuses, and else it goes on with the plan
that it made of the entry. -/
theorem alone_startInput (env : Env) (inputId : Int) (w : World) :
    (∃ e, (startInput env inputId).alone false w = some (.error e, false, w) ∧
      ∀ info, w.streams.lookup inputId = some info → info.status.isActive = true) ∨
    ∃ info stateTx, w.streams.lookup inputId = some info ∧ info.status.isActive = false ∧
      (startInput env inputId).alone false w =
        (match info.config with
          | .spts sourceInputId programNumber fillWithNulls _ =>
            startSpts env ⟨info.config, info.id, info.name, stateTx⟩ sourceInputId programNumber
              fillWithNulls
          | _ => startBase env ⟨info.config, info.id, info.name, stateTx⟩).alone false w := by
  unfold startInput
  rw [alone_locked_bind]
  unfold planStart
  cases hi : w.streams.lookup inputId with
  | none => exact .inl ⟨_, rfl, fun _ h => absurd h (by simp)⟩
  | some info =>
    by_cases ha : info.status.isActive = true
    · simp only [ha, if_true]
      exact .inl ⟨_, rfl, fun _ h => Option.some.inj h ▸ ha⟩
    · simp only [ha, Bool.false_eq_true, if_false]
      obtain ⟨stateTx, hs⟩ := alone_stateTxOrGlobal false info.stateTx w
      refine .inr ⟨info, stateTx, rfl, by simpa using ha, ?_⟩
      rw [alone_bind, hs]
      cases info.config <;> rfl

/-- `start_input` would restart a paused analysis under its guard. -/
def StartBlocks (inputId : Int) (w : World) : Prop :=
  ∃ info, w.streams.lookup inputId = some info ∧ info.status.isActive = false ∧
    info.config.isSpts = false ∧ info.pausedAnalysis ≠ []

theorem restartSection_found (env : Env) {plan : StartPlan} {w : World} {info : InputInfo}
    (h : w.streams.lookup plan.inputId = some info) :
    (restartSection env plan w).1 = .ok info.pausedAnalysis := by
  unfold restartSection
  rw [h]
  dsimp only [takePaused]
  rw [restartStopped_pausedAnalysis, recreateTask_pausedAnalysis]

theorem alone_startBase_none {env : Env} {plan : StartPlan} {w : World} {info : InputInfo}
    (h : w.streams.lookup plan.inputId = some info) :
    (startBase env plan).alone false w = none ↔ info.pausedAnalysis ≠ [] := by
  have hr := restartSection_found env h
  rw [alone_startBase]
  rcases hw : restartSection env plan w with ⟨r, w'⟩
  rw [hw] at hr
  obtain rfl : r = .ok info.pausedAnalysis := hr
  dsimp only
  split <;> simp_all

theorem alone_startInput_none {env : Env} {inputId : Int} {w : World} (hids : w.IdsMatch) :
    (startInput env inputId).alone false w = none ↔ StartBlocks inputId w := by
  rcases alone_startInput env inputId w with ⟨e, ha, hactive⟩ | ⟨info, stateTx, hi, hactive, ha⟩
  · rw [ha]
    refine ⟨fun h => absurd h (by simp), ?_⟩
    rintro ⟨info, hi, hinactive, _⟩
    simp [hactive info hi] at hinactive
  rw [ha]
  have hlookup : w.streams.lookup info.id = some info := by rw [hids inputId info hi, hi]
  have hblocks : StartBlocks inputId w ↔ info.config.isSpts = false ∧ info.pausedAnalysis ≠ [] := by
    constructor
    · rintro ⟨info', hi', _, hspts, hpaused⟩
      obtain rfl := Option.some.inj (hi.symm.trans hi')
      exact ⟨hspts, hpaused⟩
    · exact fun ⟨hspts, hpaused⟩ => ⟨info, hi, hactive, hspts, hpaused⟩
  rw [hblocks]
  cases hc : info.config with
  | spts sourceInputId programNumber fillWithNulls name =>
    simp only [CreateInputRequest.isSpts, Bool.true_eq_false, false_and, iff_false]
    exact (ends_startSpts env _ sourceInputId programNumber fillWithNulls).ne_none w
  | udp =>
    simp only [CreateInputRequest.isSpts, true_and]
    exact alone_startBase_none hlookup
  | srt =>
    simp only [CreateInputRequest.isSpts, true_and]
    exact alone_startBase_none hlookup

/-- `start_input` gives its last guard back. -/
theorem alone_startInput_held {env : Env} {inputId : Int} {w w' : World}
    {r : Except String Unit} (h : (startInput env inputId).alone false w = some (r, held, w')) :
    held = false := by
  have hbase : ∀ plan, (startBase env plan).alone false w = some (r, held, w') → held = false := by
    intro plan hp
    rw [alone_startBase] at hp
    split at hp
    · exact (Prod.mk.inj (Prod.mk.inj (Option.some.inj hp)).2).1.symm
    · split at hp
      · exact (Prod.mk.inj (Prod.mk.inj (Option.some.inj hp)).2).1.symm
      · exact absurd hp (by simp)
  rcases alone_startInput env inputId w with ⟨e, ha, _⟩ | ⟨info, stateTx, _, _, ha⟩
  · rw [ha] at h
    exact (Prod.mk.inj (Prod.mk.inj (Option.some.inj h)).2).1.symm
  · rw [ha] at h
    cases hc : info.config with
    | spts => exact (ends_startSpts _ _ _ _ _).held_eq (by rwa [hc] at h)
    | udp => exact hbase _ (by rwa [hc] at h)
    | srt => exact hbase _ (by rwa [hc] at h)

/-! ## Updating an input -/

/-- The entry has analyses that `update_input` restarts. -/
def InputInfo.Restarts (info : InputInfo) : Prop :=
  info.pausedAnalysis ≠ [] ∨ info.status.isActive = true ∧ info.analysisTasks.toPairs ≠ []

theorem stopInputSection_active {inputId : Int} {w : World} {info : InputInfo}
    (hi : w.streams.lookup inputId = some info) (ha : info.status.isActive = true) :
    stopInputSection inputId w = (.ok (), { w with
      streams := w.streams.insert inputId (stopInputInfo info w.rt).1
      rt := (stopInputInfo info w.rt).2 }) := by
  unfold stopInputSection
  rw [hi]
  have hs : info.status ≠ .stopped := by
    rintro h
    simp [h, StreamStatus.isActive] at ha
  simp only [hs, if_false]

/-- The state in which `update_input` replaces the configuration. -/
def World.stoppedIfActive (w : World) (i : Int) : World :=
  if (isActiveInput i w).1 then (stopInputSection i w).2 else w

section StoppedIfActive

variable {w : World} {i : Int}

theorem stoppedIfActive_none (hi : w.streams.lookup i = none) : w.stoppedIfActive i = w := by
  simp [World.stoppedIfActive, isActiveInput, hi]

theorem stoppedIfActive_active {info : InputInfo} (hi : w.streams.lookup i = some info)
    (ha : info.status.isActive = true) :
    w.stoppedIfActive i = { w with
      streams := w.streams.insert i (stopInputInfo info w.rt).1
      rt := (stopInputInfo info w.rt).2 } := by
  simp only [World.stoppedIfActive, isActiveInput, hi, Option.any_some, ha, if_true,
    stopInputSection_active hi ha]

theorem stoppedIfActive_inactive {info : InputInfo} (hi : w.streams.lookup i = some info)
    (ha : info.status.isActive = false) : w.stoppedIfActive i = w := by
  simp [World.stoppedIfActive, isActiveInput, hi, ha]

theorem alone_stopIfActive_eq (i : Int) (w : World) :
    (stopIfActive i).alone false w = some (.ok (), false, w.stoppedIfActive i) := by
  unfold stopIfActive
  rw [alone_locked_bind]
  cases hi : w.streams.lookup i with
  | none =>
    rw [stoppedIfActive_none hi]
    simp [isActiveInput, hi]
  | some info =>
    cases ha : info.status.isActive with
    | true =>
      rw [stoppedIfActive_active hi ha]
      simp only [isActiveInput, hi, Option.any_some, ha, if_true, stopInput, alone_locked,
        stopInputSection_active hi ha]
    | false =>
      rw [stoppedIfActive_inactive hi ha]
      simp [isActiveInput, hi, ha]

end StoppedIfActive

theorem alone_stopIfActive (inputId : Int) (w : World) (hids : w.IdsMatch) :
    ∃ w', (stopIfActive inputId).alone false w = some (.ok (), false, w') ∧ w'.IdsMatch ∧
      (w.streams.lookup inputId = none → w'.streams.lookup inputId = none) ∧
      ∀ info, w.streams.lookup inputId = some info → ∃ info',
        w'.streams.lookup inputId = some info' ∧ info'.status.isActive = false ∧
        (info'.pausedAnalysis ≠ [] ↔ info.Restarts) := by
  refine ⟨w.stoppedIfActive inputId, alone_stopIfActive_eq inputId w, ?_, fun hi => ?_,
    fun info hi => ?_⟩
  · unfold World.stoppedIfActive
    split
    · exact (Section.stop inputId).idsMatch hids
    · exact hids
  · rw [stoppedIfActive_none hi, hi]
  cases ha : info.status.isActive with
  | true =>
    rw [stoppedIfActive_active hi ha]
    refine ⟨_, AList.lookup_insert _, rfl, ?_⟩
    simp only [stopInputInfo, InputInfo.Restarts, ha, true_and, ne_eq,
      List.append_eq_nil_iff, List.map_eq_nil_iff]
    tauto
  | false =>
    rw [stoppedIfActive_inactive hi ha]
    exact ⟨info, hi, ha, by simp [InputInfo.Restarts, ha]⟩

theorem setConfig_idsMatch {inputId : Int} {config : CreateInputRequest} {w : World}
    (h : w.IdsMatch) : (setConfig inputId config w).2.IdsMatch :=
  (section_setConfig inputId config w).idsMatch h

theorem setConfig_found {inputId : Int} {config : CreateInputRequest} {w : World}
    {info : InputInfo} (h : w.streams.lookup inputId = some info) :
    (setConfig inputId config w).2.streams.lookup inputId =
      some { info with config := config } := by
  unfold setConfig
  rw [h]
  exact AList.lookup_insert _

theorem alone_applyInputUpdate_none {env : Env} {inputId : Int} {config : CreateInputRequest}
    {w : World} (hids : w.IdsMatch) :
    (applyInputUpdate env inputId config).alone false w = none ↔
      config.isSpts = false ∧ ∃ info, w.streams.lookup inputId = some info ∧ info.Restarts := by
  obtain ⟨w', ha, hids', hnone, hsome⟩ := alone_stopIfActive inputId w hids
  unfold applyInputUpdate
  rw [alone_bind, ha]
  dsimp only [Option.bind_some]
  rw [alone_locked_bind, alone_bind_eq_none, alone_startInput_none (setConfig_idsMatch hids')]
  · cases hi : w.streams.lookup inputId with
    | none =>
      have hset : (setConfig inputId config w').2 = w' := by
        unfold setConfig
        rw [hnone hi]
      rw [hset, StartBlocks, hnone hi]
      simp
    | some info =>
      obtain ⟨info', hi', hinactive, hrestarts⟩ := hsome info hi
      rw [StartBlocks, setConfig_found hi']
      simp only [Option.some.injEq, exists_eq_left', hinactive, true_and]
      rw [hrestarts]
  · intro r held' s' _
    cases r <;> exact Option.some_ne_none _

theorem storedInput_world (env : Env) (inputId : Int) (req : UpdateInputRequest) (w : World) :
    (storedInput env inputId req w).2 = w := by
  have h := select_world env .getInputById (fun db => db.inputs.find inputId) w
  unfold storedInput getInputById
  split <;> simp_all

/-- `update_input` would restart an analysis under its guard. -/
def UpdateBlocks (env : Env) (inputId : Int) (req : UpdateInputRequest) (w : World) : Prop :=
  env.queryError .updateInput = none ∧
    ∃ config, (storedInput env inputId req w).1 = .ok config ∧ config.isSpts = false ∧
      ∃ info, w.streams.lookup inputId = some info ∧ info.Restarts

theorem alone_updateInput_none {env : Env} {inputId : Int} {req : UpdateInputRequest} {w : World}
    (hids : w.IdsMatch) :
    (updateInput env inputId req).alone false w = none ↔ UpdateBlocks env inputId req w := by
  unfold updateInput UpdateBlocks
  rw [alone_atomic_bind, storedInput_world]
  cases hstored : (storedInput env inputId req w).1 with
  | error r => simp
  | ok config =>
    dsimp only
    rw [alone_atomic_bind]
    unfold updateInputInDb query
    cases hq : env.queryError .updateInput with
    | some e => simp
    | none =>
      dsimp only
      refine (alone_applyInputUpdate_none ?_).trans ?_
      · exact hids
      · simp

/-! ## All operations -/

/-- The operation starts a UDP or SRT input under a guard and finds analyses to restart. -/
def BlocksItself (env : Env) : Operation → World → Prop
  | .startInput inputId, w => StartBlocks inputId w
  | .startInputEndpoint inputId, w => StartBlocks inputId w
  | .updateInput inputId req, w => UpdateBlocks env inputId req w
  | _, _ => False

theorem alone_startInputEndpoint_none {env : Env} {inputId : Int} {w : World}
    (hids : w.IdsMatch) :
    (startInputEndpoint env inputId).alone false w = none ↔ StartBlocks inputId w := by
  rw [startInputEndpoint, alone_bind_eq_none, alone_startInput_none hids]
  intro r held' w' hr
  obtain rfl := alone_startInput_held hr
  cases r <;> exact Option.some_ne_none _

/-- From every reachable state an operation runs to its end alone, unless it starts a UDP or
SRT input and finds analyses to restart. -/
theorem alone_isSome_iff {env : Env} {op : Operation} {w : World} (h : Reachable w) :
    ((op.prog env).alone false w).isSome ↔ ¬ BlocksItself env op w := by
  have hids := h.idsMatch
  rw [Option.isSome_iff_ne_none, ne_eq, not_iff_not]
  have hends : ∀ {ρ : Type} {p : Prog World ρ}, Ends false false p →
      (p.ignore.alone false w = none ↔ False) := fun hp =>
    alone_ignore_eq_none.trans (iff_false_intro (hp.ne_none w))
  cases op with
  | startInput inputId => exact alone_ignore_eq_none.trans (alone_startInput_none hids)
  | stopInput inputId => exact hends (Ends.locked _ _)
  | startOutput inputId outputId => exact hends (Ends.locked _ _)
  | stopOutput inputId outputId => exact hends (Ends.locked _ _)
  | startAnalysis inputId analysisType timeoutMinutes => exact hends (ends_startAnalysis _ _ _ _)
  | stopAnalysis inputId analysisType => exact hends (Ends.locked _ _)
  | stopAllAnalysis inputId => exact hends (Ends.locked _ _)
  | createInput req => exact hends (ends_createInput env req)
  | updateInput inputId req => exact alone_ignore_eq_none.trans (alone_updateInput_none hids)
  | deleteInput inputId => exact hends (ends_deleteInput env inputId)
  | createOutput req => exact hends (ends_createOutput env req)
  | updateOutput outputId req => exact hends (ends_updateOutput env outputId req)
  | deleteOutput inputId outputId => exact hends (ends_deleteOutput env inputId outputId)
  | startInputEndpoint inputId =>
    exact alone_ignore_eq_none.trans (alone_startInputEndpoint_none hids)
  | stopInputEndpoint inputId => exact hends (ends_stopInputEndpoint env inputId)
  | startOutputEndpoint outputId => exact hends (ends_startOutputEndpoint env outputId)
  | stopOutputEndpoint outputId => exact hends (ends_stopOutputEndpoint env outputId)

/-! ## A call that never ends -/

/-- A UDP input was created, its analysis started and the input stopped. -/
def pausedWorld : World :=
  (runningWorld.after ((Operation.startAnalysis 1 .mux none).prog localEnv)).after
    ((Operation.stopInput 1).prog localEnv)

theorem reachable_pausedWorld : Reachable pausedWorld :=
  ((rests_runningWorld.after (.startAnalysis 1 .mux none) rfl).after (.stopInput 1) rfl).reachable

/-- Starting that input again requests a read guard under the write guard. -/
theorem startInput_requests_held :
    ¬ ∀ env op w, Reachable w → ((Operation.prog env op).alone false w).isSome := by
  intro h
  exact absurd (h localEnv (.startInput 1) pausedWorld reachable_pausedWorld) (by decide +kernel)

theorem stopInput_pausedWorld :
    ((Operation.prog localEnv (.stopInput 1)).alone false pausedWorld).isSome ↔
      ¬ BlocksItself localEnv (.stopInput 1) pausedWorld :=
  alone_isSome_iff reachable_pausedWorld

end StreamGateway
