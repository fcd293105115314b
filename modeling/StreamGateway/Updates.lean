import StreamGateway.Calls
import StreamGateway.Tracking

/-!
# The updates of the calls

Each update of the shared state by any call is listed below as the function that makes it. The
record of a call is how far it has come with the start of an analysis, which takes four updates:
an id is drawn, the input is subscribed to, the task is spawned, and its entry is made.
-/
namespace StreamGateway

open Prog

/-- How far a call has come with the start of an analysis. -/
inductive Stage
  | idle
  | drawn (id : ℕ)
  | subscribed (inputId : Int) (id : ℕ)
  | spawned (inputId : Int) (a : AnalysisInfo)

/-- A new entry has no outputs, no analyses and no connection. -/
structure InputInfo.Blank (info : InputInfo) : Prop where
  outputTasks : info.outputTasks = ∅
  analysisTasks : info.analysisTasks = ∅
  connectedAt : info.connectedAt = none

/-- What is not about the outputs or the configuration is the same. -/
structure InputInfo.SameRun (info info' : InputInfo) : Prop where
  status : info'.status = info.status
  connectedAt : info'.connectedAt = info.connectedAt
  analysisTasks : info'.analysisTasks = info.analysisTasks

/-- Outputs of one entry are started or stopped, or its configuration changes. -/
structure World.Tends (launched aborted : List Task) (w w' : World) : Prop where
  streams : w'.streams = w.streams ∨ ∃ i info info', w.streams.lookup i = some info ∧
    w'.streams = w.streams.insert i info' ∧ info.SameRun info'
  moves : Moves launched aborted w.rt w'.rt
  launched : ∀ t ∈ launched, t.spec.owner.outputId.isSome
  aborted : ∀ t ∈ aborted, ∃ i info k o, w.streams.lookup i = some info ∧
    info.outputTasks.lookup k = some o ∧ o.abortHandle = some t
  nextUuid : w'.rt.nextUuid = w.rt.nextUuid

/-- One part of the start of an analysis, or a refusal. -/
inductive StartStep : Stage → Stage → World → World → Prop
  | draw {w : World} : StartStep .idle (.drawn w.rt.nextUuid) w (newAnalysisId w).2
  | refuse {k : Stage} {w : World} : (∀ i a, k ≠ .spawned i a) → StartStep k .idle w w
  | subscribe {w : World} (i : Int) (id : ℕ) (analysisType : AnalysisType) (rx : ChannelId) :
      subscribeAnalysis i analysisType w = .ok rx →
      StartStep (.drawn id) (.subscribed i id) w w
  | analyse {w : World} (i : Int) (id : ℕ) (analysisType : AnalysisType)
      (timeoutMinutes : Option UInt64) (timeout : Option (ℕ × ℕ)) (rx : ChannelId) :
      StartStep (.subscribed i id)
        (.spawned i (launchAnalysis i id analysisType timeoutMinutes timeout rx w).1) w
        (launchAnalysis i id analysisType timeoutMinutes timeout rx w).2
  | insert {w : World} (i : Int) (a : AnalysisInfo) :
      StartStep (.spawned i a) .idle w (insertAnalysis i a w).2

/-- What an update of a call does, and how far the call is afterwards. Whether the call makes or
removes entries is `edits`. -/
inductive Update (edits : Prop) : Stage → Stage → World → World → Prop
  | quiet {k : Stage} {w w' : World} : Quiet w w' → w'.rt.nextUuid = w.rt.nextUuid →
      Update edits k k w w'
  | start {k k' : Stage} {w w' : World} : StartStep k k' w w' → Update edits k k' w w'
  | launch {k : Stage} {w w' : World} (i : Int) (t : Task) : Launches [t] w.rt w'.rt →
      t.spec.owner = .input i → w'.streams = w.streams → w'.rt.nextUuid = w.rt.nextUuid →
      Update edits k k w w'
  | tend {k : Stage} {w w' : World} (launched aborted : List Task) :
      w.Tends launched aborted w' → Update edits k k w w'
  | stopAnalysis {k : Stage} {w : World} (i : Int) (analysisType : AnalysisType) :
      Update edits k k w (stopAnalysisSection i analysisType w).2
  | stopAllAnalysis {k : Stage} {w : World} (i : Int) :
      Update edits k k w (stopAllAnalysisSection i w).2
  | restart {k : Stage} {w : World} (env : Env) (plan : StartPlan) :
      plan.config.isSpts = false → Update edits k k w (restartSection env plan w).2
  | install {k : Stage} {w : World} (env : Env) (i : Int) (new : InputInfo) :
      Update edits k k w (sptsInstallSection env i new w).2
  | stopInput {k : Stage} {w : World} (i : Int) : Update edits k k w (stopInputSection i w).2
  | removeInput {k : Stage} {w : World} (i : Int) : edits →
      Update edits k k w (removeInputSection i w).2
  | insertInput {k : Stage} {w : World} (info : InputInfo) : edits → info.Blank →
      Update edits k k w (insertInput info w).2
  | insertInputs {k : Stage} {w : World} (loaded : HashMap Int InputInfo) : edits →
      (∀ i info, loaded.lookup i = some info → info.Blank) →
      Update edits k k w (insertInputs loaded w).2
  | receive {k : Stage} {w : World} : Update edits k k w (receive w).2
  | apply {k : Stage} {w : World} : Update edits k k w (applyProcessing w).2

variable {α β : Type} {edits : Prop} {k : Stage}

theorem Update.refl (w : World) : Update edits k k w w := .quiet (.refl w) rfl

/-! ## Ids of analyses -/

section Ids

variable {rt rt' : Runtime} {env : Env} {input input' : InputInfo}

@[simp] theorem nextUuid_abortHandle (rt : Runtime) (handle : Option Task) :
    (rt.abortHandle handle).nextUuid = rt.nextUuid := by
  cases handle <;> rfl

theorem Launch.nextUuid {inputId outputId : Int} {spec : TaskSpec} {output : OutputInfo}
    (h : Launch input inputId outputId rt spec output rt') : rt'.nextUuid = rt.nextUuid := by
  rw [h.runtime]
  rfl

theorem nextUuid_startOutputInternal {outputId : Int} {config : CreateOutputRequest}
    (h : startOutputInternal env input outputId config rt = .ok (input', rt')) :
    rt'.nextUuid = rt.nextUuid := by
  obtain ⟨_, _, hl, _⟩ := startOutputInternal_ok h
  exact hl.nextUuid

theorem nextUuid_startOutputs (env : Env) (outputs : List (Int × CreateOutputRequest))
    (input : InputInfo) (rt : Runtime) :
    (startOutputs env outputs input rt).2.nextUuid = rt.nextUuid := by
  refine startOutputs_keeps (P := fun _ rt' => rt'.nextUuid = rt.nextUuid)
    (fun k config input₁ rt₁ input₂ rt₂ _ hn hr => ?_) rfl
  exact (nextUuid_startOutputInternal hr).trans hn

theorem nextUuid_restartStopped (env : Env) (input : InputInfo) (rt : Runtime) :
    (restartStopped env input rt).2.nextUuid = rt.nextUuid :=
  nextUuid_startOutputs env _ _ rt

theorem nextUuid_recreateTask (plan : StartPlan) (input : InputInfo) (rt : Runtime) :
    (recreateTask plan input rt).2.nextUuid = rt.nextUuid := by
  unfold recreateTask
  split <;> rfl

theorem nextUuid_loadOutputs (env : Env) (inputId : Int) (outputs : List (Int × OutputRow))
    (input : InputInfo) (rt : Runtime) :
    (loadOutputs env inputId outputs input rt).2.2.nextUuid = rt.nextUuid := by
  refine loadOutputs_keeps (P := fun _ rt' => rt'.nextUuid = rt.nextUuid)
    (fun id row input₁ rt₁ input₂ rt₂ _ hn hload => ?_) rfl
  cases hload with
  | skipped | stopped => exact hn
  | running hr =>
    obtain ⟨_, _, hl⟩ := recreateOutput_launch hr
    exact hl.nextUuid.trans hn

end Ids

/-! ## Outputs and configurations -/

section Tending

variable {w w' : World} {i : Int} {info info' : InputInfo}

theorem tends_edit (hi : w.streams.lookup i = some info)
    (hs : w'.streams = w.streams.insert i info') (hrt : w'.rt = w.rt) (h : info.SameRun info') :
    World.Tends [] [] w w' := by
  refine ⟨.inr ⟨i, info, info', hi, hs, h⟩, ?_, fun _ h => absurd h List.not_mem_nil,
    fun _ h => absurd h List.not_mem_nil, by rw [hrt]⟩
  rw [hrt]
  exact (Launches.refl w.rt).moves

theorem tends_started {stopped : HashMap Int CreateOutputRequest} {ids : List Int}
    {tasks : List Task} (hi : w.streams.lookup i = some info)
    (hs : w'.streams = w.streams.insert i info')
    (h : Started { info with stoppedOutputs := stopped } info' ids tasks w.rt w'.rt)
    (hn : w'.rt.nextUuid = w.rt.nextUuid) : World.Tends tasks [] w w' := by
  refine ⟨.inr ⟨i, info, info', hi, hs, ?_⟩, h.launches.moves, h.outputIds,
    fun _ h => absurd h List.not_mem_nil, hn⟩
  rw [h.frame]
  exact ⟨rfl, rfl, rfl⟩

theorem tends_dropOutput {k : Int} {o : OutputInfo} (hi : w.streams.lookup i = some info)
    (ho : info.outputTasks.lookup k = some o) (hs : w'.streams = w.streams.insert i info')
    (hrt : Aborts o.abortHandle.toList w.rt w'.rt) (h : info.SameRun info')
    (hn : w'.rt.nextUuid = w.rt.nextUuid) : World.Tends [] o.abortHandle.toList w w' :=
  ⟨.inr ⟨i, info, info', hi, hs, h⟩, hrt.moves, fun _ h => absurd h List.not_mem_nil,
    fun _ ht => ⟨i, info, k, o, hi, ho, Option.mem_toList.mp ht⟩, hn⟩

theorem Update.pauseAgain (i : Int) (analysisType : AnalysisType) :
    Update edits k k w (pauseAgain i analysisType w).2 := by
  unfold StreamGateway.pauseAgain
  split
  · exact .refl w
  · rename_i info hi
    exact .tend [] [] (tends_edit hi rfl rfl ⟨rfl, rfl, rfl⟩)

theorem Update.setConfig (i : Int) (config : CreateInputRequest) :
    Update edits k k w (setConfig i config w).2 := by
  unfold StreamGateway.setConfig
  split
  · exact .refl w
  · rename_i info hi
    exact .tend [] [] (tends_edit hi rfl rfl ⟨rfl, rfl, rfl⟩)

theorem Update.startOutput (env : Env) (i o : Int) :
    Update edits k k w (startOutputSection env i o w).2 := by
  unfold startOutputSection
  split
  · exact .refl w
  rename_i info hi
  split
  · exact .refl w
  split
  · dsimp only
    split
    · rename_i input' rt' h
      obtain ⟨t, ht⟩ := startOutputInternal_started h
      exact .tend [t] [] (tends_started hi rfl ht (nextUuid_startOutputInternal h))
    · exact .tend [] [] (tends_edit hi rfl rfl ⟨rfl, rfl, rfl⟩)
  · split <;> exact .refl w

theorem Update.stopOutput (i o : Int) : Update edits k k w (stopOutputSection i o w).2 := by
  unfold stopOutputSection
  split
  · exact .refl w
  rename_i info hi
  split
  · rename_i output ho
    exact .tend _ _ (tends_dropOutput hi ho rfl (aborts_abortHandle w.rt output.abortHandle)
      ⟨rfl, rfl, rfl⟩ (nextUuid_abortHandle _ _))
  · split <;> exact .refl w

theorem Update.setStopped (i o : Int) (config : CreateOutputRequest) :
    Update edits k k w (setStoppedConfig i o config w).2 := by
  unfold setStoppedConfig
  split
  · exact .refl w
  · rename_i info hi
    exact .tend [] [] (tends_edit hi rfl rfl ⟨rfl, rfl, rfl⟩)

theorem Update.removeOutput (i o : Int) : Update edits k k w (removeOutputSection i o w).2 := by
  unfold removeOutputSection
  split
  · exact .refl w
  rename_i info hi
  split
  · rename_i output ho
    exact .tend _ _ (tends_dropOutput hi ho rfl
      ((aborts_abortHandle w.rt output.abortHandle).record _) ⟨rfl, rfl, rfl⟩
      (nextUuid_abortHandle _ _))
  · split
    · exact .tend [] [] (tends_edit hi rfl rfl ⟨rfl, rfl, rfl⟩)
    · exact .refl w

theorem Update.installOutput (env : Env) (req : CreateOutputRequest) (i o : Int)
    (destination : String) :
    Update edits k k w (installOutputSection env req i o destination w).2 := by
  unfold installOutputSection
  split
  · exact .refl w
  split
  · exact .refl w
  rename_i output rt' hspawn
  obtain ⟨_, _, _, hl⟩ := spawnOutput_launch hspawn
  split
  · exact .tend _ [] ⟨.inl rfl, hl.launches.moves, hl.started.outputIds,
      fun _ h => absurd h List.not_mem_nil, hl.nextUuid⟩
  · rename_i target htarget
    exact .tend _ [] ⟨.inr ⟨_, target, _, htarget, rfl, ⟨rfl, rfl, rfl⟩⟩, hl.launches.moves,
      hl.started.outputIds, fun _ h => absurd h List.not_mem_nil, hl.nextUuid⟩

theorem Update.loadGroup (env : Env) (i : Int) (outputs : List (Int × OutputRow)) :
    Update edits k k w (loadGroupSection env i outputs w).2 := by
  unfold loadGroupSection
  split
  · exact .refl w
  rename_i input hi
  obtain ⟨tasks, hts⟩ := loadOutputs_started env i outputs input w.rt
  exact .tend tasks [] (tends_started hi rfl hts (nextUuid_loadOutputs env i outputs input w.rt))

end Tending

/-! ## Programs -/

/-- The call updates the state in these ways, and starts no analysis meanwhile. -/
abbrev Updates (edits : Prop) (p : Prog World α) (k : Stage)
    (P : α → Prop := fun _ => True) : Prop :=
  p.Tracked (Update edits) k fun r k' => P r ∧ k' = k

section Rules

variable {P : α → Prop} {P' : β → Prop}

theorem Updates.ret {r : α} (h : P r) : Updates edits (Prog.ret r) k P := ⟨h, rfl⟩

theorem Updates.done {r : α} : Updates edits (Prog.ret r) k := .ret trivial

theorem Updates.bind {p : Prog World α} {f : α → Prog World β} (h : Updates edits p k P)
    (hf : ∀ r, P r → Updates edits (f r) k P') : Updates edits (p >>= f) k P' := by
  refine Tracked.bind h ?_
  rintro r _ ⟨hr, rfl⟩
  exact hf r hr

theorem Updates.andThen {p : Prog World α} {f : α → Prog World β} (h : Updates edits p k)
    (hf : ∀ r, Updates edits (f r) k P') : Updates edits (p >>= f) k P' :=
  h.bind fun r _ => hf r

theorem Updates.acquire {mode : LockMode} {p : Prog World α} (h : Updates edits p k P) :
    Updates edits (Prog.acquire mode p) k P :=
  Tracked.acquire h

theorem Updates.release {p : Prog World α} (h : Updates edits p k P) :
    Updates edits (Prog.release p) k P :=
  Tracked.release h

theorem Updates.ignore {p : Prog World α} (h : Updates edits p k P) : Updates edits p.ignore k :=
  h.bind fun _ _ => .done

theorem updates_atomic {f : World → α × World} (h : ∀ w, Update edits k k w (f w).2) :
    Updates edits (atomic f) k :=
  Tracked.atomic fun w => ⟨k, h w, trivial, rfl⟩

theorem updates_locked {mode : LockMode} {f : World → α × World}
    (h : ∀ w, Update edits k k w (f w).2) : Updates edits (locked mode f) k :=
  Tracked.locked fun w => ⟨k, h w, trivial, rfl⟩

theorem updates_looks {f : World → α × World} (h : ∀ w, (f w).2 = w) : Updates edits (atomic f) k :=
  updates_atomic fun w => by
    rw [h]
    exact .refl w

theorem updates_query (env : Env) (q : Query) (f : Database → α × Database) :
    Updates edits (atomic (query env q f)) k :=
  updates_atomic fun w => .quiet (quiet_query env q f w) (by rw [query_rt])

end Rules

/-! ## Queries and ports -/

theorem updates_searchPort (env : Env) (usedPorts ports : List UInt16) :
    Updates edits (searchPort env usedPorts ports) k := by
  induction ports with
  | nil => exact .done
  | cons port rest ih =>
    unfold searchPort
    split
    · exact ih
    refine (updates_query env _ _).andThen fun r => ?_
    cases r with
    | error e => exact .done
    | ok inUse =>
      cases inUse with
      | true => exact ih
      | false =>
        dsimp only
        split
        · exact .done
        · exact ih

theorem updates_findAvailablePort (env : Env) : Updates edits (findAvailablePort env) k := by
  refine (updates_query env _ _).andThen fun r => ?_
  cases r with
  | error e => exact .done
  | ok listenPorts =>
  refine (updates_query env _ _).andThen fun r => ?_
  cases r with
  | error e => exact .done
  | ok configPorts => exact updates_searchPort env _ _

theorem updates_assignInputPort (env : Env) (req : CreateInputRequest) :
    Updates edits (assignInputPort env req) k := by
  unfold assignInputPort
  split
  · refine (updates_findAvailablePort env).andThen fun r => ?_
    cases r <;> exact .done
  · exact .done

theorem updates_assignOutputPort (env : Env) (req : CreateOutputRequest) :
    Updates edits (assignOutputPort env req) k := by
  unfold assignOutputPort
  split
  · refine (updates_findAvailablePort env).andThen fun r => ?_
    cases r <;> exact .done
  · exact .done

theorem updates_getInputIdForOutput (env : Env) (outputId : Int) :
    Updates edits (atomic (getInputIdForOutput env outputId)) k := by
  refine updates_looks fun w => ?_
  have h := select_world env .getInputIdForOutput (fun db => db.outputs.find outputId) w
  unfold getInputIdForOutput
  split <;> simp_all

theorem updates_checkConflicts (env : Env) (inputId : Int) (destinationAddr : String)
    (listenPort : Option UInt16) :
    Updates edits (checkConflicts env inputId destinationAddr listenPort) k := by
  refine (updates_query env _ _).andThen fun r => ?_
  rcases r with e | _ | _
  · exact .done
  · cases listenPort with
    | none => exact .done
    | some port =>
      refine (updates_query env _ _).andThen fun r => ?_
      rcases r with e | _ | _ <;> exact .done
  · exact .done

/-! ## Analyses -/

/-- The start of an analysis goes through the stages, or stops before its task is spawned. -/
theorem updates_startAnalysis (env : Env) (inputId : Int) (analysisType : AnalysisType)
    (timeoutMinutes : Option UInt64) :
    Updates edits (startAnalysis env inputId analysisType timeoutMinutes) .idle := by
  refine Tracked.bind (Q := fun id k => k = .drawn id)
    (Tracked.atomic fun w => ⟨_, .start .draw, rfl⟩) fun id _ hk => ?_
  subst hk
  refine Tracked.bind (Q := fun r k => (∀ rx, r = .ok rx → k = .subscribed inputId id) ∧
    ∀ e, r = .error e → k = .idle) (Tracked.locked fun w => ?_) fun r k hk => ?_
  · cases hs : subscribeAnalysis inputId analysisType w with
    | error e =>
      exact ⟨_, .start (.refuse (by simp)), fun _ h => absurd h (by simp), fun _ _ => rfl⟩
    | ok rx => exact ⟨_, .start (.subscribe inputId id analysisType rx hs), fun _ _ => rfl,
        fun _ h => absurd h (by simp)⟩
  cases r with
  | error e =>
    obtain rfl := hk.2 e rfl
    exact Updates.done
  | ok rx =>
  obtain rfl := hk.1 rx rfl
  refine Tracked.bind (Q := fun r k => (∀ a, r = .ok a → k = .spawned inputId a) ∧
    ∀ e, r = .error e → k = .idle) (Tracked.atomic fun w => ?_) fun r k hk => ?_
  · rcases spawnAnalysis_ok env inputId id analysisType timeoutMinutes rx w with
      ⟨e, _, hs⟩ | ⟨timeout, _, hs⟩
    · rw [hs]
      exact ⟨_, .start (.refuse (by simp)), fun _ h => absurd h (by simp), fun _ _ => rfl⟩
    · rw [hs]
      refine ⟨_, .start (.analyse inputId id analysisType timeoutMinutes timeout rx),
        fun a h => ?_, fun _ h => absurd h (by simp)⟩
      rw [Except.ok.inj h]
  cases r with
  | error e =>
    obtain rfl := hk.2 e rfl
    exact Updates.done
  | ok a =>
    obtain rfl := hk.1 a rfl
    exact Tracked.locked fun w => ⟨_, .start (.insert inputId a), trivial, rfl⟩

theorem updates_restartPaused (env : Env) (inputId : Int) (paused : List AnalysisType) :
    Updates edits (restartPaused env inputId paused) .idle := by
  induction paused with
  | nil => exact .done
  | cons analysisType rest ih =>
    exact (updates_startAnalysis env inputId analysisType none).andThen fun _ => ih

theorem updates_restartPausedHeld (env : Env) (inputId : Int) (paused : List AnalysisType) :
    Updates edits (restartPausedHeld env inputId paused) .idle := by
  induction paused with
  | nil => exact .done
  | cons analysisType rest ih =>
    refine (updates_startAnalysis env inputId analysisType none).andThen fun r => ?_
    cases r with
    | error e =>
      exact (updates_atomic fun w => .pauseAgain inputId analysisType).andThen fun _ => ih
    | ok _ => exact ih

/-! ## Starting and stopping -/

theorem updates_sptsSpawn (plan : StartPlan) (sourceInputId : Int) (programNumber : UInt16)
    (fillWithNulls : Option Bool) :
    Updates edits
      (locked .read (sptsSpawnSection plan sourceInputId programNumber fillWithNulls)) k := by
  refine updates_locked fun w => ?_
  unfold sptsSpawnSection
  split
  · exact .refl w
  · exact .launch plan.inputId _ (launches_input w.rt _) rfl rfl rfl

theorem updates_startSpts (env : Env) (plan : StartPlan) (sourceInputId : Int)
    (programNumber : UInt16) (fillWithNulls : Option Bool) :
    Updates edits (startSpts env plan sourceInputId programNumber fillWithNulls) .idle := by
  refine (updates_locked fun w => .refl w).andThen fun r => ?_
  cases r with
  | error e => exact .done
  | ok _ =>
  refine (updates_locked fun w => .refl w).andThen fun r => ?_
  cases r with
  | error e => exact .done
  | ok _ =>
  refine (updates_sptsSpawn plan sourceInputId programNumber fillWithNulls).andThen fun r => ?_
  cases r with
  | error e => exact .done
  | ok new =>
  refine (updates_locked fun w => .install env plan.inputId new).andThen fun r => ?_
  cases r with
  | error e => exact .done
  | ok paused => exact (updates_restartPaused env plan.inputId paused).andThen fun _ => .done

theorem updates_startBase (env : Env) {plan : StartPlan} (h : plan.config.isSpts = false) :
    Updates edits (startBase env plan) .idle := by
  refine .acquire ((updates_atomic fun w => .restart env plan h).andThen fun r => ?_)
  cases r with
  | error e => exact .release .done
  | ok paused =>
    exact (updates_restartPausedHeld env plan.inputId paused).andThen fun _ => .release .done

theorem updates_startInput (env : Env) (inputId : Int) :
    Updates edits (startInput env inputId) .idle := by
  refine (updates_locked fun w => .refl w).andThen fun r => ?_
  cases r with
  | error e => exact .done
  | ok plan =>
  have hstateTx : Updates edits (stateTxOrGlobal plan.stateTx) .idle := by
    unfold stateTxOrGlobal
    split
    · exact .done
    · exact updates_atomic fun w => .refl w
  refine hstateTx.andThen fun stateTx => ?_
  cases hc : plan.config with
  | spts sourceInputId programNumber fillWithNulls name =>
    exact updates_startSpts env _ sourceInputId programNumber fillWithNulls
  | udp => exact updates_startBase env rfl
  | srt => exact updates_startBase env rfl

theorem updates_stopInput (inputId : Int) : Updates edits (stopInput inputId) k :=
  updates_locked fun _ => .stopInput inputId

theorem updates_startOutput (env : Env) (inputId outputId : Int) :
    Updates edits (startOutput env inputId outputId) k :=
  updates_locked fun _ => .startOutput env inputId outputId

theorem updates_stopOutput (inputId outputId : Int) :
    Updates edits (stopOutput inputId outputId) k :=
  updates_locked fun _ => .stopOutput inputId outputId

/-! ## Inputs -/

theorem updates_spawnInput (req : CreateInputRequest) (id : Int) (name : Option String) :
    Updates edits (spawnInput req id name) k fun r => ∀ info, r = .ok info → info.Blank := by
  cases req with
  | udp =>
    refine Updates.bind (P := InputInfo.Blank) (Tracked.atomic fun w =>
      ⟨k, .launch id _ (launches_input w.rt _) rfl rfl rfl, ⟨rfl, rfl, rfl⟩, rfl⟩)
      fun info h => .ret fun info' hi => ?_
    obtain rfl := Except.ok.inj hi
    exact h
  | srt reqName config =>
    refine Updates.bind (P := InputInfo.Blank) (Tracked.atomic fun w =>
      ⟨k, .launch id _ (launches_input w.rt _) rfl rfl rfl, ⟨rfl, rfl, rfl⟩, rfl⟩)
      fun info h => ?_
    refine Updates.bind (P := fun _ => True) (Tracked.atomic fun w => ⟨k, .refl w, trivial, rfl⟩)
      fun stateTx _ => .ret fun info' hi => ?_
    obtain rfl := Except.ok.inj hi
    exact ⟨h.outputTasks, h.analysisTasks, h.connectedAt⟩
  | spts sourceInputId programNumber fillWithNulls reqName =>
    refine Tracked.locked fun w => ⟨k, ?_, fun info h => ?_, rfl⟩
    · unfold spawnSptsSection
      split
      · exact .refl w
      · exact .launch id _ (launches_input w.rt _) rfl rfl rfl
    · unfold spawnSptsSection at h
      split at h
      · exact absurd h (by simp)
      · obtain rfl := Except.ok.inj h
        exact ⟨rfl, rfl, rfl⟩

theorem updates_createInput (he : edits) (env : Env) (req : CreateInputRequest) :
    Updates edits (createInput env req) k := by
  unfold createInput
  split
  · exact .done
  refine (updates_assignInputPort env req).andThen fun r => ?_
  rcases r with r | ⟨finalReq, assignedPort⟩
  · exact .done
  refine (updates_query env _ _).andThen fun r => ?_
  cases r with
  | error e => exact .done
  | ok id =>
  refine (updates_spawnInput finalReq id (inputName req)).bind fun r hr => ?_
  cases r with
  | ok info =>
    exact (updates_locked fun w => .insertInput info he (hr info rfl)).andThen fun _ => .done
  | error e =>
    refine Updates.bind (P := InputInfo.Blank) (Tracked.atomic fun w =>
      ⟨k, .quiet ⟨rfl, .nil rfl rfl rfl rfl rfl⟩ rfl, ⟨rfl, rfl, rfl⟩, rfl⟩)
      fun info h => .acquire ?_
    refine (updates_atomic fun w => .insertInput info he h).andThen fun _ => ?_
    exact (updates_query env _ _).andThen fun _ => .release .done

theorem deleteInputFromDb_rt (env : Env) (id : Int) (w : World) :
    (deleteInputFromDb env id w).2.rt = w.rt := by
  have h := query_rt env .deleteOutputsOfInput (fun db =>
    ((), { db with outputs := db.outputs.delete fun _ row => row.inputId = id })) w
  unfold deleteInputFromDb
  split
  · rename_i heq
    rwa [heq] at h
  · rename_i heq
    rw [heq] at h
    rw [query_rt, h]

theorem updates_deleteInput (he : edits) (env : Env) (inputId : Int) :
    Updates edits (deleteInput env inputId) k := by
  refine .acquire ((updates_atomic fun w => .removeInput inputId he).andThen fun found => ?_)
  cases found with
  | false => exact .release .done
  | true =>
    refine (updates_atomic fun w => .quiet (quiet_deleteInputFromDb env inputId w) ?_).andThen
      fun _ => .release .done
    rw [deleteInputFromDb_rt]

theorem updates_stopIfActive (inputId : Int) : Updates edits (stopIfActive inputId) k := by
  refine (updates_locked fun w => .refl w).andThen fun active => ?_
  cases active with
  | false => exact .done
  | true => exact updates_stopInput inputId

theorem updates_updateInput (env : Env) (inputId : Int) (req : UpdateInputRequest) :
    Updates edits (updateInput env inputId req) .idle := by
  have hstored : ∀ w, (storedInput env inputId req w).2 = w := by
    intro w
    have h := select_world env .getInputById (fun db => db.inputs.find inputId) w
    unfold storedInput getInputById
    split <;> simp_all
  refine (updates_looks hstored).andThen fun r => ?_
  cases r with
  | error r => exact .done
  | ok mergedConfig =>
  refine (updates_query env _ _).andThen fun r => ?_
  cases r with
  | error e => exact .done
  | ok _ =>
  refine (updates_stopIfActive inputId).andThen fun r => ?_
  cases r with
  | error e => exact .done
  | ok _ =>
  refine (updates_locked fun w => .setConfig inputId mergedConfig).andThen fun _ => ?_
  refine (updates_startInput env inputId).andThen fun r => ?_
  cases r with
  | error e => exact .done
  | ok _ => exact (updates_query env _ _).andThen fun _ => .done

/-! ## Outputs -/

theorem updates_createOutputHeld (env : Env) (req : CreateOutputRequest) :
    Updates edits (createOutputHeld env req) k := by
  refine (updates_assignOutputPort env req).andThen fun r => ?_
  rcases r with r | ⟨finalReq, assignedPort⟩
  · exact .done
  refine (updates_checkConflicts env _ _ _).andThen fun r => ?_
  cases r with
  | error r => exact .done
  | ok _ =>
  have hsave : ∀ name inputId kind destination configJson listenPort, Updates edits (atomic
      (saveOutputToDb env name inputId kind destination configJson listenPort)) k := by
    intro name inputId kind destination configJson listenPort
    refine updates_atomic fun w => .quiet (quiet_saveOutputToDb env _ _ _ _ _ _ w) ?_
    unfold saveOutputToDb
    split
    · rfl
    · rw [query_rt]
  refine (hsave _ _ _ _ _ _).andThen fun r => ?_
  cases r with
  | error e => exact .done
  | ok outputId =>
  refine (updates_atomic fun w => .installOutput env finalReq _ outputId _).andThen fun r => ?_
  cases r <;> exact .done

theorem updates_createOutput (env : Env) (req : CreateOutputRequest) :
    Updates edits (createOutput env req) k := by
  unfold createOutput
  split
  · exact .done
  refine .acquire (Updates.andThen ?_ fun _ => .release .done)
  refine (updates_atomic fun w => .refl w).andThen fun found => ?_
  cases found with
  | false => exact .done
  | true => exact updates_createOutputHeld env req

theorem updates_deleteOutput (env : Env) (inputId outputId : Int) :
    Updates edits (deleteOutput env inputId outputId) k := by
  refine .acquire ((updates_atomic fun w => .removeOutput inputId outputId).andThen fun r => ?_)
  cases r with
  | error r => exact .release .done
  | ok _ => exact (updates_query env _ _).andThen fun _ => .release .done

theorem updates_updateOutput (env : Env) (outputId : Int) (req : UpdateOutputRequest) :
    Updates edits (updateOutput env outputId req) k := by
  have hstored : ∀ w, (storedOutput env outputId req w).2 = w := by
    intro w
    have h := select_world env .getOutputById (fun db => db.outputs.find outputId) w
    unfold storedOutput getOutputById
    split <;> simp_all
  refine (updates_looks hstored).andThen fun r => ?_
  rcases r with r | ⟨inputId, mergedConfig⟩
  · exact .done
  refine (updates_query env _ _).andThen fun r => ?_
  cases r with
  | error e => exact .done
  | ok _ =>
  refine (updates_locked fun w => .refl w).andThen fun r => ?_
  cases r with
  | none => exact .done
  | some isActive =>
  refine Updates.andThen ?_ fun r => ?_
  · cases isActive with
    | false => exact .done
    | true => exact updates_stopOutput inputId outputId
  cases r with
  | error e => exact .done
  | ok _ =>
  refine (updates_locked fun w => .setStopped inputId outputId mergedConfig).andThen fun _ => ?_
  refine (updates_startOutput env inputId outputId).andThen fun r => ?_
  cases r with
  | error e => exact .done
  | ok _ => exact (updates_query env _ _).andThen fun _ => .done

/-! ## Handlers that start and stop -/

theorem updates_startInputEndpoint (env : Env) (inputId : Int) :
    Updates edits (startInputEndpoint env inputId) .idle := by
  refine (updates_startInput env inputId).andThen fun r => ?_
  cases r with
  | error e => exact .done
  | ok _ =>
  refine (updates_locked fun w => .refl w).andThen fun status => ?_
  exact (updates_query env _ _).andThen fun _ => .done

theorem updates_stopInputEndpoint (env : Env) (inputId : Int) :
    Updates edits (stopInputEndpoint env inputId) k := by
  refine (updates_stopInput inputId).andThen fun r => ?_
  cases r with
  | error e => exact .done
  | ok _ => exact (updates_query env _ _).andThen fun _ => .done

theorem updates_startOutputEndpoint (env : Env) (outputId : Int) :
    Updates edits (startOutputEndpoint env outputId) k := by
  refine (updates_getInputIdForOutput env outputId).andThen fun r => ?_
  cases r with
  | error e => exact .done
  | ok inputId =>
  refine (updates_startOutput env inputId outputId).andThen fun r => ?_
  cases r with
  | error e => exact .done
  | ok _ =>
  refine (updates_locked fun w => .refl w).andThen fun status => ?_
  exact (updates_query env _ _).andThen fun _ => .done

theorem updates_stopOutputEndpoint (env : Env) (outputId : Int) :
    Updates edits (stopOutputEndpoint env outputId) k := by
  refine (updates_getInputIdForOutput env outputId).andThen fun r => ?_
  cases r with
  | error e => exact .done
  | ok inputId =>
  refine (updates_stopOutput inputId outputId).andThen fun r => ?_
  cases r with
  | error e => exact .done
  | ok _ => exact (updates_query env _ _).andThen fun _ => .done

/-! ## All calls -/

/-- Makes an entry or removes one. -/
def Operation.editsInputs : Operation → Bool
  | .createInput .. | .deleteInput .. => true
  | _ => false

theorem Operation.updates (env : Env) (op : Operation) (he : op.editsInputs = true → edits) :
    Updates edits (op.prog env) .idle := by
  cases op with
  | startInput inputId => exact (updates_startInput env inputId).ignore
  | stopInput inputId => exact (updates_stopInput inputId).ignore
  | startOutput inputId outputId => exact (updates_startOutput env inputId outputId).ignore
  | stopOutput inputId outputId => exact (updates_stopOutput inputId outputId).ignore
  | startAnalysis inputId analysisType timeoutMinutes =>
    exact (updates_startAnalysis env inputId analysisType timeoutMinutes).ignore
  | stopAnalysis inputId analysisType =>
    exact (updates_locked fun _ => .stopAnalysis inputId analysisType).ignore
  | stopAllAnalysis inputId => exact (updates_locked fun _ => .stopAllAnalysis inputId).ignore
  | createInput req => exact (updates_createInput (he rfl) env req).ignore
  | updateInput inputId req => exact (updates_updateInput env inputId req).ignore
  | deleteInput inputId => exact (updates_deleteInput (he rfl) env inputId).ignore
  | createOutput req => exact (updates_createOutput env req).ignore
  | updateOutput outputId req => exact (updates_updateOutput env outputId req).ignore
  | deleteOutput inputId outputId => exact (updates_deleteOutput env inputId outputId).ignore
  | startInputEndpoint inputId => exact (updates_startInputEndpoint env inputId).ignore
  | stopInputEndpoint inputId => exact (updates_stopInputEndpoint env inputId).ignore
  | startOutputEndpoint outputId => exact (updates_startOutputEndpoint env outputId).ignore
  | stopOutputEndpoint outputId => exact (updates_stopOutputEndpoint env outputId).ignore

theorem updates_processMessage : Updates edits processMessage .idle := by
  refine (updates_atomic fun w => .receive).andThen fun _ => ?_
  refine (updates_locked fun w => .apply).andThen fun r => ?_
  cases r with
  | none => exact .done
  | some r => exact updates_atomic fun w => .quiet ⟨rfl, .nil rfl rfl rfl rfl rfl⟩ rfl

theorem GatewayCall.updates {p : Prog World Unit} (h : GatewayCall p) : Updates True p .idle := by
  rcases h with ⟨env, op, rfl⟩ | rfl
  · exact op.updates env fun _ => trivial
  · exact updates_processMessage

/-! ## The load -/

theorem updates_openIdle (id : Int) (name : Option String) (status : StreamStatus)
    (config : CreateInputRequest) (errorMessage : Option String) :
    Updates edits (atomic (openIdle id name status config errorMessage)) k InputInfo.Blank :=
  Tracked.atomic fun _ =>
    ⟨k, .quiet ⟨rfl, .nil rfl rfl rfl rfl rfl⟩ rfl, ⟨rfl, rfl, rfl⟩, rfl⟩

theorem updates_respawnInput (req : CreateInputRequest) (id : Int) (name : Option String)
    (failure : String) : Updates edits (respawnInput req id name failure) k InputInfo.Blank := by
  refine (updates_spawnInput req id name).bind fun r hr => ?_
  cases r with
  | ok info => exact .ret (hr info rfl)
  | error e => exact updates_openIdle id name .error req _

theorem updates_loadBaseInput (id : Int) (row : InputRow) (req : CreateInputRequest) :
    Updates edits (loadBaseInput id row req) k InputInfo.Blank := by
  unfold loadBaseInput
  split
  · exact updates_openIdle id row.name .stopped req none
  · exact updates_respawnInput req id row.name _

theorem updates_loadSptsInput (id : Int) (row : InputRow) (req : CreateInputRequest) :
    Updates edits (loadSptsInput id row req) k InputInfo.Blank := by
  unfold loadSptsInput
  split
  · exact updates_openIdle id row.name .stopped req none
  refine (updates_locked fun w => ?_).andThen fun r => ?_
  · unfold missingSource
    split <;> exact .refl w
  cases r with
  | none => exact updates_respawnInput req id row.name _
  | some sourceId => exact updates_openIdle id row.name .stopped req _

/-- Every loaded entry is a new one. -/
def LoadedBlank (loaded : HashMap Int InputInfo) : Prop :=
  ∀ i info, loaded.lookup i = some info → info.Blank

theorem loadedBlank_empty : LoadedBlank ∅ := fun _ _ h => absurd h (by simp)

theorem LoadedBlank.insert {loaded : HashMap Int InputInfo} (h : LoadedBlank loaded) (id : Int)
    {info : InputInfo} (hi : info.Blank) : LoadedBlank (loaded.insert id info) := by
  intro j info' hj
  rcases HashMap.lookup_insert_eq_some.mp hj with ⟨_, rfl⟩ | ⟨_, hj⟩
  · exact hi
  · exact h j info' hj

theorem updates_loadBaseInputs (env : Env) (rows : List (Int × InputRow))
    {loaded : HashMap Int InputInfo} (h : LoadedBlank loaded) :
    Updates edits (loadBaseInputs env rows loaded) k fun r =>
      ∀ loaded', r = .ok loaded' → LoadedBlank loaded' := by
  induction rows generalizing loaded with
  | nil => exact .ret fun loaded' h' => Except.ok.inj h' ▸ h
  | cons r rest ih =>
    obtain ⟨id, row⟩ := r
    unfold loadBaseInputs
    split
    · exact ih h
    · exact .ret fun _ h' => absurd h' (by simp)
    · rename_i req _
      exact (updates_loadBaseInput id row req).bind fun info hi => ih (h.insert id hi)

theorem updates_loadSptsInputs (env : Env) (rows : List (Int × InputRow))
    {loaded : HashMap Int InputInfo} (h : LoadedBlank loaded) :
    Updates edits (loadSptsInputs env rows loaded) k fun r =>
      ∀ loaded', r = .ok loaded' → LoadedBlank loaded' := by
  induction rows generalizing loaded with
  | nil => exact .ret fun loaded' h' => Except.ok.inj h' ▸ h
  | cons r rest ih =>
    obtain ⟨id, row⟩ := r
    unfold loadSptsInputs
    split
    · exact .ret fun _ h' => absurd h' (by simp)
    · rename_i req _
      exact (updates_loadSptsInput id row req).bind fun info hi => ih (h.insert id hi)

theorem updates_loadGroups (env : Env) (outs : List (Int × OutputRow)) (inputIds : List Int) :
    Updates edits (loadGroups env outs inputIds) k := by
  induction inputIds with
  | nil => exact .done
  | cons inputId rest ih =>
    refine (updates_locked fun w => .loadGroup env inputId _).andThen fun r => ?_
    cases r with
    | error e => exact .done
    | ok _ => exact ih

theorem updates_loadFromDb (he : edits) (env : Env) : Updates edits (loadFromDb env) .idle := by
  refine (updates_query env _ _).andThen fun r => ?_
  cases r with
  | error e => exact .done
  | ok rows =>
  refine (updates_loadBaseInputs env _ loadedBlank_empty).bind fun r hr => ?_
  cases r with
  | error e => exact .done
  | ok loaded =>
  refine (updates_locked fun w => .insertInputs loaded he (hr loaded rfl)).andThen fun _ => ?_
  refine (updates_loadSptsInputs env _ loadedBlank_empty).bind fun r hr => ?_
  cases r with
  | error e => exact .done
  | ok sptsLoaded =>
  refine (updates_query env _ _).andThen fun r => ?_
  cases r with
  | error e => exact .done
  | ok outs =>
  refine (updates_locked fun w => .insertInputs sptsLoaded he (hr sptsLoaded rfl)).andThen
    fun _ => ?_
  exact updates_loadGroups env outs _

/-! ## Runs -/

/-- At the start of the process the load is the one call. -/
theorem tracked_bootPool (env : Env) (db : Database) :
    (bootPool env db).Tracked (Update True) .idle [.idle] := by
  refine .cons ?_ .nil
  exact (updates_loadFromDb trivial env).ignore.mono fun _ _ h => h.2

end StreamGateway
