import StreamGateway.Acts
import StreamGateway.Discipline
import StreamGateway.Growth
import StreamGateway.LockSafety
import StreamGateway.SourceChains
import StreamGateway.Updates

/-!
# Calls come to an end

Each call is followed once more from lock to lock, now for the guards it requests and for what it
does to the runtime. Only a start of an input can request a guard while it holds one. So calls of
all other kinds return, in whatever order they take their steps, and in general all calls return
or one of them waits for a guard that it holds itself.
-/
namespace StreamGateway

open Prog

variable {α β : Type} {nested : LockMode → Prop} {held : Option LockMode}

/-- The call changes the runtime by operations on tasks and channels only, and keeps to the
discipline. Unless said otherwise it ends with a guard if it begins with one. -/
abbrev Tidy (nested : LockMode → Prop) (p : Prog World α) (held : Option LockMode)
    (Q : α → Option LockMode → Prop := fun _ held' => held' = held) : Prop :=
  p.Disciplined World.Grows nested held Q

theorem Tidy.andThen {p : Prog World α} {f : α → Prog World β}
    {Q : β → Option LockMode → Prop} (h : Tidy nested p held) (hf : ∀ r, Tidy nested (f r) held Q) :
    Tidy nested (p >>= f) held Q := by
  refine Disciplined.bind h fun r held' hheld => ?_
  rw [hheld]
  exact hf r

theorem tidy_ret {r : α} : Tidy nested (.ret r : Prog World α) held := rfl

theorem tidy_atomic {f : World → α × World} (h : ∀ w : World, w.Grows (f w).2) :
    Tidy nested (atomic f) held :=
  Disciplined.atomic fun w => ⟨h w, rfl⟩

theorem tidy_locked {mode : LockMode} {f : World → α × World} (h : ∀ w : World, w.Grows (f w).2) :
    Tidy nested (locked mode f) none :=
  Disciplined.locked (fun _ hheld => absurd hheld (by simp)) fun w => ⟨h w, rfl⟩

theorem tidy_same {f : World → α × World} (h : ∀ w, (f w).2.rt = w.rt) :
    Tidy nested (atomic f) held :=
  tidy_atomic fun w => .of_eq (h w)

theorem tidy_read {mode : LockMode} {f : World → α × World} (h : ∀ w, (f w).2.rt = w.rt) :
    Tidy nested (locked mode f) none :=
  tidy_locked fun w => .of_eq (h w)

/-! ## Queries -/

theorem tidy_query {α : Type} (env : Env) (q : Query) (f : Database → α × Database) :
    Tidy nested (atomic (query env q f)) held :=
  tidy_same fun w => query_rt env q f w

theorem tidy_select {α : Type} (env : Env) (q : Query) (f : Database → α) :
    Tidy nested (atomic (select env q f)) held :=
  tidy_query env q _

theorem getInputIdForOutput_rt (env : Env) (outputId : Int) (w : World) :
    (getInputIdForOutput env outputId w).2.rt = w.rt := by
  have h := query_rt env .getInputIdForOutput (fun db => (db.outputs.find outputId, db)) w
  unfold getInputIdForOutput select
  split <;> simp_all

theorem storedInput_rt (env : Env) (inputId : Int) (req : UpdateInputRequest) (w : World) :
    (storedInput env inputId req w).2.rt = w.rt := by
  rw [storedInput_world]

theorem storedOutput_rt (env : Env) (outputId : Int) (req : UpdateOutputRequest) (w : World) :
    (storedOutput env outputId req w).2.rt = w.rt := by
  rw [(storedOutput_spec env outputId req w).1]

theorem saveOutputToDb_rt (env : Env) (name : Option String) (inputId : Int)
    (kind destination : String) (configJson : Option Json) (listenPort : Option UInt16)
    (w : World) :
    (saveOutputToDb env name inputId kind destination configJson listenPort w).2.rt = w.rt := by
  unfold saveOutputToDb
  split
  · rfl
  · exact query_rt env _ _ w

theorem tidy_searchPort (env : Env) (usedPorts ports : List UInt16) :
    Tidy nested (searchPort env usedPorts ports) held := by
  induction ports with
  | nil => exact tidy_ret
  | cons port rest ih =>
    unfold searchPort
    split
    · exact ih
    refine Tidy.andThen (tidy_select env _ _) fun r => ?_
    cases r with
    | error e => exact tidy_ret
    | ok inUse =>
      cases inUse with
      | true => exact ih
      | false =>
        dsimp only
        split
        · exact tidy_ret
        · exact ih

theorem tidy_findAvailablePort (env : Env) : Tidy nested (findAvailablePort env) held := by
  refine Tidy.andThen (tidy_select env _ _) fun r => ?_
  cases r with
  | error e => exact tidy_ret
  | ok listenPorts =>
  refine Tidy.andThen (tidy_select env _ _) fun r => ?_
  cases r with
  | error e => exact tidy_ret
  | ok configPorts => exact tidy_searchPort env _ _

theorem tidy_assignInputPort (env : Env) (req : CreateInputRequest) :
    Tidy nested (assignInputPort env req) held := by
  unfold assignInputPort
  split
  · refine Tidy.andThen (tidy_findAvailablePort env) fun r => ?_
    cases r <;> exact tidy_ret
  · exact tidy_ret

theorem tidy_assignOutputPort (env : Env) (req : CreateOutputRequest) :
    Tidy nested (assignOutputPort env req) held := by
  unfold assignOutputPort
  split
  · refine Tidy.andThen (tidy_findAvailablePort env) fun r => ?_
    cases r <;> exact tidy_ret
  · exact tidy_ret

theorem tidy_checkConflicts (env : Env) (inputId : Int) (destinationAddr : String)
    (listenPort : Option UInt16) :
    Tidy nested (checkConflicts env inputId destinationAddr listenPort) held := by
  refine Tidy.andThen (tidy_select env _ _) fun r => ?_
  rcases r with e | _ | _
  · exact tidy_ret
  · cases listenPort with
    | none => exact tidy_ret
    | some port =>
      refine Tidy.andThen (tidy_select env _ _) fun r => ?_
      rcases r with e | _ | _ <;> exact tidy_ret
  · exact tidy_ret

/-! ## Analyses -/

theorem tidy_startAnalysis (env : Env) (inputId : Int) (analysisType : AnalysisType)
    (timeoutMinutes : Option UInt64) :
    Tidy nested (startAnalysis env inputId analysisType timeoutMinutes) none := by
  refine Tidy.andThen (tidy_atomic grows_newAnalysisId) fun analysisId => ?_
  refine Tidy.andThen (tidy_read fun _ => rfl) fun r => ?_
  cases r with
  | error e => exact tidy_ret
  | ok rx =>
    refine Tidy.andThen (tidy_atomic (grows_spawnAnalysis env inputId analysisId analysisType
      timeoutMinutes rx)) fun r => ?_
    cases r with
    | error e => exact tidy_ret
    | ok a => exact tidy_read (insertAnalysis_rt inputId a)

theorem tidy_restartPaused (env : Env) (inputId : Int) (paused : List AnalysisType) :
    Tidy nested (restartPaused env inputId paused) none := by
  induction paused with
  | nil => exact tidy_ret
  | cons analysisType rest ih =>
    exact Tidy.andThen (tidy_startAnalysis env inputId analysisType none) fun _ => ih

/-- The first analysis is started under a guard, and there is none behind it. -/
theorem tidy_startAnalysis_nested (env : Env) (inputId : Int) (analysisType : AnalysisType)
    (timeoutMinutes : Option UInt64) (hn : ∀ m, held = some m → nested m) :
    Tidy nested (startAnalysis env inputId analysisType timeoutMinutes) held fun _ held' =>
      held' = none := by
  refine Tidy.andThen (tidy_atomic grows_newAnalysisId) fun analysisId => ?_
  refine Disciplined.bind (Q := fun _ held' => held' = none)
    (Disciplined.locked hn fun w => ⟨.of_eq rfl, rfl⟩) fun r held' hheld => ?_
  subst hheld
  cases r with
  | error e => exact tidy_ret
  | ok rx =>
    refine Tidy.andThen (tidy_atomic (grows_spawnAnalysis env inputId analysisId analysisType
      timeoutMinutes rx)) fun r => ?_
    cases r with
    | error e => exact tidy_ret
    | ok a => exact tidy_read (insertAnalysis_rt inputId a)

theorem tidy_restartPausedHeld (env : Env) (inputId : Int) (paused : List AnalysisType)
    (hn : ∀ m, held = some m → nested m) :
    Tidy nested (restartPausedHeld env inputId paused) held fun _ _ => True := by
  induction paused generalizing held with
  | nil => exact Disciplined.ret trivial
  | cons analysisType rest ih =>
    refine Disciplined.bind (tidy_startAnalysis_nested env inputId analysisType none hn)
      fun r held' hheld => ?_
    subst hheld
    have hrest := ih fun m (hheld : none = some m) => absurd hheld (by simp)
    cases r with
    | error e =>
      exact Tidy.andThen (tidy_atomic (grows_pauseAgain inputId analysisType)) fun _ => hrest
    | ok _ => exact hrest

/-! ## Starting and stopping -/

theorem tidy_startSpts (env : Env) (plan : StartPlan) (sourceInputId : Int)
    (programNumber : UInt16) (fillWithNulls : Option Bool) :
    Tidy nested (startSpts env plan sourceInputId programNumber fillWithNulls) none := by
  refine Tidy.andThen (tidy_read fun _ => rfl) fun r => ?_
  cases r with
  | error e => exact tidy_ret
  | ok _ =>
  refine Tidy.andThen (tidy_read fun _ => rfl) fun r => ?_
  cases r with
  | error e => exact tidy_ret
  | ok _ =>
  refine Tidy.andThen (tidy_locked (grows_sptsSpawnSection plan sourceInputId programNumber
    fillWithNulls)) fun r => ?_
  cases r with
  | error e => exact tidy_ret
  | ok new =>
  refine Tidy.andThen (tidy_locked (grows_sptsInstallSection env plan.inputId new)) fun r => ?_
  cases r with
  | error e => exact tidy_ret
  | ok paused =>
    exact Tidy.andThen (tidy_restartPaused env plan.inputId paused) fun _ => tidy_ret

/-- The guard under which the analyses are started is that of the writer. -/
theorem tidy_startBase (env : Env) (plan : StartPlan) (hn : nested .write) :
    Tidy nested (startBase env plan) none := by
  refine Disciplined.acquire (Tidy.andThen (tidy_atomic (grows_restartSection env plan))
    fun r => ?_)
  cases r with
  | error e => exact Disciplined.release tidy_ret
  | ok paused =>
    exact Disciplined.bind (tidy_restartPausedHeld env plan.inputId paused fun m hheld =>
      Option.some.inj hheld ▸ hn) fun _ _ _ => Disciplined.release tidy_ret

theorem tidy_stateTxOrGlobal (stateTx : Option StateChangeSender) :
    Tidy nested (stateTxOrGlobal stateTx) held := by
  unfold stateTxOrGlobal
  split
  · exact tidy_ret
  · exact tidy_same fun _ => rfl

theorem tidy_startInput (env : Env) (inputId : Int) (hn : nested .write) :
    Tidy nested (startInput env inputId) none := by
  refine Tidy.andThen (tidy_read fun _ => rfl) fun r => ?_
  cases r with
  | error e => exact tidy_ret
  | ok plan =>
  refine Tidy.andThen (tidy_stateTxOrGlobal plan.stateTx) fun stateTx => ?_
  cases hc : plan.config with
  | spts sourceInputId programNumber fillWithNulls name =>
    exact tidy_startSpts env _ sourceInputId programNumber fillWithNulls
  | udp => exact tidy_startBase env _ hn
  | srt => exact tidy_startBase env _ hn

theorem tidy_stopInput (inputId : Int) : Tidy nested (stopInput inputId) none :=
  tidy_locked (grows_stopInputSection inputId)

theorem tidy_startOutput (env : Env) (inputId outputId : Int) :
    Tidy nested (startOutput env inputId outputId) none :=
  tidy_locked (grows_startOutputSection env inputId outputId)

theorem tidy_stopOutput (inputId outputId : Int) :
    Tidy nested (stopOutput inputId outputId) none :=
  tidy_locked (grows_stopOutputSection inputId outputId)

/-! ## Creating, updating and deleting inputs -/

theorem tidy_spawnInput (req : CreateInputRequest) (id : Int) (name : Option String) :
    Tidy nested (spawnInput req id name) none := by
  cases req with
  | udp =>
    exact Tidy.andThen (tidy_atomic (grows_spawnUdpSection _ _ _ _ id name)) fun _ => tidy_ret
  | srt =>
    exact Tidy.andThen (tidy_atomic (grows_spawnSrtSection _ _ id name)) fun _ =>
      Tidy.andThen (tidy_same fun _ => rfl) fun _ => tidy_ret
  | spts => exact tidy_locked (grows_spawnSptsSection id _ _ _ name)

theorem tidy_createInput (env : Env) (req : CreateInputRequest) :
    Tidy nested (createInput env req) none := by
  unfold createInput
  split
  · exact tidy_ret
  refine Tidy.andThen (tidy_assignInputPort env req) fun r => ?_
  rcases r with r | ⟨finalReq, assignedPort⟩
  · exact tidy_ret
  refine Tidy.andThen (tidy_query env _ _) fun r => ?_
  cases r with
  | error e => exact tidy_ret
  | ok id =>
  refine Tidy.andThen (tidy_spawnInput finalReq id (inputName req)) fun r => ?_
  cases r with
  | ok info => exact Tidy.andThen (tidy_read fun _ => rfl) fun _ => tidy_ret
  | error e =>
    refine Tidy.andThen (tidy_atomic fun w => grows_failedInput id _ finalReq _ e.message w)
      fun info => Disciplined.acquire ?_
    refine Tidy.andThen (tidy_same fun _ => rfl) fun _ => ?_
    exact Tidy.andThen (tidy_query env _ _) fun _ => Disciplined.release tidy_ret

theorem tidy_deleteInput (env : Env) (inputId : Int) :
    Tidy nested (deleteInput env inputId) none := by
  refine Disciplined.acquire (Tidy.andThen (tidy_atomic (grows_removeInputSection inputId))
    fun found => ?_)
  cases found with
  | false => exact Disciplined.release tidy_ret
  | true =>
    exact Tidy.andThen (tidy_same (deleteInputFromDb_rt env inputId)) fun _ =>
      Disciplined.release tidy_ret

theorem tidy_stopIfActive (inputId : Int) : Tidy nested (stopIfActive inputId) none := by
  refine Tidy.andThen (tidy_read fun _ => rfl) fun active => ?_
  cases active with
  | false => exact tidy_ret
  | true => exact tidy_stopInput inputId

theorem tidy_updateInput (env : Env) (inputId : Int) (req : UpdateInputRequest)
    (hn : nested .write) : Tidy nested (updateInput env inputId req) none := by
  refine Tidy.andThen (tidy_same (storedInput_rt env inputId req)) fun r => ?_
  cases r with
  | error r => exact tidy_ret
  | ok mergedConfig =>
  refine Tidy.andThen (tidy_query env _ _) fun r => ?_
  cases r with
  | error e => exact tidy_ret
  | ok _ =>
  refine Tidy.andThen (tidy_stopIfActive inputId) fun r => ?_
  cases r with
  | error e => exact tidy_ret
  | ok _ =>
  refine Tidy.andThen (tidy_locked (grows_setConfig inputId mergedConfig)) fun _ => ?_
  refine Tidy.andThen (tidy_startInput env inputId hn) fun r => ?_
  cases r with
  | error e => exact tidy_ret
  | ok _ => exact Tidy.andThen (tidy_query env _ _) fun _ => tidy_ret

/-! ## Creating, updating and deleting outputs -/

theorem tidy_createOutputHeld (env : Env) (req : CreateOutputRequest) :
    Tidy nested (createOutputHeld env req) held := by
  refine Tidy.andThen (tidy_assignOutputPort env req) fun r => ?_
  rcases r with r | ⟨finalReq, assignedPort⟩
  · exact tidy_ret
  refine Tidy.andThen (tidy_checkConflicts env _ _ _) fun r => ?_
  cases r with
  | error r => exact tidy_ret
  | ok _ =>
  refine Tidy.andThen (tidy_same (saveOutputToDb_rt env _ _ _ _ _ _)) fun r => ?_
  cases r with
  | error e => exact tidy_ret
  | ok outputId =>
  refine Tidy.andThen (tidy_atomic (grows_installOutputSection env finalReq _ outputId _))
    fun r => ?_
  cases r <;> exact tidy_ret

theorem tidy_createOutput (env : Env) (req : CreateOutputRequest) :
    Tidy nested (createOutput env req) none := by
  unfold createOutput
  split
  · exact tidy_ret
  refine Disciplined.acquire (Tidy.andThen ?_ fun _ => Disciplined.release tidy_ret)
  refine Tidy.andThen (tidy_same fun _ => rfl) fun found => ?_
  cases found with
  | false => exact tidy_ret
  | true => exact tidy_createOutputHeld env req

theorem tidy_deleteOutput (env : Env) (inputId outputId : Int) :
    Tidy nested (deleteOutput env inputId outputId) none := by
  refine Disciplined.acquire (Tidy.andThen
    (tidy_atomic (grows_removeOutputSection inputId outputId)) fun r => ?_)
  cases r with
  | error r => exact Disciplined.release tidy_ret
  | ok _ => exact Tidy.andThen (tidy_query env _ _) fun _ => Disciplined.release tidy_ret

theorem tidy_updateOutput (env : Env) (outputId : Int) (req : UpdateOutputRequest) :
    Tidy nested (updateOutput env outputId req) none := by
  refine Tidy.andThen (tidy_same (storedOutput_rt env outputId req)) fun r => ?_
  rcases r with r | ⟨inputId, mergedConfig⟩
  · exact tidy_ret
  refine Tidy.andThen (tidy_query env _ _) fun r => ?_
  cases r with
  | error e => exact tidy_ret
  | ok _ =>
  refine Tidy.andThen (tidy_read fun _ => rfl) fun r => ?_
  cases r with
  | none => exact tidy_ret
  | some isActive =>
  refine Tidy.andThen ?_ fun r => ?_
  · cases isActive with
    | false => exact tidy_ret
    | true => exact tidy_stopOutput inputId outputId
  cases r with
  | error e => exact tidy_ret
  | ok _ =>
  refine Tidy.andThen (tidy_locked (grows_setStoppedConfig inputId outputId mergedConfig))
    fun _ => ?_
  refine Tidy.andThen (tidy_startOutput env inputId outputId) fun r => ?_
  cases r with
  | error e => exact tidy_ret
  | ok _ => exact Tidy.andThen (tidy_query env _ _) fun _ => tidy_ret

/-! ## Handlers that start and stop -/

theorem tidy_startInputEndpoint (env : Env) (inputId : Int) (hn : nested .write) :
    Tidy nested (startInputEndpoint env inputId) none := by
  refine Tidy.andThen (tidy_startInput env inputId hn) fun r => ?_
  cases r with
  | error e => exact tidy_ret
  | ok _ =>
  refine Tidy.andThen (tidy_read fun _ => rfl) fun status => ?_
  exact Tidy.andThen (tidy_query env _ _) fun _ => tidy_ret

theorem tidy_stopInputEndpoint (env : Env) (inputId : Int) :
    Tidy nested (stopInputEndpoint env inputId) none := by
  refine Tidy.andThen (tidy_stopInput inputId) fun r => ?_
  cases r with
  | error e => exact tidy_ret
  | ok _ => exact Tidy.andThen (tidy_query env _ _) fun _ => tidy_ret

theorem tidy_startOutputEndpoint (env : Env) (outputId : Int) :
    Tidy nested (startOutputEndpoint env outputId) none := by
  refine Tidy.andThen (tidy_same (getInputIdForOutput_rt env outputId)) fun r => ?_
  cases r with
  | error e => exact tidy_ret
  | ok inputId =>
  refine Tidy.andThen (tidy_startOutput env inputId outputId) fun r => ?_
  cases r with
  | error e => exact tidy_ret
  | ok _ =>
  refine Tidy.andThen (tidy_read fun _ => rfl) fun status => ?_
  exact Tidy.andThen (tidy_query env _ _) fun _ => tidy_ret

theorem tidy_stopOutputEndpoint (env : Env) (outputId : Int) :
    Tidy nested (stopOutputEndpoint env outputId) none := by
  refine Tidy.andThen (tidy_same (getInputIdForOutput_rt env outputId)) fun r => ?_
  cases r with
  | error e => exact tidy_ret
  | ok inputId =>
  refine Tidy.andThen (tidy_stopOutput inputId outputId) fun r => ?_
  cases r with
  | error e => exact tidy_ret
  | ok _ => exact Tidy.andThen (tidy_query env _ _) fun _ => tidy_ret

/-! ## The processor and the load -/

theorem tidy_processMessage : Tidy nested processMessage none := by
  refine Tidy.andThen (tidy_atomic grows_receive) fun _ => ?_
  refine Tidy.andThen (tidy_locked grows_applyProcessing) fun r => ?_
  cases r with
  | none => exact tidy_ret
  | some r => exact tidy_atomic (grows_recordTransition r.1 r.2)

theorem tidy_openIdle (id : Int) (name : Option String) (status : StreamStatus)
    (config : CreateInputRequest) (errorMessage : Option String) :
    Tidy nested (atomic (openIdle id name status config errorMessage)) held :=
  tidy_atomic (grows_openIdle id name status config errorMessage)

theorem tidy_respawnInput (req : CreateInputRequest) (id : Int) (name : Option String)
    (failure : String) : Tidy nested (respawnInput req id name failure) none := by
  refine Tidy.andThen (tidy_spawnInput req id name) fun r => ?_
  cases r with
  | ok info => exact tidy_ret
  | error e => exact tidy_openIdle id name .error req _

theorem tidy_loadBaseInputs (env : Env) (rows : List (Int × InputRow))
    (loaded : HashMap Int InputInfo) : Tidy nested (loadBaseInputs env rows loaded) none := by
  induction rows generalizing loaded with
  | nil => exact tidy_ret
  | cons r rest ih =>
    obtain ⟨id, row⟩ := r
    unfold loadBaseInputs
    split
    · exact ih loaded
    · exact tidy_ret
    · rename_i req _
      refine Tidy.andThen ?_ fun info => ih _
      unfold loadBaseInput
      split
      · exact tidy_openIdle id row.name .stopped req none
      · exact tidy_respawnInput req id row.name _

theorem tidy_loadSptsInput (id : Int) (row : InputRow) (req : CreateInputRequest) :
    Tidy nested (loadSptsInput id row req) none := by
  unfold loadSptsInput
  split
  · exact tidy_openIdle id row.name .stopped req none
  refine Tidy.andThen (tidy_read fun w => by rw [missingSource_world]) fun r => ?_
  cases r with
  | none => exact tidy_respawnInput req id row.name _
  | some sourceId => exact tidy_openIdle id row.name .stopped req _

theorem tidy_loadSptsInputs (env : Env) (rows : List (Int × InputRow))
    (loaded : HashMap Int InputInfo) : Tidy nested (loadSptsInputs env rows loaded) none := by
  induction rows generalizing loaded with
  | nil => exact tidy_ret
  | cons r rest ih =>
    obtain ⟨id, row⟩ := r
    unfold loadSptsInputs
    split
    · exact tidy_ret
    · rename_i req _
      exact Tidy.andThen (tidy_loadSptsInput id row req) fun info => ih _

theorem tidy_loadGroups (env : Env) (outs : List (Int × OutputRow)) (inputIds : List Int) :
    Tidy nested (loadGroups env outs inputIds) none := by
  induction inputIds with
  | nil => exact tidy_ret
  | cons inputId rest ih =>
    refine Tidy.andThen (tidy_locked (grows_loadGroupSection env inputId _)) fun r => ?_
    cases r with
    | error e => exact tidy_ret
    | ok _ => exact ih

theorem tidy_loadFromDb (env : Env) : Tidy nested (loadFromDb env) none := by
  refine Tidy.andThen (tidy_select env _ _) fun r => ?_
  cases r with
  | error e => exact tidy_ret
  | ok rows =>
  refine Tidy.andThen (tidy_loadBaseInputs env _ ∅) fun r => ?_
  cases r with
  | error e => exact tidy_ret
  | ok loaded =>
  refine Tidy.andThen (tidy_read fun _ => rfl) fun _ => ?_
  refine Tidy.andThen (tidy_loadSptsInputs env _ ∅) fun r => ?_
  cases r with
  | error e => exact tidy_ret
  | ok sptsLoaded =>
  refine Tidy.andThen (tidy_select env _ _) fun r => ?_
  cases r with
  | error e => exact tidy_ret
  | ok outs =>
  refine Tidy.andThen (tidy_read fun _ => rfl) fun _ => ?_
  exact tidy_loadGroups env outs _

/-! ## All operations -/

/-- The operations that start an input. -/
def Operation.startsInput : Operation → Bool
  | startInput _ | startInputEndpoint _ | updateInput _ _ => true
  | _ => false

theorem Tidy.ignore {p : Prog World α} (h : Tidy nested p none) : Tidy nested p.ignore none :=
  Disciplined.ignore h fun _ _ hheld => hheld

theorem Operation.tidy (env : Env) (op : Operation) (hn : op.startsInput = true → nested .write) :
    Tidy nested (op.prog env) none := by
  cases op with
  | startInput inputId => exact (tidy_startInput env inputId (hn rfl)).ignore
  | stopInput inputId => exact (tidy_stopInput inputId).ignore
  | startOutput inputId outputId => exact (tidy_startOutput env inputId outputId).ignore
  | stopOutput inputId outputId => exact (tidy_stopOutput inputId outputId).ignore
  | startAnalysis inputId analysisType timeoutMinutes =>
    exact (tidy_startAnalysis env inputId analysisType timeoutMinutes).ignore
  | stopAnalysis inputId analysisType =>
    exact Tidy.ignore (tidy_locked (grows_stopAnalysisSection inputId analysisType))
  | stopAllAnalysis inputId =>
    exact Tidy.ignore (tidy_locked (grows_stopAllAnalysisSection inputId))
  | createInput req => exact (tidy_createInput env req).ignore
  | updateInput inputId req => exact (tidy_updateInput env inputId req (hn rfl)).ignore
  | deleteInput inputId => exact (tidy_deleteInput env inputId).ignore
  | createOutput req => exact (tidy_createOutput env req).ignore
  | updateOutput outputId req => exact (tidy_updateOutput env outputId req).ignore
  | deleteOutput inputId outputId => exact (tidy_deleteOutput env inputId outputId).ignore
  | startInputEndpoint inputId => exact (tidy_startInputEndpoint env inputId (hn rfl)).ignore
  | stopInputEndpoint inputId => exact (tidy_stopInputEndpoint env inputId).ignore
  | startOutputEndpoint outputId => exact (tidy_startOutputEndpoint env outputId).ignore
  | stopOutputEndpoint outputId => exact (tidy_stopOutputEndpoint env outputId).ignore

/-- The guards under which a call may request another. -/
abbrev underWrite (mode : LockMode) : Prop := mode = .write

theorem GatewayCall.tidy {p : Prog World Unit} (h : GatewayCall p) : Tidy underWrite p none := by
  rcases h with ⟨env, op, rfl⟩ | rfl
  · exact op.tidy env fun _ => rfl
  · exact tidy_processMessage

/-! ## Runs -/

theorem orderly_bootPool (env : Env) (db : Database) :
    Pool.Orderly World.Grows nested (bootPool env db) := by
  intro t ht
  obtain rfl := List.mem_singleton.mp ht
  exact (tidy_loadFromDb env).ignore

/-- The steps of a run change the runtime by operations on tasks and channels only. -/
theorem runs_grows {C : World → World → Prop} {a b : Pool World}
    (h : Pool.Orderly World.Grows underWrite a)
    (hruns : Pool.Runs GatewayCall TaskStep C a b) : a.shared.Grows b.shared := by
  let later : World → World → Prop := fun _ _ => True
  have hpre : IsPreorder World later :=
    { refl := fun _ => trivial, trans := fun _ _ _ _ _ => trivial }
  have hsafe : Pool.Safe a.shared.Grows World.Grows later a :=
    ⟨.of_eq rfl, fun t ht => (h t ht).follows _⟩
  exact (hsafe.runs (fun p s hp => hp.tidy.follows s) (fun _ _ _ => trivial)
    (fun s s' hi hs _ => hi.trans (hs.elim id TaskStep.grows)) hruns).1

/-- In every state of every run the calls under way come to an end, in whatever order they take
their steps, as long as no new ones arrive: they all return, or one of them stalls. -/
theorem calls_end {env : Env} {db : Database} {p : Pool World}
    (hruns : Pool.Runs GatewayCall TaskStep (fun _ _ => True) (bootPool env db) p) :
    Pool.Inevitable TaskStep (fun q => q.Returned ∨ ∃ k, q.Stalled k) p :=
  ((orderly_bootPool env db).runs (fun _ hp => hp.tidy) hruns).stalls

/-- Operations that arrive once the empty database is loaded, each followed by steps of the
calls at the given positions. -/
def afterScript (script : List (Operation × List ℕ)) : Option (Pool World) :=
  ((bootPool localEnv emptyDatabase).advances (fun _ _ => true) (List.replicate 8 0)).bind
    fun p => p.play (script.map fun e => (e.1.prog localEnv, e.2))

theorem runs_afterScript {calls : Prog World Unit → Prop} {script : List (Operation × List ℕ)}
    (hcalls : ∀ e ∈ script, calls (e.1.prog localEnv)) {p : Pool World}
    (h : afterScript script = some p) :
    Pool.Runs calls TaskStep (fun _ _ => True) (bootPool localEnv emptyDatabase) p := by
  obtain ⟨q, hq, h⟩ := Option.bind_eq_some_iff.mp h
  refine (Pool.runs_of_advances (fun _ _ _ => trivial) _ hq).trans (Pool.runs_of_play ?_ h)
  intro _ hmem
  obtain ⟨e, he, rfl⟩ := List.mem_map.mp hmem
  exact hcalls e he

/-- A deletion has taken the entry out and still writes, and a start that has found the entry
waits for the guard. -/
theorem calls_end_startInput : ∃ p : Pool World,
    p.threads.map (fun t => (t.held, decide t.Requests)) = [(none, false), (none, false),
      (none, false), (none, true), (some .write, false)] ∧
    Pool.Inevitable TaskStep (fun q => q.Returned ∨ ∃ k, q.Stalled k) p := by
  let script : List (Operation × List ℕ) :=
    [(.createInput (udpInputRequest 5000), [1, 1, 1, 1, 1]), (.stopInput 1, [2, 2, 2]),
      (.startInput 1, [3, 3, 3]), (.deleteInput 1, [4, 4])]
  have hview : (afterScript script).map (fun p => p.threads.map fun t =>
      (t.held, decide t.Requests)) = some [(none, false), (none, false), (none, false),
        (none, true), (some .write, false)] := by
    decide +kernel
  obtain ⟨p, hp, hview⟩ := Option.map_eq_some_iff.mp hview
  exact ⟨p, hview, calls_end (runs_afterScript (fun e _ => .inl ⟨localEnv, e.1, rfl⟩) hp)⟩

/-- The calls but those that start an input, and the processor. -/
def SafeCall (p : Prog World Unit) : Prop :=
  (∃ env op, op.startsInput = false ∧ p = Operation.prog env op) ∨ p = processMessage

theorem SafeCall.tidy {p : Prog World Unit} (h : SafeCall p) : Tidy nested p none := by
  rcases h with ⟨env, op, hop, rfl⟩ | rfl
  · exact op.tidy env fun hs => absurd (hop.symm.trans hs) (by simp)
  · exact tidy_processMessage

/-- In every state of every run in which inputs are created and deleted but not started again,
all calls under way return, in whatever order they take their steps. -/
theorem calls_return {env : Env} {db : Database} {p : Pool World}
    (hruns : Pool.Runs SafeCall TaskStep (fun _ _ => True) (bootPool env db) p) :
    Pool.Inevitable TaskStep Pool.Returned p :=
  ((orderly_bootPool env db).runs (fun _ hp => hp.tidy) hruns).returns

/-- An output is being created, and the deletion of its input waits for the guard. -/
theorem calls_return_deleteInput : ∃ p : Pool World,
    p.shared.streams.keys = [1] ∧
    p.threads.map (fun t => (t.held, decide t.Requests)) = [(none, false), (none, false),
      (some .write, false), (none, true)] ∧
    Pool.Inevitable TaskStep Pool.Returned p := by
  let script : List (Operation × List ℕ) :=
    [(.createInput (udpInputRequest 5000), [1, 1, 1, 1, 1]),
      (.createOutput (udpOutputRequest "127.0.0.1"), [2, 2, 2, 2]), (.deleteInput 1, [])]
  have hview : (afterScript script).map (fun p => (p.shared.streams.keys, p.threads.map fun t =>
      (t.held, decide t.Requests))) = some ([1], [(none, false), (none, false),
        (some .write, false), (none, true)]) := by
    decide +kernel
  have hstarts : ∀ e ∈ script, e.1.startsInput = false := by
    simp [script, Operation.startsInput]
  have hcalls : ∀ e ∈ script, SafeCall (e.1.prog localEnv) :=
    fun e he => .inl ⟨localEnv, e.1, hstarts e he, rfl⟩
  obtain ⟨p, hp, hview⟩ := Option.map_eq_some_iff.mp hview
  obtain ⟨hkeys, hthreads⟩ := Prod.mk.inj hview
  exact ⟨p, hkeys, hthreads, calls_return (runs_afterScript hcalls hp)⟩

end StreamGateway
