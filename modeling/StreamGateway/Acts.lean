import StreamGateway.Calls
import StreamGateway.Interference

/-!
# The acts of the gateway

Every atomic step of every call is one of the acts below: a section of the source with its
arguments, together with what the call knows of them from the queries before. What a call
has read may be out of date, so its knowledge is about an earlier state. How far the state
can have moved on since then is what the call relies on.
-/
namespace StreamGateway

open Prog

/-- An entry without outputs, under its own id. -/
structure InputInfo.NoOutputs (info : InputInfo) (id : Int) : Prop where
  id : info.id = id
  outputTasks : info.outputTasks = ∅
  stoppedOutputs : info.stoppedOutputs = ∅

/-- The outputs of the entry stay as they are. -/
structure SameOutputs (info info' : InputInfo) : Prop where
  id : info'.id = info.id
  outputTasks : info'.outputTasks = info.outputTasks
  stoppedOutputs : info'.stoppedOutputs = info.stoppedOutputs

def DestinationFree (db : Database) (inputId : Int) (destination : String) : Prop :=
  ∀ r ∈ db.outputs.rows, ¬ (r.2.inputId = inputId ∧ r.2.destination = some destination)

def PortFree (db : Database) (port : UInt16) : Prop :=
  ∀ r ∈ db.outputs.rows, r.2.listenPort ≠ some port

/-- The row of the input was read, and the update merged with it. -/
def InputMerged (rely : Guarded World) (env : Env) (inputId : Int) (req : UpdateInputRequest)
    (merged : CreateInputRequest) (w : World) : Prop :=
  ∃ w₀ row, rely none w₀ w ∧ w₀.db.inputs.find inputId = some row ∧
    mergedInput env req row = .ok merged

/-- The row of the output was read, and the update merged with it. -/
def OutputMerged (rely : Guarded World) (env : Env) (outputId : Int) (req : UpdateOutputRequest)
    (inputId : Int) (merged : CreateOutputRequest) (w : World) : Prop :=
  ∃ w₀ row, rely none w₀ w ∧ w₀.db.outputs.find outputId = some row ∧ row.inputId = inputId ∧
    mergedOutput env req row = .ok merged

/-- The input was in memory, or its key was given, at some time before. Since then the others did
what the call relies on, and the call did nothing that takes such an input away. -/
inductive KnownInput (rely : Guarded World) (i : Int) : World → Prop
  | here {w : World} : i ∈ w.streams ∨ i ≤ w.db.inputs.lastId → KnownInput rely i w
  | later {h : Option LockMode} {w w' : World} : KnownInput rely i w → rely h w w' →
      KnownInput rely i w'
  | own {w w' : World} : KnownInput rely i w → w'.db = w.db →
      (∀ j ∈ w.streams, j ∈ w'.streams) → KnownInput rely i w'

/-- The inputs that were known still are. -/
def KeepsKnown (rely : Guarded World) (w w' : World) : Prop :=
  ∀ i, KnownInput rely i w → KnownInput rely i w'

/-- The acts that belong to the given operations, by the guard that the call holds. The load is
written as no operation. -/
inductive Act (rely : Guarded World) (ops : Option Operation → Prop) :
    Option LockMode → World → World → Prop
  | quiet {h : Option LockMode} {w w' : World} : w'.streams = w.streams →
      Launches [] w.rt w'.rt → w'.db = w.db → Act rely ops h w w'
  | launch {h : Option LockMode} {w w' : World} (t : Task) : Launches [t] w.rt w'.rt →
      t.spec.owner.outputId = none → w'.streams = w.streams → w'.db = w.db →
      (∀ i, t.spec.owner = .input i → KnownInput rely i w) → Act rely ops h w w'
  | edit {h : Option LockMode} {w w' : World} (i : Int) (info info' : InputInfo)
      (aborted : List Task) : w.streams.lookup i = some info →
      w'.streams = w.streams.insert i info' → SameOutputs info info' →
      Aborts aborted w.rt w'.rt → w'.db = w.db → Act rely ops h w w'
  | restart {h : Option LockMode} {w : World} (env : Env) (plan : StartPlan) :
      plan.config.isSpts = false → Act rely ops h w (restartSection env plan w).2
  | install {h : Option LockMode} {w : World} (env : Env) (i : Int) (new : InputInfo) :
      Act rely ops h w (sptsInstallSection env i new w).2
  | stopInput {h : Option LockMode} {w : World} (i : Int) :
      Act rely ops h w (stopInputSection i w).2
  | startOutput {h : Option LockMode} {w : World} (env : Env) (i k : Int) :
      Act rely ops h w (startOutputSection env i k w).2
  | stopOutput {h : Option LockMode} {w : World} (i k : Int) :
      Act rely ops h w (stopOutputSection i k w).2
  | setStopped {h : Option LockMode} {w w₁ : World} (env : Env) (i k : Int)
      (req : UpdateOutputRequest) (merged : CreateOutputRequest) :
      ops (some (.updateOutput k req)) → OutputMerged rely env k req i merged w₁ →
      Act rely ops h w (setStoppedConfig i k merged w).2
  | removeInput {w : World} (i : Int) : ops (some (.deleteInput i)) →
      Act rely ops (some .write) w (removeInputSection i w).2
  | removeOutput {w : World} (i k : Int) : ops (some (.deleteOutput i k)) →
      Act rely ops (some .write) w (removeOutputSection i k w).2
  | insertInput {h : Option LockMode} {w : World} (called : CreateInputRequest)
      (info : InputInfo) : ops (some (.createInput called)) → info.NoOutputs info.id →
      KnownInput rely info.id w → Act rely ops h w (insertInput info w).2
  | insertInputs {h : Option LockMode} {w : World} (loaded : HashMap Int InputInfo) : ops none →
      (∀ i info, loaded.lookup i = some info → info.NoOutputs i) →
      (∀ i ∈ loaded, KnownInput rely i w) → Act rely ops h w (insertInputs loaded w).2
  | installOutput {w w₀ : World} (env : Env) (called req : CreateOutputRequest) (i k : Int)
      (row : OutputRow) (destination : String) : ops (some (.createOutput called)) →
      rely (some .write) w₀ w →
      w₀.db.outputs.find k = some row → row.inputId = i →
      Act rely ops (some .write) w (installOutputSection env req i k destination w).2
  | loadGroup {h h' : Option LockMode} {w w₀ w₁ : World} (env : Env) (i : Int) : ops none →
      rely h' w₀ w₁ → Act rely ops h w
        (loadGroupSection env i (w₀.db.outputs.rows.filter fun o => o.2.inputId = i) w).2
  | receive {h : Option LockMode} {w : World} : Act rely ops h w (receive w).2
  | apply {h : Option LockMode} {w : World} : Act rely ops h w (applyProcessing w).2
  | saveInput {h : Option LockMode} {w : World} (env : Env) (name : Option String)
      (called req : CreateInputRequest) : ops (some (.createInput called)) →
      Act rely ops h w (saveInputToDb env name req w).2
  | inputStatus {h : Option LockMode} {w : World} (env : Env) (i : Int) (status : String) :
      Act rely ops h w (updateInputStatusInDb env i status w).2
  | updateInput {h : Option LockMode} {w : World} (env : Env) (i : Int)
      (req : UpdateInputRequest) (merged : CreateInputRequest) : ops (some (.updateInput i req)) →
      InputMerged rely env i req merged w →
      Act rely ops h w (updateInputInDb env i (getNameFromRequest merged)
        (.obj merged.toFields) w).2
  | deleteInput {w : World} (env : Env) (i : Int) : ops (some (.deleteInput i)) →
      Act rely ops (some .write) w (deleteInputFromDb env i w).2
  | saveOutput {w w₁ : World} (env : Env) (called req : CreateOutputRequest) :
      ops (some (.createOutput called)) → rely (some .write) w₁ w →
      DestinationFree w₁.db req.inputId (outputDestination req).1 →
      (∀ port, (outputDestination req).2 = some port →
        ∃ w₂, rely (some .write) w₂ w ∧ PortFree w₂.db port) →
      Act rely ops (some .write) w (saveOutputToDb env
        (outputRowName req (outputDestination req).1) req.inputId (outputRowKind req)
        (outputDestination req).1 (some (.obj req.toFields)) (outputDestination req).2 w).2
  | outputStatus {h : Option LockMode} {w : World} (env : Env) (k : Int) (status : String) :
      Act rely ops h w (updateOutputStatusInDb env k status w).2
  | updateOutput {w : World} (env : Env) (i k : Int) (req : UpdateOutputRequest)
      (merged : CreateOutputRequest) : ops (some (.updateOutput k req)) →
      OutputMerged rely env k req i merged w →
      Act rely ops none w (updateOutputInDb env k merged.name (updatedDestination merged).1
        (some (.obj merged.toFields)) (updatedDestination merged).2 w).2
  | deleteOutput {w : World} (env : Env) (i k : Int) : ops (some (.deleteOutput i k)) →
      Act rely ops (some .write) w (deleteOutputFromDb env k w).2

variable {α β : Type} {rely : Guarded World} {ops : Option Operation → Prop} {h : Option LockMode}

/-- From `w` on, with the guard `h`, the call takes acts of the given operations. -/
abbrev Acts (rely : Guarded World) (ops : Option Operation → Prop) (p : Prog World α)
    (h : Option LockMode) (w : World)
    (Q : α → Option LockMode → World → Prop := fun _ _ _ => True) : Prop :=
  p.Behaves rely (Act rely ops) h w Q

theorem Acts.andThen {p : Prog World α} {f : α → Prog World β} {w : World}
    {Q : β → Option LockMode → World → Prop} (hp : Acts rely ops p h w)
    (hf : ∀ r h w, Acts rely ops (f r) h w Q) : Acts rely ops (p >>= f) h w Q :=
  Behaves.bind hp fun r h w _ => hf r h w

/-- The guard is the same at the end. -/
abbrev Same (h : Option LockMode) : α → Option LockMode → World → Prop := fun _ h' _ => h' = h

theorem acts_atomic {f : World → α × World} (hf : ∀ w, Act rely ops h w (f w).2) (w : World) :
    Acts rely ops (atomic f) h w (Same h) :=
  Behaves.atomic fun w' _ => ⟨hf w', rfl⟩

theorem acts_locked {mode : LockMode} {f : World → α × World}
    (hf : ∀ h w, Act rely ops h w (f w).2) (w : World) :
    Acts rely ops (locked mode f) h w (Same none) :=
  Behaves.locked fun _ w' _ _ => ⟨hf _ w', fun _ _ => rfl⟩

theorem Acts.any {p : Prog World α} {w : World} {Q : α → Option LockMode → World → Prop}
    (hp : Acts rely ops p h w Q) : Acts rely ops p h w :=
  Behaves.weaken hp fun _ _ _ _ => trivial

theorem KeepsKnown.refl (w : World) : KeepsKnown rely w w := fun _ hi => hi

theorem KeepsKnown.trans {w w' w'' : World} (h₁ : KeepsKnown rely w w')
    (h₂ : KeepsKnown rely w' w'') : KeepsKnown rely w w'' :=
  fun i hi => h₂ i (h₁ i hi)

theorem KeepsKnown.of_rely {w w' : World} (hw : rely h w w') : KeepsKnown rely w w' :=
  fun _ hi => .later hi hw

/-- Only the runtime changes. -/
theorem KeepsKnown.of_runtime (w : World) (rt : Runtime) :
    KeepsKnown rely w { w with rt := rt } :=
  fun _ hi => .own hi rfl fun _ hj => hj

theorem Act.of_eq {w w' : World} (hs : w'.streams = w.streams) (hrt : w'.rt = w.rt)
    (hdb : w'.db = w.db) : Act rely ops h w w' := by
  refine .quiet hs ?_ hdb
  rw [hrt]
  exact .refl w.rt

theorem Act.refl (w : World) : Act rely ops h w w := .of_eq rfl rfl rfl

theorem acts_select (env : Env) (q : Query) (f : Database → α) (w : World) :
    Acts rely ops (atomic (select env q f)) h w (Same h) := by
  refine acts_atomic (fun w => ?_) w
  rw [select_world]
  exact .refl w

theorem acts_read {f : World → α} (w : World) :
    Acts rely ops (atomic fun w => (f w, w)) h w (Same h) :=
  acts_atomic (fun w => .refl w) w

theorem acts_lockedRead_known {mode : LockMode} {f : World → α} (w : World) :
    Acts rely ops (locked mode fun w => (f w, w)) h w fun _ _ w' => KeepsKnown rely w w' :=
  Behaves.locked fun _ w₂ h₁ h₂ => ⟨.refl w₂, fun _ h₃ =>
    ((KeepsKnown.of_rely h₁).trans (.of_rely h₂)).trans (.of_rely h₃)⟩

theorem acts_lockedRead {mode : LockMode} {f : World → α} (w : World) :
    Acts rely ops (locked mode fun w => (f w, w)) h w (Same none) :=
  acts_locked (fun _ w => .refl w) w

/-! ## Queries -/

theorem acts_getInputIdForOutput (env : Env) (outputId : Int) (w : World) :
    Acts rely ops (atomic (getInputIdForOutput env outputId)) h w := by
  refine Acts.any (acts_atomic (fun w => ?_) w)
  have hw : (getInputIdForOutput env outputId w).2 = w := by
    have hsel := select_world env .getInputIdForOutput (fun db => db.outputs.find outputId) w
    unfold getInputIdForOutput
    split <;> simp_all
  rw [hw]
  exact .refl w

theorem select_ok {env : Env} {q : Query} {f : Database → α} {w : World} {r : α}
    (h : (select env q f w).1 = .ok r) : f w.db = r := by
  unfold select query at h
  split at h
  · exact absurd h (by simp)
  · exact Except.ok.inj h

theorem storedInput_spec (env : Env) (inputId : Int) (req : UpdateInputRequest) (w : World) :
    (storedInput env inputId req w).2 = w ∧
      ∀ merged, (storedInput env inputId req w).1 = .ok merged →
        ∃ row, w.db.inputs.find inputId = some row ∧ mergedInput env req row = .ok merged := by
  have hw : (getInputById env inputId w).2 = w := select_world env _ _ w
  unfold storedInput
  split
  · rename_i e w' heq
    rw [heq] at hw
    exact ⟨hw, fun _ h => absurd h (by simp)⟩
  · rename_i w' heq
    rw [heq] at hw
    exact ⟨hw, fun _ h => absurd h (by simp)⟩
  · rename_i row w' heq
    have hrow : (getInputById env inputId w).1 = .ok (some row) := by rw [heq]
    rw [heq] at hw
    exact ⟨hw, fun merged h => ⟨row, select_ok hrow, h⟩⟩

theorem storedOutput_spec (env : Env) (outputId : Int) (req : UpdateOutputRequest) (w : World) :
    (storedOutput env outputId req w).2 = w ∧
      ∀ inputId merged, (storedOutput env outputId req w).1 = .ok (inputId, merged) →
        ∃ row, w.db.outputs.find outputId = some row ∧ row.inputId = inputId ∧
          mergedOutput env req row = .ok merged := by
  have hw : (getOutputById env outputId w).2 = w := select_world env _ _ w
  unfold storedOutput
  split
  · rename_i e w' heq
    rw [heq] at hw
    exact ⟨hw, fun _ _ h => absurd h (by simp)⟩
  · rename_i w' heq
    rw [heq] at hw
    exact ⟨hw, fun _ _ h => absurd h (by simp)⟩
  · rename_i row w' heq
    have hrow : (getOutputById env outputId w).1 = .ok (some row) := by rw [heq]
    rw [heq] at hw
    refine ⟨hw, fun inputId merged h => ⟨row, select_ok hrow, ?_⟩⟩
    cases hm : mergedOutput env req row with
    | error e =>
      rw [hm] at h
      exact absurd h (by simp [Except.map])
    | ok config =>
      rw [hm] at h
      obtain ⟨rfl, rfl⟩ := Prod.mk.inj (Except.ok.inj h)
      exact ⟨rfl, rfl⟩

theorem looks_select {α : Type} (env : Env) (q : Query) (f : Database → α) :
    Looks (atomic (select env q f)) :=
  .atomic fun w => select_world env q f w

theorem looks_searchPort (env : Env) (usedPorts ports : List UInt16) :
    Looks (searchPort env usedPorts ports) := by
  induction ports with
  | nil => exact .ret _
  | cons port rest ih =>
    unfold searchPort
    split
    · exact ih
    refine (looks_select env _ _).bind fun r => ?_
    rcases r with e | _ | _
    · exact .ret _
    · dsimp only
      split
      · exact .ret _
      · exact ih
    · exact ih

theorem looks_findAvailablePort (env : Env) : Looks (findAvailablePort env) := by
  refine (looks_select env _ _).bind fun r => ?_
  cases r with
  | error e => exact .ret _
  | ok listenPorts =>
  refine (looks_select env _ _).bind fun r => ?_
  cases r with
  | error e => exact .ret _
  | ok configPorts => exact looks_searchPort env _ _

theorem acts_searchPort (env : Env) (usedPorts ports : List UInt16) (w : World) :
    Acts rely ops (searchPort env usedPorts ports) h w (Same h) := by
  induction ports generalizing w with
  | nil => exact Behaves.ret rfl
  | cons port rest ih =>
    unfold searchPort
    split
    · exact ih w
    refine Behaves.bind (acts_select env _ _ w) fun r h' w' hh => ?_
    subst hh
    rcases r with e | _ | _
    · exact Behaves.ret rfl
    · dsimp only
      split
      · exact Behaves.ret rfl
      · exact ih w'
    · exact ih w'

theorem acts_findAvailablePort (env : Env) (w : World) :
    Acts rely ops (findAvailablePort env) h w (Same h) := by
  refine Behaves.bind (acts_select env _ _ w) fun r h' w hh => ?_
  subst hh
  cases r with
  | error e => exact Behaves.ret rfl
  | ok listenPorts =>
  refine Behaves.bind (acts_select env _ _ w) fun r h' w hh => ?_
  subst hh
  cases r with
  | error e => exact Behaves.ret rfl
  | ok configPorts => exact acts_searchPort env _ _ w

/-! ## Analyses -/

theorem act_insertAnalysis (inputId : Int) (a : AnalysisInfo) (w : World) :
    Act rely ops h w (insertAnalysis inputId a w).2 := by
  rcases insertAnalysis_ok inputId a w with hw | ⟨info, hi, hw⟩
  · rw [hw]
    exact .refl w
  · rw [hw]
    exact .edit inputId info _ [] hi rfl ⟨rfl, rfl, rfl⟩ (.refl w.rt) rfl

theorem act_pauseAgain (inputId : Int) (analysisType : AnalysisType) (w : World) :
    Act rely ops h w (pauseAgain inputId analysisType w).2 := by
  unfold pauseAgain
  split
  · exact .refl w
  · rename_i info hi
    exact .edit inputId info _ [] hi rfl ⟨rfl, rfl, rfl⟩ (.refl w.rt) rfl

theorem act_setConfig (inputId : Int) (config : CreateInputRequest) (w : World) :
    Act rely ops h w (setConfig inputId config w).2 := by
  unfold setConfig
  split
  · exact .refl w
  · rename_i info hi
    exact .edit inputId info _ [] hi rfl ⟨rfl, rfl, rfl⟩ (.refl w.rt) rfl

theorem act_stopAnalysis (inputId : Int) (analysisType : AnalysisType) (w : World) :
    Act rely ops h w (stopAnalysisSection inputId analysisType w).2 := by
  rcases stopAnalysisSection_ok inputId analysisType w with hw | ⟨info, _, a, hi, _, hw⟩
  · rw [hw]
    exact .refl w
  · rw [hw]
    exact .edit inputId info _ _ hi rfl ⟨rfl, rfl, rfl⟩ (aborts_abort w.rt a.taskHandle) rfl

theorem act_stopAllAnalysis (inputId : Int) (w : World) :
    Act rely ops h w (stopAllAnalysisSection inputId w).2 := by
  rcases stopAllAnalysisSection_ok inputId w with hw | ⟨info, hi, hw⟩
  · rw [hw]
    exact .refl w
  · rw [hw]
    exact .edit inputId info _ _ hi rfl ⟨rfl, rfl, rfl⟩
      (aborts_abortAnalyses info.analysisTasks.toPairs w.rt) rfl

theorem acts_startAnalysis (env : Env) (inputId : Int) (analysisType : AnalysisType)
    (timeoutMinutes : Option UInt64) (w : World) :
    Acts rely ops (startAnalysis env inputId analysisType timeoutMinutes) h w := by
  have hid : ∀ w : World, Act rely ops h w (newAnalysisId w).2 := fun w =>
    .quiet rfl (.nil rfl rfl rfl rfl rfl) rfl
  refine Acts.andThen (acts_atomic hid w).any fun analysisId h w => ?_
  refine Acts.andThen (acts_lockedRead w).any fun r h w => ?_
  cases r with
  | error e => exact Behaves.ret trivial
  | ok rx =>
    refine Acts.andThen (acts_atomic (fun w => ?_) w).any fun r h w => ?_
    · rcases spawnAnalysis_ok env inputId analysisId analysisType timeoutMinutes rx w with
        ⟨_, _, hs⟩ | ⟨_, _, hs⟩
      · rw [hs]
        exact .refl w
      · rw [hs]
        exact .launch _ (launches_spawn w.rt _) rfl rfl rfl
          fun _ ho => Owner.noConfusion ho
    cases r with
    | error e => exact Behaves.ret trivial
    | ok a => exact (acts_locked (fun _ w => act_insertAnalysis inputId a w) w).any

theorem acts_restartPaused (env : Env) (inputId : Int) (paused : List AnalysisType) (w : World) :
    Acts rely ops (restartPaused env inputId paused) h w := by
  induction paused generalizing h w with
  | nil => exact Behaves.ret trivial
  | cons analysisType rest ih =>
    exact Acts.andThen (acts_startAnalysis env inputId analysisType none w) fun _ h w => ih w

theorem acts_restartPausedHeld (env : Env) (inputId : Int) (paused : List AnalysisType)
    (w : World) :
    Acts rely ops (restartPausedHeld env inputId paused) h w := by
  induction paused generalizing h w with
  | nil => exact Behaves.ret trivial
  | cons analysisType rest ih =>
    refine Acts.andThen (acts_startAnalysis env inputId analysisType none w) fun r h w => ?_
    cases r with
    | error e =>
      exact Acts.andThen (acts_atomic (act_pauseAgain inputId analysisType) w).any
        fun _ h w => ih w
    | ok _ => exact ih w

/-! ## Starting and stopping -/

theorem sptsEntrySection_ok {inputId : Int} {w : World} (h : sptsEntrySection inputId w = .ok ()) :
    inputId ∈ w.streams := by
  unfold sptsEntrySection at h
  split at h
  · exact absurd h (by simp)
  · rename_i info hi
    exact HashMap.mem_iff.mpr ⟨_, hi⟩

theorem acts_startSpts (env : Env) (plan : StartPlan) (sourceInputId : Int)
    (programNumber : UInt16) (fillWithNulls : Option Bool) (w : World) :
    Acts rely ops (startSpts env plan sourceInputId programNumber fillWithNulls) h w := by
  refine Behaves.bind (Q := fun r _ w => r = .ok () → KnownInput rely plan.inputId w)
    (Behaves.locked fun _ w' _ _ => ⟨.refl w', fun _ hw hr => .later (.here (.inl ?_)) hw⟩)
    fun r h w hr => ?_
  · exact sptsEntrySection_ok hr
  cases r with
  | error e => exact Behaves.ret trivial
  | ok _ =>
  have hknown := hr rfl
  refine Behaves.bind (acts_lockedRead_known w) fun r h w hw => ?_
  have hknown := hw _ hknown
  cases r with
  | error e => exact Behaves.ret trivial
  | ok _ =>
  refine Acts.andThen (Behaves.locked fun _ w' h₁ h₂ => ⟨?_, fun _ _ => trivial⟩) fun r h w => ?_
  · unfold sptsSpawnSection
    split
    · exact .refl w'
    · refine .launch _ (launches_input w'.rt _) rfl rfl rfl fun i ho => ?_
      obtain rfl := Owner.input.inj ho
      exact .later (.later hknown h₁) h₂
  cases r with
  | error e => exact Behaves.ret trivial
  | ok new =>
  refine Acts.andThen (acts_locked (fun h w => .install env plan.inputId new) w).any
    fun r h w => ?_
  cases r with
  | error e => exact Behaves.ret trivial
  | ok paused =>
    exact Acts.andThen (acts_restartPaused env plan.inputId paused w)
      fun _ _ _ => Behaves.ret trivial

theorem acts_startBase (env : Env) {plan : StartPlan} (hspts : plan.config.isSpts = false)
    (w : World) : Acts rely ops (startBase env plan) h w := by
  intro w' _
  refine Acts.andThen (acts_atomic (fun w => .restart env plan hspts) w').any fun r h w => ?_
  cases r with
  | error e => exact fun _ _ => trivial
  | ok paused =>
    exact Acts.andThen (acts_restartPausedHeld env plan.inputId paused w) fun _ _ _ _ _ => trivial

theorem acts_startInput (env : Env) (inputId : Int) (w : World) :
    Acts rely ops (startInput env inputId) h w := by
  refine Acts.andThen (acts_lockedRead w).any fun r h w => ?_
  cases r with
  | error e => exact Behaves.ret trivial
  | ok plan =>
  refine Acts.andThen (p := stateTxOrGlobal plan.stateTx) ?_ fun stateTx h w => ?_
  · unfold stateTxOrGlobal
    split
    · exact Behaves.ret trivial
    · exact (acts_read w).any
  cases hc : plan.config with
  | spts sourceInputId programNumber fillWithNulls name =>
    exact acts_startSpts env _ sourceInputId programNumber fillWithNulls w
  | udp => exact acts_startBase env rfl w
  | srt => exact acts_startBase env rfl w

theorem acts_stopInput (inputId : Int) (w : World) :
    Acts rely ops (stopInput inputId) h w :=
  (acts_locked (fun _ _ => .stopInput inputId) w).any

theorem acts_startOutput (env : Env) (inputId outputId : Int) (w : World) :
    Acts rely ops (startOutput env inputId outputId) h w :=
  (acts_locked (fun _ _ => .startOutput env inputId outputId) w).any

theorem acts_stopOutput (inputId outputId : Int) (w : World) :
    Acts rely ops (stopOutput inputId outputId) h w :=
  (acts_locked (fun _ _ => .stopOutput inputId outputId) w).any

/-! ## Creating, updating and deleting inputs -/

theorem noOutputs_idle (id : Int) (name : Option String) (status : StreamStatus)
    (packetTx : ChannelId) (config : CreateInputRequest) (stateTx : Option StateChangeSender)
    (errorMessage : Option String) :
    (idleInput id name status packetTx config stateTx errorMessage).NoOutputs id :=
  ⟨rfl, rfl, rfl⟩

theorem acts_spawnInput (req : CreateInputRequest) (id : Int) (name : Option String) (w : World)
    (hid : KnownInput rely id w) :
    Acts rely ops (spawnInput req id name) h w fun r _ w' =>
      (∀ info, r = .ok info → info.NoOutputs id) ∧ KeepsKnown rely w w' := by
  have hlaunch : ∀ {h₀ : Option LockMode} {w' : World} (spec : TaskSpec), KnownInput rely id w' →
      spec.owner = .input id → Act rely ops h₀ w' { w' with
        rt := (w'.rt.openChannel.spawn spec).record .incrementActiveInputs } := by
    intro h₀ w' spec hknown howner
    refine .launch _ (launches_input w'.rt spec) ?_ rfl rfl fun i ho => ?_
    · show spec.owner.outputId = none
      rw [howner]
      rfl
    · obtain rfl := Owner.input.inj (howner.symm.trans ho)
      exact hknown
  cases req with
  | udp =>
    refine Behaves.bind (Q := fun info _ w' => info.NoOutputs id ∧ KeepsKnown rely w w')
      (Behaves.atomic fun w' hw => ⟨hlaunch _ (.later hid hw) rfl, ⟨rfl, rfl, rfl⟩,
        (KeepsKnown.of_rely hw).trans (.of_runtime w' _)⟩)
      fun info h w' hinfo => Behaves.ret ⟨fun info' hi => ?_, hinfo.2⟩
    obtain rfl := Except.ok.inj hi
    exact hinfo.1
  | srt =>
    refine Behaves.bind (Q := fun info _ w' => info.NoOutputs id ∧ KeepsKnown rely w w')
      (Behaves.atomic fun w' hw => ⟨hlaunch _ (.later hid hw) rfl, ⟨rfl, rfl, rfl⟩,
        (KeepsKnown.of_rely hw).trans (.of_runtime w' _)⟩)
      fun info h w' hinfo => ?_
    refine Behaves.bind (Q := fun _ _ w'' => KeepsKnown rely w w'') (Behaves.atomic fun w'' hw =>
      ⟨.refl w'', hinfo.2.trans (.of_rely hw)⟩)
      fun stateTx h w'' hkeeps => Behaves.ret ⟨fun info' hi => ?_, hkeeps⟩
    obtain rfl := Except.ok.inj hi
    exact ⟨hinfo.1.id, hinfo.1.outputTasks, hinfo.1.stoppedOutputs⟩
  | spts sourceInputId programNumber fillWithNulls reqName =>
    refine Behaves.locked fun _ w' h₁ h₂ => ?_
    have hkeeps : KeepsKnown rely w w' := (KeepsKnown.of_rely h₁).trans (.of_rely h₂)
    unfold spawnSptsSection
    split
    · exact ⟨.refl w', fun _ h₃ => ⟨fun _ hi => absurd hi (by simp),
        hkeeps.trans (.of_rely h₃)⟩⟩
    · refine ⟨hlaunch _ (hkeeps id hid) rfl, fun _ h₃ => ⟨fun info hi => ?_,
        (hkeeps.trans (.of_runtime w' _)).trans (.of_rely h₃)⟩⟩
      obtain rfl := Except.ok.inj hi
      exact ⟨rfl, rfl, rfl⟩

theorem saveInputToDb_given {env : Env} {name : Option String} {req : CreateInputRequest}
    {w : World} {id : Int} (h : (saveInputToDb env name req w).1 = .ok id) :
    id = w.db.inputs.lastId + 1 ∧
      (saveInputToDb env name req w).2.db.inputs.lastId = w.db.inputs.lastId + 1 := by
  unfold saveInputToDb query at h ⊢
  split at h
  · exact absurd h (by simp)
  · exact ⟨(Except.ok.inj h).symm, rfl⟩

theorem acts_assignInputPort (env : Env) (req : CreateInputRequest) (w : World) :
    Acts rely ops (assignInputPort env req) h w := by
  unfold assignInputPort
  split
  · refine Acts.andThen (acts_findAvailablePort env w).any fun r h w => ?_
    cases r <;> exact Behaves.ret trivial
  · exact Behaves.ret trivial

theorem InputInfo.NoOutputs.self {info : InputInfo} {id : Int} (hi : info.NoOutputs id) :
    info.NoOutputs info.id :=
  ⟨rfl, hi.outputTasks, hi.stoppedOutputs⟩

theorem acts_createInput (env : Env) (req : CreateInputRequest)
    (hops : ops (some (.createInput req))) (w : World) :
    Acts rely ops (createInput env req) h w := by
  unfold createInput
  split
  · exact Behaves.ret trivial
  refine Acts.andThen (acts_assignInputPort env req w) fun r h w => ?_
  rcases r with r | ⟨finalReq, assignedPort⟩
  · exact Behaves.ret trivial
  refine Behaves.bind (Q := fun r _ w => ∀ id, r = .ok id → KnownInput rely id w)
    (Behaves.atomic fun w' _ => ⟨.saveInput env (inputName req) req finalReq hops,
      fun id hr => ?_⟩) fun r h w hr => ?_
  · obtain ⟨hid, hlast⟩ := saveInputToDb_given hr
    exact .here (.inr (Int.le_of_eq (hid.trans hlast.symm)))
  cases r with
  | error e => exact Behaves.ret trivial
  | ok id =>
  have hknown := hr id rfl
  refine Behaves.bind (acts_spawnInput finalReq id (inputName req) w hknown) fun r h w hr => ?_
  have hknown := hr.2 id hknown
  cases r with
  | ok info =>
    have hinfo := hr.1 info rfl
    refine Acts.andThen (Behaves.locked fun _ w' h₁ h₂ => ⟨.insertInput req info hops hinfo.self
      ?_, fun _ _ => trivial⟩) fun _ _ _ => Behaves.ret trivial
    rw [hinfo.id]
    exact .later (.later hknown h₁) h₂
  | error e =>
    refine Behaves.bind (Q := fun info _ w' => info.NoOutputs id ∧ KnownInput rely id w')
      (Behaves.atomic fun w' hw => ⟨.quiet rfl (.nil rfl rfl rfl rfl rfl) rfl,
        noOutputs_idle _ _ _ _ _ _ _, KeepsKnown.of_runtime w' _ id (.later hknown hw)⟩)
      fun info h w hinfo w' hw => ?_
    refine Acts.andThen (Behaves.atomic fun w'' hw' => ⟨.insertInput req info hops hinfo.1.self
      ?_, trivial⟩) fun _ h w => ?_
    · rw [hinfo.1.id]
      exact .later (.later hinfo.2 hw) hw'
    exact Acts.andThen (acts_atomic (fun w => .inputStatus env id "error") w).any
      fun _ _ _ _ _ => trivial

theorem acts_deleteInput (env : Env) (inputId : Int) (hops : ops (some (.deleteInput inputId)))
    (w : World) : Acts rely ops (deleteInput env inputId) h w := by
  intro w' _
  refine Behaves.bind (acts_atomic (fun w => .removeInput inputId hops) w') fun found h w hh => ?_
  subst hh
  cases found with
  | false => exact fun _ _ => trivial
  | true =>
    exact Acts.andThen (acts_atomic (fun w => .deleteInput env inputId hops) w).any
      fun _ _ _ _ _ => trivial

theorem acts_updateInput (env : Env) (inputId : Int) (req : UpdateInputRequest)
    (hops : ops (some (.updateInput inputId req))) (w : World) :
    Acts rely ops (updateInput env inputId req) none w := by
  refine Behaves.bind (Q := fun r h w => h = none ∧ ∀ merged, r = .ok merged →
      ∃ row, w.db.inputs.find inputId = some row ∧ mergedInput env req row = .ok merged)
    (Behaves.atomic fun w' _ => ?_) fun r h w hr => ?_
  · obtain ⟨hw, hmerged⟩ := storedInput_spec env inputId req w'
    rw [hw]
    exact ⟨.refl w', rfl, hmerged⟩
  obtain ⟨rfl, hr⟩ := hr
  cases r with
  | error r => exact Behaves.ret trivial
  | ok mergedConfig =>
  obtain ⟨row, hrow, hmerged⟩ := hr mergedConfig rfl
  refine Acts.andThen (Behaves.atomic fun w' hw => ⟨.updateInput env inputId req mergedConfig hops
    ⟨w, row, hw, hrow, hmerged⟩, trivial⟩) fun r h w => ?_
  cases r with
  | error e => exact Behaves.ret trivial
  | ok _ =>
  refine Acts.andThen (p := stopIfActive inputId) ?_ fun r h w => ?_
  · refine Acts.andThen (acts_lockedRead w).any fun active h w => ?_
    cases active with
    | false => exact Behaves.ret trivial
    | true => exact acts_stopInput inputId w
  cases r with
  | error e => exact Behaves.ret trivial
  | ok _ =>
  refine Acts.andThen (acts_locked (fun _ w => act_setConfig inputId mergedConfig w) w).any
    fun _ h w => ?_
  refine Acts.andThen (acts_startInput env inputId w) fun r h w => ?_
  cases r with
  | error e => exact Behaves.ret trivial
  | ok _ =>
    exact Acts.andThen (acts_atomic (fun w => .inputStatus env inputId "listening") w).any
      fun _ _ _ => Behaves.ret trivial

/-! ## Creating, updating and deleting outputs -/

@[simp] theorem withAssignedPort_inputId (req : CreateOutputRequest) (port : UInt16) :
    (req.withAssignedPort port).inputId = req.inputId := by
  cases req with
  | udp => rfl
  | srt inputId name config => cases config <;> rfl

theorem acts_assignOutputPort (env : Env) (req : CreateOutputRequest) (w : World) :
    Acts rely ops (assignOutputPort env req) h w fun r h' _ => h' = h ∧
      ∀ finalReq assignedPort, r = .ok (finalReq, assignedPort) →
        finalReq.inputId = req.inputId := by
  unfold assignOutputPort
  split
  · refine Behaves.bind (acts_findAvailablePort env w) fun r h' w hh => ?_
    subst hh
    cases r with
    | error e => exact Behaves.ret ⟨rfl, fun _ _ h => absurd h (by simp)⟩
    | ok port =>
      refine Behaves.ret ⟨rfl, fun finalReq assignedPort h => ?_⟩
      obtain ⟨rfl, _⟩ := Prod.mk.inj (Except.ok.inj h)
      exact withAssignedPort_inputId req port
  · refine Behaves.ret ⟨rfl, fun finalReq assignedPort h => ?_⟩
    obtain ⟨rfl, _⟩ := Prod.mk.inj (Except.ok.inj h)
    rfl

theorem checkOutputExists_free {env : Env} {inputId : Int} {destination : String} {w : World}
    (h : (checkOutputExists env inputId destination w).1 = .ok false) :
    DestinationFree w.db inputId destination := by
  have hany := select_ok h
  intro r hr hrow
  have := List.any_eq_false.mp hany r hr
  exact this (by simpa using hrow)

theorem checkPortConflict_free {env : Env} {port : UInt16} {w : World}
    (h : (checkPortConflict env port w).1 = .ok false) : PortFree w.db port := by
  have hany := select_ok h
  intro r hr hrow
  have := List.any_eq_false.mp hany r hr
  exact this (by simpa using hrow)

/-- The checks passed a while ago. -/
def Checked (rely : Guarded World) (inputId : Int) (destination : String)
    (listenPort : Option UInt16) (w : World) : Prop :=
  (∃ w₁, (∀ w', rely (some .write) w w' → rely (some .write) w₁ w') ∧
      DestinationFree w₁.db inputId destination) ∧
    ∀ port, listenPort = some port →
      ∃ w₂, (∀ w', rely (some .write) w w' → rely (some .write) w₂ w') ∧ PortFree w₂.db port

theorem acts_checkConflicts [∀ h, IsTrans World (rely h)] (env : Env) (inputId : Int)
    (destination : String) (listenPort : Option UInt16) (w : World) :
    Acts rely ops (checkConflicts env inputId destination listenPort) (some .write) w
      fun r h w => h = some .write ∧ (r = .ok () → Checked rely inputId destination listenPort w)
    := by
  refine Behaves.bind (Q := fun r h w => h = some .write ∧
      (r = .ok false → DestinationFree w.db inputId destination)) (Behaves.atomic fun w' _ => ?_)
    fun r h w hr => ?_
  · have hw : (checkOutputExists env inputId destination w').2 = w' := select_world env _ _ w'
    rw [hw]
    exact ⟨.refl w', rfl, checkOutputExists_free⟩
  obtain ⟨rfl, hr⟩ := hr
  rcases r with e | _ | _
  · exact Behaves.ret ⟨rfl, fun h => absurd h (by simp)⟩
  · have hfree := hr rfl
    cases listenPort with
    | none =>
      exact Behaves.ret ⟨rfl, fun _ => ⟨⟨w, fun _ h => h, hfree⟩, fun _ h => absurd h (by simp)⟩⟩
    | some port =>
      refine Behaves.bind (Q := fun r h w' => h = some .write ∧ rely (some .write) w w' ∧
          (r = .ok false → PortFree w'.db port)) (Behaves.atomic fun w' hw => ?_)
        fun r h w' hr => ?_
      · have hw' : (checkPortConflict env port w').2 = w' := select_world env _ _ w'
        rw [hw']
        exact ⟨.refl w', rfl, hw, checkPortConflict_free⟩
      obtain ⟨rfl, hw, hr⟩ := hr
      rcases r with e | _ | _
      · exact Behaves.ret ⟨rfl, fun h => absurd h (by simp)⟩
      · refine Behaves.ret ⟨rfl, fun _ => ⟨⟨w, fun w'' h => trans_of (rely _) hw h, hfree⟩, ?_⟩⟩
        intro port' hport
        obtain rfl := Option.some.inj hport
        exact ⟨w', fun _ h => h, hr rfl⟩
      · exact Behaves.ret ⟨rfl, fun h => absurd h (by simp)⟩
  · exact Behaves.ret ⟨rfl, fun h => absurd h (by simp)⟩

/-- A row that was saved is there. -/
theorem saveOutputToDb_find {env : Env} {name : Option String} {inputId outputId : Int}
    {kind destination : String} {configJson : Option Json} {listenPort : Option UInt16}
    {w : World}
    (h : (saveOutputToDb env name inputId kind destination configJson listenPort w).1 =
      .ok outputId) :
    ∃ row, (saveOutputToDb env name inputId kind destination configJson listenPort
      w).2.db.outputs.find outputId = some row ∧ row.inputId = inputId := by
  unfold saveOutputToDb query at h ⊢
  split at h
  · exact absurd h (by simp)
  rename_i hrow
  rw [if_neg hrow]
  split at h
  · exact absurd h (by simp)
  · obtain rfl := Except.ok.inj h
    exact ⟨_, by rw [Table.find_insert, if_pos rfl], rfl⟩

theorem acts_createOutputHeld [∀ h, IsTrans World (rely h)] (env : Env)
    (req : CreateOutputRequest) (hops : ops (some (.createOutput req))) (w : World) :
    Acts rely ops (createOutputHeld env req) (some .write) w (Same (some .write)) := by
  refine Behaves.bind (acts_assignOutputPort env req w) fun r h w hr => ?_
  obtain ⟨rfl, hr⟩ := hr
  rcases r with r | ⟨finalReq, assignedPort⟩
  · exact Behaves.ret rfl
  have hinput := hr finalReq assignedPort rfl
  refine Behaves.bind (acts_checkConflicts env req.inputId (outputDestination finalReq).1
    (outputDestination finalReq).2 w) fun r h w hr => ?_
  obtain ⟨rfl, hr⟩ := hr
  cases r with
  | error r => exact Behaves.ret rfl
  | ok _ =>
  obtain ⟨⟨w₁, hw₁, hdest⟩, hport⟩ := hr rfl
  rw [← hinput] at hdest ⊢
  refine Behaves.bind (Q := fun r h w => h = some .write ∧ ∀ outputId, r = .ok outputId →
      ∃ row, w.db.outputs.find outputId = some row ∧ row.inputId = finalReq.inputId)
    (Behaves.atomic fun w' hw => ⟨?_, rfl, fun outputId => saveOutputToDb_find⟩) fun r h w hr => ?_
  · refine .saveOutput env req finalReq hops (hw₁ w' hw) hdest fun port hp => ?_
    obtain ⟨w₂, hw₂, hfree⟩ := hport port hp
    exact ⟨w₂, hw₂ w' hw, hfree⟩
  obtain ⟨rfl, hr⟩ := hr
  cases r with
  | error e => exact Behaves.ret rfl
  | ok outputId =>
  obtain ⟨row, hrow, hrowInput⟩ := hr outputId rfl
  refine Behaves.bind (Q := Same (some .write)) (Behaves.atomic fun w' hw =>
    ⟨.installOutput env req finalReq finalReq.inputId outputId row _ hops hw hrow hrowInput, rfl⟩)
    fun r h w hh => ?_
  cases r <;> exact Behaves.ret hh

theorem acts_createOutput [∀ h, IsTrans World (rely h)] (env : Env) (req : CreateOutputRequest)
    (hops : ops (some (.createOutput req))) (w : World) :
    Acts rely ops (createOutput env req) h w := by
  unfold createOutput
  split
  · exact Behaves.ret trivial
  intro w' _
  refine Acts.andThen (p := createOutputGuarded env req) ?_ fun _ _ _ _ _ => trivial
  refine Behaves.bind (acts_read w') fun found h w hh => ?_
  subst hh
  cases found with
  | false => exact Behaves.ret trivial
  | true => exact (acts_createOutputHeld env req hops w).any

theorem acts_deleteOutput (env : Env) (inputId outputId : Int)
    (hops : ops (some (.deleteOutput inputId outputId))) (w : World) :
    Acts rely ops (deleteOutput env inputId outputId) h w := by
  intro w' _
  refine Behaves.bind (acts_atomic (fun w => .removeOutput inputId outputId hops) w')
    fun r h w hh => ?_
  subst hh
  cases r with
  | error r => exact fun _ _ => trivial
  | ok _ =>
    exact Acts.andThen (acts_atomic (fun w => .deleteOutput env inputId outputId hops) w).any
      fun _ _ _ _ _ => trivial

theorem acts_updateOutput (env : Env) (outputId : Int) (req : UpdateOutputRequest)
    (hops : ops (some (.updateOutput outputId req))) (w : World) :
    Acts rely ops (updateOutput env outputId req) none w := by
  refine Behaves.bind (Q := fun r h w => h = none ∧ ∀ inputId merged, r = .ok (inputId, merged) →
      ∃ row, w.db.outputs.find outputId = some row ∧ row.inputId = inputId ∧
        mergedOutput env req row = .ok merged)
    (Behaves.atomic fun w' _ => ?_) fun r h w hr => ?_
  · obtain ⟨hw, hmerged⟩ := storedOutput_spec env outputId req w'
    rw [hw]
    exact ⟨.refl w', rfl, hmerged⟩
  obtain ⟨rfl, hr⟩ := hr
  rcases r with r | ⟨inputId, mergedConfig⟩
  · exact Behaves.ret trivial
  obtain ⟨row, hrow, hinput, hmerged⟩ := hr inputId mergedConfig rfl
  refine Behaves.bind (Q := fun _ _ _ => ∃ w₁, OutputMerged rely env outputId req inputId
      mergedConfig w₁) (Behaves.atomic fun w' hw => ?_) fun r h w hknown => ?_
  · have hknown : OutputMerged rely env outputId req inputId mergedConfig w' :=
      ⟨w, row, hw, hrow, hinput, hmerged⟩
    exact ⟨.updateOutput env inputId outputId req mergedConfig hops hknown, w', hknown⟩
  obtain ⟨w₁, hknown⟩ := hknown
  cases r with
  | error e => exact Behaves.ret trivial
  | ok _ =>
  refine Acts.andThen (acts_lockedRead w).any fun r h w => ?_
  cases r with
  | none => exact Behaves.ret trivial
  | some isActive =>
  refine Acts.andThen (p := if isActive then StreamGateway.stopOutput inputId outputId
    else return .ok ()) ?_ fun r h w => ?_
  · cases isActive with
    | false => exact Behaves.ret trivial
    | true => exact acts_stopOutput inputId outputId w
  cases r with
  | error e => exact Behaves.ret trivial
  | ok _ =>
  refine Acts.andThen (acts_locked (fun _ w =>
    .setStopped env inputId outputId req mergedConfig hops hknown) w).any fun _ h w => ?_
  refine Acts.andThen (acts_startOutput env inputId outputId w) fun r h w => ?_
  cases r with
  | error e => exact Behaves.ret trivial
  | ok _ =>
    exact Acts.andThen (acts_atomic (fun w => .outputStatus env outputId "connecting") w).any
      fun _ _ _ => Behaves.ret trivial

/-! ## Handlers that start and stop -/

theorem acts_startInputEndpoint (env : Env) (inputId : Int) (w : World) :
    Acts rely ops (startInputEndpoint env inputId) h w := by
  refine Acts.andThen (acts_startInput env inputId w) fun r h w => ?_
  cases r with
  | error e => exact Behaves.ret trivial
  | ok _ =>
  refine Acts.andThen (acts_lockedRead w).any fun status h w => ?_
  exact Acts.andThen (acts_atomic (fun w => .inputStatus env inputId status) w).any
    fun _ _ _ => Behaves.ret trivial

theorem acts_stopInputEndpoint (env : Env) (inputId : Int) (w : World) :
    Acts rely ops (stopInputEndpoint env inputId) h w := by
  refine Acts.andThen (acts_stopInput inputId w) fun r h w => ?_
  cases r with
  | error e => exact Behaves.ret trivial
  | ok _ =>
  exact Acts.andThen (acts_atomic (fun w => .inputStatus env inputId "stopped") w).any
    fun _ _ _ => Behaves.ret trivial

theorem acts_startOutputEndpoint (env : Env) (outputId : Int) (w : World) :
    Acts rely ops (startOutputEndpoint env outputId) h w := by
  refine Acts.andThen (acts_getInputIdForOutput env outputId w) fun r h w => ?_
  cases r with
  | error e => exact Behaves.ret trivial
  | ok inputId =>
  refine Acts.andThen (acts_startOutput env inputId outputId w) fun r h w => ?_
  cases r with
  | error e => exact Behaves.ret trivial
  | ok _ =>
  refine Acts.andThen (acts_lockedRead w).any fun status h w => ?_
  exact Acts.andThen (acts_atomic (fun w => .outputStatus env outputId status) w).any
    fun _ _ _ => Behaves.ret trivial

theorem acts_stopOutputEndpoint (env : Env) (outputId : Int) (w : World) :
    Acts rely ops (stopOutputEndpoint env outputId) h w := by
  refine Acts.andThen (acts_getInputIdForOutput env outputId w) fun r h w => ?_
  cases r with
  | error e => exact Behaves.ret trivial
  | ok inputId =>
  refine Acts.andThen (acts_stopOutput inputId outputId w) fun r h w => ?_
  cases r with
  | error e => exact Behaves.ret trivial
  | ok _ =>
  exact Acts.andThen (acts_atomic (fun w => .outputStatus env outputId "stopped") w).any
    fun _ _ _ => Behaves.ret trivial

/-! ## All operations -/

theorem Operation.acts [∀ h, IsTrans World (rely h)] (env : Env) (op : Operation)
    (hops : ops (some op)) (w : World) : Acts rely ops (op.prog env) none w := by
  cases op with
  | startInput inputId => exact Behaves.ignore (acts_startInput env inputId w)
  | stopInput inputId => exact Behaves.ignore (acts_stopInput inputId w)
  | startOutput inputId outputId => exact Behaves.ignore (acts_startOutput env inputId outputId w)
  | stopOutput inputId outputId => exact Behaves.ignore (acts_stopOutput inputId outputId w)
  | startAnalysis inputId analysisType timeoutMinutes =>
    exact Behaves.ignore (acts_startAnalysis env inputId analysisType timeoutMinutes w)
  | stopAnalysis inputId analysisType =>
    exact Behaves.ignore (acts_locked (fun _ w => act_stopAnalysis inputId analysisType w) w)
  | stopAllAnalysis inputId =>
    exact Behaves.ignore (acts_locked (fun _ w => act_stopAllAnalysis inputId w) w)
  | createInput req => exact Behaves.ignore (acts_createInput env req hops w)
  | updateInput inputId req => exact Behaves.ignore (acts_updateInput env inputId req hops w)
  | deleteInput inputId => exact Behaves.ignore (acts_deleteInput env inputId hops w)
  | createOutput req => exact Behaves.ignore (acts_createOutput env req hops w)
  | updateOutput outputId req => exact Behaves.ignore (acts_updateOutput env outputId req hops w)
  | deleteOutput inputId outputId =>
    exact Behaves.ignore (acts_deleteOutput env inputId outputId hops w)
  | startInputEndpoint inputId => exact Behaves.ignore (acts_startInputEndpoint env inputId w)
  | stopInputEndpoint inputId => exact Behaves.ignore (acts_stopInputEndpoint env inputId w)
  | startOutputEndpoint outputId => exact Behaves.ignore (acts_startOutputEndpoint env outputId w)
  | stopOutputEndpoint outputId => exact Behaves.ignore (acts_stopOutputEndpoint env outputId w)

theorem acts_processMessage (w : World) : Acts rely ops processMessage h w := by
  refine Acts.andThen (acts_atomic (fun _ => .receive) w).any fun _ h w => ?_
  refine Acts.andThen (acts_locked (fun _ _ => .apply) w).any fun r h w => ?_
  cases r with
  | none => exact Behaves.ret trivial
  | some r =>
    exact (acts_atomic (fun w => .quiet rfl (.nil rfl rfl rfl rfl rfl) rfl) w).any

/-! ## The load -/

/-- The loaded entries are under their own ids, without outputs. -/
def LoadedEmpty (loaded : HashMap Int InputInfo) : Prop :=
  ∀ i info, loaded.lookup i = some info → info.NoOutputs i

theorem LoadedEmpty.insert {loaded : HashMap Int InputInfo} {id : Int} {info : InputInfo}
    (hl : LoadedEmpty loaded) (hi : info.NoOutputs id) : LoadedEmpty (loaded.insert id info) := by
  intro j info' hj
  rcases HashMap.lookup_insert_eq_some.mp hj with ⟨rfl, rfl⟩ | ⟨_, hj⟩
  · exact hi
  · exact hl j info' hj

theorem acts_openIdle (id : Int) (name : Option String) (status : StreamStatus)
    (config : CreateInputRequest) (errorMessage : Option String) (w : World) :
    Acts rely ops (atomic (openIdle id name status config errorMessage)) h w
      fun info _ w' => info.NoOutputs id ∧ KeepsKnown rely w w' :=
  Behaves.atomic fun w' hw => ⟨.quiet rfl (.nil rfl rfl rfl rfl rfl) rfl,
    noOutputs_idle _ _ _ _ _ _ _, (KeepsKnown.of_rely hw).trans (.of_runtime w' _)⟩

theorem acts_respawnInput (req : CreateInputRequest) (id : Int) (name : Option String)
    (failure : String) (w : World) (hid : KnownInput rely id w) :
    Acts rely ops (respawnInput req id name failure) h w
      fun info _ w' => info.NoOutputs id ∧ KeepsKnown rely w w' := by
  refine Behaves.bind (acts_spawnInput req id name w hid) fun r h w' hr => ?_
  cases r with
  | ok info => exact Behaves.ret ⟨hr.1 info rfl, hr.2⟩
  | error e =>
    exact Behaves.weaken (acts_openIdle id name .error req _ w')
      fun _ _ _ hi => ⟨hi.1, hr.2.trans hi.2⟩

theorem acts_loadBaseInput (id : Int) (row : InputRow) (req : CreateInputRequest) (w : World)
    (hid : KnownInput rely id w) : Acts rely ops (loadBaseInput id row req) h w
      fun info _ w' => info.NoOutputs id ∧ KeepsKnown rely w w' := by
  unfold loadBaseInput
  split
  · exact acts_openIdle id row.name .stopped req none w
  · exact acts_respawnInput req id row.name _ w hid

theorem acts_loadSptsInput (id : Int) (row : InputRow) (req : CreateInputRequest) (w : World)
    (hid : KnownInput rely id w) : Acts rely ops (loadSptsInput id row req) h w
      fun info _ w' => info.NoOutputs id ∧ KeepsKnown rely w w' := by
  unfold loadSptsInput
  split
  · exact acts_openIdle id row.name .stopped req none w
  have hsource : ∀ w, (missingSource req w).2 = w := by
    intro w
    unfold missingSource
    split <;> rfl
  refine Behaves.bind (Q := fun _ _ w' => KeepsKnown rely w w')
    (Behaves.locked fun w₁ w₂ h₁ h₂ => ?_) fun r h w' hw => ?_
  · rw [hsource]
    exact ⟨.refl w₂, fun _ h₃ => ((KeepsKnown.of_rely h₁).trans (.of_rely h₂)).trans (.of_rely h₃)⟩
  cases r with
  | none =>
    exact Behaves.weaken (acts_respawnInput req id row.name _ w' (hw id hid))
      fun _ _ _ hi => ⟨hi.1, hw.trans hi.2⟩
  | some sourceId =>
    exact Behaves.weaken (acts_openIdle id row.name .stopped req _ w')
      fun _ _ _ hi => ⟨hi.1, hw.trans hi.2⟩

/-- The loaded entries are without outputs, under their own ids, which are known. -/
def LoadedKnown (rely : Guarded World) (loaded : HashMap Int InputInfo) (w : World) : Prop :=
  LoadedEmpty loaded ∧ ∀ i ∈ loaded, KnownInput rely i w

theorem LoadedKnown.keeps {loaded : HashMap Int InputInfo} {w w' : World}
    (hl : LoadedKnown rely loaded w) (hw : KeepsKnown rely w w') : LoadedKnown rely loaded w' :=
  ⟨hl.1, fun i hi => hw i (hl.2 i hi)⟩

theorem LoadedKnown.insert {loaded : HashMap Int InputInfo} {id : Int} {info : InputInfo}
    {w : World} (hl : LoadedKnown rely loaded w) (hi : info.NoOutputs id)
    (hid : KnownInput rely id w) : LoadedKnown rely (loaded.insert id info) w := by
  refine ⟨hl.1.insert hi, fun j hj => ?_⟩
  rcases (AList.mem_insert _).mp hj with rfl | hj
  · exact hid
  · exact hl.2 j hj

theorem acts_loadBaseInputs (env : Env) (rows : List (Int × InputRow))
    (loaded : HashMap Int InputInfo) (w : World) (hl : LoadedKnown rely loaded w)
    (hrows : ∀ r ∈ rows, KnownInput rely r.1 w) :
    Acts rely ops (loadBaseInputs env rows loaded) h w fun r _ w' =>
      (∀ loaded, r = .ok loaded → LoadedKnown rely loaded w') ∧ KeepsKnown rely w w' := by
  induction rows generalizing h loaded w with
  | nil =>
    refine Behaves.ret ⟨fun loaded' h' => ?_, .refl w⟩
    obtain rfl := Except.ok.inj h'
    exact hl
  | cons r rest ih =>
    obtain ⟨id, row⟩ := r
    have hid : KnownInput rely id w := hrows _ List.mem_cons_self
    have hrest : ∀ r ∈ rest, KnownInput rely r.1 w :=
      fun r hr => hrows r (List.mem_cons_of_mem _ hr)
    unfold loadBaseInputs
    split
    · exact ih loaded w hl hrest
    · exact Behaves.ret ⟨fun _ h' => absurd h' (by simp), .refl w⟩
    · rename_i req _
      refine Behaves.bind (acts_loadBaseInput id row req w hid) fun info h w' hi => ?_
      exact Behaves.weaken (ih _ w' ((hl.keeps hi.2).insert hi.1 (hi.2 id hid))
        fun r hr => hi.2 _ (hrest r hr)) fun _ _ _ h' => ⟨h'.1, hi.2.trans h'.2⟩

theorem acts_loadSptsInputs (env : Env) (rows : List (Int × InputRow))
    (loaded : HashMap Int InputInfo) (w : World) (hl : LoadedKnown rely loaded w)
    (hrows : ∀ r ∈ rows, KnownInput rely r.1 w) :
    Acts rely ops (loadSptsInputs env rows loaded) h w fun r _ w' =>
      ∀ loaded, r = .ok loaded → LoadedKnown rely loaded w' := by
  induction rows generalizing h loaded w with
  | nil =>
    refine Behaves.ret fun loaded' h' => ?_
    obtain rfl := Except.ok.inj h'
    exact hl
  | cons r rest ih =>
    obtain ⟨id, row⟩ := r
    have hid : KnownInput rely id w := hrows _ List.mem_cons_self
    unfold loadSptsInputs
    split
    · exact Behaves.ret fun _ h' => absurd h' (by simp)
    · rename_i req _
      refine Behaves.bind (acts_loadSptsInput id row req w hid) fun info h w' hi => ?_
      exact ih _ w' ((hl.keeps hi.2).insert hi.1 (hi.2 id hid))
        fun r hr => hi.2 _ (hrows r (List.mem_cons_of_mem _ hr))

theorem acts_loadGroups (env : Env) {h' : Option LockMode} {w₀ w₁ : World}
    (hops : ops none) (hw : rely h' w₀ w₁) (inputIds : List Int) (w : World) :
    Acts rely ops (loadGroups env w₀.db.outputs.rows inputIds) h w := by
  induction inputIds generalizing h w with
  | nil => exact Behaves.ret trivial
  | cons inputId rest ih =>
    refine Acts.andThen (acts_locked (fun _ _ => .loadGroup env inputId hops hw) w).any
      fun r h w => ?_
    cases r with
    | error e => exact Behaves.ret trivial
    | ok _ => exact ih w

theorem loadedKnown_empty (w : World) : LoadedKnown rely ∅ w :=
  ⟨fun _ _ hi => absurd hi (by simp), fun i hi => absurd hi (AList.notMem_empty i)⟩

theorem acts_loadFromDb (env : Env) (hops : ops none) (w : World) :
    Acts rely ops (loadFromDb env) none w := by
  refine Behaves.bind (Q := fun r _ w => ∀ rows, r = .ok rows → ∀ r ∈ rows, KnownInput rely r.1 w)
    (Behaves.atomic fun w' _ => ?_) fun r h w hr => ?_
  · have hw : (getAllInputs env w').2 = w' := select_world env _ _ w'
    rw [hw]
    refine ⟨.refl w', fun rows hrows r hr => .here (.inr ?_)⟩
    have heq : w'.db.inputs.rows = rows := select_ok hrows
    exact w'.db.inputs.le_lastId r (by rwa [heq])
  cases r with
  | error e => exact Behaves.ret trivial
  | ok rows =>
  have hrows := hr rows rfl
  refine Behaves.bind (acts_loadBaseInputs env _ ∅ w (loadedKnown_empty w)
    fun r hr => hrows r (List.mem_of_mem_filter hr)) fun r h w' hr => ?_
  cases r with
  | error e => exact Behaves.ret trivial
  | ok loaded =>
  obtain ⟨hloaded, hkeeps⟩ := hr
  refine Behaves.bind (Q := fun _ _ w'' => KeepsKnown rely w' w'')
    (Behaves.locked fun w₁ w₂ h₁ h₂ => ?_) fun _ h w'' hkeeps' => ?_
  · have hk : KeepsKnown rely w' w₂ := (KeepsKnown.of_rely h₁).trans (.of_rely h₂)
    refine ⟨.insertInputs loaded hops (hloaded loaded rfl).1 ((hloaded loaded rfl).keeps hk).2,
      fun _ h₃ => (hk.trans fun i hi => ?_).trans (.of_rely h₃)⟩
    exact .own hi rfl fun j hj => AList.mem_union.mpr (.inr hj)
  refine Behaves.bind (acts_loadSptsInputs env _ ∅ w'' (loadedKnown_empty w'')
    fun r hr => hkeeps' _ (hkeeps _ (hrows r (List.mem_of_mem_filter hr)))) fun r h w hr => ?_
  cases r with
  | error e => exact Behaves.ret trivial
  | ok sptsLoaded =>
  have hspts := hr sptsLoaded rfl
  refine Behaves.bind (Q := fun r h w => (∀ outs, r = .ok outs → w.db.outputs.rows = outs) ∧
    LoadedKnown rely sptsLoaded w) (Behaves.atomic fun w' hw => ?_) fun r h w hr' => ?_
  · have hw' : (getAllOutputs env w').2 = w' := select_world env _ _ w'
    rw [hw']
    exact ⟨.refl w', fun outs h => select_ok h, hspts.keeps (.of_rely hw)⟩
  cases r with
  | error e => exact Behaves.ret trivial
  | ok outs =>
  obtain ⟨hr', hspts⟩ := hr'
  obtain rfl := hr' outs rfl
  refine Behaves.bind (Q := fun _ _ _ => ∃ h' w₁, rely h' w w₁) (Behaves.locked fun w₁ w₂ h₁ h₂ =>
    ⟨.insertInputs sptsLoaded hops hspts.1
      (hspts.keeps ((KeepsKnown.of_rely h₁).trans (.of_rely h₂))).2,
      fun _ _ => ⟨h, w₁, h₁⟩⟩) fun _ h w hknown => ?_
  obtain ⟨h', w₁, hw⟩ := hknown
  exact acts_loadGroups env hops hw _ w

/-! ## Runs -/

theorem TaskStep.db {w w' : World} (h : TaskStep w w') : w'.db = w.db := by
  cases h <;> rfl

theorem GatewayCall.acts {rely : Guarded World} [∀ h, IsTrans World (rely h)]
    {p : Prog World Unit} (hp : GatewayCall p) (w : World) :
    Acts rely (fun _ => True) p none w := by
  rcases hp with ⟨env, op, rfl⟩ | rfl
  · exact op.acts env trivial w
  · exact acts_processMessage w

theorem behaving_bootPool (I : World → Prop) (env : Env) (db : Database) (hops : ops none)
    (hi : I (.boot db)) :
    Pool.Behaving I rely (Act rely ops) (bootPool env db) := by
  refine ⟨hi, List.pairwise_singleton _ _, fun t ht => ?_⟩
  obtain rfl := List.mem_singleton.mp ht
  exact Behaves.ignore (acts_loadFromDb env hops _)

end StreamGateway
