import StreamGateway.Sections

/-!
# The sections of each call

Each call is followed from lock to lock, and the kinds of the sections it takes are listed.
While a call holds no guard other calls may come in, but the tasks that it has spawned stay
spawned.
-/
namespace StreamGateway

open Prog

/-- The tasks spawned so far are also spawned later. -/
def Later (w w' : World) : Prop := w.rt.spawned ⊆ w'.rt.spawned

instance : IsPreorder World Later where
  refl _ := List.Subset.refl _
  trans _ _ _ h h' := List.Subset.trans h h'

theorem Moves.later {ts us : List Task} {rt rt' : Runtime} (h : Moves ts us rt rt') :
    rt.spawned ⊆ rt'.spawned := by
  rw [h.spawned]
  exact List.subset_append_left _ _

theorem Aborts.later {ts : List Task} {rt rt' : Runtime} (h : Aborts ts rt rt') :
    rt.spawned ⊆ rt'.spawned := by
  rw [h.spawned]
  exact List.Subset.refl _

theorem Section.later {k : SectionKind} {w w' : World} (h : Section k w w') : Later w w' := by
  cases h with
  | spawn _ h => exact h.later
  | create _ h => exact h.later
  | tend _ _ _ _ _ _ _ _ _ h => exact h.later
  | analyse inputId a =>
    rcases insertAnalysis_ok inputId a w with hw | ⟨_, _, hw⟩ <;> rw [hw] <;>
      exact List.Subset.refl _
  | restart _ _ _ _ _ _ _ _ _ _ h => exact h.later
  | install env i new t =>
    rcases sptsInstallSection_ok env i new w with
      h | ⟨_, _, _, _, _, _, _, _, _, h⟩
    · rw [h]
      exact refl_of Later w
    · exact h.launches.later
  | stop i =>
    rcases stopInputSection_ok i w with
      ⟨_, h⟩ | ⟨_, _, _, _, _, _, _, _, _, _, h, _⟩
    · rw [h]
      exact refl_of Later w
    · exact h.later
  | remove i =>
    rcases removeInputSection_ok i w with h | ⟨_, _, _, _, h⟩
    · rw [h]
      exact refl_of Later w
    · exact h.later
  | enter => exact refl_of Later w
  | load => exact refl_of Later w
  | receive =>
    unfold StreamGateway.receive
    split <;> exact List.Subset.refl _
  | apply =>
    unfold applyProcessing
    split <;> exact List.Subset.refl _

theorem Sections.later {ks : List SectionKind} (w w' : World) (h : Sections ks w w') :
    Later w w' := by
  rcases h with h | ⟨k, _, h⟩
  · exact h.runtime.later
  · exact h.later

variable {α β : Type} {ks ks' : List SectionKind} {Q : α → World → Prop}

/-- From `w` on, the call takes sections of the given kinds. -/
abbrev Takes (ks : List SectionKind) (p : Prog World α) (w : World)
    (Q : α → World → Prop := fun _ _ => True) : Prop :=
  p.Follows (Sections ks) Later w Q

theorem Sections.mono (h : ks ⊆ ks') (w w' : World) (hs : Sections ks w w') :
    Sections ks' w w' :=
  hs.imp_right fun ⟨k, hk, h'⟩ => ⟨k, h hk, h'⟩

theorem Takes.mono {p : Prog World α} {w : World} (hp : Takes ks p w Q) (h : ks ⊆ ks') :
    Takes ks' p w Q :=
  Follows.mono hp (Sections.mono h)

theorem Takes.bind {p : Prog World α} {f : α → Prog World β} {w : World}
    {Q' : β → World → Prop} (h : Takes ks p w Q)
    (hf : ∀ r w', Later w w' → Q r w' → Takes ks (f r) w' Q') : Takes ks (p >>= f) w Q' :=
  Follows.bind Sections.later h hf

theorem Takes.andThen {p : Prog World α} {f : α → Prog World β} {w : World}
    {Q' : β → World → Prop} (h : Takes ks p w) (hf : ∀ r w', Takes ks (f r) w' Q') :
    Takes ks (p >>= f) w Q' :=
  h.bind fun r w' _ _ => hf r w'

theorem takes_atomic {f : World → α × World} (h : ∀ w, Sections ks w (f w).2) (w : World) :
    Takes ks (atomic f) w :=
  Follows.atomic fun w' _ => ⟨h w', trivial⟩

theorem takes_locked {mode : LockMode} {f : World → α × World}
    (h : ∀ w, Sections ks w (f w).2) (w : World) : Takes ks (locked mode f) w :=
  Follows.locked fun w' _ => ⟨h w', trivial⟩

theorem takes_quiet {f : World → α × World} (h : ∀ w, Quiet w (f w).2) (w : World) :
    Takes ks (atomic f) w :=
  takes_atomic (fun w => .inl (h w)) w

theorem takes_read {mode : LockMode} {f : World → α} (w : World) :
    Takes ks (locked mode fun w => (f w, w)) w :=
  takes_locked (fun w => .inl (.refl w)) w

/-! ## Queries -/

theorem quiet_query (env : Env) (q : Query) (f : Database → α × Database) (w : World) :
    Quiet w (query env q f w).2 :=
  .of_eq (query_streams env q f w) (query_rt env q f w)

theorem quiet_select (env : Env) (q : Query) (f : Database → α) (w : World) :
    Quiet w (select env q f w).2 :=
  quiet_query env q _ w

theorem quiet_getInputIdForOutput (env : Env) (outputId : Int) (w : World) :
    Quiet w (getInputIdForOutput env outputId w).2 := by
  have h := quiet_select env .getInputIdForOutput (fun db => db.outputs.find outputId) w
  unfold getInputIdForOutput
  split <;> simp_all

theorem quiet_storedInput (env : Env) (inputId : Int) (req : UpdateInputRequest) (w : World) :
    Quiet w (storedInput env inputId req w).2 := by
  have h := quiet_select env .getInputById (fun db => db.inputs.find inputId) w
  unfold storedInput getInputById
  split <;> simp_all

theorem quiet_storedOutput (env : Env) (outputId : Int) (req : UpdateOutputRequest) (w : World) :
    Quiet w (storedOutput env outputId req w).2 := by
  have h := quiet_select env .getOutputById (fun db => db.outputs.find outputId) w
  unfold storedOutput getOutputById
  split <;> simp_all

theorem quiet_saveOutputToDb (env : Env) (name : Option String) (inputId : Int)
    (kind destination : String) (configJson : Option Json) (listenPort : Option UInt16)
    (w : World) :
    Quiet w (saveOutputToDb env name inputId kind destination configJson listenPort w).2 := by
  unfold saveOutputToDb
  split
  · exact .refl w
  · exact quiet_query env _ _ w

theorem quiet_deleteInputFromDb (env : Env) (id : Int) (w : World) :
    Quiet w (deleteInputFromDb env id w).2 := by
  have h := quiet_query env .deleteOutputsOfInput (fun db =>
    ((), { db with outputs := db.outputs.delete fun _ row => row.inputId = id })) w
  unfold deleteInputFromDb
  split
  · simp_all
  · rename_i w' heq
    rw [heq] at h
    exact h.trans (quiet_query env .deleteInput _ w')

theorem takes_searchPort (env : Env) (usedPorts ports : List UInt16) (w : World) :
    Takes ks (searchPort env usedPorts ports) w := by
  induction ports generalizing w with
  | nil => exact Follows.ret trivial
  | cons port rest ih =>
    unfold searchPort
    split
    · exact ih w
    refine Takes.andThen (takes_quiet (quiet_select env _ _) w) fun r w' => ?_
    cases r with
    | error e => exact Follows.ret trivial
    | ok inUse =>
      cases inUse with
      | true => exact ih w'
      | false =>
        dsimp only
        split
        · exact Follows.ret trivial
        · exact ih w'

theorem takes_findAvailablePort (env : Env) (w : World) : Takes ks (findAvailablePort env) w := by
  refine Takes.andThen (takes_quiet (quiet_select env _ _) w) fun r w => ?_
  cases r with
  | error e => exact Follows.ret trivial
  | ok listenPorts =>
  refine Takes.andThen (takes_quiet (quiet_select env _ _) w) fun r w => ?_
  cases r with
  | error e => exact Follows.ret trivial
  | ok configPorts => exact takes_searchPort env _ _ w

/-! ## Analyses -/

theorem takes_startAnalysis (env : Env) (inputId : Int) (analysisType : AnalysisType)
    (timeoutMinutes : Option UInt64) (w : World) :
    Takes [.spawn, .analyse] (startAnalysis env inputId analysisType timeoutMinutes) w := by
  have hid : ∀ w, Quiet w (newAnalysisId w).2 := fun w => ⟨rfl, .nil rfl rfl rfl rfl rfl⟩
  refine Takes.andThen (takes_quiet hid w) fun analysisId w => ?_
  refine Takes.andThen (takes_read w) fun r w => ?_
  cases r with
  | error e => exact Follows.ret trivial
  | ok rx =>
  refine Takes.bind (Q := fun r w => ∀ a, r = .ok a →
      a.OwnTask inputId ∧ a.taskHandle ∈ w.rt.spawned)
    (Follows.atomic fun w' _ => ?_) fun r w' _ hr => ?_
  · rcases spawnAnalysis_ok env inputId analysisId analysisType timeoutMinutes rx w' with
      ⟨e, _, hs⟩ | ⟨timeout, _, hs⟩
    · rw [hs]
      exact ⟨.inl (.refl w'), fun _ ha => absurd ha (by simp)⟩
    · rw [hs]
      have hl := launches_spawn w'.rt (.analysis inputId analysisId analysisType
        (timeout.map Prod.fst) rx)
      refine ⟨.inr ⟨_, by simp, .spawn _ hl trivial rfl⟩, fun a ha => ?_⟩
      obtain rfl := Except.ok.inj ha
      exact ⟨rfl, hl.subset List.mem_cons_self⟩
  cases r with
  | error e => exact Follows.ret trivial
  | ok a =>
    obtain ⟨hown, hspawned⟩ := hr a rfl
    exact Follows.locked fun w'' hw => ⟨.inr ⟨_, by simp, .analyse inputId a hown (hw hspawned)⟩,
      trivial⟩

theorem takes_restartPaused (env : Env) (inputId : Int) (paused : List AnalysisType)
    (w : World) :
    Takes [.spawn, .analyse] (restartPaused env inputId paused) w := by
  induction paused generalizing w with
  | nil => exact Follows.ret trivial
  | cons analysisType rest ih =>
    exact Takes.andThen (takes_startAnalysis env inputId analysisType none w) fun _ w => ih w

theorem takes_restartPausedHeld (env : Env) (inputId : Int) (paused : List AnalysisType)
    (w : World) :
    Takes [.spawn, .analyse, .tend] (restartPausedHeld env inputId paused) w := by
  induction paused generalizing w with
  | nil => exact Follows.ret trivial
  | cons analysisType rest ih =>
    refine Takes.andThen ((takes_startAnalysis env inputId analysisType none w).mono (by simp))
      fun r w => ?_
    cases r with
    | error e =>
      exact Takes.andThen ((takes_atomic (section_pauseAgain inputId analysisType) w).mono
        (by simp)) fun _ w => ih w
    | ok _ => exact ih w

/-! ## Starting and stopping -/

theorem sptsSpawnSection_takes (plan : StartPlan) (sourceInputId : Int) (programNumber : UInt16)
    (fillWithNulls : Option Bool) (w : World) :
    Sections [.spawn] w (sptsSpawnSection plan sourceInputId programNumber fillWithNulls w).2 ∧
      ∀ new, (sptsSpawnSection plan sourceInputId programNumber fillWithNulls w).1 = .ok new →
        ∃ t, new.taskHandle = some t ∧ t.spec.owner = .input plan.inputId ∧
          t ∈ (sptsSpawnSection plan sourceInputId programNumber fillWithNulls w).2.rt.spawned := by
  unfold sptsSpawnSection
  split
  · exact ⟨.inl (.refl w), fun _ h => absurd h (by simp)⟩
  · rename_i source _
    have hl := launches_input w.rt (.sptsInput plan.inputId plan.name source.id programNumber
      (fillWithNulls.getD false) plan.stateTx source.packetTx w.rt.nextChannel)
    refine ⟨.inr ⟨_, by simp, .spawn _ hl trivial rfl⟩, fun new hnew => ?_⟩
    obtain rfl := Except.ok.inj hnew
    exact ⟨_, rfl, rfl, hl.subset List.mem_cons_self⟩

/-- The kinds of the sections of `start_input`. -/
def startKinds : List SectionKind := [.spawn, .analyse, .tend, .restart, .install]

theorem takes_startSpts (env : Env) (plan : StartPlan) (sourceInputId : Int)
    (programNumber : UInt16) (fillWithNulls : Option Bool) (w : World) :
    Takes startKinds (startSpts env plan sourceInputId programNumber fillWithNulls) w := by
  refine Takes.andThen (takes_read w) fun r w => ?_
  cases r with
  | error e => exact Follows.ret trivial
  | ok _ =>
  refine Takes.andThen (takes_read w) fun r w => ?_
  cases r with
  | error e => exact Follows.ret trivial
  | ok _ =>
  refine Takes.bind (Q := fun r w => ∀ new, r = .ok new → ∃ t, new.taskHandle = some t ∧
      t.spec.owner = .input plan.inputId ∧ t ∈ w.rt.spawned) (Follows.locked fun w' _ => ?_)
    fun r w _ hr => ?_
  · obtain ⟨hs, hq⟩ := sptsSpawnSection_takes plan sourceInputId programNumber fillWithNulls w'
    exact ⟨hs.mono (by simp [startKinds]) _ _, hq⟩
  cases r with
  | error e => exact Follows.ret trivial
  | ok new =>
  obtain ⟨t, ht, howner, hspawned⟩ := hr new rfl
  refine Takes.andThen (Follows.locked fun w' hw => ⟨.inr ⟨_, by simp [startKinds],
    .install env plan.inputId new t ht (hw hspawned) howner⟩, trivial⟩) fun r w => ?_
  cases r with
  | error e => exact Follows.ret trivial
  | ok paused =>
    exact Takes.andThen ((takes_restartPaused env plan.inputId paused w).mono (by simp [startKinds]))
      fun _ _ => Follows.ret trivial

theorem takes_startBase (env : Env) {plan : StartPlan} (h : plan.config.isSpts = false)
    (w : World) : Takes startKinds (startBase env plan) w := by
  refine Follows.acquire (Takes.andThen
    ((takes_atomic (section_restart env h) w).mono (by simp [startKinds])) fun r w => ?_)
  cases r with
  | error e => exact Follows.release (Follows.ret trivial)
  | ok paused =>
    exact Takes.andThen ((takes_restartPausedHeld env plan.inputId paused w).mono
      (by simp [startKinds])) fun _ _ => Follows.release (Follows.ret trivial)

theorem takes_stateTxOrGlobal (stateTx : Option StateChangeSender) (w : World) :
    Takes ks (stateTxOrGlobal stateTx) w := by
  unfold stateTxOrGlobal
  split
  · exact Follows.ret trivial
  · exact takes_quiet (fun w => .refl w) w

theorem takes_startInput (env : Env) (inputId : Int) (w : World) :
    Takes startKinds (startInput env inputId) w := by
  refine Takes.andThen (takes_read w) fun r w => ?_
  cases r with
  | error e => exact Follows.ret trivial
  | ok plan =>
  refine Takes.andThen (takes_stateTxOrGlobal plan.stateTx w) fun stateTx w => ?_
  cases hc : plan.config with
  | spts sourceInputId programNumber fillWithNulls name =>
    exact takes_startSpts env _ sourceInputId programNumber fillWithNulls w
  | udp => exact takes_startBase env rfl w
  | srt => exact takes_startBase env rfl w

theorem takes_stopInput (inputId : Int) (w : World) : Takes [.stop] (stopInput inputId) w :=
  takes_locked (fun _ => .inr ⟨_, List.mem_singleton_self _, .stop inputId⟩) w

theorem takes_startOutput (env : Env) (inputId outputId : Int) (w : World) :
    Takes [.tend] (startOutput env inputId outputId) w :=
  takes_locked (section_startOutput env inputId outputId) w

theorem takes_stopOutput (inputId outputId : Int) (w : World) :
    Takes [.tend] (stopOutput inputId outputId) w :=
  takes_locked (section_stopOutput inputId outputId) w

/-! ## Creating, updating and deleting inputs -/

theorem FreshInput.later {info : InputInfo} {w w' : World} (h : FreshInput info w.rt)
    (hw : Later w w') : FreshInput info w'.rt :=
  ⟨h.outputTasks, h.analysisTasks, fun t ht => ⟨hw (h.handle t ht).1, (h.handle t ht).2⟩⟩

theorem freshInput_idle (id : Int) (name : Option String) (status : StreamStatus)
    (packetTx : ChannelId) (config : CreateInputRequest) (stateTx : Option StateChangeSender)
    (errorMessage : Option String) (rt : Runtime) :
    FreshInput (idleInput id name status packetTx config stateTx errorMessage) rt :=
  ⟨rfl, rfl, fun _ h => absurd h (by simp [idleInput])⟩

/-- The input that a spawn gives is fresh and has the id it was spawned with. -/
theorem freshInput_launched {info : InputInfo} {rt rt' : Runtime} {spec : TaskSpec}
    (hl : Launches [rt.newTask spec] rt rt') (ho : info.outputTasks = ∅)
    (ha : info.analysisTasks = ∅) (hh : info.taskHandle = some (rt.newTask spec))
    (howner : spec.owner = .input info.id) : FreshInput info rt' := by
  refine ⟨ho, ha, fun t ht => ?_⟩
  obtain rfl := Option.some.inj (hh.symm.trans ht)
  exact ⟨hl.subset List.mem_cons_self, howner⟩

theorem takes_spawnInput (req : CreateInputRequest) (id : Int) (name : Option String) (w : World) :
    Takes [.create] (spawnInput req id name) w
      fun r w => ∀ info, r = .ok info → FreshInput info w.rt ∧ info.id = id := by
  cases req with
  | udp bindHost bindPort automaticPort reqName multicastGroup sourceSpecificMulticast
      listenPort =>
    refine Takes.bind (Q := fun info w => FreshInput info w.rt ∧ info.id = id)
      (Follows.atomic fun w' _ => ?_) fun info w' _ h => Follows.ret fun info' hi => ?_
    · have hl := launches_input w'.rt (.udpInput id name
        (CreateInputRequest.getBindPort (.udp bindHost bindPort automaticPort reqName
          multicastGroup sourceSpecificMulticast listenPort))
        (bindHostFilter (CreateInputRequest.getBindHost (.udp bindHost bindPort automaticPort
          reqName multicastGroup sourceSpecificMulticast listenPort)))
        multicastGroup sourceSpecificMulticast w'.rt.stateChangeTx w'.rt.nextChannel)
      exact ⟨.inr ⟨_, by simp, .create _ hl rfl⟩, freshInput_launched hl rfl rfl rfl rfl, rfl⟩
    · obtain rfl := Except.ok.inj hi
      exact h
  | srt reqName config =>
    refine Takes.bind (Q := fun info w => FreshInput info w.rt ∧ info.id = id)
      (Follows.atomic fun w' _ => ?_) fun info w' _ h => ?_
    · have hl := launches_input w'.rt (.srtInput id name config w'.rt.stateChangeTx
        w'.rt.nextChannel)
      exact ⟨.inr ⟨_, by simp, .create _ hl rfl⟩, freshInput_launched hl rfl rfl rfl rfl, rfl⟩
    · refine Takes.bind (Q := fun _ w => FreshInput info w.rt ∧ info.id = id)
        (Follows.atomic fun w'' hw => ⟨.inl (.refl w''), h.1.later hw, h.2⟩)
        fun stateTx w'' _ h => Follows.ret fun info' hi => ?_
      obtain rfl := Except.ok.inj hi
      exact ⟨⟨h.1.outputTasks, h.1.analysisTasks, h.1.handle⟩, h.2⟩
  | spts sourceInputId programNumber fillWithNulls reqName =>
    refine Follows.locked fun w' _ => ?_
    unfold spawnSptsSection
    split
    · exact ⟨.inl (.refl w'), fun _ h => absurd h (by simp)⟩
    · rename_i source _
      have hl := launches_input w'.rt (.sptsInput id name source.id programNumber
        (fillWithNulls.getD false) w'.rt.stateChangeTx source.packetTx w'.rt.nextChannel)
      refine ⟨.inr ⟨_, by simp, .create _ hl rfl⟩, fun info hi => ?_⟩
      obtain rfl := Except.ok.inj hi
      exact ⟨freshInput_launched hl rfl rfl rfl rfl, rfl⟩

theorem takes_insertInput {info : InputInfo} {w : World} (h : FreshInput info w.rt) :
    Takes [.enter] (atomic (insertInput info)) w :=
  Follows.atomic fun _ hw => ⟨.inr ⟨_, by simp, .enter info (h.later hw)⟩, trivial⟩

theorem takes_assignInputPort (env : Env) (req : CreateInputRequest) (w : World) :
    Takes ks (assignInputPort env req) w := by
  unfold assignInputPort
  split
  · refine Takes.andThen (takes_findAvailablePort env w) fun r w => ?_
    cases r <;> exact Follows.ret trivial
  · exact Follows.ret trivial

theorem takes_createInput (env : Env) (req : CreateInputRequest) (w : World) :
    Takes [.create, .enter] (createInput env req) w := by
  unfold createInput
  split
  · exact Follows.ret trivial
  refine Takes.andThen (takes_assignInputPort env req w) fun r w => ?_
  rcases r with r | ⟨finalReq, assignedPort⟩
  · exact Follows.ret trivial
  refine Takes.andThen (takes_quiet (quiet_query env _ _) w) fun r w => ?_
  cases r with
  | error e => exact Follows.ret trivial
  | ok id =>
  refine Takes.bind ((takes_spawnInput finalReq id (inputName req) w).mono (by simp))
    fun r w _ hr => ?_
  cases r with
  | ok info =>
    refine Takes.andThen (Follows.locked fun w' hw => ⟨.inr ⟨_, by simp,
      .enter info ((hr info rfl).1.later hw)⟩, trivial⟩) fun _ _ => Follows.ret trivial
  | error e =>
    refine Takes.bind (Q := fun info w => FreshInput info w.rt) (Follows.atomic fun w' _ =>
      ⟨.inl ⟨rfl, .nil rfl rfl rfl rfl rfl⟩, freshInput_idle _ _ _ _ _ _ _ _⟩)
      fun info w _ h => Follows.acquire ?_
    refine Takes.andThen ((takes_insertInput h).mono (by simp)) fun _ w => ?_
    exact Takes.andThen (takes_quiet (quiet_query env _ _) w)
      fun _ _ => Follows.release (Follows.ret trivial)

theorem takes_deleteInput (env : Env) (inputId : Int) (w : World) :
    Takes [.remove] (deleteInput env inputId) w := by
  refine Follows.acquire (Takes.andThen (takes_atomic (fun w =>
    .inr ⟨_, List.mem_singleton_self _, .remove inputId⟩) w) fun found w => ?_)
  cases found with
  | false => exact Follows.release (Follows.ret trivial)
  | true =>
    exact Takes.andThen (takes_quiet (quiet_deleteInputFromDb env inputId) w)
      fun _ _ => Follows.release (Follows.ret trivial)

theorem takes_stopIfActive (inputId : Int) (w : World) :
    Takes [.stop] (stopIfActive inputId) w := by
  refine Takes.andThen (takes_read w) fun active w => ?_
  cases active with
  | false => exact Follows.ret trivial
  | true => exact takes_stopInput inputId w

/-- The kinds of the sections of `update_input`. -/
def updateKinds : List SectionKind := .stop :: startKinds

theorem takes_updateInput (env : Env) (inputId : Int) (req : UpdateInputRequest) (w : World) :
    Takes updateKinds (updateInput env inputId req) w := by
  refine Takes.andThen (takes_quiet (quiet_storedInput env inputId req) w) fun r w => ?_
  cases r with
  | error r => exact Follows.ret trivial
  | ok mergedConfig =>
  refine Takes.andThen (takes_quiet (quiet_query env _ _) w) fun r w => ?_
  cases r with
  | error e => exact Follows.ret trivial
  | ok _ =>
  refine Takes.andThen ((takes_stopIfActive inputId w).mono (by simp [updateKinds])) fun r w => ?_
  cases r with
  | error e => exact Follows.ret trivial
  | ok _ =>
  refine Takes.andThen ((takes_locked (section_setConfig inputId mergedConfig) w).mono
    (by simp [updateKinds, startKinds])) fun _ w => ?_
  refine Takes.andThen ((takes_startInput env inputId w).mono (by simp [updateKinds]))
    fun r w => ?_
  cases r with
  | error e => exact Follows.ret trivial
  | ok _ =>
    exact Takes.andThen (takes_quiet (quiet_query env _ _) w) fun _ _ => Follows.ret trivial

/-! ## Creating, updating and deleting outputs -/

theorem takes_assignOutputPort (env : Env) (req : CreateOutputRequest) (w : World) :
    Takes ks (assignOutputPort env req) w := by
  unfold assignOutputPort
  split
  · refine Takes.andThen (takes_findAvailablePort env w) fun r w => ?_
    cases r <;> exact Follows.ret trivial
  · exact Follows.ret trivial

theorem takes_checkConflicts (env : Env) (inputId : Int) (destinationAddr : String)
    (listenPort : Option UInt16) (w : World) :
    Takes ks (checkConflicts env inputId destinationAddr listenPort) w := by
  refine Takes.andThen (takes_quiet (quiet_select env _ _) w) fun r w => ?_
  rcases r with e | _ | _
  · exact Follows.ret trivial
  · cases listenPort with
    | none => exact Follows.ret trivial
    | some port =>
      refine Takes.andThen (takes_quiet (quiet_select env _ _) w) fun r w => ?_
      rcases r with e | _ | _ <;> exact Follows.ret trivial
  · exact Follows.ret trivial

theorem takes_createOutputHeld (env : Env) (req : CreateOutputRequest) (w : World) :
    Takes [.tend, .create] (createOutputHeld env req) w := by
  refine Takes.andThen (takes_assignOutputPort env req w) fun r w => ?_
  rcases r with r | ⟨finalReq, assignedPort⟩
  · exact Follows.ret trivial
  refine Takes.andThen (takes_checkConflicts env _ _ _ w) fun r w => ?_
  cases r with
  | error r => exact Follows.ret trivial
  | ok _ =>
  refine Takes.andThen (takes_quiet (quiet_saveOutputToDb env _ _ _ _ _ _) w) fun r w => ?_
  cases r with
  | error e => exact Follows.ret trivial
  | ok outputId =>
  refine Takes.andThen (takes_atomic (section_installOutput env finalReq _ outputId _) w)
    fun r w => ?_
  cases r <;> exact Follows.ret trivial

theorem takes_createOutput (env : Env) (req : CreateOutputRequest) (w : World) :
    Takes [.tend, .create] (createOutput env req) w := by
  unfold createOutput
  split
  · exact Follows.ret trivial
  refine Follows.acquire (Takes.andThen ?_ fun _ _ => Follows.release (Follows.ret trivial))
  refine Takes.andThen (takes_quiet (fun w => .refl w) w) fun found w => ?_
  cases found with
  | false => exact Follows.ret trivial
  | true => exact takes_createOutputHeld env req w

theorem takes_deleteOutput (env : Env) (inputId outputId : Int) (w : World) :
    Takes [.tend] (deleteOutput env inputId outputId) w := by
  refine Follows.acquire (Takes.andThen
    (takes_atomic (section_removeOutput inputId outputId) w) fun r w => ?_)
  cases r with
  | error r => exact Follows.release (Follows.ret trivial)
  | ok _ =>
    exact Takes.andThen (takes_quiet (quiet_query env _ _) w)
      fun _ _ => Follows.release (Follows.ret trivial)

theorem takes_updateOutput (env : Env) (outputId : Int) (req : UpdateOutputRequest) (w : World) :
    Takes [.tend] (updateOutput env outputId req) w := by
  refine Takes.andThen (takes_quiet (quiet_storedOutput env outputId req) w) fun r w => ?_
  rcases r with r | ⟨inputId, mergedConfig⟩
  · exact Follows.ret trivial
  refine Takes.andThen (takes_quiet (quiet_query env _ _) w) fun r w => ?_
  cases r with
  | error e => exact Follows.ret trivial
  | ok _ =>
  refine Takes.andThen (takes_read w) fun r w => ?_
  cases r with
  | none => exact Follows.ret trivial
  | some isActive =>
  refine Takes.andThen ?_ fun r w => ?_
  · cases isActive with
    | false => exact Follows.ret trivial
    | true => exact takes_stopOutput inputId outputId w
  cases r with
  | error e => exact Follows.ret trivial
  | ok _ =>
  refine Takes.andThen (takes_locked (section_setStoppedConfig inputId outputId mergedConfig) w)
    fun _ w => ?_
  refine Takes.andThen (takes_startOutput env inputId outputId w) fun r w => ?_
  cases r with
  | error e => exact Follows.ret trivial
  | ok _ =>
    exact Takes.andThen (takes_quiet (quiet_query env _ _) w) fun _ _ => Follows.ret trivial

/-! ## Handlers that start and stop -/

theorem takes_startInputEndpoint (env : Env) (inputId : Int) (w : World) :
    Takes startKinds (startInputEndpoint env inputId) w := by
  refine Takes.andThen (takes_startInput env inputId w) fun r w => ?_
  cases r with
  | error e => exact Follows.ret trivial
  | ok _ =>
  refine Takes.andThen (takes_read w) fun status w => ?_
  exact Takes.andThen (takes_quiet (quiet_query env _ _) w) fun _ _ => Follows.ret trivial

theorem takes_stopInputEndpoint (env : Env) (inputId : Int) (w : World) :
    Takes [.stop] (stopInputEndpoint env inputId) w := by
  refine Takes.andThen (takes_stopInput inputId w) fun r w => ?_
  cases r with
  | error e => exact Follows.ret trivial
  | ok _ =>
  exact Takes.andThen (takes_quiet (quiet_query env _ _) w) fun _ _ => Follows.ret trivial

theorem takes_startOutputEndpoint (env : Env) (outputId : Int) (w : World) :
    Takes [.tend] (startOutputEndpoint env outputId) w := by
  refine Takes.andThen (takes_quiet (quiet_getInputIdForOutput env outputId) w) fun r w => ?_
  cases r with
  | error e => exact Follows.ret trivial
  | ok inputId =>
  refine Takes.andThen (takes_startOutput env inputId outputId w) fun r w => ?_
  cases r with
  | error e => exact Follows.ret trivial
  | ok _ =>
  refine Takes.andThen (takes_read w) fun status w => ?_
  exact Takes.andThen (takes_quiet (quiet_query env _ _) w) fun _ _ => Follows.ret trivial

theorem takes_stopOutputEndpoint (env : Env) (outputId : Int) (w : World) :
    Takes [.tend] (stopOutputEndpoint env outputId) w := by
  refine Takes.andThen (takes_quiet (quiet_getInputIdForOutput env outputId) w) fun r w => ?_
  cases r with
  | error e => exact Follows.ret trivial
  | ok inputId =>
  refine Takes.andThen (takes_stopOutput inputId outputId w) fun r w => ?_
  cases r with
  | error e => exact Follows.ret trivial
  | ok _ =>
  exact Takes.andThen (takes_quiet (quiet_query env _ _) w) fun _ _ => Follows.ret trivial

/-! ## All operations -/

def Operation.kinds : Operation → List SectionKind
  | startInput .. | startInputEndpoint .. => startKinds
  | stopInput .. | stopInputEndpoint .. => [.stop]
  | startAnalysis .. => [.spawn, .analyse]
  | createInput .. => [.create, .enter]
  | updateInput .. => updateKinds
  | deleteInput .. => [.remove]
  | createOutput .. => [.tend, .create]
  | _ => [.tend]

theorem Takes.ignore {p : Prog World α} {w : World} (h : Takes ks p w) :
    Takes ks p.ignore w :=
  Follows.ignore Sections.later h

theorem Operation.takes (env : Env) (op : Operation) (w : World) :
    Takes op.kinds (op.prog env) w := by
  cases op with
  | startInput inputId => exact (takes_startInput env inputId w).ignore
  | stopInput inputId => exact (takes_stopInput inputId w).ignore
  | startOutput inputId outputId => exact (takes_startOutput env inputId outputId w).ignore
  | stopOutput inputId outputId => exact (takes_stopOutput inputId outputId w).ignore
  | startAnalysis inputId analysisType timeoutMinutes =>
    exact (takes_startAnalysis env inputId analysisType timeoutMinutes w).ignore
  | stopAnalysis inputId analysisType =>
    exact Takes.ignore (takes_locked (section_stopAnalysis inputId analysisType) w)
  | stopAllAnalysis inputId =>
    exact Takes.ignore (takes_locked (section_stopAllAnalysis inputId) w)
  | createInput req => exact (takes_createInput env req w).ignore
  | updateInput inputId req => exact (takes_updateInput env inputId req w).ignore
  | deleteInput inputId => exact (takes_deleteInput env inputId w).ignore
  | createOutput req => exact (takes_createOutput env req w).ignore
  | updateOutput outputId req => exact (takes_updateOutput env outputId req w).ignore
  | deleteOutput inputId outputId => exact (takes_deleteOutput env inputId outputId w).ignore
  | startInputEndpoint inputId => exact (takes_startInputEndpoint env inputId w).ignore
  | stopInputEndpoint inputId => exact (takes_stopInputEndpoint env inputId w).ignore
  | startOutputEndpoint outputId => exact (takes_startOutputEndpoint env outputId w).ignore
  | stopOutputEndpoint outputId => exact (takes_stopOutputEndpoint env outputId w).ignore

/-! ## The processor -/

theorem takes_processMessage (w : World) : Takes [.receive, .apply] processMessage w := by
  refine Takes.andThen (takes_atomic (fun w => .inr ⟨_, by simp, .receive⟩) w) fun _ w => ?_
  refine Takes.andThen (takes_locked (fun w => .inr ⟨_, by simp, .apply⟩) w) fun r w => ?_
  cases r with
  | none => exact Follows.ret trivial
  | some r => exact takes_quiet (fun w => ⟨rfl, .nil rfl rfl rfl rfl rfl⟩) w

/-! ## The load -/

/-- The loaded entries are fresh and under their own ids. -/
def LoadedFresh (loaded : HashMap Int InputInfo) (w : World) : Prop :=
  ∀ i info, loaded.lookup i = some info → FreshInput info w.rt ∧ info.id = i

theorem LoadedFresh.later {loaded : HashMap Int InputInfo} {w w' : World}
    (h : LoadedFresh loaded w) (hw : Later w w') : LoadedFresh loaded w' :=
  fun i info hi => ⟨(h i info hi).1.later hw, (h i info hi).2⟩

theorem LoadedFresh.insert {loaded : HashMap Int InputInfo} {w : World} {id : Int}
    {info : InputInfo} (h : LoadedFresh loaded w) (hf : FreshInput info w.rt ∧ info.id = id) :
    LoadedFresh (loaded.insert id info) w := by
  intro i info' hi
  rcases HashMap.lookup_insert_eq_some.mp hi with ⟨rfl, rfl⟩ | ⟨_, hi⟩
  · exact hf
  · exact h i info' hi

theorem takes_openIdle (id : Int) (name : Option String) (status : StreamStatus)
    (config : CreateInputRequest) (errorMessage : Option String) (w : World) :
    Takes ks (atomic (openIdle id name status config errorMessage)) w
      fun info w => FreshInput info w.rt ∧ info.id = id :=
  Follows.atomic fun _ _ => ⟨.inl ⟨rfl, .nil rfl rfl rfl rfl rfl⟩,
    freshInput_idle _ _ _ _ _ _ _ _, rfl⟩

theorem takes_respawnInput (req : CreateInputRequest) (id : Int) (name : Option String)
    (failure : String) (w : World) :
    Takes [.create] (respawnInput req id name failure) w
      fun info w => FreshInput info w.rt ∧ info.id = id := by
  refine Takes.bind (takes_spawnInput req id name w) fun r w _ hr => ?_
  cases r with
  | ok info => exact Follows.ret (hr info rfl)
  | error e => exact takes_openIdle id name .error req _ w

theorem takes_loadBaseInput (id : Int) (row : InputRow) (req : CreateInputRequest) (w : World) :
    Takes [.create] (loadBaseInput id row req) w
      fun info w => FreshInput info w.rt ∧ info.id = id := by
  unfold loadBaseInput
  split
  · exact takes_openIdle id row.name .stopped req none w
  · exact takes_respawnInput req id row.name _ w

theorem takes_loadBaseInputs (env : Env) (rows : List (Int × InputRow))
    (loaded : HashMap Int InputInfo) (w : World) (h : LoadedFresh loaded w) :
    Takes [.create] (loadBaseInputs env rows loaded) w
      fun r w => ∀ loaded, r = .ok loaded → LoadedFresh loaded w := by
  induction rows generalizing loaded w with
  | nil =>
    refine Follows.ret fun loaded' h' => ?_
    obtain rfl := Except.ok.inj h'
    exact h
  | cons r rest ih =>
    obtain ⟨id, row⟩ := r
    unfold loadBaseInputs
    split
    · exact ih loaded w h
    · exact Follows.ret fun _ h' => absurd h' (by simp)
    · rename_i req _
      exact Takes.bind (takes_loadBaseInput id row req w) fun info w' hw hf =>
        ih _ w' ((h.later hw).insert hf)

theorem takes_loadSptsInput (id : Int) (row : InputRow) (req : CreateInputRequest) (w : World) :
    Takes [.create] (loadSptsInput id row req) w
      fun info w => FreshInput info w.rt ∧ info.id = id := by
  unfold loadSptsInput
  split
  · exact takes_openIdle id row.name .stopped req none w
  refine Takes.andThen (takes_locked (fun w => .inl (.of_eq ?_ ?_)) w) fun r w => ?_
  · unfold missingSource
    split <;> rfl
  · unfold missingSource
    split <;> rfl
  cases r with
  | none => exact takes_respawnInput req id row.name _ w
  | some sourceId => exact takes_openIdle id row.name .stopped req _ w

theorem takes_loadSptsInputs (env : Env) (rows : List (Int × InputRow))
    (loaded : HashMap Int InputInfo) (w : World) (h : LoadedFresh loaded w) :
    Takes [.create] (loadSptsInputs env rows loaded) w
      fun r w => ∀ loaded, r = .ok loaded → LoadedFresh loaded w := by
  induction rows generalizing loaded w with
  | nil =>
    refine Follows.ret fun loaded' h' => ?_
    obtain rfl := Except.ok.inj h'
    exact h
  | cons r rest ih =>
    obtain ⟨id, row⟩ := r
    unfold loadSptsInputs
    split
    · exact Follows.ret fun _ h' => absurd h' (by simp)
    · rename_i req _
      exact Takes.bind (takes_loadSptsInput id row req w) fun info w' hw hf =>
        ih _ w' ((h.later hw).insert hf)

theorem takes_insertInputs {loaded : HashMap Int InputInfo} {w : World}
    (h : LoadedFresh loaded w) : Takes [.enter] (locked .write (insertInputs loaded)) w :=
  Follows.locked fun _ hw => ⟨.inr ⟨_, by simp, .load loaded (h.later hw)⟩, trivial⟩

theorem takes_loadGroups (env : Env) {outs : List (Int × OutputRow)}
    (hids : (outs.map Prod.fst).Nodup) (inputIds : List Int) (w : World) :
    Takes [.tend] (loadGroups env outs inputIds) w := by
  induction inputIds generalizing w with
  | nil => exact Follows.ret trivial
  | cons inputId rest ih =>
    have hgroup : ((outs.filter fun o => o.2.inputId = inputId).map Prod.fst).Nodup :=
      hids.sublist (List.filter_sublist.map _)
    refine Takes.andThen (takes_locked (section_loadGroup env inputId _ hgroup) w) fun r w => ?_
    cases r with
    | error e => exact Follows.ret trivial
    | ok _ => exact ih w

theorem getAllOutputs_nodup {env : Env} {w : World} {outs : List (Int × OutputRow)}
    (h : (getAllOutputs env w).1 = .ok outs) : (outs.map Prod.fst).Nodup := by
  unfold getAllOutputs select query at h
  split at h
  · exact absurd h (by simp)
  · obtain rfl := Except.ok.inj h
    exact w.db.outputs.nodup_keys

theorem takes_loadFromDb (env : Env) (w : World) :
    Takes [.create, .enter, .tend] (loadFromDb env) w := by
  refine Takes.andThen (takes_quiet (quiet_select env _ _) w) fun r w => ?_
  cases r with
  | error e => exact Follows.ret trivial
  | ok rows =>
  refine Takes.bind ((takes_loadBaseInputs env _ ∅ w fun _ _ h => absurd h (by simp)).mono
    (by simp)) fun r w _ hr => ?_
  cases r with
  | error e => exact Follows.ret trivial
  | ok loaded =>
  refine Takes.andThen ((takes_insertInputs (hr loaded rfl)).mono (by simp)) fun _ w => ?_
  refine Takes.bind ((takes_loadSptsInputs env _ ∅ w fun _ _ h => absurd h (by simp)).mono
    (by simp)) fun r w _ hr => ?_
  cases r with
  | error e => exact Follows.ret trivial
  | ok sptsLoaded =>
  refine Takes.bind (Q := fun r w => LoadedFresh sptsLoaded w ∧
      ∀ outs, r = .ok outs → (outs.map Prod.fst).Nodup) (Follows.atomic fun w' hw =>
    ⟨.inl (quiet_select env _ _ w'), ?_, fun outs h => getAllOutputs_nodup h⟩)
    fun r w _ hr' => ?_
  · exact ((hr sptsLoaded rfl).later hw).later (quiet_select env _ _ w').runtime.later
  obtain ⟨hfresh, hids⟩ := hr'
  cases r with
  | error e => exact Follows.ret trivial
  | ok outs =>
  refine Takes.andThen ((takes_insertInputs hfresh).mono (by simp)) fun _ w => ?_
  exact (takes_loadGroups env (hids outs rfl) _ w).mono (by simp)

end StreamGateway
