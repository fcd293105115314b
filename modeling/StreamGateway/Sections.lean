import StreamGateway.Gateway

/-!
# The kinds of steps

Every atomic step of every call is a section of one of a few kinds. An invariant of the
gateway is proved kind by kind, and then holds for every call, alone or in any interleaving.
-/
namespace StreamGateway

open Prog

/-- Nothing changes in the streams, the tasks and the messages. -/
structure Quiet (w w' : World) : Prop where
  streams : w'.streams = w.streams
  runtime : Launches [] w.rt w'.rt

theorem Quiet.refl (w : World) : Quiet w w := ⟨rfl, .refl w.rt⟩

theorem Quiet.trans {w w' w'' : World} (h : Quiet w w') (h' : Quiet w' w'') : Quiet w w'' :=
  ⟨h'.streams.trans h.streams, h.runtime.trans h'.runtime⟩

theorem Quiet.of_eq {w w' : World} (hs : w'.streams = w.streams) (hrt : w'.rt = w.rt) :
    Quiet w w' := by
  refine ⟨hs, ?_⟩
  rw [hrt]
  exact .refl w.rt

/-- An entry as it is created: without outputs and analyses, and with a task of its own if it
has one. -/
structure FreshInput (info : InputInfo) (rt : Runtime) : Prop where
  outputTasks : info.outputTasks = ∅
  analysisTasks : info.analysisTasks = ∅
  handle : ∀ t, info.taskHandle = some t → t ∈ rt.spawned ∧ t.spec.owner = .input info.id

/-- The handle of an analysis is that of a task for it. -/
def AnalysisInfo.OwnTask (inputId : Int) (a : AnalysisInfo) : Prop :=
  a.taskHandle.spec.owner = .analysis inputId a.id

/-- The tasks that `start_input` spawns before the section that enters their handles. -/
def TaskSpec.Deferred : TaskSpec → Prop
  | .sptsInput .. => True
  | .analysis .. => True
  | _ => False

instance : DecidablePred TaskSpec.Deferred
  | .sptsInput .. => .isTrue trivial
  | .analysis .. => .isTrue trivial
  | .udpInput .. => .isFalse id
  | .srtInput .. => .isFalse id
  | .udpOutput .. => .isFalse id
  | .srtOutput .. => .isFalse id

/-- An input begins anew with a given task. Its outputs are those it had and those that were
stopped. -/
structure Begun (info info' : InputInfo) (t : Task) (launched : List Task) : Prop where
  id : info'.id = info.id
  taskHandle : info'.taskHandle = some t
  outputs : ∀ k o, info'.outputTasks.lookup k = some o → info.outputTasks.lookup k = some o ∨
    ∃ t ∈ launched, o.abortHandle = some t
  analyses : info'.analysisTasks = info.analysisTasks
  packetRx : ∀ t ∈ launched, t.spec.packetRx = some info'.packetTx
  outputIds : ∀ t ∈ launched, t.spec.owner.outputId.isSome
  distinct : (launched.map fun t => t.spec.owner.outputId).Nodup

/-- Every entry is found under its own id. -/
def World.IdsMatch (w : World) : Prop := ∀ i info, w.streams.lookup i = some info → info.id = i

inductive SectionKind
  | spawn | create | tend | analyse | restart | install | stop | remove | enter | receive | apply
  deriving DecidableEq, Repr

inductive Section : SectionKind → World → World → Prop
  | spawn {w w' : World} (t : Task) : Launches [t] w.rt w'.rt → t.spec.Deferred →
      w'.streams = w.streams → Section .spawn w w'
  | create {w w' : World} (t : Task) : Launches [t] w.rt w'.rt → w'.streams = w.streams →
      Section .create w w'
  | tend {w w' : World} (i : Int) (info info' : InputInfo) (launched aborted : List Task) :
      w.streams.lookup i = some info → w'.streams = w.streams.insert i info' →
      Tended info info' launched aborted →
      (w.IdsMatch → ∀ t ∈ launched, t.spec.packetRx = some info.packetTx) →
      Moves launched aborted w.rt w'.rt → Section .tend w w'
  | analyse {w : World} (inputId : Int) (a : AnalysisInfo) : a.OwnTask inputId →
      a.taskHandle ∈ w.rt.spawned → Section .analyse w (insertAnalysis inputId a w).2
  | restart {w w' : World} (i : Int) (info info' : InputInfo) (t : Task) (launched : List Task) :
      w.streams.lookup i = some info → w'.streams = w.streams.insert i info' →
      t.spec.owner = .input i → ¬ t.spec.Deferred → Begun info info' t launched →
      Launches (t :: launched) w.rt w'.rt → Section .restart w w'
  | install {w : World} (env : Env) (i : Int) (new : InputInfo) (t : Task) :
      new.taskHandle = some t → t ∈ w.rt.spawned → t.spec.owner = .input i →
      Section .install w (sptsInstallSection env i new w).2
  | stop {w : World} (i : Int) : Section .stop w (stopInputSection i w).2
  | remove {w : World} (i : Int) : Section .remove w (removeInputSection i w).2
  | enter {w : World} (info : InputInfo) : FreshInput info w.rt →
      Section .enter w (insertInput info w).2
  | load {w : World} (loaded : HashMap Int InputInfo) :
      (∀ i info, loaded.lookup i = some info → FreshInput info w.rt ∧ info.id = i) →
      Section .enter w (insertInputs loaded w).2
  | receive {w : World} : Section .receive w (receive w).2
  | apply {w : World} : Section .apply w (applyProcessing w).2

/-- A section of one of the kinds, or a step that is not seen. -/
def Sections (ks : List SectionKind) (w w' : World) : Prop :=
  Quiet w w' ∨ ∃ k ∈ ks, Section k w w'

/-! ## Sections that tend an entry -/

theorem Tended.same {info info' : InputInfo} (hid : info'.id = info.id)
    (hstatus : info'.status = info.status) (htx : info'.packetTx = info.packetTx)
    (hhandle : info'.taskHandle = info.taskHandle) (houts : info'.outputTasks = info.outputTasks)
    (hanalyses : info'.analysisTasks = info.analysisTasks) : Tended info info' [] [] := by
  refine ⟨hid, hstatus, htx, hhandle, fun k o h => .inl ?_, fun k a h => ?_, ?_, ?_, ?_⟩
  · rwa [houts] at h
  · rwa [hanalyses] at h
  · exact fun _ h => absurd h List.not_mem_nil
  · exact List.nodup_nil
  · exact fun _ h => absurd h List.not_mem_nil

/-- Nothing is started or stopped. -/
theorem section_edit {w w' : World} {i : Int} {info info' : InputInfo}
    (hi : w.streams.lookup i = some info) (hs : w'.streams = w.streams.insert i info')
    (hrt : w'.rt = w.rt) (ht : Tended info info' [] []) : Sections [.tend] w w' := by
  refine .inr ⟨_, List.mem_singleton_self _, .tend i info info' [] [] hi hs ht ?_ ?_⟩
  · exact fun _ _ h => absurd h List.not_mem_nil
  · rw [hrt]
    exact (Launches.refl w.rt).moves

theorem section_pauseAgain (inputId : Int) (analysisType : AnalysisType) (w : World) :
    Sections [.tend] w (pauseAgain inputId analysisType w).2 := by
  unfold pauseAgain
  split
  · exact .inl (.refl w)
  · rename_i info h
    exact section_edit h rfl rfl (.same rfl rfl rfl rfl rfl rfl)

theorem section_setConfig (inputId : Int) (config : CreateInputRequest) (w : World) :
    Sections [.tend] w (setConfig inputId config w).2 := by
  unfold setConfig
  split
  · exact .inl (.refl w)
  · rename_i info h
    exact section_edit h rfl rfl (.same rfl rfl rfl rfl rfl rfl)

theorem section_setStoppedConfig (inputId outputId : Int) (config : CreateOutputRequest)
    (w : World) : Sections [.tend] w (setStoppedConfig inputId outputId config w).2 := by
  unfold setStoppedConfig
  split
  · exact .inl (.refl w)
  · rename_i info h
    exact section_edit h rfl rfl (.same rfl rfl rfl rfl rfl rfl)

/-- Tasks of the entry are aborted. -/
theorem section_abort {w w' : World} {i : Int} {info info' : InputInfo} {aborted : List Task}
    (hi : w.streams.lookup i = some info) (hs : w'.streams = w.streams.insert i info')
    (hrt : Aborts aborted w.rt w'.rt) (ht : Tended info info' [] aborted) :
    Sections [.tend] w w' := by
  refine .inr ⟨_, List.mem_singleton_self _, .tend i info info' [] aborted hi hs ht ?_ hrt.moves⟩
  exact fun _ _ h => absurd h List.not_mem_nil

/-- What stopping one analysis does. -/
theorem stopAnalysisSection_ok (inputId : Int) (analysisType : AnalysisType) (w : World) :
    (stopAnalysisSection inputId analysisType w).2 = w ∨ ∃ info id a,
      w.streams.lookup inputId = some info ∧ info.analysisTasks.lookup id = some a ∧
      (stopAnalysisSection inputId analysisType w).2 = { w with
        streams := w.streams.insert inputId { info with
          analysisTasks := info.analysisTasks.erase id }
        rt := w.rt.abort a.taskHandle } := by
  unfold stopAnalysisSection
  split
  · exact .inl rfl
  rename_i info hi
  split
  · exact .inl rfl
  rename_i id a hfind
  have ha := HashMap.mem_toPairs.mp (List.mem_of_find?_eq_some hfind)
  exact .inr ⟨info, id, a, hi, ha, rfl⟩

/-- What stopping all analyses of an input does. -/
theorem stopAllAnalysisSection_ok (inputId : Int) (w : World) :
    (stopAllAnalysisSection inputId w).2 = w ∨ ∃ info,
      w.streams.lookup inputId = some info ∧
      (stopAllAnalysisSection inputId w).2 = { w with
        streams := w.streams.insert inputId { info with analysisTasks := ∅ }
        rt := abortAnalyses info.analysisTasks.toPairs w.rt } := by
  unfold stopAllAnalysisSection
  split
  · exact .inl rfl
  · rename_i info hi
    exact .inr ⟨info, hi, rfl⟩

theorem section_stopAnalysis (inputId : Int) (analysisType : AnalysisType) (w : World) :
    Sections [.tend] w (stopAnalysisSection inputId analysisType w).2 := by
  rcases stopAnalysisSection_ok inputId analysisType w with hw | ⟨info, k, a, h, hlookup, hw⟩
  · rw [hw]
    exact .inl (.refl w)
  rw [hw]
  refine section_abort h rfl (aborts_abort w.rt a.taskHandle)
    ⟨rfl, rfl, rfl, rfl, fun _ _ => .inl, ?_, ?_, List.nodup_nil, ?_⟩
  · exact fun k' a' h' => (HashMap.lookup_erase_eq_some.mp h').2
  · exact fun _ h => absurd h List.not_mem_nil
  · intro t ht
    exact .analysis k a hlookup (List.mem_singleton.mp ht).symm

theorem section_stopAllAnalysis (inputId : Int) (w : World) :
    Sections [.tend] w (stopAllAnalysisSection inputId w).2 := by
  rcases stopAllAnalysisSection_ok inputId w with hw | ⟨info, h, hw⟩
  · rw [hw]
    exact .inl (.refl w)
  rw [hw]
  refine section_abort h rfl (aborts_abortAnalyses info.analysisTasks.toPairs w.rt)
    ⟨rfl, rfl, rfl, rfl, fun _ _ => .inl, ?_, ?_, List.nodup_nil, ?_⟩
  · exact fun k a h' => absurd h' (by simp)
  · exact fun _ h => absurd h List.not_mem_nil
  · exact fun t ht => holds_of_mem_analyses ht

/-- A running output leaves the entry and its task is aborted. -/
theorem section_dropOutput {w w' : World} {i outputId : Int} {info info' : InputInfo}
    {output : OutputInfo} (hi : w.streams.lookup i = some info)
    (ho : info.outputTasks.lookup outputId = some output)
    (hs : w'.streams = w.streams.insert i info')
    (hrt : Aborts output.abortHandle.toList w.rt w'.rt)
    (ht : Tended info { info' with outputTasks := info.outputTasks } [] [])
    (houts : info'.outputTasks = info.outputTasks.erase outputId) : Sections [.tend] w w' := by
  have houtputs : ∀ k o, info'.outputTasks.lookup k = some o →
      info.outputTasks.lookup k = some o := by
    intro k o h
    rw [houts] at h
    exact (HashMap.lookup_erase_eq_some.mp h).2
  have hheld : ∀ t ∈ output.abortHandle.toList, info.Holds t := by
    intro t h
    exact .output outputId output ho (Option.mem_toList.mp h)
  exact section_abort hi hs hrt ⟨ht.id, ht.status, ht.packetTx, ht.taskHandle,
    fun k o h => .inl (houtputs k o h), ht.analyses, ht.outputIds, ht.distinct, hheld⟩

theorem section_stopOutput (inputId outputId : Int) (w : World) :
    Sections [.tend] w (stopOutputSection inputId outputId w).2 := by
  unfold stopOutputSection
  split
  · exact .inl (.refl w)
  rename_i info h
  split
  · rename_i output ho
    exact section_dropOutput h ho rfl (aborts_abortHandle w.rt output.abortHandle)
      (.same rfl rfl rfl rfl rfl rfl) rfl
  · split <;> exact .inl (.refl w)

theorem section_removeOutput (inputId outputId : Int) (w : World) :
    Sections [.tend] w (removeOutputSection inputId outputId w).2 := by
  unfold removeOutputSection
  split
  · exact .inl (.refl w)
  rename_i info h
  split
  · rename_i output ho
    exact section_dropOutput h ho rfl ((aborts_abortHandle w.rt output.abortHandle).record _)
      (.same rfl rfl rfl rfl rfl rfl) rfl
  · split
    · exact section_edit h rfl rfl (.same rfl rfl rfl rfl rfl rfl)
    · exact .inl (.refl w)

/-! ## Sections that start outputs -/

theorem Started.outputIds {input input' : InputInfo} {ids : List Int} {tasks : List Task}
    {rt rt' : Runtime} (h : Started input input' ids tasks rt rt') :
    ∀ t ∈ tasks, t.spec.owner.outputId.isSome := by
  intro t ht
  obtain ⟨id, _, hid⟩ := List.mem_map.mp (h.ids.subset (List.mem_map_of_mem ht))
  rw [← hid]
  rfl

theorem Started.distinct {input input' : InputInfo} {ids : List Int} {tasks : List Task}
    {rt rt' : Runtime} (h : Started input input' ids tasks rt rt') (hids : ids.Nodup) :
    (tasks.map fun t => t.spec.owner.outputId).Nodup :=
  h.ids.nodup (hids.map fun _ _ => Option.some.inj)

/-- Outputs are started for an entry. -/
theorem section_started {w w' : World} {i : Int} {info info' : InputInfo}
    {stopped : HashMap Int CreateOutputRequest} {ids : List Int} {tasks : List Task}
    (hi : w.streams.lookup i = some info) (hs : w'.streams = w.streams.insert i info')
    (hids : ids.Nodup)
    (h : Started { info with stoppedOutputs := stopped } info' ids tasks w.rt w'.rt) :
    Sections [.tend] w w' := by
  have houtputs : ∀ k o, info'.outputTasks.lookup k = some o →
      info.outputTasks.lookup k = some o ∨ ∃ t ∈ tasks, o.abortHandle = some t := by
    intro k o ho
    exact (h.handle k o ho).imp_right fun h => h.2
  have hanalyses : ∀ k a, info'.analysisTasks.lookup k = some a →
      info.analysisTasks.lookup k = some a := by
    intro k a ha
    rwa [h.frame] at ha
  have htended : Tended info info' tasks [] := by
    refine ⟨?_, ?_, ?_, ?_, houtputs, hanalyses, h.outputIds, h.distinct hids,
      fun _ h => absurd h List.not_mem_nil⟩
    · rw [h.frame]
    · rw [h.frame]
    · rw [h.frame]
    · rw [h.frame]
  exact .inr ⟨_, List.mem_singleton_self _,
    .tend i info info' tasks [] hi hs htended (fun _ => h.packetRx) h.launches.moves⟩

theorem section_startOutput (env : Env) (inputId outputId : Int) (w : World) :
    Sections [.tend] w (startOutputSection env inputId outputId w).2 := by
  unfold startOutputSection
  split
  · exact .inl (.refl w)
  rename_i info h
  split
  · exact .inl (.refl w)
  split
  · rename_i config hc
    dsimp only
    split
    · rename_i input' rt' hstart
      obtain ⟨t, ht⟩ := startOutputInternal_started hstart
      exact section_started h rfl (List.nodup_singleton outputId) ht
    · exact section_edit h rfl rfl (.same rfl rfl rfl rfl rfl rfl)
  · split <;> exact .inl (.refl w)

theorem spawnOutput_launch {env : Env} {req : CreateOutputRequest} {input : InputInfo}
    {inputId outputId : Int} {destinationAddr : String} {rt rt' : Runtime} {output : OutputInfo}
    (h : spawnOutput env req input inputId outputId destinationAddr rt = .ok (output, rt')) :
    ∃ i spec, (i = inputId ∨ i = input.id) ∧ Launch input i outputId rt spec output rt' := by
  cases req with
  | udp inputId' remoteHost remotePort automaticPort name bindHost multicastTtl
      multicastInterface destinationAddr' =>
    obtain ⟨spec, hl⟩ := launch_createUdpOutput h
    exact ⟨_, spec, .inr rfl, hl⟩
  | srt inputId' name config =>
    obtain ⟨rfl, rfl⟩ := Prod.mk.inj (Except.ok.inj h)
    obtain ⟨spec, hl⟩ :=
      launch_createSrtOutput inputId config input outputId name rt.stateChangeTx rt
    exact ⟨_, spec, .inl rfl, hl⟩

/-- The entry that the new output goes to is the one it was spawned for when every entry is
found under its own id. -/
theorem section_installOutput (env : Env) (req : CreateOutputRequest) (inputId outputId : Int)
    (destinationAddr : String) (w : World) :
    Sections [.tend, .create] w
      (installOutputSection env req inputId outputId destinationAddr w).2 := by
  unfold installOutputSection
  split
  · exact .inl (.refl w)
  rename_i input hinput
  split
  · exact .inl (.refl w)
  rename_i output rt' hspawn
  obtain ⟨i, spec, hi, hl⟩ := spawnOutput_launch hspawn
  split
  · exact .inr ⟨_, by simp, .create _ hl.launches rfl⟩
  rename_i target htarget
  rw [hl.inputId_eq] at htarget
  have hfresh := hl.started
  have hdistinct := hfresh.distinct (List.nodup_singleton _)
  have htended : Tended target
      { target with outputTasks := target.outputTasks.insert output.id output }
      [w.rt.newTask spec] [] := by
    refine ⟨rfl, rfl, rfl, rfl, fun k o ho => ?_, fun _ _ h => h, hfresh.outputIds, hdistinct,
      fun _ h => absurd h List.not_mem_nil⟩
    rcases HashMap.lookup_insert_eq_some.mp ho with ⟨_, rfl⟩ | ⟨_, ho⟩
    · exact .inr ⟨_, List.mem_singleton_self _, hl.handle⟩
    · exact .inl ho
  have hpacketRx : w.IdsMatch → ∀ t ∈ [w.rt.newTask spec],
      t.spec.packetRx = some target.packetTx := by
    intro hids t ht
    rw [hids inputId input hinput, or_self] at hi
    rw [hi, hinput] at htarget
    rw [hfresh.packetRx t ht, Option.some.inj htarget]
  refine .inr ⟨_, List.mem_cons_self,
    .tend i target _ [w.rt.newTask spec] [] htarget ?_ htended hpacketRx hl.launches.moves⟩
  simp only [hl.inputId_eq]

theorem recreateOutput_launch {env : Env} {inputId id : Int} {input : InputInfo}
    {row : OutputRow} {rt rt' : Runtime} {output : OutputInfo}
    (h : recreateOutput env inputId input id row rt = .ok (some (output, rt'))) :
    ∃ i spec, Launch input i id rt spec output rt' := by
  rcases recreateOutput_some h with hr | ⟨config, hr⟩
  · obtain ⟨spec, hl⟩ := launch_createUdpOutput hr
    exact ⟨_, spec, hl⟩
  · obtain ⟨rfl, rfl⟩ := Prod.mk.inj hr
    obtain ⟨spec, hl⟩ := launch_createSrtOutput inputId config input id row.name rt.stateChangeTx rt
    exact ⟨_, spec, hl⟩

theorem Started.withStopped {input input' : InputInfo} {ids : List Int} {tasks : List Task}
    {rt rt' : Runtime} (h : Started input input' ids tasks rt rt')
    (stopped : HashMap Int CreateOutputRequest) :
    Started { input with stoppedOutputs := stopped } { input' with stoppedOutputs := stopped } ids
      tasks rt rt' := by
  refine ⟨?_, h.launches, h.ids, h.packetRx, h.handle⟩
  rw [h.frame]

theorem loadOutput_started {env : Env} {inputId id : Int} {input input' : InputInfo}
    {row : OutputRow} {rt rt' : Runtime}
    (h : loadOutput env inputId input id row rt = .ok (input', rt')) :
    ∃ tasks, Started { input with stoppedOutputs := input'.stoppedOutputs } input' [id] tasks rt
      rt' := by
  cases loadOutput_loaded h with
  | skipped => exact ⟨[], Started.refl input [id] rt⟩
  | stopped => exact ⟨[], Started.refl _ [id] rt⟩
  | running hr =>
    obtain ⟨i, spec, hl⟩ := recreateOutput_launch hr
    exact ⟨_, hl.started⟩

theorem loadOutputs_started (env : Env) (inputId : Int) (outputs : List (Int × OutputRow))
    (input : InputInfo) (rt : Runtime) :
    ∃ tasks, Started
      { input with stoppedOutputs := (loadOutputs env inputId outputs input rt).2.1.stoppedOutputs }
      (loadOutputs env inputId outputs input rt).2.1 (outputs.map Prod.fst) tasks rt
      (loadOutputs env inputId outputs input rt).2.2 := by
  induction outputs generalizing input rt with
  | nil => exact ⟨[], .refl input [] rt⟩
  | cons o outputs ih =>
    obtain ⟨id, row⟩ := o
    simp only [loadOutputs]
    split
    · exact ⟨[], .refl input _ rt⟩
    · rename_i input' rt' h
      obtain ⟨ts, hts⟩ := loadOutput_started h
      obtain ⟨us, hus⟩ := ih input' rt'
      exact ⟨ts ++ us, (hts.withStopped _).trans hus⟩

theorem section_loadGroup (env : Env) (inputId : Int) (outputs : List (Int × OutputRow))
    (hids : (outputs.map Prod.fst).Nodup) (w : World) :
    Sections [.tend] w (loadGroupSection env inputId outputs w).2 := by
  unfold loadGroupSection
  split
  · exact .inl (.refl w)
  rename_i input h
  obtain ⟨tasks, hts⟩ := loadOutputs_started env inputId outputs input w.rt
  exact section_started h rfl hids hts

/-! ## Sections that start and stop an input -/

def CreateInputRequest.isSpts : CreateInputRequest → Bool
  | .spts .. => true
  | _ => false

theorem recreateTask_spawns {plan : StartPlan} (h : plan.config.isSpts = false)
    (input : InputInfo) (rt : Runtime) :
    ∃ spec status startedAt, spec.owner = .input plan.inputId ∧ ¬ spec.Deferred ∧
      StreamStatus.isActive status = true ∧
      (recreateTask plan input rt).1 = { input with
        taskHandle := some (rt.newTask spec)
        packetTx := rt.nextChannel
        status := status
        startedAt := startedAt } ∧
      Launches [rt.newTask spec] rt (recreateTask plan input rt).2 := by
  unfold recreateTask
  cases hc : plan.config with
  | udp => exact ⟨_, _, _, rfl, id, rfl, rfl, launches_input rt _⟩
  | srt name config =>
    refine ⟨_, _, _, rfl, id, ?_, rfl, launches_input rt _⟩
    cases config <;> rfl
  | spts => simp [hc, CreateInputRequest.isSpts] at h

/-- What the last section of the start of a UDP or SRT input does. -/
theorem restartSection_ok (env : Env) {plan : StartPlan} (h : plan.config.isSpts = false)
    (w : World) :
    (restartSection env plan w).2 = w ∨ ∃ info info' t tasks,
      w.streams.lookup plan.inputId = some info ∧
      (restartSection env plan w).2.streams = w.streams.insert plan.inputId info' ∧
      t.spec.owner = .input plan.inputId ∧ ¬ t.spec.Deferred ∧ Begun info info' t tasks ∧
      Launches (t :: tasks) w.rt (restartSection env plan w).2.rt := by
  unfold restartSection
  split
  · exact .inl rfl
  rename_i info hinfo
  obtain ⟨spec, status, startedAt, howner, hdeferred, _, hinput, hlaunch⟩ :=
    recreateTask_spawns h info w.rt
  obtain ⟨tasks, hts⟩ := restartStopped_started env (recreateTask plan info w.rt).1
    (recreateTask plan info w.rt).2
  have hdistinct := hts.distinct (HashMap.nodup_keys_toPairs _)
  have hbegun : Begun info { (restartStopped env (recreateTask plan info w.rt).1
      (recreateTask plan info w.rt).2).1 with pausedAnalysis := [] } (w.rt.newTask spec) tasks := by
    refine ⟨?_, ?_, fun k o ho => ?_, ?_, fun t ht => ?_, hts.outputIds, hdistinct⟩
    · dsimp only
      rw [hts.frame, hinput]
    · dsimp only
      rw [hts.frame, hinput]
    · have hhandle := (hts.handle k o ho).imp_right fun h => h.2
      rwa [hinput] at hhandle
    · dsimp only
      rw [hts.frame, hinput]
    · dsimp only
      rw [hts.packetRx t ht, hts.frame]
  exact .inr ⟨info, _, w.rt.newTask spec, tasks, hinfo, rfl, howner, hdeferred, hbegun,
    hlaunch.trans hts.launches⟩

theorem section_restart (env : Env) {plan : StartPlan} (h : plan.config.isSpts = false)
    (w : World) : Sections [.restart] w (restartSection env plan w).2 := by
  rcases restartSection_ok env h w with
    hw | ⟨info, info', t, tasks, hinfo, hs, howner, hdeferred, hbegun, hlaunch⟩
  · rw [hw]
    exact .inl (.refl w)
  · exact .inr ⟨_, List.mem_singleton_self _,
      .restart plan.inputId info info' t tasks hinfo hs howner hdeferred hbegun hlaunch⟩

/-- What the last section of a program filter's start does. -/
theorem sptsInstallSection_ok (env : Env) (inputId : Int) (new : InputInfo) (w : World) :
    (sptsInstallSection env inputId new w).2 = w ∨ ∃ info info' tasks,
      w.streams.lookup inputId = some info ∧
      (sptsInstallSection env inputId new w).2.streams = w.streams.insert inputId info' ∧
      info'.id = info.id ∧ info'.taskHandle = new.taskHandle ∧
      info'.analysisTasks = info.analysisTasks ∧ info'.packetTx = new.packetTx ∧
      Started { info with packetTx := new.packetTx } { info with
        packetTx := new.packetTx
        outputTasks := info'.outputTasks } (info.stoppedOutputs.toPairs.map Prod.fst) tasks w.rt
        (sptsInstallSection env inputId new w).2.rt := by
  unfold sptsInstallSection
  split
  · exact .inl rfl
  rename_i info hinfo
  obtain ⟨tasks, hts⟩ := restartStopped_started env { info with
      taskHandle := new.taskHandle
      packetTx := new.packetTx
      status := .listening
      startedAt := some w.rt.clock } w.rt
  refine .inr ⟨info, { (restartStopped env { info with
      taskHandle := new.taskHandle
      packetTx := new.packetTx
      status := .listening
      startedAt := some w.rt.clock } w.rt).1 with pausedAnalysis := [] }, tasks, hinfo, rfl,
    ?_, ?_, ?_, ?_, ⟨rfl, hts.launches, hts.ids, hts.packetRx, hts.handle⟩⟩
  · dsimp only
    rw [hts.frame]
  · dsimp only
    rw [hts.frame]
  · dsimp only
    rw [hts.frame]
  · dsimp only
    rw [hts.frame]

theorem sptsInstallSection_found (env : Env) {inputId : Int} (new : InputInfo) {w : World}
    {info : InputInfo} (h : w.streams.lookup inputId = some info) :
    ∃ paused, (sptsInstallSection env inputId new w).1 = .ok paused := by
  unfold sptsInstallSection
  rw [h]
  exact ⟨_, rfl⟩

theorem sptsInstallSection_error {env : Env} {inputId : Int} {new : InputInfo} {w : World}
    {e : String} (h : (sptsInstallSection env inputId new w).1 = .error e) :
    (sptsInstallSection env inputId new w).2 = w := by
  unfold sptsInstallSection at h ⊢
  split at h
  · rfl
  · exact absurd h (by simp [takePaused])

/-- A timeout that panics ends the call, and else the task of the analysis is spawned. -/
theorem spawnAnalysis_ok (env : Env) (inputId : Int) (analysisId : ℕ)
    (analysisType : AnalysisType) (timeoutMinutes : Option UInt64) (rx : ChannelId) (w : World) :
    (∃ e, analysisTimeout env.overflowChecks w.rt.clock timeoutMinutes = .error e ∧
      spawnAnalysis env inputId analysisId analysisType timeoutMinutes rx w = (.error e, w)) ∨
    ∃ timeout, analysisTimeout env.overflowChecks w.rt.clock timeoutMinutes = .ok timeout ∧
      spawnAnalysis env inputId analysisId analysisType timeoutMinutes rx w =
        (.ok (launchAnalysis inputId analysisId analysisType timeoutMinutes timeout rx w).1,
          (launchAnalysis inputId analysisId analysisType timeoutMinutes timeout rx w).2) := by
  unfold spawnAnalysis
  cases ht : analysisTimeout env.overflowChecks w.rt.clock timeoutMinutes with
  | error e => exact .inl ⟨e, rfl, rfl⟩
  | ok timeout => exact .inr ⟨timeout, rfl, rfl⟩

theorem insertAnalysis_found {inputId : Int} {a : AnalysisInfo} {w : World} {info : InputInfo}
    (h : w.streams.lookup inputId = some info) :
    insertAnalysis inputId a w = (.ok a.id, { w with
      streams := w.streams.insert inputId { info with
        analysisTasks := info.analysisTasks.insert a.id a } }) := by
  unfold insertAnalysis
  rw [h]

/-- What entering an analysis does. -/
theorem insertAnalysis_ok (inputId : Int) (a : AnalysisInfo) (w : World) :
    (insertAnalysis inputId a w).2 = w ∨ ∃ info, w.streams.lookup inputId = some info ∧
      (insertAnalysis inputId a w).2 = { w with
        streams := w.streams.insert inputId { info with
          analysisTasks := info.analysisTasks.insert a.id a } } := by
  cases hi : w.streams.lookup inputId with
  | none =>
    unfold insertAnalysis
    rw [hi]
    exact .inl rfl
  | some info => exact .inr ⟨info, rfl, by rw [insertAnalysis_found hi]⟩

theorem insertAnalysis_rt (inputId : Int) (a : AnalysisInfo) (w : World) :
    (insertAnalysis inputId a w).2.rt = w.rt := by
  rcases insertAnalysis_ok inputId a w with hw | ⟨info, _, hw⟩ <;> rw [hw]

/-- What stopping an input does. -/
theorem stopInputSection_ok (inputId : Int) (w : World) :
    (∃ e, stopInputSection inputId w = (.error e, w)) ∨ ∃ info info' aborted,
      w.streams.lookup inputId = some info ∧
      (stopInputSection inputId w).2.streams = w.streams.insert inputId info' ∧
      info'.id = info.id ∧ info'.taskHandle = none ∧ info'.status = .stopped ∧
      info'.outputTasks = ∅ ∧ info'.analysisTasks = ∅ ∧
      Aborts (info.taskHandle.toList ++ aborted) w.rt (stopInputSection inputId w).2.rt ∧
      ∀ t ∈ aborted, info.Holds t := by
  unfold stopInputSection
  split
  · exact .inl ⟨_, rfl⟩
  rename_i info hinfo
  split
  · exact .inl ⟨_, rfl⟩
  have hinput := aborts_abortHandle w.rt info.taskHandle
  have houtputs := aborts_stopOutputs info.outputTasks.toPairs (w.rt.abortHandle info.taskHandle)
  refine .inr ⟨info, _, _, hinfo, rfl, rfl, rfl, rfl, rfl, rfl,
    hinput.trans (houtputs.trans (aborts_abortAnalyses _ _)), fun t ht => ?_⟩
  rcases List.mem_append.mp ht with ht | ht
  · refine holds_of_mem_outputs ?_
    obtain ⟨o, ho, ht⟩ := List.mem_flatMap.mp ht
    exact List.mem_flatMap.mpr ⟨o, List.mem_of_mem_filter ho, ht⟩
  · exact holds_of_mem_analyses ht

/-- What deleting an input does. -/
theorem removeInputSection_ok (inputId : Int) (w : World) :
    (removeInputSection inputId w).2 = w ∨ ∃ info aborted,
      w.streams.lookup inputId = some info ∧
      (removeInputSection inputId w).2.streams = w.streams.erase inputId ∧
      Aborts (info.taskHandle.toList ++ aborted) w.rt (removeInputSection inputId w).2.rt := by
  unfold removeInputSection
  split
  · exact .inl rfl
  rename_i info hinfo
  have hinput := (aborts_abortHandle w.rt info.taskHandle).record .decrementActiveInputs
  have houtputs := (aborts_abortOutputs info.outputTasks.toPairs
    ((w.rt.abortHandle info.taskHandle).record .decrementActiveInputs)).records
      .decrementActiveOutputs info.outputTasks.toPairs
  exact .inr ⟨info, _, hinfo, rfl, hinput.trans (houtputs.trans (aborts_abortAnalyses _ _))⟩

end StreamGateway
