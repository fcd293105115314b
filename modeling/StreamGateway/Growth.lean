import StreamGateway.Calls

/-!
# Tasks and channels

Whatever the calls do, it comes down to a few operations on the runtime: a channel is opened, a
task is spawned, and tasks end. The task of an input broadcasts on a channel that is opened with
its spawn. So the tasks are numbered as they are spawned, a task that has ended stays so, and no
two tasks broadcast on one channel.
-/
namespace StreamGateway

/-- The channel that the task broadcasts on. -/
def TaskSpec.packetTx : TaskSpec → Option ChannelId
  | .udpInput _ _ _ _ _ _ _ tx => some tx
  | .srtInput _ _ _ _ tx => some tx
  | .sptsInput _ _ _ _ _ _ _ tx => some tx
  | _ => none

theorem TaskSpec.packetTx_of_output {spec : TaskSpec} {inputId outputId : Int}
    (h : spec.owner = .output inputId outputId) : spec.packetTx = none := by
  cases spec <;> simp_all [TaskSpec.owner, TaskSpec.packetTx]

/-! ## Operations on the runtime -/

inductive RuntimeStep (rt : Runtime) : Runtime → Prop
  | openChannel : RuntimeStep rt rt.openChannel
  /-- An output or an analysis. -/
  | spawn {spec : TaskSpec} : spec.packetTx = none → RuntimeStep rt (rt.spawn spec)
  /-- An input, with its channel. -/
  | spawnInput {spec : TaskSpec} : spec.packetTx = some rt.nextChannel →
      RuntimeStep rt (rt.openChannel.spawn spec)
  /-- Tasks may be aborted and end, and the messages, the metrics and the clock may change. -/
  | keep {rt' : Runtime} : rt'.nextChannel = rt.nextChannel → rt'.spawned = rt.spawned →
      rt'.live ⊆ rt.live → rt.ended ⊆ rt'.ended → RuntimeStep rt rt'

/-- Any number of these operations. -/
def Grows : Runtime → Runtime → Prop := Relation.ReflTransGen RuntimeStep

namespace Grows

variable {rt rt' rt'' : Runtime}

theorem refl (rt : Runtime) : Grows rt rt := Relation.ReflTransGen.refl

theorem trans (h : Grows rt rt') (h' : Grows rt' rt'') : Grows rt rt'' :=
  Relation.ReflTransGen.trans h h'

theorem keep (hc : rt'.nextChannel = rt.nextChannel) (hs : rt'.spawned = rt.spawned)
    (hl : rt'.live ⊆ rt.live) (he : rt.ended ⊆ rt'.ended) : Grows rt rt' :=
  .single (.keep hc hs hl he)

theorem openChannel (rt : Runtime) : Grows rt rt.openChannel := .single .openChannel

theorem spawn {spec : TaskSpec} (h : spec.packetTx = none) : Grows rt (rt.spawn spec) :=
  .single (.spawn h)

theorem spawnInput {spec : TaskSpec} (h : spec.packetTx = some rt.nextChannel) :
    Grows rt (rt.openChannel.spawn spec) := .single (.spawnInput h)

theorem record (rt : Runtime) (metric : Metric) : Grows rt (rt.record metric) :=
  .keep rfl rfl (List.Subset.refl _) (List.Subset.refl _)

theorem abort (rt : Runtime) (t : Task) : Grows rt (rt.abort t) :=
  .keep rfl rfl (List.filter_subset_self _) (List.Subset.refl _)

theorem abortHandle (rt : Runtime) (handle : Option Task) : Grows rt (rt.abortHandle handle) := by
  cases handle with
  | none => exact .refl rt
  | some t => exact .abort rt t

theorem records {α : Type} (l : List α) (metric : Metric) (rt : Runtime) :
    Grows rt (l.foldl (fun rt _ => rt.record metric) rt) := by
  induction l generalizing rt with
  | nil => exact .refl rt
  | cons _ l ih => exact (record rt metric).trans (ih _)

theorem abortAnalyses (analyses : List (ℕ × AnalysisInfo)) (rt : Runtime) :
    Grows rt (abortAnalyses analyses rt) := by
  induction analyses generalizing rt with
  | nil => exact .refl rt
  | cons a analyses ih => exact (abort rt a.2.taskHandle).trans (ih _)

theorem abortOutputs (outputs : List (Int × OutputInfo)) (rt : Runtime) :
    Grows rt (abortOutputs outputs rt) := by
  induction outputs generalizing rt with
  | nil => exact .refl rt
  | cons o outputs ih => exact (abortHandle rt o.2.abortHandle).trans (ih _)

theorem stopOutputs (outputs : List (Int × OutputInfo)) (rt : Runtime) :
    Grows rt (stopOutputs outputs rt).2 := by
  induction outputs generalizing rt with
  | nil => exact .refl rt
  | cons o outputs ih =>
    obtain ⟨outputId, info⟩ := o
    unfold StreamGateway.stopOutputs
    split
    · exact (abortHandle rt info.abortHandle).trans (ih _)
    · exact ih rt

theorem launch {input : InputInfo} {inputId outputId : Int} {spec : TaskSpec}
    {output : OutputInfo} (h : Launch input inputId outputId rt spec output rt') :
    Grows rt rt' := by
  rw [h.runtime]
  exact (spawn (TaskSpec.packetTx_of_output h.owner)).trans (record _ _)

theorem startOutputInternal {env : Env} {input input' : InputInfo} {outputId : Int}
    {config : CreateOutputRequest}
    (h : startOutputInternal env input outputId config rt = .ok (input', rt')) :
    Grows rt rt' := by
  obtain ⟨spec, output, hl, _⟩ := startOutputInternal_ok h
  exact launch hl

theorem restartStopped (env : Env) (input : InputInfo) (rt : Runtime) :
    Grows rt (restartStopped env input rt).2 :=
  startOutputs_keeps (P := fun _ rt' => Grows rt rt')
    (fun _ _ _ _ _ _ _ h hstart => h.trans (startOutputInternal hstart)) (refl rt)

theorem recreateTask (plan : StartPlan) (input : InputInfo) (rt : Runtime) :
    Grows rt (recreateTask plan input rt).2 := by
  unfold StreamGateway.recreateTask
  split
  · exact (spawnInput rfl).trans (record _ _)
  · exact (spawnInput rfl).trans (record _ _)
  · exact refl rt

theorem loadOutputs (env : Env) (inputId : Int) (outputs : List (Int × OutputRow))
    (input : InputInfo) (rt : Runtime) :
    Grows rt (loadOutputs env inputId outputs input rt).2.2 := by
  refine loadOutputs_keeps (P := fun _ rt' => Grows rt rt')
    (fun id row input rt₁ input' rt₂ _ h hload => h.trans ?_) (refl rt)
  cases hload with
  | skipped => exact .refl rt₁
  | stopped => exact .refl rt₁
  | running hr =>
    obtain ⟨_, _, hl⟩ := recreateOutput_launch hr
    exact launch hl

end Grows

/-- The step changes the runtime by such operations only. -/
def World.Grows (w w' : World) : Prop := StreamGateway.Grows w.rt w'.rt

theorem World.Grows.of_eq {w w' : World} (h : w'.rt = w.rt) : w.Grows w' := by
  unfold World.Grows
  rw [h]
  exact .refl _

theorem World.Grows.trans {w w' w'' : World} (h : w.Grows w') (h' : w'.Grows w'') : w.Grows w'' :=
  StreamGateway.Grows.trans h h'

/-! ## Sections -/

theorem grows_newAnalysisId (w : World) : w.Grows (newAnalysisId w).2 :=
  .keep rfl rfl (List.Subset.refl _) (List.Subset.refl _)

theorem grows_spawnAnalysis (env : Env) (inputId : Int) (analysisId : ℕ)
    (analysisType : AnalysisType) (timeoutMinutes : Option UInt64) (rx : ChannelId) (w : World) :
    w.Grows (spawnAnalysis env inputId analysisId analysisType timeoutMinutes rx w).2 := by
  rcases spawnAnalysis_ok env inputId analysisId analysisType timeoutMinutes rx w with
    ⟨_, _, hs⟩ | ⟨_, _, hs⟩
  · rw [hs]
    exact .of_eq rfl
  · rw [hs]
    exact .spawn rfl

theorem grows_stopAnalysisSection (inputId : Int) (analysisType : AnalysisType) (w : World) :
    w.Grows (stopAnalysisSection inputId analysisType w).2 := by
  unfold stopAnalysisSection
  split
  · exact .of_eq rfl
  split
  · exact .of_eq rfl
  · exact .abort _ _

theorem grows_stopAllAnalysisSection (inputId : Int) (w : World) :
    w.Grows (stopAllAnalysisSection inputId w).2 := by
  unfold stopAllAnalysisSection
  split
  · exact .of_eq rfl
  · exact .abortAnalyses _ _

theorem grows_pauseAgain (inputId : Int) (analysisType : AnalysisType) (w : World) :
    w.Grows (pauseAgain inputId analysisType w).2 := by
  unfold pauseAgain
  split <;> exact .of_eq rfl

theorem grows_restartSection (env : Env) (plan : StartPlan) (w : World) :
    w.Grows (restartSection env plan w).2 := by
  unfold restartSection
  split
  · exact .of_eq rfl
  · exact (Grows.recreateTask plan _ w.rt).trans (.restartStopped env _ _)

theorem grows_sptsSpawnSection (plan : StartPlan) (sourceInputId : Int) (programNumber : UInt16)
    (fillWithNulls : Option Bool) (w : World) :
    w.Grows (sptsSpawnSection plan sourceInputId programNumber fillWithNulls w).2 := by
  unfold sptsSpawnSection
  split
  · exact .of_eq rfl
  · exact (Grows.spawnInput rfl).trans (.record _ _)

theorem grows_sptsInstallSection (env : Env) (inputId : Int) (new : InputInfo) (w : World) :
    w.Grows (sptsInstallSection env inputId new w).2 := by
  unfold sptsInstallSection
  split
  · exact .of_eq rfl
  · exact Grows.restartStopped env _ _

theorem grows_stopInputSection (inputId : Int) (w : World) :
    w.Grows (stopInputSection inputId w).2 := by
  unfold stopInputSection
  split
  · exact .of_eq rfl
  split
  · exact .of_eq rfl
  · exact ((Grows.abortHandle w.rt _).trans (.stopOutputs _ _)).trans (.abortAnalyses _ _)

theorem grows_startOutputSection (env : Env) (inputId outputId : Int) (w : World) :
    w.Grows (startOutputSection env inputId outputId w).2 := by
  unfold startOutputSection
  split
  · exact .of_eq rfl
  split
  · exact .of_eq rfl
  split
  · dsimp only
    split
    · rename_i hstart
      exact Grows.startOutputInternal hstart
    · exact .of_eq rfl
  · split <;> exact .of_eq rfl

theorem grows_stopOutputSection (inputId outputId : Int) (w : World) :
    w.Grows (stopOutputSection inputId outputId w).2 := by
  unfold stopOutputSection
  split
  · exact .of_eq rfl
  split
  · exact .abortHandle _ _
  · split <;> exact .of_eq rfl

theorem grows_setConfig (inputId : Int) (config : CreateInputRequest) (w : World) :
    w.Grows (setConfig inputId config w).2 := by
  unfold setConfig
  split <;> exact .of_eq rfl

theorem grows_setStoppedConfig (inputId outputId : Int) (config : CreateOutputRequest)
    (w : World) : w.Grows (setStoppedConfig inputId outputId config w).2 := by
  unfold setStoppedConfig
  split <;> exact .of_eq rfl

theorem grows_spawnUdpSection (listenPort : UInt16)
    (bindHost multicastGroup sourceSpecificMulticast : Option String) (id : Int)
    (name : Option String) (w : World) :
    w.Grows (spawnUdpSection listenPort bindHost multicastGroup sourceSpecificMulticast id name
      w).2 :=
  (Grows.spawnInput rfl).trans (.record _ _)

theorem grows_spawnSrtSection (req : CreateInputRequest) (config : SrtInputConfig) (id : Int)
    (name : Option String) (w : World) : w.Grows (spawnSrtSection req config id name w).2 :=
  (Grows.spawnInput rfl).trans (.record _ _)

theorem grows_spawnSptsSection (id sourceInputId : Int) (programNumber : UInt16)
    (fillWithNulls : Option Bool) (name : Option String) (w : World) :
    w.Grows (spawnSptsSection id sourceInputId programNumber fillWithNulls name w).2 := by
  unfold spawnSptsSection
  split
  · exact .of_eq rfl
  · exact (Grows.spawnInput rfl).trans (.record _ _)

theorem grows_failedInput (id : Int) (name : Option String) (config : CreateInputRequest)
    (stateTx : Option StateChangeSender) (message : String) (w : World) :
    w.Grows (failedInput id name config stateTx message w).2 :=
  .openChannel _

theorem grows_openIdle (id : Int) (name : Option String) (status : StreamStatus)
    (config : CreateInputRequest) (errorMessage : Option String) (w : World) :
    w.Grows (openIdle id name status config errorMessage w).2 :=
  .openChannel _

theorem grows_removeInputSection (inputId : Int) (w : World) :
    w.Grows (removeInputSection inputId w).2 := by
  unfold removeInputSection
  split
  · exact .of_eq rfl
  · exact ((((Grows.abortHandle w.rt _).trans (.record _ _)).trans (.abortOutputs _ _)).trans
      (.records _ _ _)).trans (.abortAnalyses _ _)

theorem grows_installOutputSection (env : Env) (finalReq : CreateOutputRequest)
    (inputId outputId : Int) (destinationAddr : String) (w : World) :
    w.Grows (installOutputSection env finalReq inputId outputId destinationAddr w).2 := by
  unfold installOutputSection
  split
  · exact .of_eq rfl
  split
  · exact .of_eq rfl
  · rename_i hspawn
    obtain ⟨_, _, _, hl⟩ := spawnOutput_launch hspawn
    split <;> exact Grows.launch hl

theorem grows_removeOutputSection (inputId outputId : Int) (w : World) :
    w.Grows (removeOutputSection inputId outputId w).2 := by
  unfold removeOutputSection
  split
  · exact .of_eq rfl
  split
  · exact (Grows.abortHandle _ _).trans (.record _ _)
  · split <;> exact .of_eq rfl

theorem grows_loadGroupSection (env : Env) (inputId : Int) (outputs : List (Int × OutputRow))
    (w : World) : w.Grows (loadGroupSection env inputId outputs w).2 := by
  unfold loadGroupSection
  split
  · exact .of_eq rfl
  · exact Grows.loadOutputs env inputId outputs _ _

theorem grows_receive (w : World) : w.Grows (receive w).2 := by
  unfold receive
  split
  · exact .keep rfl rfl (List.Subset.refl _) (List.Subset.refl _)
  · exact .of_eq rfl

theorem grows_applyProcessing (w : World) : w.Grows (applyProcessing w).2 := by
  unfold applyProcessing
  split
  · exact .of_eq rfl
  · exact .keep rfl rfl (List.Subset.refl _) (List.Subset.refl _)

theorem grows_recordTransition (change : StateChange) (t : Transition) (w : World) :
    w.Grows (recordTransition change t w).2 :=
  .keep rfl rfl (List.Subset.refl _) (List.Subset.refl _)

theorem TaskStep.grows {w w' : World} (h : TaskStep w w') : w.Grows w' := by
  cases h with
  | send _ _ => exact .keep rfl rfl (List.Subset.refl _) (List.Subset.refl _)
  | finish _ =>
    exact .keep rfl rfl (List.filter_subset_self _) fun _ ht => List.mem_append_left _ ht
  | tick _ => exact .keep rfl rfl (List.Subset.refl _) (List.Subset.refl _)

/-! ## What the operations keep -/

/-- The tasks are numbered as they are spawned, and no two broadcast on one channel. -/
structure Runtime.Numbered (rt : Runtime) : Prop where
  ids : ∀ (k : ℕ) (t : Task), rt.spawned[k]? = some t → t.id = k
  live : rt.live ⊆ rt.spawned
  opened : ∀ t c, t ∈ rt.spawned → t.spec.packetTx = some c → c < rt.nextChannel
  apart : ∀ t u c, t ∈ rt.spawned → u ∈ rt.spawned → t.spec.packetTx = some c →
    u.spec.packetTx = some c → t = u

namespace Runtime.Numbered

variable {rt rt' : Runtime}

theorem init (stateChangeTx : Option StateChangeSender) :
    (Runtime.init stateChangeTx).Numbered :=
  ⟨fun _ _ h => absurd h (by simp [Runtime.init]), List.Subset.refl _,
    fun _ _ h => absurd h List.not_mem_nil, fun _ _ _ h => absurd h List.not_mem_nil⟩

theorem openChannel (h : rt.Numbered) : rt.openChannel.Numbered :=
  ⟨h.ids, h.live, fun t c ht hc => Nat.lt_succ_of_lt (h.opened t c ht hc), h.apart⟩

/-- A task may be spawned whose channel, if it has one, is open and not yet in use. -/
theorem spawn (h : rt.Numbered) {spec : TaskSpec}
    (hopen : ∀ c, spec.packetTx = some c → c < rt.nextChannel)
    (hunused : ∀ t c, t ∈ rt.spawned → t.spec.packetTx = some c → spec.packetTx ≠ some c) :
    (rt.spawn spec).Numbered := by
  have hmem : ∀ t, t ∈ (rt.spawn spec).spawned ↔ t ∈ rt.spawned ∨ t = rt.newTask spec := by
    simp [Runtime.spawn]
  refine ⟨fun k t hk => ?_, fun t ht => ?_, fun t c ht hc => ?_, fun t u c ht hu htc huc => ?_⟩
  · rcases lt_or_ge k rt.spawned.length with hlt | hge
    · rw [Runtime.spawn, List.getElem?_append_left hlt] at hk
      exact h.ids k t hk
    · rw [Runtime.spawn, List.getElem?_append_right hge, List.getElem?_singleton] at hk
      split at hk
      · obtain rfl := Option.some.inj hk
        simp only [Runtime.newTask]
        omega
      · exact absurd hk (by simp)
  · rcases List.mem_append.mp ht with ht | ht
    · exact (hmem t).mpr (.inl (h.live ht))
    · exact (hmem t).mpr (.inr (List.mem_singleton.mp ht))
  · rcases (hmem t).mp ht with ht | rfl
    · exact h.opened t c ht hc
    · exact hopen c hc
  · rcases (hmem t).mp ht with ht | rfl <;> rcases (hmem u).mp hu with hu | rfl
    · exact h.apart t u c ht hu htc huc
    · exact absurd huc (hunused t c ht htc)
    · exact absurd htc (hunused u c hu huc)
    · rfl

theorem step (h : rt.Numbered) (hs : RuntimeStep rt rt') : rt'.Numbered := by
  cases hs with
  | openChannel => exact h.openChannel
  | spawn hnone =>
    exact h.spawn (fun c hc => absurd (hnone.symm.trans hc) (by simp))
      fun t c _ _ hc => absurd (hnone.symm.trans hc) (by simp)
  | spawnInput hsome =>
    refine h.openChannel.spawn (fun c hc => ?_) fun t c ht hc hc' => ?_
    · obtain rfl := Option.some.inj (hsome.symm.trans hc)
      exact Nat.lt_succ_self _
    · obtain rfl := Option.some.inj (hsome.symm.trans hc')
      exact absurd (h.opened t _ ht hc) (Nat.lt_irrefl _)
  | keep hc hs hl _ =>
    refine ⟨by rw [hs]; exact h.ids, by rw [hs]; exact fun t ht => h.live (hl ht), ?_, ?_⟩
    · rw [hs, hc]
      exact h.opened
    · rw [hs]
      exact h.apart

theorem grows (h : rt.Numbered) (hg : Grows rt rt') : rt'.Numbered := by
  induction hg with
  | refl => exact h
  | tail _ hs ih => exact ih.step hs

end Runtime.Numbered

/-- The tasks spawned so far stay the first ones. -/
theorem Grows.extends {rt rt' : Runtime} (h : Grows rt rt') : rt.spawned <+: rt'.spawned := by
  induction h with
  | refl => exact List.prefix_refl _
  | tail _ hs ih =>
    refine ih.trans ?_
    cases hs with
    | openChannel => exact List.prefix_refl _
    | spawn _ => exact List.prefix_append _ _
    | spawnInput _ => exact List.prefix_append _ _
    | keep _ hs _ _ => exact ⟨[], by rw [List.append_nil, hs]⟩

/-- A task that has ended stays so. -/
theorem Grows.ended {rt rt' : Runtime} (h : Grows rt rt') : rt.ended ⊆ rt'.ended := by
  induction h with
  | refl => exact List.Subset.refl _
  | tail _ hs ih =>
    refine List.Subset.trans ih ?_
    cases hs with
    | openChannel | spawn _ | spawnInput _ => exact List.Subset.refl _
    | keep _ _ _ he => exact he

end StreamGateway
