import StreamGateway.OutputSenders

/-!
# Deleted streams

`delete_input` and `delete_output` take a stream out of memory and abort the tasks that its
entry holds. Other calls can be under way meanwhile that have read the entry. A stream stays
deleted as long as they neither enter an output again that is gone, nor spawn a task for an
input that is gone, and the entry held all the tasks of the stream when it was deleted.
-/
namespace StreamGateway

open Prog

/-- The input is not in memory, and no task works for it. -/
structure World.InputGone (i : Int) (w : World) : Prop where
  absent : i ∉ w.streams
  silent : ∀ t ∈ w.rt.live, t.spec.owner.inputId ≠ i

/-- The output is in no entry, and no task works for it. -/
structure World.OutputGone (k : Int) (w : World) : Prop where
  absent : ∀ i info, w.streams.lookup i = some info → ¬ info.HasOutput k
  silent : ∀ t ∈ w.rt.live, t.spec.owner.outputId ≠ some k

/-- The requests on streams that are there. -/
def Operation.OnExisting : Operation → Prop
  | .createInput _ | .createOutput _ => False
  | _ => True

def ExistingCall (p : Prog World Unit) : Prop :=
  (∃ env op, Operation.OnExisting op ∧ p = op.prog env) ∨ p = processMessage

/-- What a step has to find for deleted streams to stay deleted. -/
structure FindsStreams (w w' : World) : Prop where
  /-- A task is spawned for an input that is there. -/
  spawned : ∀ ts, w'.rt.spawned = w.rt.spawned ++ ts → ∀ t ∈ ts,
    t.spec.owner.inputId ∈ w.streams
  /-- `update_output` enters a configuration for an output that is there. -/
  entered : ∀ i k config info, w' = (setStoppedConfig i k config w).2 →
    w.streams.lookup i = some info → info.HasOutput k
  /-- The entry that `delete_input` removes holds every task of the input. -/
  input : ∀ i info, w' = (removeInputSection i w).2 → w.streams.lookup i = some info →
    ∀ t ∈ w.rt.live, t.spec.owner.inputId = i → info.Holds t
  /-- The output that `delete_output` removes is not both running and stopped. -/
  apart : ∀ i k info, w' = (removeOutputSection i k w).2 → w.streams.lookup i = some info →
    k ∈ info.outputTasks → k ∉ info.stoppedOutputs
  /-- Its entry holds every task of the output. -/
  output : ∀ i k info, w' = (removeOutputSection i k w).2 → w.streams.lookup i = some info →
    info.HasOutput k → ∀ t ∈ w.rt.live, t.spec.owner.outputId = some k →
      ∃ o, info.outputTasks.lookup k = some o ∧ o.abortHandle = some t

/-! ## Steps on one entry -/

/-- No output is new in the entry, and tasks are new for its outputs only. -/
structure Contained (i : Int) (info info' : InputInfo) (rt rt' : Runtime) : Prop where
  outputs : ∀ k, info'.HasOutput k → info.HasOutput k
  launches : LaunchesFor i info.HasOutput rt rt'

section Contained

variable {own : Int → Int} {i : Int} {info info' : InputInfo} {rt rt' : Runtime}

theorem hasOutput_of_running {k : Int} {o : OutputInfo}
    (h : info.outputTasks.lookup k = some o) : info.HasOutput k :=
  .inl (HashMap.mem_iff.mpr ⟨_, h⟩)

theorem hasOutput_of_stopped {k : Int} {config : CreateOutputRequest}
    (h : info.stoppedOutputs.lookup k = some config) : info.HasOutput k :=
  .inr (HashMap.mem_iff.mpr ⟨_, h⟩)

theorem SameOutputs.hasOutput (hs : SameOutputs info info') (k : Int) :
    info'.HasOutput k ↔ info.HasOutput k := by
  rw [InputInfo.HasOutput, hs.outputTasks, hs.stoppedOutputs, InputInfo.HasOutput]

theorem LaunchesFor.mono {K K' : Int → Prop} (h : LaunchesFor i K rt rt')
    (hK : ∀ k, K k → K' k) : LaunchesFor i K' rt rt' :=
  fun t ht => (h t ht).imp_left fun h => ⟨h.1, fun k hk => hK k (h.2 k hk)⟩

theorem mem_startOutputs {env : Env} {outputs : List (Int × CreateOutputRequest)} {k : Int}
    (h : k ∈ (startOutputs env outputs info rt).1.outputTasks) :
    k ∈ info.outputTasks ∨ k ∈ outputs.map Prod.fst := by
  refine startOutputs_keeps (P := fun input _ => k ∈ input.outputTasks →
    k ∈ info.outputTasks ∨ k ∈ outputs.map Prod.fst)
    (fun k' config input rt input' rt' hmem hinput hr hk => ?_) .inl h
  obtain ⟨spec, o, hl, rfl⟩ := startOutputInternal_ok hr
  rcases (AList.mem_insert _).mp hk with rfl | hk
  · exact .inr (List.mem_map.mpr ⟨_, hmem, rfl⟩)
  · exact hinput hk

/-- A restart moves the stopped outputs to the running ones. -/
theorem hasOutput_restartStopped (env : Env) {k : Int}
    (h : (restartStopped env info rt).1.HasOutput k) : info.HasOutput k := by
  rcases h with h | h
  · rcases mem_startOutputs h with h | h
    · exact .inl h
    · obtain ⟨⟨k', config⟩, hm, rfl⟩ := List.mem_map.mp h
      exact hasOutput_of_stopped (HashMap.mem_toPairs.mp hm)
  · rw [restartStopped_stoppedOutputs] at h
    exact absurd h (AList.notMem_empty _)

theorem contained_restartStopped (h : info.OwnsOutputs own i) (env : Env) (rt : Runtime) :
    Contained i info (restartStopped env info rt).1 rt (restartStopped env info rt).2 :=
  ⟨fun _ => hasOutput_restartStopped env,
    (h.restartStopped_launchesFor env rt).mono fun _ hk => .inr hk⟩

theorem Contained.withSame {info₁ info₂ : InputInfo} (h : Contained i info₁ info₂ rt rt')
    (hs : SameOutputs info info₁) (hs' : SameOutputs info₂ info') : Contained i info info' rt rt' :=
  ⟨fun k hk => (hs.hasOutput k).mp (h.outputs k ((hs'.hasOutput k).mp hk)),
    h.launches.mono fun k hk => (hs.hasOutput k).mp hk⟩

theorem stopInputInfo_contained (i : Int) (info : InputInfo) (rt : Runtime) :
    Contained i info (stopInputInfo info rt).1 rt (stopInputInfo info rt).2 := by
  have haborted := ((aborts_abortHandle rt info.taskHandle).trans
    (aborts_stopOutputs info.outputTasks.toPairs (rt.abortHandle info.taskHandle))).trans
      (aborts_abortAnalyses info.analysisTasks.toPairs _)
  refine ⟨fun k hk => ?_, haborted.launchesFor i _⟩
  rcases hk with hk | hk
  · exact absurd hk (AList.notMem_empty _)
  · obtain ⟨config, hc⟩ := HashMap.mem_iff.mp hk
    rcases HashMap.lookup_extend_eq_some.mp hc with hc | ⟨_, hc⟩
    · obtain ⟨o, ho, _⟩ := lookup_stopOutputs hc
      exact hasOutput_of_running (HashMap.mem_toPairs.mp ho)
    · exact hasOutput_of_stopped hc

end Contained

/-! ## What a step can do -/

/-- The streams stay, and no task of an output is new. -/
structure StreamsStay (w w' : World) : Prop where
  streams : w'.streams = w.streams
  launched : ∃ ts, w'.rt.spawned = w.rt.spawned ++ ts ∧
    (∀ t ∈ w'.rt.live, t ∈ w.rt.live ∨ t ∈ ts) ∧ ∀ t ∈ ts, t.spec.owner.outputId = none

/-- One entry changes. -/
def EntryChanges (w w' : World) : Prop :=
  ∃ i info info', w.streams.lookup i = some info ∧ w'.streams = w.streams.insert i info' ∧
    Contained i info info' w.rt w'.rt

inductive StreamStep (w w' : World) : Prop
  | stay : StreamsStay w w' → StreamStep w w'
  | change : EntryChanges w w' → StreamStep w w'
  | enter (i k : Int) (config : CreateOutputRequest) : w' = (setStoppedConfig i k config w).2 →
      StreamStep w w'
  | remove (i : Int) : w' = (removeInputSection i w).2 → StreamStep w w'

section StreamStep

variable {own : Int → Int} {w w' : World}

theorem StreamsStay.of_live (hs : w'.streams = w.streams) (hspawned : w'.rt.spawned = w.rt.spawned)
    (hlive : ∀ t ∈ w'.rt.live, t ∈ w.rt.live) : StreamsStay w w' :=
  ⟨hs, [], by rw [hspawned, List.append_nil], fun t ht => .inl (hlive t ht),
    fun _ h => absurd h List.not_mem_nil⟩

theorem StreamsStay.of_launches {ts : List Task} (hs : w'.streams = w.streams)
    (hl : Launches ts w.rt w'.rt) (hts : ∀ t ∈ ts, t.spec.owner.outputId = none) :
    StreamsStay w w' := by
  refine ⟨hs, ts, hl.spawned, fun t ht => ?_, hts⟩
  rw [hl.live] at ht
  exact List.mem_append.mp ht

theorem Quiet.streamStep (h : Quiet w w') : StreamStep w w' :=
  .stay (.of_launches h.streams h.runtime fun _ h => absurd h List.not_mem_nil)

theorem StreamStep.refl (w : World) : StreamStep w w := (Quiet.refl w).streamStep

theorem streamStep_restartSection (hown : w.Each (InputInfo.OwnsOutputs own)) (env : Env)
    {plan : StartPlan} (hspts : plan.config.isSpts = false) :
    StreamStep w (restartSection env plan w).2 := by
  unfold restartSection
  split
  · exact .refl w
  rename_i info hi
  have hinfo := (hown plan.inputId info hi).recreateTask plan w.rt
  have hsame : SameOutputs info (recreateTask plan info w.rt).1 := by
    obtain ⟨_, _, _, _, _, _, hframe, _⟩ := recreateTask_spawns hspts info w.rt
    rw [hframe]
    exact ⟨rfl, rfl, rfl⟩
  have hsame' : SameOutputs (restartStopped env (recreateTask plan info w.rt).1
      (recreateTask plan info w.rt).2).1 { (restartStopped env (recreateTask plan info w.rt).1
        (recreateTask plan info w.rt).2).1 with pausedAnalysis := [] } := ⟨rfl, rfl, rfl⟩
  have hrest := (contained_restartStopped hinfo env (recreateTask plan info w.rt).2).withSame hsame
    hsame'
  exact .change ⟨plan.inputId, info, _, hi, rfl, hrest.outputs,
    (recreateTask_launchesFor hspts info w.rt _).trans hrest.launches⟩

theorem streamStep_sptsInstallSection (hown : w.Each (InputInfo.OwnsOutputs own)) (env : Env)
    (i : Int) (new : InputInfo) : StreamStep w (sptsInstallSection env i new w).2 := by
  unfold sptsInstallSection
  split
  · exact .refl w
  rename_i info hi
  have hsame : SameOutputs info { info with
      taskHandle := new.taskHandle
      packetTx := new.packetTx
      status := .listening
      startedAt := some w.rt.clock } := ⟨rfl, rfl, rfl⟩
  have hinfo := (hown i info hi).same hsame
  exact .change ⟨i, info, _, hi, rfl,
    (contained_restartStopped hinfo env w.rt).withSame hsame ⟨rfl, rfl, rfl⟩⟩

theorem streamStep_stopInputSection (i : Int) (w : World) :
    StreamStep w (stopInputSection i w).2 := by
  unfold stopInputSection
  split
  · exact .refl w
  rename_i info hi
  split
  · exact .refl w
  · exact .change ⟨i, info, _, hi, rfl, stopInputInfo_contained i info w.rt⟩

theorem streamStep_startOutputSection (hown : w.Each (InputInfo.OwnsOutputs own)) (env : Env)
    (i k : Int) : StreamStep w (startOutputSection env i k w).2 := by
  unfold startOutputSection
  split
  · exact .refl w
  rename_i info hi
  have hinfo := hown i info hi
  split
  · exact .refl w
  split
  · rename_i config hc
    have herase : ∀ k', k' ∈ info.stoppedOutputs.erase k → info.HasOutput k' :=
      fun k' hk' => .inr (AList.mem_erase.mp hk').2
    dsimp only
    split
    · rename_i info' rt' hstart
      obtain ⟨spec, output, hl, rfl⟩ :=
        (hinfo.eraseStopped k).launch (hinfo.stopped k config hc).2 hstart
      refine .change ⟨i, info, _, hi, rfl, fun k' hk' => ?_, ?_⟩
      · rcases hk' with hk' | hk'
        · rcases (AList.mem_insert _).mp hk' with rfl | hk'
          · exact hasOutput_of_stopped hc
          · exact .inl hk'
        · exact herase k' hk'
      · exact hl.launchesFor (hasOutput_of_stopped hc)
    · exact .change ⟨i, info, _, hi, rfl, fun k' hk' => hk'.elim .inl (herase k'), .refl i _ w.rt⟩
  · split <;> exact .refl w

theorem streamStep_stopOutputSection (i k : Int) (w : World) :
    StreamStep w (stopOutputSection i k w).2 := by
  unfold stopOutputSection
  split
  · exact .refl w
  rename_i info hi
  split
  · rename_i output ho
    refine .change ⟨i, info, _, hi, rfl, fun k' hk' => ?_,
      (aborts_abortHandle w.rt output.abortHandle).launchesFor i _⟩
    rcases hk' with hk' | hk'
    · exact .inl (AList.mem_erase.mp hk').2
    · rcases (AList.mem_insert _).mp hk' with rfl | hk'
      · exact hasOutput_of_running ho
      · exact .inr hk'
  · split <;> exact .refl w

theorem streamStep_removeOutputSection (i k : Int) (w : World) :
    StreamStep w (removeOutputSection i k w).2 := by
  unfold removeOutputSection
  split
  · exact .refl w
  rename_i info hi
  split
  · rename_i output ho
    exact .change ⟨i, info, _, hi, rfl,
      fun k' hk' => hk'.imp_left fun hk' => (AList.mem_erase.mp hk').2,
      ((aborts_abortHandle w.rt output.abortHandle).record _).launchesFor i _⟩
  · split
    · exact .change ⟨i, info, _, hi, rfl,
        fun k' hk' => hk'.imp_right fun hk' => (AList.mem_erase.mp hk').2, .refl i _ w.rt⟩
    · exact .refl w

theorem streamStep_applyProcessing (w : World) : StreamStep w (applyProcessing w).2 := by
  have hlive : ∀ t ∈ (applyProcessing w).2.rt.live, t ∈ w.rt.live := by
    intro t ht
    rwa [applyProcessing_live] at ht
  have hspawned : (applyProcessing w).2.rt.spawned = w.rt.spawned := by
    unfold applyProcessing
    split <;> rfl
  rcases applyProcessing_streams w with hs | ⟨e, _, hs⟩
  · exact .stay (.of_live hs hspawned hlive)
  rcases applyChange_cases e.change w.streams with hc | ⟨i, info, info', hi, hc, hinfo⟩
  · exact .stay (.of_live (hs.trans hc) hspawned hlive)
  refine .change ⟨i, info, info', hi, hs.trans hc, ?_, launchesFor_of_live hlive⟩
  rcases hinfo with ⟨status, connectedAt, sourceAddress, _, rfl⟩ |
    ⟨o, output, status, connectedAt, peerAddress, _, ho, rfl⟩
  · exact fun k hk => hk
  · intro k hk
    rcases hk with hk | hk
    · rcases (AList.mem_insert _).mp hk with rfl | hk
      · exact hasOutput_of_running ho
      · exact .inl hk
    · exact .inr hk

/-- The acts of the requests on streams that are there. -/
def existingOps (op : Option Operation) : Prop := ∃ o, op = some o ∧ Operation.OnExisting o

theorem Act.streamStep {h : Option LockMode} (ha : Act (ownershipRely own) existingOps h w w')
    (hown : w.Each (InputInfo.OwnsOutputs own)) : StreamStep w w' := by
  have hnot : ∀ {o : Operation}, ¬ Operation.OnExisting o → existingOps (some o) →
      StreamStep w w' := by
    rintro o ho ⟨o', heq, ho'⟩
    obtain rfl := Option.some.inj heq
    exact absurd ho' ho
  cases ha with
  | quiet hs hl => exact (Quiet.mk hs hl).streamStep
  | launch t hl howner hs =>
    refine .stay (.of_launches hs hl fun t' ht' => ?_)
    obtain rfl := List.mem_singleton.mp ht'
    exact howner
  | edit i info info' aborted hi hs hsame hl =>
    exact .change ⟨i, info, info', hi, hs, fun k hk => (hsame.hasOutput k).mp hk,
      hl.launchesFor i _⟩
  | restart env plan hspts => exact streamStep_restartSection hown env hspts
  | install env i new => exact streamStep_sptsInstallSection hown env i new
  | stopInput i => exact streamStep_stopInputSection i w
  | startOutput env i k => exact streamStep_startOutputSection hown env i k
  | stopOutput i k => exact streamStep_stopOutputSection i k w
  | setStopped env i k req merged => exact .enter i k merged rfl
  | removeInput i => exact .remove i rfl
  | removeOutput i k => exact streamStep_removeOutputSection i k w
  | insertInput called info hops => exact hnot id hops
  | insertInputs loaded hops => exact absurd hops (by simp [existingOps])
  | installOutput env called req i k row destination hops => exact hnot id hops
  | loadGroup env i hops => exact absurd hops (by simp [existingOps])
  | receive =>
    refine .stay (.of_live (receive_streams w) ?_ fun t ht => ?_)
    · unfold StreamGateway.receive
      split <;> rfl
    · rwa [receive_live] at ht
  | apply => exact streamStep_applyProcessing w
  | saveInput env name called req hops => exact hnot id hops
  | inputStatus => exact (quiet_query _ _ _ _).streamStep
  | updateInput => exact (quiet_query _ _ _ _).streamStep
  | deleteInput env i => exact (quiet_deleteInputFromDb env i _).streamStep
  | saveOutput => exact (quiet_saveOutputToDb _ _ _ _ _ _ _ _).streamStep
  | outputStatus => exact (quiet_query _ _ _ _).streamStep
  | updateOutput => exact (quiet_query _ _ _ _).streamStep
  | deleteOutput => exact (quiet_query _ _ _ _).streamStep

theorem TaskStep.streamStep (ho : TaskStep w w') : StreamStep w w' := by
  refine .stay (.of_live ho.streams ?_ fun t ht => ?_)
  · cases ho <;> rfl
  · cases ho with
    | send => exact ht
    | finish => exact (List.mem_filter.mp ht).1
    | tick => exact ht

end StreamStep

/-! ## Gone for good -/

section Gone

variable {own : Int → Int} {w w' : World} {i k : Int}

theorem removeInputSection_live (h : w' = (removeInputSection i w).2) :
    ∀ t ∈ w'.rt.live, t ∈ w.rt.live := by
  rcases removeInputSection_ok i w with heq | ⟨_, _, _, _, hl⟩
  · rw [h, heq]
    exact fun _ ht => ht
  · rw [h]
    exact fun t ht => (hl.live_subset t ht).1

theorem removeInputSection_lookup (h : w' = (removeInputSection i w).2) {j : Int}
    {info : InputInfo} (hj : w'.streams.lookup j = some info) :
    w.streams.lookup j = some info := by
  rcases removeInputSection_ok i w with heq | ⟨_, _, _, hs, _⟩
  · rwa [h, heq] at hj
  · rw [h, hs] at hj
    exact (HashMap.lookup_erase_eq_some.mp hj).2

theorem World.InputGone.step (h : w.InputGone i) (hstep : StreamStep w w')
    (hfinds : FindsStreams w w') : w'.InputGone i := by
  have habsent : ∀ {j info}, w.streams.lookup j = some info → i ≠ j := by
    rintro j info hj rfl
    exact h.absent (mem_of_lookup hj)
  cases hstep with
  | stay hs =>
    obtain ⟨ts, hspawned, hlive, _⟩ := hs.launched
    refine ⟨by rw [hs.streams]; exact h.absent, fun t ht => ?_⟩
    rcases hlive t ht with ht | ht
    · exact h.silent t ht
    · have hthere := hfinds.spawned ts hspawned t ht
      intro heq
      rw [heq] at hthere
      exact h.absent hthere
  | change hs =>
    obtain ⟨j, info, info', hj, hs, hcontained⟩ := hs
    constructor
    · rw [hs]
      exact fun hi => ((AList.mem_insert _).mp hi).elim (habsent hj) h.absent
    · intro t ht heq
      rcases hcontained.launches t ht with ⟨hinput, _⟩ | ht
      · exact habsent hj (heq.symm.trans hinput)
      · exact h.silent t ht heq
  | enter j k config hw' =>
    rw [hw']
    unfold setStoppedConfig
    split
    · exact h
    · rename_i info hj
      exact ⟨fun hi => ((AList.mem_insert _).mp hi).elim (habsent hj) h.absent, h.silent⟩
  | remove j hw' =>
    refine ⟨fun hi => ?_, fun t ht => h.silent t (removeInputSection_live hw' t ht)⟩
    obtain ⟨info, hinfo⟩ := HashMap.mem_iff.mp hi
    exact h.absent (mem_of_lookup (removeInputSection_lookup hw' hinfo))

theorem World.OutputGone.step (h : w.OutputGone k) (hstep : StreamStep w w')
    (hfinds : FindsStreams w w') : w'.OutputGone k := by
  cases hstep with
  | stay hs =>
    obtain ⟨ts, _, hlive, hnone⟩ := hs.launched
    refine ⟨fun i info hi => ?_, fun t ht heq => ?_⟩
    · rw [hs.streams] at hi
      exact h.absent i info hi
    · rcases hlive t ht with ht | ht
      · exact h.silent t ht heq
      · exact absurd ((hnone t ht).symm.trans heq) (by simp)
  | change hs =>
    obtain ⟨j, info, info', hj, hs, hcontained⟩ := hs
    refine ⟨fun i info₁ hi hk => ?_, fun t ht heq => ?_⟩
    · rw [hs] at hi
      rcases HashMap.lookup_insert_eq_some.mp hi with ⟨rfl, rfl⟩ | ⟨_, hi⟩
      · exact h.absent i info hj (hcontained.outputs k hk)
      · exact h.absent i info₁ hi hk
    · rcases hcontained.launches t ht with ⟨_, houtput⟩ | ht
      · exact h.absent j info hj (houtput k heq)
      · exact h.silent t ht heq
  | enter j k' config hw' =>
    cases hj : w.streams.lookup j with
    | none =>
      have hsame : (setStoppedConfig j k' config w).2 = w := by simp only [setStoppedConfig, hj]
      rw [hw', hsame]
      exact h
    | some info =>
      have hne : k ≠ k' := by
        rintro rfl
        exact h.absent j info hj (hfinds.entered j k config info hw' hj)
      rw [hw', setStoppedConfig, hj]
      refine ⟨fun i info₁ hi hk => ?_, h.silent⟩
      rcases HashMap.lookup_insert_eq_some.mp hi with ⟨rfl, rfl⟩ | ⟨_, hi⟩
      · refine h.absent i info hj (hk.imp_right fun hk => ?_)
        exact ((AList.mem_insert _).mp hk).resolve_left hne
      · exact h.absent i info₁ hi hk
  | remove j hw' =>
    exact ⟨fun i info hi => h.absent i info (removeInputSection_lookup hw' hi),
      fun t ht => h.silent t (removeInputSection_live hw' t ht)⟩

/-- `delete_input` aborts all the tasks that the entry holds. -/
theorem inputGone_of_remove (hfinds : FindsStreams w w') (hi : i ∈ w.streams)
    (hw' : w' = (removeInputSection i w).2) : w'.InputGone i := by
  obtain ⟨info, hinfo⟩ := HashMap.mem_iff.mp hi
  have hheld := hfinds.input i info hw' hinfo
  rw [removeInputSection, hinfo] at hw'
  have hinput := (aborts_abortHandle w.rt info.taskHandle).record .decrementActiveInputs
  have houtputs := (aborts_abortOutputs info.outputTasks.toPairs
    ((w.rt.abortHandle info.taskHandle).record .decrementActiveInputs)).records
      .decrementActiveOutputs info.outputTasks.toPairs
  have haborted := hinput.trans (houtputs.trans
    (aborts_abortAnalyses info.analysisTasks.toPairs _))
  subst hw'
  refine ⟨fun hmem => (AList.mem_erase.mp hmem).1 rfl, fun t ht heq => ?_⟩
  obtain ⟨hlive, hnot⟩ := haborted.live_subset t ht
  refine hnot ?_
  cases hheld t hlive heq with
  | input hhandle => exact List.mem_append_left _ (Option.mem_toList.mpr hhandle)
  | output k o ho hhandle =>
    exact List.mem_append_right _ (List.mem_append_left _ (List.mem_flatMap.mpr
      ⟨(k, o), HashMap.mem_toPairs.mpr ho, Option.mem_toList.mpr hhandle⟩))
  | analysis n a ha hhandle =>
    exact List.mem_append_right _ (List.mem_append_right _ (List.mem_map.mpr
      ⟨(n, a), HashMap.mem_toPairs.mpr ha, hhandle⟩))

/-- `delete_output` takes the output out of the one map that it is in. -/
theorem outputGone_of_remove (hown : w.Each (InputInfo.OwnsOutputs own))
    (hfinds : FindsStreams w w') {info : InputInfo} (hi : w.streams.lookup i = some info)
    (hk : info.HasOutput k) (hw' : w' = (removeOutputSection i k w).2) : w'.OutputGone k := by
  have hkey : ∀ j info', w.streams.lookup j = some info' → info'.HasOutput k → j = i :=
    fun j info' hj hk' => ((hown j info' hj).owner hk').symm.trans ((hown i info hi).owner hk)
  have hheld := hfinds.output i k info hw' hi hk
  have hother : ∀ {info₁ : InputInfo}, ¬ info₁.HasOutput k →
      ∀ j info', (w.streams.insert i info₁).lookup j = some info' → ¬ info'.HasOutput k := by
    intro info₁ hnot j info' hj hk'
    rcases HashMap.lookup_insert_eq_some.mp hj with ⟨_, rfl⟩ | ⟨hne, hj⟩
    · exact hnot hk'
    · exact hne (hkey j info' hj hk')
  cases ho : info.outputTasks.lookup k with
  | some output =>
    have hapart := hfinds.apart i k info hw' hi (HashMap.mem_iff.mpr ⟨_, ho⟩)
    simp only [removeOutputSection, hi, ho] at hw'
    subst hw'
    refine ⟨hother fun hk' => hk'.elim (fun hk' => (AList.mem_erase.mp hk').1 rfl) hapart,
      fun t ht heq => ?_⟩
    obtain ⟨hlive, hnot⟩ := (aborts_abortHandle w.rt output.abortHandle).live_subset t ht
    obtain ⟨o, ho', hhandle⟩ := hheld t hlive heq
    obtain rfl := Option.some.inj (ho.symm.trans ho')
    exact hnot (Option.mem_toList.mpr hhandle)
  | none =>
    have hrunning : k ∉ info.outputTasks := fun h => by
      rw [← AList.lookup_isSome, ho] at h
      exact absurd h (by simp)
    have hstopped : k ∈ info.stoppedOutputs := hk.resolve_left hrunning
    simp only [removeOutputSection, hi, ho, if_pos hstopped] at hw'
    subst hw'
    refine ⟨hother fun hk' => hk'.elim hrunning fun hk' => (AList.mem_erase.mp hk').1 rfl,
      fun t ht heq => ?_⟩
    obtain ⟨o, ho', _⟩ := hheld t ht heq
    exact absurd (ho.symm.trans ho') (by simp)

end Gone

/-! ## Runs -/

section Runs

variable {own : Int → Int}

/-- What every step that finds its streams keeps, a run keeps. -/
theorem gone_fits {G : World → Prop}
    (hG : ∀ w w', G w → StreamStep w w' → FindsStreams w w' → G w') :
    Pool.Fits (fun w => w.Attributed own ∧ G w) (ownershipRely own)
      (Act (ownershipRely own) existingOps) ExistingCall TaskStep
      (fun a b => FindsStreams a.shared b.shared) := by
  have hcreate : ∀ req, ¬ existingOps (some (.createOutput req)) := by
    rintro req ⟨o, heq, ho⟩
    obtain rfl := Option.some.inj heq
    exact ho
  have hstep : ∀ {h : Option LockMode} {w w' : World}, w.Attributed own →
      Act (ownershipRely own) existingOps h w w' ∨ TaskStep w w' →
      w'.Attributed own ∧ StreamStep w w' := by
    intro h w w' hw hact
    rcases hact with ha | ho
    · exact ⟨attributed_step (.inl ha) hw (ha.means hcreate hw), ha.streamStep hw.entries⟩
    · exact ⟨ho.attributed hw, ho.streamStep⟩
  constructor
  · exact fun h => ⟨h.1, h.1⟩
  · rintro p s (⟨env, op, hop, rfl⟩ | rfl) _
    · exact op.acts env ⟨op, rfl, hop⟩ s
    · exact acts_processMessage s
  · intro a b h hi hact hfinds
    obtain ⟨hb, hs⟩ := hstep hi.1 hact
    exact ⟨hb, hG _ _ hi.2 hs hfinds⟩
  · exact fun _ hi hact _ => ⟨hi.1, (hstep hi.1 (hact.imp_left fun h => h.2)).1⟩

theorem gone_of_runs {G : World → Prop} {b p : Pool World}
    (hG : ∀ w w', G w → StreamStep w w' → FindsStreams w w' → G w')
    (hb : Pool.Behaving (fun w => w.Attributed own ∧ True) (ownershipRely own)
      (Act (ownershipRely own) existingOps) b) (hgone : G b.shared)
    (hruns : Pool.Runs ExistingCall TaskStep FindsStreams b p) : G p.shared := by
  have hbehaving : Pool.Behaving (fun w => w.Attributed own ∧ G w) (ownershipRely own)
      (Act (ownershipRely own) existingOps) b := ⟨⟨hb.inv.1, hgone⟩, hb.apart, hb.threads⟩
  exact (hbehaving.runs (gone_fits hG) hruns).inv.2

/-- In a run all of whose steps find their streams, a deleted input or output stays deleted,
and no task works for it. -/
theorem runs_deleted {w : World} {a b p : Pool World} (hown : w.Attributed own)
    (hbefore : Pool.Runs ExistingCall TaskStep FindsStreams ⟨w, []⟩ a)
    (hstep : Pool.Step ExistingCall TaskStep a b) (hfinds : FindsStreams a.shared b.shared)
    (hafter : Pool.Runs ExistingCall TaskStep FindsStreams b p) :
    (∀ i, i ∈ a.shared.streams → b.shared = (removeInputSection i a.shared).2 →
      p.shared.InputGone i) ∧
    ∀ i k info, a.shared.streams.lookup i = some info → info.HasOutput k →
      b.shared = (removeOutputSection i k a.shared).2 → p.shared.OutputGone k := by
  have hfits : Pool.Fits (fun w => w.Attributed own ∧ True) (ownershipRely own)
      (Act (ownershipRely own) existingOps) ExistingCall TaskStep
      (fun a b => FindsStreams a.shared b.shared) := gone_fits fun _ _ _ _ _ => trivial
  have hbehaving : Pool.Behaving (fun w => w.Attributed own ∧ True) (ownershipRely own)
      (Act (ownershipRely own) existingOps) ⟨w, []⟩ :=
    ⟨⟨hown, trivial⟩, List.Pairwise.nil, fun _ ht => absurd ht List.not_mem_nil⟩
  have ha := hbehaving.runs hfits hbefore
  have hb := (ha.step hfits hstep hfinds).1
  constructor
  · intro i hi hremove
    exact gone_of_runs (fun _ _ h => h.step) hb (inputGone_of_remove hfinds hi hremove) hafter
  · intro i k info hi hk hremove
    exact gone_of_runs (fun _ _ h => h.step) hb
      (outputGone_of_remove ha.inv.1.entries hfinds hi hk hremove) hafter

end Runs

/-! ## An update during a deletion -/

def Prog.returned {σ ρ : Type} : Prog σ ρ → Bool
  | .ret _ => true
  | _ => false

/-- Tasks are spawned for inputs that are there, stopped outputs were there, the inputs stay,
and each output has its tasks in the one map that it is in. -/
def findsStreams (w w' : World) : Bool :=
  ((w'.rt.spawned.drop w.rt.spawned.length).all fun t => t.spec.owner.inputId ∈ w.streams) &&
  (w'.streams.entries.all fun e => e.2.stoppedOutputs.keys.all fun k =>
    (w.streams.lookup e.1).any fun info => k ∈ info.outputTasks ∨ k ∈ info.stoppedOutputs) &&
  (w.streams.keys.all fun i => i ∈ w'.streams) && w.keysApart &&
  (w.rt.live.all fun t => t.spec.owner.outputId.all fun k => w.streams.entries.all fun e =>
    !(decide (k ∈ e.2.outputTasks ∨ k ∈ e.2.stoppedOutputs)) ||
      (e.2.outputTasks.lookup k).any fun o => o.abortHandle = some t)

theorem findsStreams_of_check {w w' : World} (h : findsStreams w w' = true) :
    FindsStreams w w' := by
  simp only [findsStreams, Bool.and_eq_true] at h
  obtain ⟨⟨⟨⟨hspawned, hstopped⟩, hkeys⟩, hapart⟩, hheld⟩ := h
  constructor
  · intro ts hts t ht
    rw [hts, List.drop_left] at hspawned
    exact of_decide_eq_true (List.all_eq_true.mp hspawned t ht)
  · intro i k config info hw' hi
    have hset : w'.streams.lookup i =
        some { info with stoppedOutputs := info.stoppedOutputs.insert k config } := by
      rw [hw', setStoppedConfig, hi]
      exact AList.lookup_insert _
    have hentry := List.all_eq_true.mp hstopped ⟨i, _⟩ (AList.mem_lookup_iff.mp hset)
    have hk := List.all_eq_true.mp hentry k ((AList.mem_insert _).mpr (.inl rfl))
    simp only [hi, Option.any_some, decide_eq_true_eq] at hk
    exact hk
  · intro i info hw' hi
    have hmem := of_decide_eq_true (List.all_eq_true.mp hkeys i (mem_of_lookup hi))
    rw [hw', removeInputSection, hi] at hmem
    exact absurd rfl (AList.mem_erase.mp hmem).1
  · exact fun i k info _ hi hk => World.apart_of_keysApart hapart hi hk
  · intro i k info _ hi hk t ht hout
    have ht := List.all_eq_true.mp hheld t ht
    rw [hout] at ht
    have hentry := List.all_eq_true.mp ht ⟨i, info⟩ (AList.mem_lookup_iff.mp hi)
    have hdec : decide (k ∈ info.outputTasks ∨ k ∈ info.stoppedOutputs) = true :=
      decide_eq_true hk
    simp only [hdec, Bool.not_true, Bool.false_or] at hentry
    obtain ⟨o, ho, hhandle⟩ := (Option.any_eq_true _ _).mp hentry
    exact ⟨o, ho, of_decide_eq_true hhandle⟩

/-- What is left of the deletion of the first output once it has been removed. -/
def afterRemoval (w : World) : Prog World Unit :=
  match (Operation.deleteOutput 1 1).prog localEnv with
  | .acquire _ (.step _ rest) => rest w
  | p => p

/-- The first output is removed next to the given calls. -/
def removalPool (p : Pool World) : Pool World :=
  ⟨(removeOutputSection 1 1 p.shared).2, p.threads ++ [⟨afterRemoval p.shared, some .write⟩]⟩

/-- An update of an output takes some steps, then the first output is removed, and both calls
go on to their ends. -/
def removalRun (check : World → World → Bool) (k : Int) (n m : ℕ) :
    Option (Pool World × Pool World) :=
  (Pool.advances check ⟨halfServingWorld, [⟨(Operation.updateOutput k (outputUpdate none)).prog
    localEnv, none⟩]⟩ (List.replicate n 0)).bind fun q =>
      if q.threads.all (fun t => t.held.isNone) && check q.shared q.shared &&
          check q.shared (removalPool q).shared then
        ((removalPool q).advances check ([1, 1] ++ List.replicate m 0)).map fun p => (q, p)
      else none

theorem runs_removalRun {C : World → World → Prop} {check : World → World → Bool}
    (hC : ∀ w w', check w w' = true → C w w') {k : Int} {n m : ℕ} {q p : Pool World}
    (hstart : C halfServingWorld halfServingWorld) (h : removalRun check k n m = some (q, p)) :
    ∃ a, Pool.Runs ExistingCall TaskStep C ⟨halfServingWorld, []⟩ a ∧ a.shared = q.shared ∧
      Pool.Step ExistingCall TaskStep a (removalPool q) ∧ C q.shared (removalPool q).shared ∧
      Pool.Runs ExistingCall TaskStep C (removalPool q) p := by
  obtain ⟨q', hq, h⟩ := Option.bind_eq_some_iff.mp h
  split at h
  · rename_i hchecks
    obtain ⟨p', hp, heq⟩ := Option.map_eq_some_iff.mp h
    obtain ⟨rfl, rfl⟩ := Prod.mk.inj heq
    simp only [Bool.and_eq_true] at hchecks
    obtain ⟨⟨hheld, hsame⟩, hremoval⟩ := hchecks
    have hupdate : Pool.Runs ExistingCall TaskStep C ⟨halfServingWorld, []⟩ q' :=
      .head ⟨.call (.inl ⟨localEnv, .updateOutput k (outputUpdate none), trivial, rfl⟩), hstart⟩
        (Pool.runs_of_advances hC _ hq)
    have hcall : Pool.Step ExistingCall TaskStep q' ⟨q'.shared, q'.threads ++
        [⟨(Operation.deleteOutput 1 1).prog localEnv, none⟩]⟩ :=
      .call (.inl ⟨localEnv, .deleteOutput 1 1, trivial, rfl⟩)
    have hacquire : Pool.Step ExistingCall TaskStep ⟨q'.shared, q'.threads ++
        [⟨(Operation.deleteOutput 1 1).prog localEnv, none⟩]⟩ ⟨q'.shared, q'.threads ++
          [⟨.step (fun w => (removeOutputSection 1 1 w).2) afterRemoval, some .write⟩]⟩ := by
      refine .acquire fun t ht => ?_
      rw [List.append_nil] at ht
      have hnone := List.all_eq_true.mp hheld t ht
      rw [Option.isNone_iff_eq_none.mp hnone]
      rfl
    exact ⟨_, (hupdate.tail ⟨hcall, hC _ _ hsame⟩).tail ⟨hacquire, hC _ _ hsame⟩, rfl, .act,
      hC _ _ hremoval, Pool.runs_of_advances hC _ hp⟩
  · exact absurd h (by simp)

theorem mem_keys_of_view {β : Type} {w : World} {i k : Int} {f : InputInfo → HashMap Int β}
    (h : (w.streams.lookup i).any (fun info => k ∈ f info) = true) :
    ∃ info, w.streams.lookup i = some info ∧ k ∈ f info := by
  obtain ⟨info, hi, hk⟩ := (Option.any_eq_true _ _).mp h
  exact ⟨info, hi, of_decide_eq_true hk⟩

/-- The second output is updated while the first one is deleted. -/
theorem removalRun_deleted :
    ∃ q p, removalRun findsStreams 2 5 7 = some (q, p) ∧
      p.threads.all (fun t => t.rest.returned) = true ∧ p.shared.OutputGone 1 := by
  obtain ⟨own, hserving⟩ := serving_halfServingWorld
  have hview : (removalRun findsStreams 2 5 7).any (fun r =>
      (r.1.shared.streams.lookup 1).any (fun info => 1 ∈ info.outputTasks) &&
        r.2.threads.all fun t => t.rest.returned) = true := by
    decide +kernel
  obtain ⟨⟨q, p⟩, hrun, hview⟩ := (Option.any_eq_true _ _).mp hview
  obtain ⟨hrunning, hreturned⟩ := Bool.and_eq_true_iff.mp hview
  obtain ⟨info, hi, hk⟩ := mem_keys_of_view hrunning
  obtain ⟨a, hbefore, ha, hstep, hfinds, hafter⟩ := runs_removalRun
    (fun _ _ => findsStreams_of_check) (findsStreams_of_check (by decide +kernel)) hrun
  rw [← ha] at hi hfinds
  have hremoved : (removalPool q).shared = (removeOutputSection 1 1 a.shared).2 := by
    rw [ha]
    rfl
  exact ⟨q, p, hrun, hreturned, (runs_deleted hserving.attributed hbefore hstep hfinds hafter).2
    1 1 info hi (.inl hk) hremoved⟩

/-- The output that is deleted is updated, and after its deletion it is entered again and
started. -/
theorem updateOutput_undeletes :
    ¬ ∀ own w a b p, w.Attributed own →
      Pool.Runs ExistingCall TaskStep (fun _ _ => True) ⟨w, []⟩ a →
      Pool.Step ExistingCall TaskStep a b →
      Pool.Runs ExistingCall TaskStep (fun _ _ => True) b p →
      (∀ t ∈ p.threads, t.rest.returned = true) →
      (∀ i, i ∈ a.shared.streams → b.shared = (removeInputSection i a.shared).2 →
        p.shared.InputGone i) ∧
      ∀ i k info, a.shared.streams.lookup i = some info → info.HasOutput k →
        b.shared = (removeOutputSection i k a.shared).2 → p.shared.OutputGone k := by
  intro h
  obtain ⟨own, hserving⟩ := serving_halfServingWorld
  have hview : (removalRun (fun _ _ => true) 1 8 7).any (fun r =>
      (r.1.shared.streams.lookup 1).any (fun info => 1 ∈ info.stoppedOutputs) &&
        (r.2.threads.all (fun t => t.rest.returned) &&
          (r.2.shared.streams.lookup 1).any fun info => 1 ∈ info.outputTasks)) = true := by
    decide +kernel
  obtain ⟨⟨q, p⟩, hrun, hview⟩ := (Option.any_eq_true _ _).mp hview
  obtain ⟨hstopped, hview⟩ := Bool.and_eq_true_iff.mp hview
  obtain ⟨hreturned, hagain⟩ := Bool.and_eq_true_iff.mp hview
  obtain ⟨info, hi, hk⟩ := mem_keys_of_view hstopped
  obtain ⟨info', hi', hk'⟩ := mem_keys_of_view hagain
  obtain ⟨a, hbefore, ha, hstep, _, hafter⟩ :=
    runs_removalRun (C := fun _ _ => True) (fun _ _ _ => trivial) trivial hrun
  rw [← ha] at hi
  have hremoved : (removalPool q).shared = (removeOutputSection 1 1 a.shared).2 := by
    rw [ha]
    rfl
  have hgone := (h own _ a _ p hserving.attributed hbefore hstep hafter
    (List.all_eq_true.mp hreturned)).2 1 1 info hi (.inr hk) hremoved
  exact hgone.absent 1 info' hi' (.inl hk')

end StreamGateway
