import StreamGateway.OutputCycles
import StreamGateway.ReadEndpoints
import StreamGateway.Reload

/-!
# Outputs that are lost

An output of an input is in `output_tasks` when it runs and in `stopped_outputs` when it does
not. A start takes its configuration out of the second map before it resolves the
destination, and a stop of the input empties the first map. In between an output can drop
out of both.
-/
namespace StreamGateway

open Prog

/-- `output_tasks` and `stopped_outputs` of an input. -/
def World.outputMaps (w : World) (i : Int) :
    Option (HashMap Int OutputInfo × HashMap Int CreateOutputRequest) :=
  (w.streams.lookup i).map fun info => (info.outputTasks, info.stoppedOutputs)

/-- The outputs that were stopped run, or are still stopped with their configurations. -/
def KeepsOutputs (w w' : World) : Prop :=
  ∀ j info k config, w.streams.lookup j = some info → info.stoppedOutputs.lookup k = some config →
    ∃ info', w'.streams.lookup j = some info' ∧
      (k ∈ info'.outputTasks ∨ info'.stoppedOutputs.lookup k = some config)

/-! ## Starting an output -/

/-- Only the name resolution can fail, and only for UDP. -/
theorem startOutputInternal_ok_iff {env : Env} {input : InputInfo} {k : Int}
    {config : CreateOutputRequest} {rt : Runtime} :
    (∃ r, startOutputInternal env input k config rt = .ok r) ↔ config.Resolves env := by
  cases config with
  | srt => exact iff_of_true ⟨_, rfl⟩ trivial
  | udp inputId remoteHost remotePort automaticPort name bindHost multicastTtl
      multicastInterface destinationAddr =>
    constructor
    · rintro ⟨r, hr⟩
      simp only [startOutputInternal] at hr
      split at hr
      · exact absurd hr (by simp)
      · rename_i hc
        obtain ⟨addr, hresolve, _⟩ := createUdpOutput_ok hc
        exact ⟨addr, hresolve⟩
    · rintro ⟨addr, hresolve⟩
      simp only [outputDestination] at hresolve
      simp only [startOutputInternal, createUdpOutput, hresolve]
      exact ⟨_, rfl⟩

/-- The configuration of a stopped output of an input that is not stopped, which is what a
start of the output takes. -/
def InputInfo.ToStart (info : InputInfo) (k : Int) (config : CreateOutputRequest) : Prop :=
  info.status ≠ .stopped ∧ info.stoppedOutputs.lookup k = some config

def InputInfo.withoutStopped (info : InputInfo) (k : Int) : InputInfo :=
  { info with stoppedOutputs := info.stoppedOutputs.erase k }

theorem startOutputSection_cases (env : Env) (i k : Int) (w : World) :
    (∃ e, startOutputSection env i k w = (.error e, w)) ∧
      (∀ info config, w.streams.lookup i = some info → ¬ info.ToStart k config) ∨
    ∃ info config, w.streams.lookup i = some info ∧ info.ToStart k config ∧
      ((∃ e, startOutputSection env i k w =
          (.error e, { w with streams := w.streams.insert i (info.withoutStopped k) })) ∧
        ¬ config.Resolves env ∨
      config.Resolves env ∧ ∃ info' rt,
        startOutputInternal env (info.withoutStopped k) k config w.rt = .ok (info', rt) ∧
        startOutputSection env i k w =
          (.ok (), { w with streams := w.streams.insert i info', rt := rt })) := by
  unfold startOutputSection
  cases hi : w.streams.lookup i with
  | none => exact .inl ⟨⟨_, rfl⟩, fun info _ h => absurd h (by simp)⟩
  | some info =>
  dsimp only
  by_cases hstatus : info.status = .stopped
  · refine .inl ⟨⟨_, if_pos hstatus⟩, fun info' _ h hstart => ?_⟩
    obtain rfl := Option.some.inj h
    exact hstart.1 hstatus
  rw [if_neg hstatus]
  cases hk : info.stoppedOutputs.lookup k with
  | none =>
    refine .inl ⟨?_, fun info' config h hstart => ?_⟩
    · dsimp only
      split <;> exact ⟨_, rfl⟩
    · obtain rfl := Option.some.inj h
      exact absurd (hk.symm.trans hstart.2) (by simp)
  | some config =>
  refine .inr ⟨info, config, rfl, ⟨hstatus, hk⟩, ?_⟩
  dsimp only
  cases hs : startOutputInternal env (info.withoutStopped k) k config w.rt with
  | error e =>
    refine .inl ⟨⟨e, ?_⟩, fun hres => ?_⟩
    · simp only [InputInfo.withoutStopped] at hs
      simp only [hs, InputInfo.withoutStopped]
    · obtain ⟨r, hr⟩ := startOutputInternal_ok_iff.mpr hres
      exact absurd (hs.symm.trans hr) (by simp)
  | ok r =>
    refine .inr ⟨startOutputInternal_ok_iff.mp ⟨r, hs⟩, r.1, r.2, rfl, ?_⟩
    simp only [InputInfo.withoutStopped] at hs
    simp only [hs]

theorem alone_startOutput (env : Env) (i k : Int) (w : World) :
    (startOutput env i k).alone false w =
      some ((startOutputSection env i k w).1, false, (startOutputSection env i k w).2) := rfl

/-- A start of one output that fails leaves the maps as they were, unless the output was
stopped and its destination does not resolve. -/
theorem startOutput_keeps_iff (env : Env) (w : World) (i k : Int) :
    (∀ e held w', (startOutput env i k).alone false w = some (.error e, held, w') →
      w'.outputMaps i = w.outputMaps i) ↔
    ∀ info config, w.streams.lookup i = some info → info.ToStart k config →
      config.Resolves env := by
  rw [alone_startOutput]
  rcases startOutputSection_cases env i k w with ⟨⟨e, hs⟩, hnone⟩ | ⟨info, config, hi, hstart, hs⟩
  · rw [hs]
    refine iff_of_true ?_ fun info config hi hstart => absurd hstart (hnone info config hi)
    intro e' held w' h
    obtain ⟨-, -, rfl⟩ := by simpa using h
    rfl
  have hcondition : (∀ info config, w.streams.lookup i = some info → info.ToStart k config →
      config.Resolves env) ↔ config.Resolves env := by
    refine ⟨fun h => h info config hi hstart, fun h info' config' hi' hstart' => ?_⟩
    obtain rfl := Option.some.inj (hi.symm.trans hi')
    obtain rfl := Option.some.inj (hstart.2.symm.trans hstart'.2)
    exact h
  rw [hcondition]
  rcases hs with ⟨⟨e, hs⟩, hres⟩ | ⟨hres, info', rt, _, hs⟩
  · rw [hs]
    refine iff_of_false (fun h => ?_) hres
    have hmaps := h e false _ rfl
    simp only [World.outputMaps, AList.lookup_insert, hi, Option.map_some, Option.some.injEq,
      Prod.mk.injEq, InputInfo.withoutStopped, true_and] at hmaps
    have hk := hstart.2
    rw [← hmaps] at hk
    simp at hk
  · rw [hs]
    refine iff_of_true (fun e held w' h => ?_) hres
    exact absurd h (by simp)

/-! ## Starting an input -/

/-- The outputs whose destinations resolve join the running ones. -/
theorem mem_startOutputs_iff {env : Env} {outputs : List (Int × CreateOutputRequest)}
    {input : InputInfo} {rt : Runtime} {k : Int} :
    k ∈ (startOutputs env outputs input rt).1.outputTasks ↔
      k ∈ input.outputTasks ∨ ∃ config, (k, config) ∈ outputs ∧ config.Resolves env := by
  induction outputs generalizing input rt with
  | nil => simp [startOutputs]
  | cons output outputs ih =>
    obtain ⟨outputId, config⟩ := output
    cases hs : startOutputInternal env input outputId config rt with
    | error e =>
      have hres : ¬ config.Resolves env := by
        intro hres
        obtain ⟨r, hr⟩ := startOutputInternal_ok_iff.mpr hres
        exact absurd (hs.symm.trans hr) (by simp)
      simp only [startOutputs, hs, ih, List.mem_cons, Prod.mk.injEq]
      refine or_congr_right (exists_congr fun config' => ?_)
      constructor
      · rintro ⟨hk, h⟩
        exact ⟨.inr hk, h⟩
      · rintro ⟨⟨rfl, rfl⟩ | hk, h⟩
        · exact absurd h hres
        · exact ⟨hk, h⟩
    | ok r =>
      obtain ⟨input', rt'⟩ := r
      have hres := startOutputInternal_ok_iff.mp ⟨_, hs⟩
      obtain ⟨spec, o, -, rfl⟩ := startOutputInternal_ok hs
      simp only [startOutputs, hs, ih, List.mem_cons, Prod.mk.injEq, AList.mem_insert]
      constructor
      · rintro ((rfl | hk) | ⟨config', hk, h⟩)
        · exact .inr ⟨config, .inl ⟨rfl, rfl⟩, hres⟩
        · exact .inl hk
        · exact .inr ⟨config', .inr hk, h⟩
      · rintro (hk | ⟨config', ⟨rfl, _⟩ | hk, h⟩)
        · exact .inl (.inr hk)
        · exact .inl (.inl rfl)
        · exact .inr ⟨config', hk, h⟩

theorem mem_restartStopped_iff {env : Env} {input : InputInfo} {rt : Runtime} {k : Int} :
    k ∈ (restartStopped env input rt).1.outputTasks ↔ k ∈ input.outputTasks ∨
      ∃ config, input.stoppedOutputs.lookup k = some config ∧ config.Resolves env := by
  unfold restartStopped
  simp only [mem_startOutputs_iff, HashMap.mem_toPairs]

/-- What a start of an input makes of the outputs: all that were stopped are taken out, and
those whose destinations resolve run. -/
def DrainsStopped (env : Env) (i : Int) (w w' : World) : Prop :=
  (∀ j, j ≠ i → w'.outputMaps j = w.outputMaps j) ∧
    ∀ info, w.streams.lookup i = some info → ∃ tasks, w'.outputMaps i = some (tasks, ∅) ∧
      ∀ k, k ∈ tasks ↔ k ∈ info.outputTasks ∨
        ∃ config, info.stoppedOutputs.lookup k = some config ∧ config.Resolves env

theorem DrainsStopped.of_maps {env : Env} {i : Int} {w w' w'' : World}
    (h : DrainsStopped env i w w') (hmaps : ∀ j, w''.outputMaps j = w'.outputMaps j) :
    DrainsStopped env i w w'' :=
  ⟨fun j hj => (hmaps j).trans (h.1 j hj), fun info hi => by
    rw [hmaps]
    exact h.2 info hi⟩

/-- An entry that has just been restarted is written back. -/
theorem drainsStopped_insert {env : Env} {i : Int} {w w' : World} {info input : InputInfo}
    {rt : Runtime} {paused : List AnalysisType} (hi : w.streams.lookup i = some info)
    (htasks : input.outputTasks = info.outputTasks)
    (hstopped : input.stoppedOutputs = info.stoppedOutputs)
    (hs : w'.streams = w.streams.insert i
      { (restartStopped env input rt).1 with pausedAnalysis := paused }) :
    DrainsStopped env i w w' := by
  constructor
  · intro j hj
    rw [World.outputMaps, hs, AList.lookup_insert_ne hj]
    rfl
  · intro info' hi'
    obtain rfl := Option.some.inj (hi.symm.trans hi')
    refine ⟨(restartStopped env input rt).1.outputTasks, ?_, fun k => ?_⟩
    · rw [World.outputMaps, hs, AList.lookup_insert, Option.map_some,
        restartStopped_stoppedOutputs]
    · rw [mem_restartStopped_iff, htasks, hstopped]

theorem restartSection_drains {env : Env} {plan : StartPlan} {w : World}
    {paused : List AnalysisType} (h : (restartSection env plan w).1 = .ok paused) :
    DrainsStopped env plan.inputId w (restartSection env plan w).2 := by
  unfold restartSection at h ⊢
  cases hi : w.streams.lookup plan.inputId with
  | none => simp [hi] at h
  | some info =>
    obtain ⟨htasks, hstopped⟩ := recreateTask_outputs plan info w.rt
    exact drainsStopped_insert hi htasks hstopped rfl

theorem sptsInstallSection_drains {env : Env} {i : Int} {new : InputInfo} {w : World}
    {paused : List AnalysisType} (h : (sptsInstallSection env i new w).1 = .ok paused) :
    DrainsStopped env i w (sptsInstallSection env i new w).2 := by
  unfold sptsInstallSection at h ⊢
  cases hi : w.streams.lookup i with
  | none => simp [hi] at h
  | some info =>
    let input := { info with
      taskHandle := new.taskHandle
      packetTx := new.packetTx
      status := .listening
      startedAt := some w.rt.clock }
    have htasks : input.outputTasks = info.outputTasks := rfl
    exact @drainsStopped_insert env i w _ info input w.rt _ hi htasks rfl rfl

/-- The restart of the analyses leaves the outputs alone. -/
theorem Sections.outputMaps {w₀ : World} (w w' : World)
    (h : ∀ j, w.outputMaps j = w₀.outputMaps j) (hs : Sections [.spawn, .analyse] w w') :
    ∀ j, w'.outputMaps j = w₀.outputMaps j := by
  intro j
  rw [← h j]
  rcases hs with hs | ⟨k, hk, hs⟩
  · rw [World.outputMaps, hs.streams]
    rfl
  cases hs with
  | spawn t _ _ hs =>
    rw [World.outputMaps, hs]
    rfl
  | analyse i a =>
    rcases insertAnalysis_ok i a w with hw | ⟨entry, hi, hw⟩ <;> rw [hw]
    by_cases hj : j = i
    · subst hj
      simp only [World.outputMaps, AList.lookup_insert, hi, Option.map_some]
    · simp only [World.outputMaps, AList.lookup_insert_ne hj]
  | _ => simp at hk

theorem startInput_drains {env : Env} {i : Int} {w w' : World} {held : Bool}
    (h : (startInput env i).alone false w = some (.ok (), held, w')) :
    ∃ info, w.streams.lookup i = some info ∧ DrainsStopped env info.id w w' := by
  rcases alone_startInput env i w with ⟨e, ha, _⟩ | ⟨info, stateTx, hi, _, ha⟩
  · rw [ha] at h
    exact absurd h (by simp)
  refine ⟨info, hi, ?_⟩
  have hbase : ∀ plan : StartPlan, plan.inputId = info.id →
      (startBase env plan).alone false w = some (.ok (), held, w') →
      DrainsStopped env info.id w w' := by
    intro plan hid hr
    rw [alone_startBase] at hr
    split at hr
    · exact absurd hr (by simp)
    rename_i paused w₁ hw
    have hdrains := @restartSection_drains env plan w paused (by rw [hw])
    rw [hw, hid] at hdrains
    split at hr
    · obtain ⟨_, rfl⟩ : _ ∧ w₁ = w' := by simpa using hr
      exact hdrains
    · exact absurd hr (by simp)
  rw [ha] at h
  cases hc : info.config with
  | udp => exact hbase _ rfl (by rwa [hc] at h)
  | srt => exact hbase _ rfl (by rwa [hc] at h)
  | spts sourceInputId programNumber fillWithNulls name =>
    rw [hc] at h
    rcases alone_startSpts h with ⟨⟨e, he⟩, _⟩ | ⟨_, new, w₁, paused, held', hs, _, hok, hp⟩
    · exact absurd he (by simp)
    dsimp only at hok hp
    have hdrains := sptsInstallSection_drains hok
    have hmaps := (Follows.alone Sections.outputMaps (takes_restartPaused env info.id paused _)
      (fun _ => rfl) hp).1
    refine DrainsStopped.of_maps ?_ hmaps
    have hw₁ : ∀ j, w₁.outputMaps j = w.outputMaps j := fun j => by
      rw [World.outputMaps, hs]
      rfl
    refine ⟨fun j hj => (hdrains.1 j hj).trans (hw₁ j), fun target htarget => ?_⟩
    exact hdrains.2 target (by rw [hs, htarget])

/-- A start of an input that succeeds keeps the stopped outputs, unless the destination of
one does not resolve. -/
theorem startInput_keeps_iff {env : Env} {i : Int} {w w' : World} {held : Bool}
    (h : (startInput env i).alone false w = some (.ok (), held, w')) :
    KeepsOutputs w w' ↔ ∀ info target k config, w.streams.lookup i = some info →
      w.streams.lookup info.id = some target → target.stoppedOutputs.lookup k = some config →
      config.Resolves env ∨ k ∈ target.outputTasks := by
  obtain ⟨info, hi, hothers, hdrained⟩ := startInput_drains h
  constructor
  · intro hkeeps info' target k config hi' htarget hk
    obtain rfl := Option.some.inj (hi.symm.trans hi')
    obtain ⟨tasks, hmaps, htasks⟩ := hdrained target htarget
    obtain ⟨target', htarget', hkept⟩ := hkeeps info.id target k config htarget hk
    simp only [World.outputMaps, htarget', Option.map_some, Option.some.injEq,
      Prod.mk.injEq] at hmaps
    obtain ⟨rfl, hempty⟩ := hmaps
    rcases hkept with hkept | hkept
    · rcases (htasks k).mp hkept with hrunning | ⟨config', hk', hres⟩
      · exact .inr hrunning
      · obtain rfl := Option.some.inj (hk.symm.trans hk')
        exact .inl hres
    · rw [hempty] at hkept
      exact absurd hkept (by simp)
  · intro hcondition j entry k config hj hk
    by_cases hji : j = info.id
    · subst hji
      obtain ⟨tasks, hmaps, htasks⟩ := hdrained entry hj
      obtain ⟨entry', hj', heq⟩ := Option.map_eq_some_iff.mp hmaps
      refine ⟨entry', hj', .inl ?_⟩
      rw [(Prod.mk.inj heq).1, htasks]
      rcases hcondition info entry k config hi hj hk with hres | hrunning
      · exact .inr ⟨config, hk, hres⟩
      · exact .inl hrunning
    · have hmaps := hothers j hji
      rw [World.outputMaps, World.outputMaps, hj] at hmaps
      obtain ⟨entry', hj', heq⟩ := Option.map_eq_some_iff.mp hmaps
      exact ⟨entry', hj', .inr (by rw [(Prod.mk.inj heq).2, hk])⟩

/-- Of a start of one output and of a start of an input: when a restart that fails keeps the
output. -/
theorem failedRestarts_keep_iff (env : Env) (w : World) (i : Int) :
    (∀ k, (∀ e held w', (startOutput env i k).alone false w = some (.error e, held, w') →
        w'.outputMaps i = w.outputMaps i) ↔
      ∀ info config, w.streams.lookup i = some info → info.ToStart k config →
        config.Resolves env) ∧
    ∀ held w', (startInput env i).alone false w = some (.ok (), held, w') →
      (KeepsOutputs w w' ↔ ∀ info target k config, w.streams.lookup i = some info →
        w.streams.lookup info.id = some target → target.stoppedOutputs.lookup k = some config →
        config.Resolves env ∨ k ∈ target.outputTasks) :=
  ⟨startOutput_keeps_iff env w i, fun _ _ h => startInput_keeps_iff h⟩

theorem resolves_localEnv (config : CreateOutputRequest) : config.Resolves localEnv := by
  cases config with
  | udp => exact ⟨_, rfl⟩
  | srt => trivial

/-- An input with an output was stopped. -/
def stoppedPairWorld : World := pairedWorld.after ((Operation.stopInput 1).prog localEnv)

theorem stoppedPairWorld_keeps :
    KeepsOutputs stoppedPairWorld (stoppedPairWorld.after (startInput localEnv 1).ignore) :=
  ((failedRestarts_keep_iff localEnv stoppedPairWorld 1).2 false _ rfl).mpr
    fun _ _ _ config _ _ _ => .inl (resolves_localEnv config)

/-- The resolver does not answer. -/
def offlineEnv : Env :=
  { localEnv with
    lookupHost := fun _ =>
      .error "failed to lookup address information: Temporary failure in name resolution" }

/-- An output to a host with a name was stopped. -/
def stoppedSendingWorld : World :=
  (sendingWorld "localhost").after ((Operation.stopOutput 1 1).prog localEnv)

theorem reachable_stoppedSendingWorld : Reachable stoppedSendingWorld :=
  ((rests_runningWorld.after (.createOutput (udpOutputRequest "localhost"))
    (by decide +kernel)).after (.stopOutput 1 1) (by decide +kernel)).reachable

/-- The name does not resolve when the output is started, and the output is gone. -/
theorem failed_start_loses_output :
    ¬ ∀ env w i k e held w', Reachable w →
      (startOutput env i k).alone false w = some (.error e, held, w') →
      w'.outputMaps i = w.outputMaps i := by
  intro h
  have hfails : ((startOutput offlineEnv 1 1).alone false stoppedSendingWorld).any
      (fun r => !r.1.isOk) = true := by decide +kernel
  obtain ⟨r, held, hr, herror⟩ := @alone_eq_after (Except String Unit) _ _ (fun r => !r.isOk)
    hfails
  have hmaps : ∀ e, r = .error e →
      (stoppedSendingWorld.after (startOutput offlineEnv 1 1).ignore).outputMaps 1 =
        stoppedSendingWorld.outputMaps 1 := by
    rintro e rfl
    exact h _ _ _ _ _ _ _ reachable_stoppedSendingWorld hr
  cases r with
  | ok => simp [Except.isOk, Except.toBool] at herror
  | error e =>
    have hkeys := congrArg (Option.map fun m => m.2.keys) (hmaps e rfl)
    exact absurd hkeys (by decide +kernel)

/-! ## Stopping an input -/

/-- A stop of an input moves all its outputs to the stopped ones, with their
configurations. -/
structure MovesOutputs (info info' : InputInfo) : Prop where
  none_left : info'.outputTasks = ∅
  union : ∀ k, k ∈ info'.stoppedOutputs ↔ k ∈ info.outputTasks ∨ k ∈ info.stoppedOutputs
  keeps : ∀ k o, info.outputTasks.lookup k = some o →
    info'.stoppedOutputs.lookup k = some o.config

/-- The configurations of the active outputs are kept. -/
theorem lookup_stopOutputs_iff {outputs : List (Int × OutputInfo)} {rt : Runtime} {k : Int}
    (hnodup : (outputs.map Prod.fst).Nodup) {config : CreateOutputRequest} :
    (stopOutputs outputs rt).1.lookup k = some config ↔
      ∃ o, (k, o) ∈ outputs ∧ o.status.isActive = true ∧ o.config = config := by
  induction outputs generalizing rt with
  | nil => simp [stopOutputs]
  | cons output outputs ih =>
    obtain ⟨outputId, info⟩ := output
    obtain ⟨hfresh, hrest⟩ := List.nodup_cons.mp hnodup
    have hne : ∀ o, (k, o) ∈ outputs → k ≠ outputId := by
      rintro o ho rfl
      exact hfresh (List.mem_map.mpr ⟨_, ho, rfl⟩)
    by_cases ha : info.status.isActive = true
    · simp only [stopOutputs, ha, if_true, HashMap.lookup_insert_eq_some, ih hrest,
        List.mem_cons, Prod.mk.injEq]
      constructor
      · rintro (⟨rfl, rfl⟩ | ⟨_, o, ho, h⟩)
        · exact ⟨info, .inl ⟨rfl, rfl⟩, ha, rfl⟩
        · exact ⟨o, .inr ho, h⟩
      · rintro ⟨o, ⟨rfl, rfl⟩ | ho, h⟩
        · exact .inl ⟨rfl, h.2⟩
        · exact .inr ⟨hne o ho, o, ho, h⟩
    · simp only [stopOutputs, ha, if_false, Bool.false_eq_true, ih hrest, List.mem_cons,
        Prod.mk.injEq]
      constructor
      · rintro ⟨o, ho, h⟩
        exact ⟨o, .inr ho, h⟩
      · rintro ⟨o, ⟨rfl, rfl⟩ | ho, h⟩
        · exact absurd h.1 ha
        · exact ⟨o, ho, h⟩

/-- What a stop of the input leaves in `stopped_outputs`. -/
theorem lookup_stopInputInfo {info : InputInfo} {rt : Runtime} {k : Int}
    {config : CreateOutputRequest} :
    (stopInputInfo info rt).1.stoppedOutputs.lookup k = some config ↔
      (∃ o, info.outputTasks.lookup k = some o ∧ o.status.isActive = true ∧
        o.config = config) ∨
      ¬ info.Running k ∧ info.stoppedOutputs.lookup k = some config := by
  simp only [stopInputInfo, HashMap.lookup_extend_eq_some,
    lookup_stopOutputs_iff (HashMap.nodup_keys_toPairs _), HashMap.mem_toPairs, mem_stopOutputs]
  rfl

/-- The stop moves all outputs if and only if each of them is active, or is among the stopped
ones already. -/
theorem stopInput_moves_iff {i : Int} {w w' : World} {held : Bool} {info info' : InputInfo}
    (h : (stopInput i).alone false w = some (.ok (), held, w'))
    (hi : w.streams.lookup i = some info) (hi' : w'.streams.lookup i = some info') :
    MovesOutputs info info' ↔ ∀ k o, info.outputTasks.lookup k = some o →
      o.status.isActive = true ∨ info.stoppedOutputs.lookup k = some o.config := by
  have hentry : info' = (stopInputInfo info w.rt).1 := by
    obtain ⟨hok, -, rfl⟩ : (stopInputSection i w).1 = .ok () ∧ _ ∧
        (stopInputSection i w).2 = w' := by simpa [stopInput] using h
    unfold stopInputSection at hok hi'
    simp only [hi] at hok hi'
    split at hok
    · exact absurd hok (by simp)
    · rw [if_neg ‹_›] at hi'
      simpa using hi'.symm
  subst hentry
  constructor
  · intro hmoves k o ho
    rcases lookup_stopInputInfo.mp (hmoves.keeps k o ho) with ⟨o', ho', hactive, _⟩ | ⟨_, hk⟩
    · obtain rfl := Option.some.inj (ho.symm.trans ho')
      exact .inl hactive
    · exact .inr hk
  · intro hcondition
    have hkeeps : ∀ k o, info.outputTasks.lookup k = some o →
        (stopInputInfo info w.rt).1.stoppedOutputs.lookup k = some o.config := by
      intro k o ho
      by_cases hactive : o.status.isActive = true
      · exact lookup_stopInputInfo.mpr (.inl ⟨o, ho, hactive, rfl⟩)
      · refine lookup_stopInputInfo.mpr (.inr ⟨?_, ?_⟩)
        · rintro ⟨o', ho', hactive'⟩
          obtain rfl := Option.some.inj (ho.symm.trans ho')
          exact hactive hactive'
        · exact (hcondition k o ho).resolve_left hactive
    refine ⟨rfl, fun k => ?_, hkeeps⟩
    rw [(stopInputInfo_outputs info w.rt).2 k]
    constructor
    · rintro (⟨o, ho, _⟩ | hk)
      · exact .inl (HashMap.mem_iff.mpr ⟨_, ho⟩)
      · exact .inr hk
    · rintro (hk | hk)
      · obtain ⟨o, ho⟩ := HashMap.mem_iff.mp hk
        rcases hcondition k o ho with hactive | hstopped
        · exact .inl ⟨o, ho, hactive⟩
        · exact .inr (HashMap.mem_iff.mpr ⟨_, hstopped⟩)
      · exact .inr hk

/-- An input with an SRT output. -/
def srtWorld : World :=
  runningWorld.after ((Operation.createOutput (srtOutputRequest 9000)).prog localEnv)

theorem rests_srtWorld : Rests srtWorld :=
  rests_runningWorld.after (.createOutput (srtOutputRequest 9000)) (by decide +kernel)

theorem srtWorld_moves :
    MovesOutputs ((srtWorld.streams.lookup 1).get (by decide +kernel))
      (((srtWorld.after (stopInput 1).ignore).streams.lookup 1).get (by decide +kernel)) := by
  refine (@stopInput_moves_iff 1 srtWorld (srtWorld.after (stopInput 1).ignore) false _ _ rfl
    (Option.some_get _).symm (Option.some_get _).symm).mpr fun k o ho => .inl ?_
  have hactive : ∀ e ∈ ((srtWorld.streams.lookup 1).get
      (by decide +kernel)).outputTasks.toPairs, e.2.status.isActive = true := by decide +kernel
  exact hactive (k, o) (HashMap.mem_toPairs.mpr ho)

/-- The task of the output has tried to connect ten times and gives up. -/
def retriesReached : Envelope :=
  ⟨⟨1, .srtOutput 1 1 (some "SRT Listener on 9000")
      (.listener none (some 9000) none .default none) (some ⟨⟩) 0⟩,
    .outputStateChanged 1 1 .error none none⟩

/-- The gateway has processed that message. -/
def failedOutputWorld : World := (srtWorld.send retriesReached).after processMessage

theorem Rests.task {w w' : World} (h : Rests w) (hstep : TaskStep w w') : Rests w' := by
  obtain ⟨env, db, threads, hthreads, hruns⟩ := h
  exact ⟨env, db, threads, hthreads, hruns.tail ⟨.outside hstep, trivial⟩⟩

theorem reachable_failedOutputWorld : Reachable failedOutputWorld := by
  have hrunning : srtWorld.rt.Running retriesReached.sender := by decide +kernel
  have hsends : retriesReached.sender.spec.Sends retriesReached.change :=
    .srtOutput none none (by simp)
  exact ((rests_srtWorld.task (.send hrunning hsends)).call (.inr rfl) rfl).reachable

/-- An output in error is in neither map after its input was stopped. -/
theorem stopInput_drops_failed_output :
    ¬ ∀ i w w' held info info', Reachable w →
      (stopInput i).alone false w = some (.ok (), held, w') →
      w.streams.lookup i = some info → w'.streams.lookup i = some info' →
      MovesOutputs info info' := by
  intro h
  have hmoves := h 1 failedOutputWorld (failedOutputWorld.after (stopInput 1).ignore) false
    ((failedOutputWorld.streams.lookup 1).get (by decide +kernel))
    (((failedOutputWorld.after (stopInput 1).ignore).streams.lookup 1).get (by decide +kernel))
    reachable_failedOutputWorld rfl (Option.some_get _).symm (Option.some_get _).symm
  have hmoved := (hmoves.union 1).mpr (.inl (by decide +kernel))
  exact absurd hmoved (by decide +kernel)

end StreamGateway
