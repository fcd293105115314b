import StreamGateway.Subscriptions

/-!
# Outputs over stops and starts of their input

`stop_input` moves the running outputs of an input to `stopped_outputs`, where the outputs
are that were stopped one by one, and `start_input` starts all that it finds there. So after
a stop and a start every output runs, and the outputs that ran before are the ones that run
after only if none was stopped.
-/
namespace StreamGateway

open Prog

def InputInfo.Running (info : InputInfo) (k : Int) : Prop :=
  ∃ o, info.outputTasks.lookup k = some o ∧ o.status.isActive = true

/-- Every stopped output of the entry can be started. -/
def InputInfo.Startable (env : Env) (info : InputInfo) : Prop :=
  ∀ k config, info.stoppedOutputs.lookup k = some config →
    ∃ input rt r, startOutputInternal env input k config rt = .ok r

/-- The input is stopped and started, and every output that is then to be started can be. -/
def Cycle (i : Int) (w w' : World) : Prop :=
  ∃ env w₁ info₁, (stopInput i).alone false w = some (.ok (), false, w₁) ∧
    w₁.streams.lookup i = some info₁ ∧ info₁.Startable env ∧
    (startInput env i).alone false w₁ = some (.ok (), false, w')

/-- The same outputs run as before, and the outputs that were stopped still are, with their
configurations. -/
def KeepsStopped (i : Int) (info : InputInfo) (w : World) : Prop :=
  ∃ info', w.streams.lookup i = some info' ∧ (∀ k, info'.Running k ↔ info.Running k) ∧
    ∀ k config, info.stoppedOutputs.lookup k = some config →
      info'.stoppedOutputs.lookup k = some config

/-- What happens instead: every output runs. -/
def AllRunning (i : Int) (info : InputInfo) (w : World) : Prop :=
  ∃ info', w.streams.lookup i = some info' ∧ info'.id = i ∧ info'.stoppedOutputs = ∅ ∧
    ∀ k, info'.Running k ↔ info.Running k ∨ k ∈ info.stoppedOutputs

/-! ## The stop -/

theorem mem_stopOutputs {outputs : List (Int × OutputInfo)} {rt : Runtime} {k : Int} :
    k ∈ (stopOutputs outputs rt).1 ↔ ∃ o, (k, o) ∈ outputs ∧ o.status.isActive = true := by
  induction outputs generalizing rt with
  | nil => simp [stopOutputs]
  | cons output outputs ih =>
    obtain ⟨outputId, info⟩ := output
    by_cases h : info.status.isActive = true
    · simp only [stopOutputs, h, if_true, AList.mem_insert, ih, List.mem_cons, Prod.mk.injEq]
      constructor
      · rintro (rfl | ⟨o, ho, ha⟩)
        · exact ⟨info, .inl ⟨rfl, rfl⟩, h⟩
        · exact ⟨o, .inr ho, ha⟩
      · rintro ⟨o, ⟨rfl, _⟩ | ho, ha⟩
        · exact .inl rfl
        · exact .inr ⟨o, ho, ha⟩
    · simp only [stopOutputs, h, if_false, Bool.false_eq_true, ih, List.mem_cons, Prod.mk.injEq]
      constructor
      · rintro ⟨o, ho, ha⟩
        exact ⟨o, .inr ho, ha⟩
      · rintro ⟨o, ⟨rfl, rfl⟩ | ho, ha⟩
        · exact absurd ha h
        · exact ⟨o, ho, ha⟩

/-- After a stop the outputs that ran are among the stopped ones. -/
theorem stopInputInfo_outputs (info : InputInfo) (rt : Runtime) :
    (∀ k, ¬ (stopInputInfo info rt).1.Running k) ∧
      ∀ k, k ∈ (stopInputInfo info rt).1.stoppedOutputs ↔
        info.Running k ∨ k ∈ info.stoppedOutputs := by
  refine ⟨fun k ⟨o, ho, _⟩ => absurd ho (by simp [stopInputInfo]), fun k => ?_⟩
  simp only [stopInputInfo, HashMap.extend, AList.mem_union, mem_stopOutputs, HashMap.mem_toPairs]
  rfl

theorem stopInputSection_outputs {i : Int} {w : World}
    (h : (stopInputSection i w).1 = .ok ()) : ∃ info info₁, w.streams.lookup i = some info ∧
      (stopInputSection i w).2.streams.lookup i = some info₁ ∧ info₁.id = info.id ∧
      (∀ k, ¬ info₁.Running k) ∧
      ∀ k, k ∈ info₁.stoppedOutputs ↔ info.Running k ∨ k ∈ info.stoppedOutputs := by
  unfold stopInputSection at h ⊢
  split at h
  · exact absurd h (by simp)
  rename_i info hi
  split at h
  · exact absurd h (by simp)
  rename_i hstatus
  simp only [hstatus, if_false, AList.lookup_insert]
  exact ⟨info, _, hi, rfl, rfl, stopInputInfo_outputs info w.rt⟩

/-! ## The start -/

theorem running_insert {info : InputInfo} {outputId k : Int} {output : OutputInfo}
    (ha : output.status.isActive = true) :
    InputInfo.Running { info with outputTasks := info.outputTasks.insert outputId output } k ↔
      k = outputId ∨ info.Running k := by
  by_cases hk : k = outputId
  · subst hk
    exact iff_of_true ⟨output, AList.lookup_insert _, ha⟩ (.inl rfl)
  · simp only [InputInfo.Running, AList.lookup_insert_ne hk, hk, false_or]

/-- Whether an output can be started does not depend on the state. -/
theorem startOutputInternal_again {env : Env} {input : InputInfo} {k : Int}
    {config : CreateOutputRequest} {rt : Runtime} {r : InputInfo × Runtime}
    (h : startOutputInternal env input k config rt = .ok r) (input' : InputInfo)
    (rt' : Runtime) : ∃ r', startOutputInternal env input' k config rt' = .ok r' := by
  cases config with
  | srt => exact ⟨_, rfl⟩
  | udp inputId remoteHost remotePort automaticPort name bindHost multicastTtl
      multicastInterface destinationAddr =>
    simp only [startOutputInternal] at h ⊢
    split at h
    · exact absurd h (by simp)
    · rename_i hc
      obtain ⟨destAddr, hresolve, _⟩ := createUdpOutput_ok hc
      simp only [createUdpOutput, hresolve]
      exact ⟨_, rfl⟩

theorem startOutputs_running {env : Env} {outputs : List (Int × CreateOutputRequest)}
    {input : InputInfo} {rt : Runtime}
    (h : ∀ k config, (k, config) ∈ outputs →
      ∃ input rt r, startOutputInternal env input k config rt = .ok r) (k : Int) :
    (startOutputs env outputs input rt).1.Running k ↔
      input.Running k ∨ k ∈ outputs.map Prod.fst := by
  induction outputs generalizing input rt with
  | nil => simp [startOutputs]
  | cons output outputs ih =>
    obtain ⟨outputId, config⟩ := output
    obtain ⟨_, _, _, hstart⟩ := h outputId config List.mem_cons_self
    obtain ⟨⟨input', rt'⟩, hr⟩ := startOutputInternal_again hstart input rt
    obtain ⟨spec, o, hl, rfl⟩ := startOutputInternal_ok hr
    simp only [startOutputs, hr]
    rw [ih fun k config hk => h k config (List.mem_cons_of_mem _ hk), running_insert hl.active,
      List.map_cons, List.mem_cons]
    tauto

/-- Every output that ran or was stopped runs. -/
theorem restartStopped_running {env : Env} {input : InputInfo} (rt : Runtime)
    (h : input.Startable env) (k : Int) :
    (restartStopped env input rt).1.Running k ↔ input.Running k ∨ k ∈ input.stoppedOutputs := by
  unfold restartStopped
  rw [startOutputs_running fun k config hk => h k config (HashMap.mem_toPairs.mp hk),
    HashMap.mem_keys_toPairs]
  rfl

theorem recreateTask_outputs (plan : StartPlan) (input : InputInfo) (rt : Runtime) :
    (recreateTask plan input rt).1.outputTasks = input.outputTasks ∧
      (recreateTask plan input rt).1.stoppedOutputs = input.stoppedOutputs := by
  unfold recreateTask
  split <;> exact ⟨rfl, rfl⟩

theorem restartSection_allRunning {env : Env} {plan : StartPlan} {w : World} {info : InputInfo}
    (hi : w.streams.lookup plan.inputId = some info) (hid : info.id = plan.inputId)
    (h : info.Startable env) : AllRunning plan.inputId info (restartSection env plan w).2 := by
  obtain ⟨htasks, hstopped⟩ := recreateTask_outputs plan info w.rt
  have hstart : InputInfo.Startable env (recreateTask plan info w.rt).1 := by
    unfold InputInfo.Startable
    rwa [hstopped]
  unfold restartSection
  rw [hi]
  refine ⟨_, AList.lookup_insert _, ?_, ?_, fun k => ?_⟩
  · exact (restartStopped_id env _ _).trans ((recreateTask_id plan info w.rt).trans hid)
  · exact restartStopped_stoppedOutputs env _ _
  · have hrunning := restartStopped_running (recreateTask plan info w.rt).2 hstart k
    unfold InputInfo.Running at hrunning ⊢
    rwa [htasks, hstopped] at hrunning

theorem sptsInstallSection_allRunning {env : Env} {i : Int} {new info : InputInfo} {w : World}
    (hi : w.streams.lookup i = some info) (hid : info.id = i) (h : info.Startable env) :
    AllRunning i info (sptsInstallSection env i new w).2 := by
  unfold sptsInstallSection
  rw [hi]
  refine ⟨_, AList.lookup_insert _, ?_, ?_, fun k => ?_⟩
  · exact (restartStopped_id env _ _).trans hid
  · exact restartStopped_stoppedOutputs env _ _
  · exact @restartStopped_running env { info with
      taskHandle := new.taskHandle
      packetTx := new.packetTx
      status := .listening
      startedAt := some w.rt.clock } w.rt h k

/-- The restart of the analyses does not touch the outputs. -/
theorem Sections.allRunning {i : Int} {info : InputInfo} (w w' : World)
    (h : AllRunning i info w) (hs : Sections [.spawn, .analyse] w w') :
    AllRunning i info w' := by
  obtain ⟨info', hi, hid, hstopped, hrunning⟩ := h
  rcases hs with hs | ⟨k, hk, hs⟩
  · exact ⟨info', by rw [hs.streams, hi], hid, hstopped, hrunning⟩
  cases hs with
  | spawn t _ _ hs => exact ⟨info', by rw [hs, hi], hid, hstopped, hrunning⟩
  | analyse j a =>
    rcases insertAnalysis_ok j a w with hw | ⟨entry, hj, hw⟩ <;> rw [hw]
    · exact ⟨info', hi, hid, hstopped, hrunning⟩
    by_cases hij : i = j
    · subst hij
      obtain rfl := Option.some.inj (hi.symm.trans hj)
      exact ⟨_, AList.lookup_insert _, hid, hstopped, hrunning⟩
    · exact ⟨info', by rw [AList.lookup_insert_ne hij, hi], hid, hstopped, hrunning⟩
  | _ => simp at hk

theorem startInput_allRunning {env : Env} {i : Int} {w w' : World} {held : Bool}
    {info : InputInfo} (hi : w.streams.lookup i = some info) (hid : info.id = i)
    (h : info.Startable env)
    (hr : (startInput env i).alone false w = some (.ok (), held, w')) : AllRunning i info w' := by
  rcases alone_startInput env i w with ⟨e, ha, _⟩ | ⟨info₀, stateTx, hi₀, _, ha⟩
  · rw [ha] at hr
    exact absurd hr (by simp)
  obtain rfl := Option.some.inj (hi.symm.trans hi₀)
  have hbase : ∀ plan : StartPlan, plan.inputId = i →
      (startBase env plan).alone false w = some (.ok (), held, w') → AllRunning i info w' := by
    rintro plan rfl hr
    have hall := @restartSection_allRunning env plan w info hi hid h
    rw [alone_startBase] at hr
    split at hr
    · exact absurd hr (by simp)
    · rename_i paused w'' hw
      rw [hw] at hall
      split at hr
      · obtain ⟨_, rfl⟩ : _ ∧ w'' = w' := by simpa using hr
        exact hall
      · exact absurd hr (by simp)
  rw [ha] at hr
  cases hc : info.config with
  | udp => exact hbase _ hid (by rwa [hc] at hr)
  | srt => exact hbase _ hid (by rwa [hc] at hr)
  | spts sourceInputId programNumber fillWithNulls name =>
    rw [hc] at hr
    rcases alone_startSpts hr with ⟨⟨e, he⟩, _⟩ | ⟨_, new, w₁, paused, held', hs, _, _, hp⟩
    · exact absurd he (by simp)
    dsimp only at hp
    rw [hid] at hp
    refine (Follows.alone Sections.allRunning (takes_restartPaused env i paused _)
      (sptsInstallSection_allRunning ?_ hid h) hp).1
    rw [hs, hi]

/-! ## Cycles -/

theorem Cycle.allRunning {i : Int} {w w' : World} {info : InputInfo}
    (hi : w.streams.lookup i = some info) (hid : info.id = i) (h : Cycle i w w') :
    AllRunning i info w' := by
  obtain ⟨env, w₁, info₁, hstop, hi₁, hstart, hr⟩ := h
  obtain ⟨hok, rfl⟩ : (stopInputSection i w).1 = .ok () ∧ (stopInputSection i w).2 = w₁ := by
    simpa [stopInput] using hstop
  obtain ⟨info₀, info₁', hi₀, hi₁', hid₁, hnone, hmoved⟩ := stopInputSection_outputs hok
  obtain rfl := Option.some.inj (hi.symm.trans hi₀)
  obtain rfl := Option.some.inj (hi₁.symm.trans hi₁')
  obtain ⟨info', hi', hid', hstopped, hrunning⟩ :=
    startInput_allRunning hi₁ (hid₁.trans hid) hstart hr
  refine ⟨info', hi', hid', hstopped, fun k => ?_⟩
  rw [hrunning, hmoved]
  simp [hnone k]

/-- One cycle starts every output, and no later one changes that. -/
theorem allRunning_of_cycles {i : Int} {w w' : World} {info : InputInfo}
    (hi : w.streams.lookup i = some info) (hid : info.id = i)
    (h : Relation.TransGen (Cycle i) w w') : AllRunning i info w' := by
  induction h with
  | single h => exact h.allRunning hi hid
  | tail _ h ih =>
    obtain ⟨info₁, hi₁, hid₁, hstopped₁, hrunning₁⟩ := ih
    obtain ⟨info', hi', hid', hstopped', hrunning'⟩ := h.allRunning hi₁ hid₁
    refine ⟨info', hi', hid', hstopped', fun k => ?_⟩
    rw [hrunning', hrunning₁, hstopped₁]
    simp

/-- After any number of cycles the outputs are as they were before, if and only if none had
been stopped. -/
theorem keepsStopped_iff {i : Int} {w w' : World} {info : InputInfo} (hw : Reachable w)
    (hi : w.streams.lookup i = some info) (h : Relation.TransGen (Cycle i) w w') :
    KeepsStopped i info w' ↔ info.stoppedOutputs = ∅ := by
  obtain ⟨info', hi', _, hstopped, hrunning⟩ :=
    allRunning_of_cycles hi (hw.idsMatch i info hi) h
  constructor
  · rintro ⟨info₀, hi₀, _, hkept⟩
    obtain rfl := Option.some.inj (hi'.symm.trans hi₀)
    refine HashMap.eq_empty fun k config hk => ?_
    have hk' := hkept k config hk
    rw [hstopped] at hk'
    exact absurd hk' (by simp)
  · intro hnone
    refine ⟨info', hi', fun k => ?_, fun k config hk => ?_⟩
    · rw [hrunning, hnone]
      simp
    · rw [hnone] at hk
      exact absurd hk (by simp)

/-! ## One output, running or stopped -/

/-- A UDP input with a UDP output. -/
def pairedWorld : World :=
  runningWorld.after
    ((Operation.createOutput (udpOutputRequest "127.0.0.1")).prog localEnv)

theorem rests_pairedWorld : Rests pairedWorld :=
  rests_runningWorld.after
    (.createOutput (udpOutputRequest "127.0.0.1")) (by decide +kernel)

/-- In this environment every output can be started. -/
theorem startable_localEnv (info : InputInfo) : info.Startable localEnv := by
  intro k config _
  cases config with
  | udp => exact ⟨info, .init none, _, rfl⟩
  | srt => exact ⟨info, .init none, _, rfl⟩

def cycleOnce (w : World) : World :=
  (w.after ((Operation.stopInput 1).prog localEnv)).after
    ((Operation.startInput 1).prog localEnv)

theorem cycle_pairedWorld : Cycle 1 pairedWorld (cycleOnce pairedWorld) :=
  ⟨localEnv, pairedWorld.after ((Operation.stopInput 1).prog localEnv), _, rfl, rfl,
    startable_localEnv _, rfl⟩

theorem pairedWorld_keepsStopped :
    KeepsStopped 1 ((pairedWorld.streams.lookup 1).get (by decide +kernel))
      (cycleOnce pairedWorld) :=
  (keepsStopped_iff rests_pairedWorld.reachable (Option.some_get _).symm
    (.single cycle_pairedWorld)).mpr rfl

/-- The output of that input is stopped. -/
def stoppedOutputWorld : World :=
  pairedWorld.after ((Operation.stopOutput 1 1).prog localEnv)

/-- After a stop and a start of its input it runs. -/
theorem cycle_starts_stopped :
    ¬ ∀ i w w' info, Reachable w → w.streams.lookup i = some info →
      Relation.TransGen (Cycle i) w w' → KeepsStopped i info w' := by
  intro h
  have hw : Reachable stoppedOutputWorld :=
    (rests_pairedWorld.after (.stopOutput 1 1) (by decide +kernel)).reachable
  have hcycle : Cycle 1 stoppedOutputWorld (cycleOnce stoppedOutputWorld) :=
    ⟨localEnv, stoppedOutputWorld.after ((Operation.stopInput 1).prog localEnv), _, rfl, rfl,
      startable_localEnv _, rfl⟩
  have hview : (stoppedOutputWorld.streams.lookup 1).map
      (fun info => (info.stoppedOutputs.lookup 1).isSome) = some true := by
    decide +kernel
  have hview' : ((cycleOnce stoppedOutputWorld).streams.lookup 1).map
      (fun info => (info.stoppedOutputs.lookup 1).isSome) = some false := by
    decide +kernel
  obtain ⟨info, hi, hsome⟩ := Option.map_eq_some_iff.mp hview
  obtain ⟨config, hconfig⟩ := Option.isSome_iff_exists.mp hsome
  obtain ⟨info', hi', _, hkept⟩ := h 1 _ _ info hw hi (.single hcycle)
  rw [hi', Option.map_some, hkept 1 config hconfig] at hview'
  exact absurd hview' (by simp)

end StreamGateway
