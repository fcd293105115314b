import StreamGateway.OutputOwnership

/-!
# The senders of outputs

A running output has one task that sends, held by its entry in `output_tasks`, and a stopped
one has none. Starting, stopping and updating outputs keep this as long as `update_output`
does not put a configuration next to an output that runs, and `stop_input` drops no output
whose task lives.
-/
namespace StreamGateway

open Prog

/-- No output is both running and stopped, each live sender is held by the entry of its output
in `output_tasks`, and no output has two. -/
structure World.OneSender (w : World) : Prop where
  apart : ∀ i info k, w.streams.lookup i = some info → k ∈ info.outputTasks →
    k ∉ info.stoppedOutputs
  held : ∀ t ∈ w.rt.live, ∀ i k, t.spec.owner = .output i k → ∃ info o,
    w.streams.lookup i = some info ∧ info.outputTasks.lookup k = some o ∧ o.abortHandle = some t
  unique : ∀ t ∈ w.rt.live, ∀ t' ∈ w.rt.live, ∀ k, t.spec.owner.outputId = some k →
    t'.spec.owner.outputId = some k → t = t'

/-- The requests that start, stop and update outputs. -/
def Operation.OnOutputs : Operation → Prop
  | .startInput _ | .stopInput _ | .startOutput .. | .stopOutput .. | .updateOutput .. => True
  | .startInputEndpoint _ | .stopInputEndpoint _ => True
  | .startOutputEndpoint _ | .stopOutputEndpoint _ => True
  | _ => False

def OutputCall (p : Prog World Unit) : Prop :=
  (∃ env op, Operation.OnOutputs op ∧ p = op.prog env) ∨ p = processMessage

/-- A configuration that `update_output` puts into `stopped_outputs` is not that of a running
output, and `stop_input` drops no output whose task lives. -/
structure SendersKept (w w' : World) : Prop where
  overwritten : ∀ i k config info, w' = (setStoppedConfig i k config w).2 →
    w.streams.lookup i = some info → k ∉ info.outputTasks
  dropped : ∀ i info k o t, w' = (stopInputSection i w).2 → w.streams.lookup i = some info →
    info.status ≠ .stopped → info.outputTasks.lookup k = some o → o.status.isActive = false →
    o.abortHandle = some t → t ∉ w.rt.live

/-! ## New tasks -/

/-- The input that a task works for, itself or through an output or an analysis. -/
def Owner.inputId : Owner → Int
  | .input id => id
  | .output inputId _ => inputId
  | .analysis inputId _ => inputId

/-- Every task that lives now and did not before works for the given input, and if it is that
of an output, for one of the given keys. -/
def LaunchesFor (i : Int) (K : Int → Prop) (rt rt' : Runtime) : Prop :=
  ∀ t ∈ rt'.live, (t.spec.owner.inputId = i ∧ ∀ k, t.spec.owner.outputId = some k → K k) ∨
    t ∈ rt.live

section LaunchesFor

variable {own : Int → Int} {i : Int} {K : Int → Prop} {info info' : InputInfo}
  {rt rt' rt'' : Runtime}

theorem LaunchesFor.refl (i : Int) (K : Int → Prop) (rt : Runtime) : LaunchesFor i K rt rt :=
  fun _ ht => .inr ht

theorem LaunchesFor.trans (h : LaunchesFor i K rt rt') (h' : LaunchesFor i K rt' rt'') :
    LaunchesFor i K rt rt'' := fun t ht => (h' t ht).elim .inl (h t)

theorem Aborts.launchesFor {ts : List Task} (h : Aborts ts rt rt') (i : Int) (K : Int → Prop) :
    LaunchesFor i K rt rt' := fun _ ht => .inr (h.live_subset _ ht).1

theorem launchesFor_of_live (hlive : ∀ t ∈ rt'.live, t ∈ rt.live) : LaunchesFor i K rt rt' :=
  fun t ht => .inr (hlive t ht)

theorem Launches.launchesFor {ts : List Task} (h : Launches ts rt rt')
    (hts : ∀ t ∈ ts, t.spec.owner.inputId = i ∧ ∀ k, t.spec.owner.outputId = some k → K k) :
    LaunchesFor i K rt rt' := by
  intro t ht
  rw [h.live] at ht
  rcases List.mem_append.mp ht with ht | ht
  · exact .inr ht
  · exact .inl (hts t ht)

theorem InputInfo.OwnsOutputs.launch (h : info.OwnsOutputs own i) {env : Env} {k : Int}
    {config : CreateOutputRequest} (hc : config.inputId = i)
    (hr : StreamGateway.startOutputInternal env info k config rt = .ok (info', rt')) :
    ∃ spec output, Launch info i k rt spec output rt' ∧
      info' = { info with outputTasks := info.outputTasks.insert k output } := by
  obtain ⟨spec, output, hl, hinfo⟩ := startOutputInternal_ok hr
  have hrestart : restartInputId info config = i := by
    cases config with
    | udp => exact h.id
    | srt => exact hc
  rw [hrestart] at hl
  exact ⟨spec, output, hl, hinfo⟩

theorem Launch.launchesFor {k : Int} {spec : TaskSpec} {output : OutputInfo} (hk : K k)
    (h : Launch info i k rt spec output rt') : LaunchesFor i K rt rt' := by
  refine h.launches.launchesFor fun t ht => ?_
  obtain rfl := List.mem_singleton.mp ht
  have howner : (rt.newTask spec).spec.owner = .output i k := h.owner
  rw [howner]
  refine ⟨rfl, fun k' hk' => ?_⟩
  obtain rfl := Option.some.inj hk'
  exact hk

theorem InputInfo.OwnsOutputs.startOutputs_launchesFor {env : Env}
    {outputs : List (Int × CreateOutputRequest)} (h : info.OwnsOutputs own i)
    (ho : ∀ k config, (k, config) ∈ outputs → own k = i ∧ config.inputId = i)
    (hK : ∀ k config, (k, config) ∈ outputs → K k) :
    LaunchesFor i K rt (StreamGateway.startOutputs env outputs info rt).2 := by
  refine (startOutputs_keeps
    (P := fun input rt' => input.OwnsOutputs own i ∧ LaunchesFor i K rt rt')
    (fun k config input rt₁ input' rt₂ hmem hinput hr => ?_) ⟨h, .refl i K rt⟩).2
  obtain ⟨hk, hc⟩ := ho k config hmem
  obtain ⟨_, _, hl, _⟩ := hinput.1.launch hc hr
  exact ⟨hinput.1.startOutputInternal hk hc hr, hinput.2.trans (hl.launchesFor (hK k config hmem))⟩

/-- Only the stopped outputs get new tasks. -/
theorem InputInfo.OwnsOutputs.restartStopped_launchesFor (h : info.OwnsOutputs own i)
    (env : Env) (rt : Runtime) : LaunchesFor i (· ∈ info.stoppedOutputs) rt
      (StreamGateway.restartStopped env info rt).2 := by
  have hdrained : InputInfo.OwnsOutputs own i { info with stoppedOutputs := ∅ } :=
    ⟨h.id, h.running, fun _ _ hc => absurd hc (by simp)⟩
  refine hdrained.startOutputs_launchesFor (fun k config hm =>
    h.stopped k config (HashMap.mem_toPairs.mp hm)) fun k config hm => ?_
  exact HashMap.mem_iff.mpr ⟨_, HashMap.mem_toPairs.mp hm⟩

theorem recreateTask_launchesFor {plan : StartPlan} (h : plan.config.isSpts = false)
    (info : InputInfo) (rt : Runtime) (K : Int → Prop) :
    LaunchesFor plan.inputId K rt (recreateTask plan info rt).2 := by
  obtain ⟨spec, _, _, howner, _, _, _, hl⟩ := recreateTask_spawns h info rt
  refine hl.launchesFor fun t ht => ?_
  obtain rfl := List.mem_singleton.mp ht
  have howner : (rt.newTask spec).spec.owner = .input plan.inputId := howner
  rw [howner]
  exact ⟨rfl, fun _ hk => absurd hk (by simp [Owner.outputId])⟩

end LaunchesFor

/-! ## The senders of one input -/

/-- The entry holds the live senders of the input. -/
structure InputInfo.Serves (i : Int) (info : InputInfo) (rt : Runtime) : Prop where
  apart : ∀ k, k ∈ info.outputTasks → k ∉ info.stoppedOutputs
  held : ∀ t ∈ rt.live, ∀ k, t.spec.owner = .output i k →
    ∃ o, info.outputTasks.lookup k = some o ∧ o.abortHandle = some t

section Serves

variable {own : Int → Int} {i : Int} {info info' : InputInfo} {rt rt' : Runtime}

theorem InputInfo.Serves.same (h : info.Serves i rt) (hs : SameOutputs info info')
    (hlive : ∀ t ∈ rt'.live, ∀ k, t.spec.owner = .output i k → t ∈ rt.live) :
    info'.Serves i rt' := by
  constructor
  · rw [hs.outputTasks, hs.stoppedOutputs]
    exact h.apart
  · intro t ht k hk
    rw [hs.outputTasks]
    exact h.held t (hlive t ht k hk) k hk

/-- The entry with the started output holds its sender too. -/
theorem InputInfo.Serves.launch (h : info.Serves i rt) {k : Int} {spec : TaskSpec}
    {output : OutputInfo} (hl : Launch info i k rt spec output rt')
    (hrunning : k ∉ info.outputTasks) (hstopped : k ∉ info.stoppedOutputs) :
    InputInfo.Serves i { info with outputTasks := info.outputTasks.insert k output } rt' := by
  refine ⟨fun k' hk' => ?_, fun t ht k' hk' => ?_⟩
  · rcases (AList.mem_insert _).mp hk' with rfl | hk'
    · exact hstopped
    · exact h.apart k' hk'
  · rw [hl.launches.live] at ht
    rcases List.mem_append.mp ht with ht | ht
    · obtain ⟨o, ho, hhandle⟩ := h.held t ht k' hk'
      have hne : k' ≠ k := by
        rintro rfl
        exact hrunning (HashMap.mem_iff.mpr ⟨_, ho⟩)
      exact ⟨o, HashMap.lookup_insert_eq_some.mpr (.inr ⟨hne, ho⟩), hhandle⟩
    · obtain rfl := List.mem_singleton.mp ht
      obtain ⟨_, rfl⟩ := Owner.output.inj (hl.owner.symm.trans hk')
      exact ⟨output, HashMap.lookup_insert_eq_some.mpr (.inl ⟨rfl, rfl⟩), hl.handle⟩

theorem InputInfo.Serves.startOutputs {env : Env} {outputs : List (Int × CreateOutputRequest)}
    (h : info.Serves i rt) (hown : info.OwnsOutputs own i) (hstopped : info.stoppedOutputs = ∅)
    (hkeys : (outputs.map Prod.fst).Nodup)
    (ho : ∀ k config, (k, config) ∈ outputs → own k = i ∧ config.inputId = i)
    (hrunning : ∀ k config, (k, config) ∈ outputs → k ∉ info.outputTasks) :
    (startOutputs env outputs info rt).1.Serves i (startOutputs env outputs info rt).2 := by
  induction outputs generalizing info rt with
  | nil => exact h
  | cons output outputs ih =>
    obtain ⟨outputId, config⟩ := output
    obtain ⟨hk, hc⟩ := ho outputId config List.mem_cons_self
    obtain ⟨hfirst, hkeys'⟩ := List.nodup_cons.mp hkeys
    have hrest : ∀ k config, (k, config) ∈ outputs → own k = i ∧ config.inputId = i :=
      fun k config hm => ho k config (List.mem_cons_of_mem _ hm)
    have hrunning' : ∀ k config, (k, config) ∈ outputs → k ∉ info.outputTasks :=
      fun k config hm => hrunning k config (List.mem_cons_of_mem _ hm)
    simp only [StreamGateway.startOutputs]
    split
    · rename_i input' rt'' hstart
      have hown' := hown.startOutputInternal hk hc hstart
      obtain ⟨spec, output, hl, rfl⟩ := hown.launch hc hstart
      have hnot : outputId ∉ info.stoppedOutputs := by
        rw [hstopped]
        exact AList.notMem_empty _
      refine ih (h.launch hl (hrunning outputId config List.mem_cons_self) hnot) hown' hstopped
        hkeys' hrest fun k config' hm hk' => ?_
      rcases (AList.mem_insert _).mp hk' with rfl | hk'
      · exact hfirst (List.mem_map.mpr ⟨_, hm, rfl⟩)
      · exact hrunning' k config' hm hk'
    · exact ih h hown hstopped hkeys' hrest hrunning'

/-- All stopped outputs are started, and none of them runs before. -/
theorem InputInfo.Serves.restartStopped (h : info.Serves i rt) (hown : info.OwnsOutputs own i)
    (env : Env) : (restartStopped env info rt).1.Serves i (restartStopped env info rt).2 := by
  have hdrained : InputInfo.Serves i { info with stoppedOutputs := ∅ } rt :=
    ⟨fun _ _ => AList.notMem_empty _, h.held⟩
  have hown' : InputInfo.OwnsOutputs own i { info with stoppedOutputs := ∅ } :=
    ⟨hown.id, hown.running, fun _ _ hc => absurd hc (by simp)⟩
  refine hdrained.startOutputs hown' rfl (HashMap.nodup_keys_toPairs _)
    (fun k config hm => hown.stopped k config (HashMap.mem_toPairs.mp hm)) fun k config hm hk => ?_
  exact h.apart k hk (HashMap.mem_iff.mpr ⟨_, HashMap.mem_toPairs.mp hm⟩)

/-- The senders of the running outputs are aborted, and a dropped output has none. -/
theorem InputInfo.Serves.stopInputInfo (h : info.Serves i rt)
    (hdropped : ∀ k o t, info.outputTasks.lookup k = some o → o.status.isActive = false →
      o.abortHandle = some t → t ∉ rt.live) :
    (stopInputInfo info rt).1.Serves i (stopInputInfo info rt).2 := by
  constructor
  · intro k hk
    exact absurd hk (AList.notMem_empty _)
  intro t ht k hk
  have haborted := ((aborts_abortHandle rt info.taskHandle).trans
    (aborts_stopOutputs info.outputTasks.toPairs (rt.abortHandle info.taskHandle))).trans
      (aborts_abortAnalyses info.analysisTasks.toPairs _)
  obtain ⟨hlive, hnot⟩ := haborted.live_subset _ ht
  obtain ⟨o, ho, hhandle⟩ := h.held t hlive k hk
  refine absurd ?_ hnot
  cases hactive : o.status.isActive with
  | false => exact absurd hlive (hdropped k o t ho hactive hhandle)
  | true =>
    have hmem : t ∈ (info.outputTasks.toPairs.filter fun o => o.2.status.isActive).flatMap
        fun o => o.2.abortHandle.toList :=
      List.mem_flatMap.mpr ⟨(k, o), List.mem_filter.mpr ⟨HashMap.mem_toPairs.mpr ho, hactive⟩,
        Option.mem_toList.mpr hhandle⟩
    exact List.mem_append_left _ (List.mem_append_right _ hmem)

/-- A stopped output has no sender, so it can go to `stopped_outputs`. -/
theorem InputInfo.Serves.stopOutput (h : info.Serves i rt) {k : Int} {o : OutputInfo}
    (ho : info.outputTasks.lookup k = some o) :
    InputInfo.Serves i { info with
      outputTasks := info.outputTasks.erase k
      stoppedOutputs := info.stoppedOutputs.insert k o.config } (rt.abortHandle o.abortHandle) := by
  constructor
  · intro k' hk' hstopped
    obtain ⟨hne, hk'⟩ := AList.mem_erase.mp hk'
    rcases (AList.mem_insert _).mp hstopped with heq | hstopped
    · exact hne heq
    · exact h.apart k' hk' hstopped
  · intro t ht k' hk'
    obtain ⟨hlive, hnot⟩ := (aborts_abortHandle rt o.abortHandle).live_subset _ ht
    obtain ⟨o', ho', hhandle⟩ := h.held t hlive k' hk'
    refine ⟨o', HashMap.lookup_erase_eq_some.mpr ⟨?_, ho'⟩, hhandle⟩
    rintro rfl
    obtain rfl := Option.some.inj (ho.symm.trans ho')
    exact hnot (Option.mem_toList.mpr hhandle)

theorem InputInfo.Serves.insertStopped (h : info.Serves i rt) {k : Int}
    (config : CreateOutputRequest) (hk : k ∉ info.outputTasks) :
    InputInfo.Serves i { info with stoppedOutputs := info.stoppedOutputs.insert k config } rt := by
  refine ⟨fun k' hk' hstopped => ?_, h.held⟩
  rcases (AList.mem_insert _).mp hstopped with rfl | hstopped
  · exact hk hk'
  · exact h.apart k' hk' hstopped

theorem InputInfo.Serves.eraseStopped (h : info.Serves i rt) (k : Int) :
    InputInfo.Serves i { info with stoppedOutputs := info.stoppedOutputs.erase k } rt :=
  ⟨fun k' hk' hstopped => h.apart k' hk' (AList.mem_erase.mp hstopped).2, h.held⟩

theorem InputInfo.Serves.outputStatus (h : info.Serves i rt) {k : Int} {o o' : OutputInfo}
    (ho : info.outputTasks.lookup k = some o) (hhandle : o'.abortHandle = o.abortHandle) :
    InputInfo.Serves i { info with outputTasks := info.outputTasks.insert k o' } rt := by
  constructor
  · intro k' hk'
    rcases (AList.mem_insert _).mp hk' with rfl | hk'
    · exact h.apart k' (HashMap.mem_iff.mpr ⟨_, ho⟩)
    · exact h.apart k' hk'
  · intro t ht k' hk'
    obtain ⟨o₁, ho₁, hh₁⟩ := h.held t ht k' hk'
    by_cases hkk : k' = k
    · subst hkk
      obtain rfl := Option.some.inj (ho.symm.trans ho₁)
      exact ⟨o', HashMap.lookup_insert_eq_some.mpr (.inl ⟨rfl, rfl⟩), hhandle.trans hh₁⟩
    · exact ⟨o₁, HashMap.lookup_insert_eq_some.mpr (.inr ⟨hkk, ho₁⟩), hh₁⟩

end Serves

/-! ## All inputs -/

/-- Every entry holds the live senders of its input, and no other sender lives. -/
structure World.Served (w : World) : Prop where
  entries : w.Each fun i info => info.Serves i w.rt
  known : ∀ t ∈ w.rt.live, ∀ i k, t.spec.owner = .output i k → i ∈ w.streams

section Served

variable {own : Int → Int} {w w' : World}

theorem World.Served.insert (h : w.Served) {i : Int} {K : Int → Prop} {info' : InputInfo}
    (hi : i ∈ w.streams) (hs : w'.streams = w.streams.insert i info')
    (hserves : info'.Serves i w'.rt) (hlive : LaunchesFor i K w.rt w'.rt) : w'.Served := by
  have hold : ∀ t ∈ w'.rt.live, ∀ j k, t.spec.owner = .output j k → j ≠ i → t ∈ w.rt.live := by
    intro t ht j k hj hne
    refine (hlive t ht).resolve_left fun heq => hne ?_
    rw [hj] at heq
    exact heq.1
  constructor
  · intro j info hj
    rw [hs] at hj
    rcases HashMap.lookup_insert_eq_some.mp hj with ⟨rfl, rfl⟩ | ⟨hne, hj⟩
    · exact hserves
    · exact (h.entries j info hj).same ⟨rfl, rfl, rfl⟩ fun t ht k hk => hold t ht j k hk hne
  · intro t ht j k hj
    rw [hs]
    by_cases hji : j = i
    · exact (AList.mem_insert _).mpr (.inl hji)
    · exact (AList.mem_insert _).mpr (.inr (h.known t (hold t ht j k hj hji) j k hj))

theorem World.Served.same (h : w.Served) (hs : w'.streams = w.streams)
    (hlive : ∀ t ∈ w'.rt.live, ∀ i k, t.spec.owner = .output i k → t ∈ w.rt.live) :
    w'.Served := by
  constructor
  · intro i info hi
    rw [hs] at hi
    exact (h.entries i info hi).same ⟨rfl, rfl, rfl⟩ fun t ht k hk => hlive t ht i k hk
  · intro t ht i k hk
    rw [hs]
    exact h.known t (hlive t ht i k hk) i k hk

theorem World.Served.launches (h : w.Served) {ts : List Task} (hs : w'.streams = w.streams)
    (hl : Launches ts w.rt w'.rt) (hts : ∀ t ∈ ts, t.spec.owner.outputId = none) :
    w'.Served := by
  refine h.same hs fun t ht i k hk => ?_
  rw [hl.live] at ht
  refine (List.mem_append.mp ht).resolve_right fun ht => ?_
  have hnone := hts t ht
  rw [hk] at hnone
  exact absurd hnone (by simp [Owner.outputId])

theorem mem_of_lookup {i : Int} {info : InputInfo} (hi : w.streams.lookup i = some info) :
    i ∈ w.streams :=
  HashMap.mem_iff.mpr ⟨_, hi⟩

theorem World.Served.restartSection (h : w.Served) (hown : w.Each (InputInfo.OwnsOutputs own))
    (env : Env) {plan : StartPlan} (hspts : plan.config.isSpts = false) :
    (restartSection env plan w).2.Served := by
  unfold StreamGateway.restartSection
  split
  · exact h
  rename_i info hi
  have hinfo := (hown plan.inputId info hi).recreateTask plan w.rt
  have hlaunch := recreateTask_launchesFor hspts info w.rt
    (· ∈ (recreateTask plan info w.rt).1.stoppedOutputs)
  have hserves : (recreateTask plan info w.rt).1.Serves plan.inputId
      (recreateTask plan info w.rt).2 := by
    obtain ⟨spec, _, _, howner, _, _, hframe, hl⟩ := recreateTask_spawns hspts info w.rt
    refine (h.entries plan.inputId info hi).same ?_ fun t ht k hk => ?_
    · rw [hframe]
      exact ⟨rfl, rfl, rfl⟩
    · rw [hl.live] at ht
      refine (List.mem_append.mp ht).resolve_right fun ht => ?_
      obtain rfl := List.mem_singleton.mp ht
      exact absurd (howner.symm.trans hk) (by simp)
  exact h.insert (mem_of_lookup hi) rfl
    ((hserves.restartStopped hinfo env).same ⟨rfl, rfl, rfl⟩ fun _ ht _ _ => ht)
    (hlaunch.trans (hinfo.restartStopped_launchesFor env _))

theorem World.Served.sptsInstallSection (h : w.Served)
    (hown : w.Each (InputInfo.OwnsOutputs own)) (env : Env) (i : Int) (new : InputInfo) :
    (sptsInstallSection env i new w).2.Served := by
  unfold StreamGateway.sptsInstallSection
  split
  · exact h
  rename_i info hi
  have hsame : SameOutputs info { info with
      taskHandle := new.taskHandle
      packetTx := new.packetTx
      status := .listening
      startedAt := some w.rt.clock } := ⟨rfl, rfl, rfl⟩
  have hinfo := (hown i info hi).same hsame
  have hserves := (h.entries i info hi).same hsame fun t ht _ _ => ht
  exact h.insert (mem_of_lookup hi) rfl
    ((hserves.restartStopped hinfo env).same ⟨rfl, rfl, rfl⟩ fun _ ht _ _ => ht)
    (hinfo.restartStopped_launchesFor env _)

theorem World.Served.stopInputSection (h : w.Served) (i : Int)
    (hdropped : ∀ info k o t, w.streams.lookup i = some info → info.status ≠ .stopped →
      info.outputTasks.lookup k = some o → o.status.isActive = false → o.abortHandle = some t →
      t ∉ w.rt.live) : (stopInputSection i w).2.Served := by
  unfold StreamGateway.stopInputSection
  split
  · exact h
  rename_i info hi
  split
  · exact h
  rename_i hstatus
  have haborted := ((aborts_abortHandle w.rt info.taskHandle).trans
    (aborts_stopOutputs info.outputTasks.toPairs (w.rt.abortHandle info.taskHandle))).trans
      (aborts_abortAnalyses info.analysisTasks.toPairs _)
  exact h.insert (mem_of_lookup hi) rfl ((h.entries i info hi).stopInputInfo
    fun k o t ho hactive hhandle => hdropped info k o t hi hstatus ho hactive hhandle)
    (haborted.launchesFor i fun _ => True)

theorem World.Served.startOutputSection (h : w.Served)
    (hown : w.Each (InputInfo.OwnsOutputs own)) (env : Env) (i k : Int) :
    (startOutputSection env i k w).2.Served := by
  unfold StreamGateway.startOutputSection
  split
  · exact h
  rename_i info hi
  have hinfo := hown i info hi
  have hserves := h.entries i info hi
  split
  · exact h
  split
  · rename_i config hc
    have hstopped : k ∈ info.stoppedOutputs := HashMap.mem_iff.mpr ⟨_, hc⟩
    dsimp only
    split
    · rename_i info' rt' hstart
      obtain ⟨spec, output, hl, rfl⟩ :=
        (hinfo.eraseStopped k).launch (hinfo.stopped k config hc).2 hstart
      have hrunning : k ∉ info.outputTasks := fun hk => hserves.apart k hk hstopped
      have herased : k ∉ info.stoppedOutputs.erase k :=
        fun hk => (AList.mem_erase.mp hk).1 rfl
      exact h.insert (mem_of_lookup hi) rfl
        ((hserves.eraseStopped k).launch hl hrunning herased)
        (hl.launchesFor (K := fun _ => True) trivial)
    · exact h.insert (mem_of_lookup hi) rfl (hserves.eraseStopped k) (.refl i (fun _ => True) w.rt)
  · split <;> exact h

theorem World.Served.stopOutputSection (h : w.Served) (i k : Int) :
    (stopOutputSection i k w).2.Served := by
  unfold StreamGateway.stopOutputSection
  split
  · exact h
  rename_i info hi
  split
  · rename_i output ho
    exact h.insert (mem_of_lookup hi) rfl ((h.entries i info hi).stopOutput ho)
      ((aborts_abortHandle w.rt output.abortHandle).launchesFor i fun _ => True)
  · split <;> exact h

theorem World.Served.applyProcessing (h : w.Served) : (applyProcessing w).2.Served := by
  have hlive : ∀ t ∈ (StreamGateway.applyProcessing w).2.rt.live, t ∈ w.rt.live := by
    intro t ht
    rwa [applyProcessing_live] at ht
  rcases applyProcessing_streams w with hs | ⟨e, _, hs⟩
  · exact h.same hs fun t ht _ _ _ => hlive t ht
  rcases applyChange_cases e.change w.streams with hc | ⟨i, info, info', hi, hc, hinfo⟩
  · exact h.same (hs.trans hc) fun t ht _ _ _ => hlive t ht
  have hserves : info'.Serves i w.rt := by
    rcases hinfo with ⟨status, connectedAt, sourceAddress, _, rfl⟩ |
      ⟨o, output, status, connectedAt, peerAddress, _, ho, rfl⟩
    · exact (h.entries i info hi).same ⟨rfl, rfl, rfl⟩ fun t ht _ _ => ht
    · exact (h.entries i info hi).outputStatus ho rfl
  exact h.insert (mem_of_lookup hi) (hs.trans hc)
    (hserves.same ⟨rfl, rfl, rfl⟩ fun t ht _ _ => hlive t ht)
    (launchesFor_of_live (K := fun _ => True) hlive)

end Served

/-- The acts of the requests on outputs. -/
def outputOps (op : Option Operation) : Prop := ∃ o, op = some o ∧ Operation.OnOutputs o

theorem Act.served {own : Int → Int} {h : Option LockMode} {w w' : World}
    (ha : Act (ownershipRely own) outputOps h w w') (hown : w.Each (InputInfo.OwnsOutputs own))
    (hw : w.Served) (hkept : SendersKept w w') : w'.Served := by
  have hnot : ∀ {o : Operation}, ¬ Operation.OnOutputs o → outputOps (some o) → w'.Served := by
    rintro o ho ⟨o', heq, ho'⟩
    obtain rfl := Option.some.inj heq
    exact absurd ho' ho
  have hquiet : Quiet w w' → w'.Served := fun hq =>
    hw.launches hq.streams hq.runtime fun _ h => absurd h List.not_mem_nil
  cases ha with
  | quiet hs hl => exact hw.launches hs hl fun _ h => absurd h List.not_mem_nil
  | launch t hl howner hs =>
    refine hw.launches hs hl fun t' ht' => ?_
    obtain rfl := List.mem_singleton.mp ht'
    exact howner
  | edit i info info' aborted hi hs hsame hl =>
    refine hw.insert (mem_of_lookup hi) hs ((hw.entries i info hi).same hsame ?_)
      (hl.launchesFor i fun _ => True)
    exact fun t ht _ _ => (hl.live_subset _ ht).1
  | restart env plan hspts => exact hw.restartSection hown env hspts
  | install env i new => exact hw.sptsInstallSection hown env i new
  | stopInput i =>
    exact hw.stopInputSection i fun info k o t hi hstatus ho hactive hhandle =>
      hkept.dropped i info k o t rfl hi hstatus ho hactive hhandle
  | startOutput env i k => exact hw.startOutputSection hown env i k
  | stopOutput i k => exact hw.stopOutputSection i k
  | setStopped env i k req merged =>
    unfold setStoppedConfig
    split
    · exact hw
    · rename_i info hi
      exact hw.insert (mem_of_lookup hi) rfl ((hw.entries i info hi).insertStopped merged
        (hkept.overwritten i k merged info rfl hi)) (.refl i (fun _ => True) w.rt)
  | removeInput i hops => exact hnot id hops
  | removeOutput i k hops => exact hnot id hops
  | insertInput called info hops => exact hnot id hops
  | insertInputs loaded hops => exact absurd hops (by simp [outputOps])
  | installOutput env called req i k row destination hops => exact hnot id hops
  | loadGroup env i hops => exact absurd hops (by simp [outputOps])
  | receive =>
    refine hw.same (receive_streams _) fun t ht _ _ _ => ?_
    rwa [receive_live] at ht
  | apply => exact hw.applyProcessing
  | saveInput env name called req hops => exact hnot id hops
  | inputStatus => exact hquiet (quiet_query _ _ _ _)
  | updateInput => exact hquiet (quiet_query _ _ _ _)
  | deleteInput env i => exact hquiet (quiet_deleteInputFromDb env i _)
  | saveOutput => exact hquiet (quiet_saveOutputToDb _ _ _ _ _ _ _ _)
  | outputStatus => exact hquiet (quiet_query _ _ _ _)
  | updateOutput => exact hquiet (quiet_query _ _ _ _)
  | deleteOutput => exact hquiet (quiet_query _ _ _ _)

theorem TaskStep.served {w w' : World} (ho : TaskStep w w') (h : w.Served) : w'.Served := by
  refine h.same ho.streams fun t ht _ _ _ => ?_
  cases ho with
  | send => exact ht
  | finish => exact (List.mem_filter.mp ht).1
  | tick => exact ht

/-! ## Runs -/

section Runs

variable {own : Int → Int}

/-- The keys belong to inputs, and every entry serves its outputs. -/
structure World.Serving (own : Int → Int) (w : World) : Prop where
  attributed : w.Attributed own
  served : w.Served

theorem World.Serving.oneSender {w : World} (h : w.Serving own) : w.OneSender := by
  have hheld : ∀ t ∈ w.rt.live, ∀ i k, t.spec.owner = .output i k → ∃ info o,
      w.streams.lookup i = some info ∧ info.outputTasks.lookup k = some o ∧
        o.abortHandle = some t := by
    intro t ht i k hk
    obtain ⟨info, hi⟩ := HashMap.mem_iff.mp (h.served.known t ht i k hk)
    obtain ⟨o, ho, hhandle⟩ := (h.served.entries i info hi).held t ht k hk
    exact ⟨info, o, hi, ho, hhandle⟩
  refine ⟨fun i info k hi => (h.served.entries i info hi).apart k, hheld, ?_⟩
  intro t ht t' ht' k hk hk'
  have howner : ∀ u : Task, u.spec.owner.outputId = some k → ∃ i, u.spec.owner = .output i k := by
    intro u hu
    cases ho : u.spec.owner with
    | output i k' =>
      rw [ho] at hu
      obtain rfl := Option.some.inj hu
      exact ⟨i, rfl⟩
    | input | analysis =>
      rw [ho] at hu
      exact absurd hu (by simp [Owner.outputId])
  obtain ⟨i, hi⟩ := howner t hk
  obtain ⟨i', hi'⟩ := howner t' hk'
  obtain ⟨info, o, hinfo, ho, hhandle⟩ := hheld t ht i k hi
  obtain ⟨info', o', hinfo', ho', hhandle'⟩ := hheld t' ht' i' k hi'
  have hown := ((h.attributed.entries i info hinfo).running k o ho).1
  have hown' := ((h.attributed.entries i' info' hinfo').running k o' ho').1
  obtain rfl := hown.symm.trans hown'
  obtain rfl := Option.some.inj (hinfo.symm.trans hinfo')
  obtain rfl := Option.some.inj (ho.symm.trans ho')
  exact Option.some.inj (hhandle.symm.trans hhandle')

theorem World.OneSender.served {w : World} (h : w.OneSender) : w.Served := by
  refine ⟨fun i info hi => ⟨fun k => h.apart i info k hi, fun t ht k hk => ?_⟩,
    fun t ht i k hk => ?_⟩
  · obtain ⟨info', o, hi', ho⟩ := h.held t ht i k hk
    obtain rfl := Option.some.inj (hi.symm.trans hi')
    exact ⟨o, ho⟩
  · obtain ⟨info, _, hi, _⟩ := h.held t ht i k hk
    exact mem_of_lookup hi

theorem serving_step {h : Option LockMode} {w w' : World}
    (hstep : Act (ownershipRely own) outputOps h w w' ∨ TaskStep w w') (hw : w.Serving own)
    (hkept : SendersKept w w') : w'.Serving own := by
  have hcreate : ∀ req, ¬ outputOps (some (.createOutput req)) := by
    rintro req ⟨o, heq, ho⟩
    obtain rfl := Option.some.inj heq
    exact ho
  rcases hstep with ha | ho
  · exact ⟨attributed_step (.inl ha) hw.attributed (ha.means hcreate hw.attributed),
      ha.served hw.attributed.entries hw.served hkept⟩
  · exact ⟨ho.attributed hw.attributed, ho.served hw.served⟩

theorem serving_fits : Pool.Fits (World.Serving own) (ownershipRely own)
    (Act (ownershipRely own) outputOps) OutputCall TaskStep
    (fun a b => SendersKept a.shared b.shared) where
  refl := fun h => ⟨h.attributed, h.attributed⟩
  calls := by
    rintro p s (⟨env, op, hop, rfl⟩ | rfl) _
    · exact op.acts env ⟨op, rfl, hop⟩ s
    · exact acts_processMessage s
  keeps := fun hi hstep hkept => serving_step hstep hi hkept
  relies := fun _ hi hstep hkept =>
    ⟨hi.attributed, (serving_step (hstep.imp_left fun h => h.2) hi hkept).attributed⟩

/-- From any state in which each output belongs to one input and has one sender, that is so
in every state of every run that keeps the senders. -/
theorem runs_oneSender {w : World} {p : Pool World} (hown : w.Attributed own) (h : w.OneSender)
    (hruns : Pool.Runs OutputCall TaskStep SendersKept ⟨w, []⟩ p) : p.shared.OneSender := by
  have hbehaving : Pool.Behaving (World.Serving own) (ownershipRely own)
      (Act (ownershipRely own) outputOps) ⟨w, []⟩ :=
    ⟨⟨hown, h.served⟩, List.Pairwise.nil, fun _ ht => absurd ht List.not_mem_nil⟩
  exact (hbehaving.runs serving_fits hruns).inv.oneSender

end Runs

/-! ## Two senders -/

/-- No entry has an output both running and stopped. -/
def World.keysApart (w : World) : Bool :=
  w.streams.entries.all fun e => e.2.outputTasks.keys.all fun k => k ∉ e.2.stoppedOutputs

/-- Every live sender is held by the entry of its output. -/
def World.sendersHeld (w : World) : Bool :=
  w.rt.live.all fun t => match t.spec.owner with
    | .output i k => (w.streams.lookup i).any fun info =>
        (info.outputTasks.lookup k).any fun o => o.abortHandle = some t
    | _ => true

/-- No output that is not active has a live sender. -/
def World.idleSilent (w : World) : Bool :=
  w.streams.entries.all fun e => e.2.outputTasks.entries.all fun o =>
    o.2.status.isActive || o.2.abortHandle.all fun t => t ∉ w.rt.live

theorem World.apart_of_keysApart {w : World} (h : w.keysApart = true) {i : Int} {info : InputInfo}
    {k : Int} (hi : w.streams.lookup i = some info) (hk : k ∈ info.outputTasks) :
    k ∉ info.stoppedOutputs := by
  have hentry := List.all_eq_true.mp h ⟨i, info⟩ (AList.mem_lookup_iff.mp hi)
  exact of_decide_eq_true (List.all_eq_true.mp hentry k hk)

theorem World.served_of_checks {w : World} (hapart : w.keysApart = true)
    (hheld : w.sendersHeld = true) : w.Served := by
  have hsender : ∀ t ∈ w.rt.live, ∀ i k, t.spec.owner = .output i k → ∃ info o,
      w.streams.lookup i = some info ∧ info.outputTasks.lookup k = some o ∧
        o.abortHandle = some t := by
    intro t ht i k hk
    have h := List.all_eq_true.mp hheld t ht
    simp only [hk] at h
    obtain ⟨info, hi, h⟩ := (Option.any_eq_true _ _).mp h
    obtain ⟨o, ho, h⟩ := (Option.any_eq_true _ _).mp h
    exact ⟨info, o, hi, ho, of_decide_eq_true h⟩
  refine ⟨fun i info hi => ⟨fun k hk => apart_of_keysApart hapart hi hk, fun t ht k hk => ?_⟩,
    fun t ht i k hk => ?_⟩
  · obtain ⟨info', o, hi', ho⟩ := hsender t ht i k hk
    obtain rfl := Option.some.inj (hi.symm.trans hi')
    exact ⟨o, ho⟩
  · obtain ⟨info, _, hi, _⟩ := hsender t ht i k hk
    exact mem_of_lookup hi

theorem sendersKept_of_checks {w w' : World}
    (h : (w'.keysApart && w.idleSilent) = true) : SendersKept w w' := by
  obtain ⟨hapart, hidle⟩ := Bool.and_eq_true_iff.mp h
  constructor
  · intro i k config info hw' hi hk
    have hset : w'.streams.lookup i =
        some { info with stoppedOutputs := info.stoppedOutputs.insert k config } := by
      rw [hw', setStoppedConfig, hi]
      exact AList.lookup_insert _
    exact World.apart_of_keysApart hapart hset hk (AList.mem_insert _ |>.mpr (.inl rfl))
  · intro i info k o t _ hi _ ho hactive hhandle
    have hentry := List.all_eq_true.mp hidle ⟨i, info⟩ (AList.mem_lookup_iff.mp hi)
    have houtput := List.all_eq_true.mp hentry ⟨k, o⟩ (AList.mem_lookup_iff.mp ho)
    simpa [hactive, hhandle] using houtput

theorem serving_halfServingWorld : ∃ own, halfServingWorld.Serving own := by
  obtain ⟨threads, _, hruns⟩ := runs_halfServingWorld
  obtain ⟨own, hown⟩ := runs_attributed consistent_empty hruns
  exact ⟨own, hown, World.served_of_checks (by decide +kernel) (by decide +kernel)⟩

/-- An update of the first output, which runs, next to another request. -/
def updatingPool (op : Operation) : Pool World :=
  ⟨halfServingWorld, [⟨(Operation.updateOutput 1 (outputUpdate none)).prog localEnv, none⟩,
    ⟨op.prog localEnv, none⟩]⟩

theorem runs_updatingPool {C : World → World → Prop} {op : Operation} (hop : op.OnOutputs)
    (hC : C halfServingWorld halfServingWorld) :
    Pool.Runs OutputCall TaskStep C ⟨halfServingWorld, []⟩ (updatingPool op) :=
  (Relation.ReflTransGen.single
    ⟨.call (.inl ⟨localEnv, .updateOutput 1 (outputUpdate none), trivial, rfl⟩), hC⟩).tail
    ⟨.call (.inl ⟨localEnv, op, hop, rfl⟩), hC⟩

/-- The second output is started between the stop and the start of the first one. -/
theorem updatingPool_oneSender :
    ∃ p, Pool.Runs OutputCall TaskStep SendersKept ⟨halfServingWorld, []⟩ p ∧
      p.shared.rt.live.map (fun t => t.spec.owner) = [.input 1, .output 1 2, .output 1 1] ∧
      p.shared.OneSender := by
  obtain ⟨own, hserving⟩ := serving_halfServingWorld
  have hview : ((updatingPool (.startOutput 1 2)).advances
      (fun w w' => w'.keysApart && w.idleSilent) (List.replicate 8 0 ++ List.replicate 3 1 ++
        List.replicate 7 0)).map (fun p => p.shared.rt.live.map fun t => t.spec.owner) =
      some [.input 1, .output 1 2, .output 1 1] := by
    decide +kernel
  obtain ⟨p, hp, hview⟩ := Option.map_eq_some_iff.mp hview
  have hcalls : Pool.Runs OutputCall TaskStep SendersKept ⟨halfServingWorld, []⟩
      (updatingPool (.startOutput 1 2)) :=
    runs_updatingPool trivial (sendersKept_of_checks (by decide +kernel))
  have hruns := hcalls.trans (Pool.runs_of_advances (fun _ _ => sendersKept_of_checks) _ hp)
  exact ⟨p, hruns, hview, runs_oneSender hserving.attributed hserving.oneSender hruns⟩

/-- The first output is started there, and then once more. -/
theorem updateOutput_starts_twice :
    ¬ ∀ own w p, w.Attributed own → w.OneSender →
      Pool.Runs OutputCall TaskStep (fun _ _ => True) ⟨w, []⟩ p → p.shared.OneSender := by
  intro h
  obtain ⟨own, hserving⟩ := serving_halfServingWorld
  have hview : ((updatingPool (.startOutput 1 1)).advances (fun _ _ => true)
      (List.replicate 8 0 ++ List.replicate 3 1 ++ List.replicate 7 0)).map
        (fun p => p.shared.rt.live.map fun t => (t.id, t.spec.owner)) =
      some [(0, .input 1), (3, .output 1 1), (4, .output 1 1)] := by
    decide +kernel
  obtain ⟨p, hp, hview⟩ := Option.map_eq_some_iff.mp hview
  have hcalls : Pool.Runs OutputCall TaskStep (fun _ _ => True) ⟨halfServingWorld, []⟩
      (updatingPool (.startOutput 1 1)) := runs_updatingPool trivial trivial
  have hruns := hcalls.trans (Pool.runs_of_advances (fun _ _ _ => trivial) _ hp)
  have hone := h own _ p hserving.attributed hserving.oneSender hruns
  have hmem : ∀ x, x ∈ [((0 : ℕ), Owner.input 1), (3, .output 1 1), (4, .output 1 1)] →
      ∃ t ∈ p.shared.rt.live, (t.id, t.spec.owner) = x := by
    intro x hx
    rw [← hview] at hx
    exact List.mem_map.mp hx
  obtain ⟨t, ht, heq⟩ := hmem (3, .output 1 1) (by simp)
  obtain ⟨t', ht', heq'⟩ := hmem (4, .output 1 1) (by simp)
  obtain ⟨hid, howner⟩ := Prod.mk.inj heq
  obtain ⟨hid', howner'⟩ := Prod.mk.inj heq'
  have hsame := hone.unique t ht t' ht' 1 (by rw [howner]; rfl) (by rw [howner']; rfl)
  rw [hsame, hid'] at hid
  exact absurd hid (by decide)

end StreamGateway
