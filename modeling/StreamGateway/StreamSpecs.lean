import StreamGateway.Api

/-!
# What the sections can do

Each lemma says everything that a function of the streams can do to an input and to the
runtime, so that the invariants of later modules need not look into the functions again.
-/
namespace StreamGateway

/-! ## Maps -/

namespace HashMap

variable {κ β : Type} [DecidableEq κ]

theorem mem_iff {m : HashMap κ β} {k : κ} : k ∈ m ↔ ∃ b, m.lookup k = some b :=
  AList.lookup_isSome.symm.trans Option.isSome_iff_exists

theorem mem_toPairs {m : HashMap κ β} {k : κ} {b : β} :
    (k, b) ∈ m.toPairs ↔ m.lookup k = some b := by
  rw [toPairs, List.mem_map]
  constructor
  · rintro ⟨⟨k', b'⟩, he, heq⟩
    obtain ⟨rfl, rfl⟩ := Prod.mk.inj heq
    exact AList.mem_lookup_iff.mpr he
  · intro h
    exact ⟨⟨k, b⟩, AList.mem_lookup_iff.mp h, rfl⟩

omit [DecidableEq κ] in
theorem nodup_keys_toPairs (m : HashMap κ β) : (m.toPairs.map Prod.fst).Nodup := by
  have h : m.toPairs.map Prod.fst = m.keys := by
    rw [toPairs, List.map_map]
    rfl
  rw [h]
  exact m.keys_nodup

omit [DecidableEq κ] in
theorem mem_keys_toPairs {m : HashMap κ β} {k : κ} :
    k ∈ m.toPairs.map Prod.fst ↔ k ∈ m := by
  rw [toPairs, List.map_map]
  exact Iff.rfl

theorem eq_empty {m : HashMap κ β} (h : ∀ k b, m.lookup k ≠ some b) : m = ∅ := by
  refine AList.ext (List.eq_nil_iff_forall_not_mem.mpr fun e he => ?_)
  exact h e.1 e.2 (AList.mem_lookup_iff.mpr he)

theorem lookup_insert_eq (m : HashMap κ β) (k k' : κ) (b : β) :
    (m.insert k b).lookup k' = if k' = k then some b else m.lookup k' := by
  by_cases hk : k' = k
  · subst hk
    simp
  · rw [if_neg hk, AList.lookup_insert_ne hk]

theorem lookup_erase_eq (m : HashMap κ β) (k k' : κ) :
    (m.erase k).lookup k' = if k' = k then none else m.lookup k' := by
  by_cases hk : k' = k
  · subst hk
    simp
  · rw [if_neg hk, AList.lookup_erase_ne hk]

theorem lookup_insert_eq_some {m : HashMap κ β} {k k' : κ} {b b' : β} :
    (m.insert k b).lookup k' = some b' ↔ k' = k ∧ b = b' ∨ k' ≠ k ∧ m.lookup k' = some b' := by
  rw [lookup_insert_eq]
  split
  · next hk => simp [hk]
  · next hk => simp [hk]

theorem lookup_erase_eq_some {m : HashMap κ β} {k k' : κ} {b : β} :
    (m.erase k).lookup k' = some b ↔ k' ≠ k ∧ m.lookup k' = some b := by
  rw [lookup_erase_eq]
  split
  · next hk => simp [hk]
  · next hk => simp [hk]

theorem lookup_extend_eq_some {m n : HashMap κ β} {k : κ} {b : β} :
    (m.extend n).lookup k = some b ↔
      n.lookup k = some b ∨ k ∉ n ∧ m.lookup k = some b := by
  exact AList.lookup_union_eq_some

end HashMap

/-! ## Tasks -/

/-- Tasks are spawned, and nothing else changes in the tasks and the messages. -/
structure Launches (tasks : List Task) (rt rt' : Runtime) : Prop where
  spawned : rt'.spawned = rt.spawned ++ tasks
  live : rt'.live = rt.live ++ tasks
  aborted : rt'.aborted = rt.aborted
  queue : rt'.queue = rt.queue
  processing : rt'.processing = rt.processing
  fresh : ∀ t ∈ tasks, rt.spawned.length ≤ t.id ∧ t.id < rt'.spawned.length

/-- Tasks are aborted, and nothing else changes in the tasks and the messages. -/
structure Aborts (tasks : List Task) (rt rt' : Runtime) : Prop where
  spawned : rt'.spawned = rt.spawned
  live : rt'.live = rt.live.filter (· ∉ tasks)
  aborted : rt'.aborted = rt.aborted ++ tasks
  queue : rt'.queue = rt.queue
  processing : rt'.processing = rt.processing

theorem Launches.nil {rt rt' : Runtime} (hs : rt'.spawned = rt.spawned)
    (hl : rt'.live = rt.live) (ha : rt'.aborted = rt.aborted) (hq : rt'.queue = rt.queue)
    (hp : rt'.processing = rt.processing) : Launches [] rt rt' :=
  ⟨by rw [hs, List.append_nil], by rw [hl, List.append_nil], ha, hq, hp,
    fun _ h => absurd h List.not_mem_nil⟩

theorem Launches.refl (rt : Runtime) : Launches [] rt rt := .nil rfl rfl rfl rfl rfl

theorem Launches.trans {ts us : List Task} {rt rt' rt'' : Runtime} (h : Launches ts rt rt')
    (h' : Launches us rt' rt'') : Launches (ts ++ us) rt rt'' := by
  refine ⟨by rw [h'.spawned, h.spawned, List.append_assoc],
    by rw [h'.live, h.live, List.append_assoc], h'.aborted.trans h.aborted,
    h'.queue.trans h.queue, h'.processing.trans h.processing, fun t ht => ?_⟩
  have hlen : rt.spawned.length ≤ rt'.spawned.length := by simp [h.spawned]
  have hlen' : rt'.spawned.length ≤ rt''.spawned.length := by simp [h'.spawned]
  rcases List.mem_append.mp ht with ht | ht
  · have := h.fresh t ht
    omega
  · have := h'.fresh t ht
    omega

theorem Launches.record {ts : List Task} {rt rt' : Runtime} (h : Launches ts rt rt')
    (metric : Metric) : Launches ts rt (rt'.record metric) :=
  ⟨h.spawned, h.live, h.aborted, h.queue, h.processing, h.fresh⟩

theorem launches_spawn (rt : Runtime) (spec : TaskSpec) :
    Launches [rt.newTask spec] rt (rt.spawn spec) := by
  refine ⟨rfl, rfl, rfl, rfl, rfl, fun t ht => ?_⟩
  obtain rfl := List.mem_singleton.mp ht
  simp [Runtime.newTask, Runtime.spawn]

/-- The spawn of an input, which opens a channel first. -/
theorem launches_input (rt : Runtime) (spec : TaskSpec) :
    Launches [rt.newTask spec] rt ((rt.openChannel.spawn spec).record .incrementActiveInputs) :=
  ⟨rfl, rfl, rfl, rfl, rfl, (launches_spawn rt spec).fresh⟩

theorem Launches.subset {ts : List Task} {rt rt' : Runtime} (h : Launches ts rt rt') :
    ts ⊆ rt'.spawned := by
  rw [h.spawned]
  exact List.subset_append_right _ _

theorem Launches.later {ts : List Task} {rt rt' : Runtime} (h : Launches ts rt rt') :
    rt.spawned ⊆ rt'.spawned := by
  rw [h.spawned]
  exact List.subset_append_left _ _

theorem Aborts.refl (rt : Runtime) : Aborts [] rt rt := by
  refine ⟨rfl, ?_, (List.append_nil _).symm, rfl, rfl⟩
  simp

theorem Aborts.trans {ts us : List Task} {rt rt' rt'' : Runtime} (h : Aborts ts rt rt')
    (h' : Aborts us rt' rt'') : Aborts (ts ++ us) rt rt'' := by
  refine ⟨h'.spawned.trans h.spawned, ?_, by rw [h'.aborted, h.aborted, List.append_assoc],
    h'.queue.trans h.queue, h'.processing.trans h.processing⟩
  rw [h'.live, h.live, List.filter_filter]
  refine List.filter_congr fun t _ => ?_
  simp only [List.mem_append, not_or, Bool.decide_and]
  exact Bool.and_comm _ _

theorem Aborts.live_subset {aborted : List Task} {rt rt' : Runtime} (h : Aborts aborted rt rt') :
    ∀ t ∈ rt'.live, t ∈ rt.live ∧ t ∉ aborted := by
  intro t ht
  rw [h.live] at ht
  simpa using ht

theorem aborts_abort (rt : Runtime) (t : Task) : Aborts [t] rt (rt.abort t) := by
  refine ⟨rfl, ?_, rfl, rfl, rfl⟩
  simp [Runtime.abort]

theorem aborts_abortHandle (rt : Runtime) (handle : Option Task) :
    Aborts handle.toList rt (rt.abortHandle handle) := by
  cases handle with
  | none => exact .refl rt
  | some t => exact aborts_abort rt t

theorem Aborts.record {ts : List Task} {rt rt' : Runtime} (h : Aborts ts rt rt')
    (metric : Metric) : Aborts ts rt (rt'.record metric) :=
  ⟨h.spawned, h.live, h.aborted, h.queue, h.processing⟩

theorem Aborts.records {ts : List Task} {rt rt' : Runtime} (h : Aborts ts rt rt')
    (metric : Metric) {α : Type} (l : List α) :
    Aborts ts rt (l.foldl (fun rt _ => rt.record metric) rt') := by
  induction l generalizing rt' with
  | nil => exact h
  | cons _ l ih => exact ih (h.record metric)

theorem aborts_abortAnalyses (analyses : List (ℕ × AnalysisInfo)) (rt : Runtime) :
    Aborts (analyses.map fun a => a.2.taskHandle) rt (abortAnalyses analyses rt) := by
  induction analyses generalizing rt with
  | nil => exact .refl rt
  | cons a analyses ih => exact (aborts_abort rt a.2.taskHandle).trans (ih _)

theorem aborts_abortOutputs (outputs : List (Int × OutputInfo)) (rt : Runtime) :
    Aborts (outputs.flatMap fun o => o.2.abortHandle.toList) rt (abortOutputs outputs rt) := by
  induction outputs generalizing rt with
  | nil => exact .refl rt
  | cons o outputs ih => exact (aborts_abortHandle rt o.2.abortHandle).trans (ih _)

/-- The handles of the active outputs. -/
theorem aborts_stopOutputs (outputs : List (Int × OutputInfo)) (rt : Runtime) :
    Aborts ((outputs.filter fun o => o.2.status.isActive).flatMap fun o => o.2.abortHandle.toList)
      rt (stopOutputs outputs rt).2 := by
  induction outputs generalizing rt with
  | nil => exact .refl rt
  | cons o outputs ih =>
    obtain ⟨outputId, info⟩ := o
    by_cases h : info.status.isActive = true
    · simp only [stopOutputs, h, if_true, List.filter_cons_of_pos, List.flatMap_cons]
      exact (aborts_abortHandle rt info.abortHandle).trans (ih _)
    · simp only [stopOutputs, h, List.filter_cons_of_neg, Bool.false_eq_true, if_false,
        not_false_eq_true]
      exact ih rt

/-- The entry of an input holds the task. -/
inductive InputInfo.Holds (info : InputInfo) (t : Task) : Prop
  | input : info.taskHandle = some t → info.Holds t
  | output (k : Int) (o : OutputInfo) : info.outputTasks.lookup k = some o →
      o.abortHandle = some t → info.Holds t
  | analysis (k : ℕ) (a : AnalysisInfo) : info.analysisTasks.lookup k = some a →
      a.taskHandle = t → info.Holds t

theorem holds_of_mem_analyses {info : InputInfo} {t : Task}
    (h : t ∈ info.analysisTasks.toPairs.map fun a => a.2.taskHandle) : info.Holds t := by
  obtain ⟨⟨k, a⟩, ha, rfl⟩ := List.mem_map.mp h
  exact .analysis k a (HashMap.mem_toPairs.mp ha) rfl

theorem holds_of_mem_outputs {info : InputInfo} {t : Task}
    (h : t ∈ info.outputTasks.toPairs.flatMap fun o => o.2.abortHandle.toList) :
    info.Holds t := by
  obtain ⟨⟨k, o⟩, ho, ht⟩ := List.mem_flatMap.mp h
  exact .output k o (HashMap.mem_toPairs.mp ho) (Option.mem_toList.mp ht)

/-- Tasks are spawned or aborted, and nothing else changes in the tasks and the messages. -/
structure Moves (launched aborted : List Task) (rt rt' : Runtime) : Prop where
  spawned : rt'.spawned = rt.spawned ++ launched
  live : rt'.live = rt.live.filter (· ∉ aborted) ++ launched
  aborted : rt'.aborted = rt.aborted ++ aborted
  queue : rt'.queue = rt.queue
  processing : rt'.processing = rt.processing
  fresh : ∀ t ∈ launched, rt.spawned.length ≤ t.id ∧ t.id < rt'.spawned.length

theorem Launches.moves {ts : List Task} {rt rt' : Runtime} (h : Launches ts rt rt') :
    Moves ts [] rt rt' :=
  ⟨h.spawned, by simp [h.live], by simp [h.aborted], h.queue, h.processing, h.fresh⟩

theorem Aborts.moves {ts : List Task} {rt rt' : Runtime} (h : Aborts ts rt rt') :
    Moves [] ts rt rt' :=
  ⟨by simp [h.spawned], by simp [h.live], h.aborted, h.queue, h.processing,
    fun _ h => absurd h List.not_mem_nil⟩

/-- What is done to a running or stopped input and leaves it so. Outputs may be started and
outputs and analyses stopped. -/
structure Tended (info info' : InputInfo) (launched aborted : List Task) : Prop where
  id : info'.id = info.id
  status : info'.status = info.status
  packetTx : info'.packetTx = info.packetTx
  taskHandle : info'.taskHandle = info.taskHandle
  outputs : ∀ k o, info'.outputTasks.lookup k = some o → info.outputTasks.lookup k = some o ∨
    ∃ t ∈ launched, o.abortHandle = some t
  analyses : ∀ k a, info'.analysisTasks.lookup k = some a → info.analysisTasks.lookup k = some a
  outputIds : ∀ t ∈ launched, t.spec.owner.outputId.isSome
  distinct : (launched.map fun t => t.spec.owner.outputId).Nodup
  held : ∀ t ∈ aborted, info.Holds t

/-! ## Outputs -/

/-- A new output is spawned for the given stream. It receives from the channel of its input,
its record holds the handle, and its configuration names the same input. -/
structure Launch (input : InputInfo) (inputId outputId : Int) (rt : Runtime)
    (spec : TaskSpec) (output : OutputInfo) (rt' : Runtime) : Prop where
  owner : spec.owner = .output inputId outputId
  packetRx : spec.packetRx = some input.packetTx
  handle : output.abortHandle = some (rt.newTask spec)
  outputId_eq : output.id = outputId
  inputId_eq : output.inputId = inputId
  config : output.config.inputId = inputId
  active : output.status.isActive = true
  runtime : rt' = (rt.spawn spec).record .incrementActiveOutputs

theorem Launch.launches {input : InputInfo} {inputId outputId : Int} {rt rt' : Runtime}
    {spec : TaskSpec} {output : OutputInfo} (h : Launch input inputId outputId rt spec output rt') :
    Launches [rt.newTask spec] rt rt' := by
  rw [h.runtime]
  exact (launches_spawn rt spec).record _

theorem createUdpOutput_ok {env : Env} {destinationAddr : String} {input : InputInfo}
    {outputId : Int} {name bindHost : Option String}
    {multicastConfig : Option MulticastOutputConfig} {stateTx : Option StateChangeSender}
    {rt rt' : Runtime} {output : OutputInfo}
    (h : createUdpOutput env destinationAddr input outputId name bindHost multicastConfig stateTx
      rt = .ok (output, rt')) :
    ∃ destAddr, resolve env destinationAddr = .ok destAddr ∧
      let finalName := name.or (some ("UDP Output to " ++ destinationAddr))
      let spec := TaskSpec.udpOutput input.id outputId finalName destAddr bindHost multicastConfig
        input.packetTx
      output = udpOutputInfo destinationAddr input outputId finalName bindHost multicastConfig
        stateTx (rt.newTask spec) rt.clock ∧
      rt' = (rt.spawn spec).record .incrementActiveOutputs := by
  unfold createUdpOutput at h
  cases hr : resolve env destinationAddr with
  | error e =>
    rw [hr] at h
    exact absurd h (by simp [bind, Except.bind])
  | ok destAddr =>
    rw [hr] at h
    obtain ⟨rfl, rfl⟩ := Prod.mk.inj (Except.ok.inj h)
    exact ⟨destAddr, rfl, rfl, rfl⟩

theorem launch_createUdpOutput {env : Env} {destinationAddr : String} {input : InputInfo}
    {outputId : Int} {name bindHost : Option String}
    {multicastConfig : Option MulticastOutputConfig} {stateTx : Option StateChangeSender}
    {rt rt' : Runtime} {output : OutputInfo}
    (h : createUdpOutput env destinationAddr input outputId name bindHost multicastConfig stateTx
      rt = .ok (output, rt')) :
    ∃ spec, Launch input input.id outputId rt spec output rt' := by
  obtain ⟨destAddr, _, rfl, rfl⟩ := createUdpOutput_ok h
  exact ⟨_, rfl, rfl, rfl, rfl, rfl, rfl, rfl, rfl⟩

theorem launch_createSrtOutput (inputId : Int) (cfg : SrtOutputConfig) (input : InputInfo)
    (outputId : Int) (name : Option String) (stateTx : Option StateChangeSender) (rt : Runtime) :
    ∃ spec, Launch input inputId outputId rt spec
      (createSrtOutput inputId cfg input outputId name stateTx rt).1
      (createSrtOutput inputId cfg input outputId name stateTx rt).2 := by
  refine ⟨_, ⟨rfl, rfl, rfl, rfl, rfl, rfl, ?_, rfl⟩⟩
  cases cfg <;> rfl

/-- The input that a restarted output is registered for: its own, or for SRT the one that
the configuration names. -/
def restartInputId (input : InputInfo) (config : CreateOutputRequest) : Int :=
  match config with
  | .udp .. => input.id
  | .srt inputId _ _ => inputId

theorem startOutputInternal_ok {env : Env} {input input' : InputInfo} {outputId : Int}
    {config : CreateOutputRequest} {rt rt' : Runtime}
    (h : startOutputInternal env input outputId config rt = .ok (input', rt')) :
    ∃ spec output, Launch input (restartInputId input config) outputId rt spec output rt' ∧
      input' = { input with outputTasks := input.outputTasks.insert outputId output } := by
  cases config with
  | udp inputId remoteHost remotePort automaticPort name bindHost multicastTtl
      multicastInterface destinationAddr =>
    simp only [startOutputInternal] at h
    split at h
    · exact absurd h (by simp)
    · rename_i output rt'' hc
      obtain ⟨rfl, rfl⟩ := Prod.mk.inj (Except.ok.inj h)
      obtain ⟨spec, hl⟩ := launch_createUdpOutput hc
      exact ⟨spec, output, hl, rfl⟩
  | srt inputId name config =>
    obtain ⟨rfl, rfl⟩ := Prod.mk.inj (Except.ok.inj h)
    obtain ⟨spec, hl⟩ :=
      launch_createSrtOutput inputId config input outputId name rt.stateChangeTx rt
    exact ⟨spec, _, hl, rfl⟩

/-- Outputs with some of the given ids were started for an input, each with its own task on
the channel of the input. -/
structure Started (input input' : InputInfo) (ids : List Int) (tasks : List Task)
    (rt rt' : Runtime) : Prop where
  frame : input' = { input with outputTasks := input'.outputTasks }
  launches : Launches tasks rt rt'
  ids : (tasks.map fun t => t.spec.owner.outputId).Sublist (ids.map some)
  packetRx : ∀ t ∈ tasks, t.spec.packetRx = some input.packetTx
  handle : ∀ k o, input'.outputTasks.lookup k = some o → input.outputTasks.lookup k = some o ∨
    o.status.isActive = true ∧ ∃ t ∈ tasks, o.abortHandle = some t

theorem Started.refl (input : InputInfo) (ids : List Int) (rt : Runtime) :
    Started input input ids [] rt rt :=
  ⟨rfl, .refl rt, List.nil_sublist _, fun _ h => absurd h List.not_mem_nil, fun _ _ h => .inl h⟩

theorem Started.skip {input input' : InputInfo} {ids : List Int} {tasks : List Task}
    {rt rt' : Runtime} (h : Started input input' ids tasks rt rt') (id : Int) :
    Started input input' (id :: ids) tasks rt rt' :=
  ⟨h.frame, h.launches, h.ids.cons _, h.packetRx, h.handle⟩

theorem Started.trans {input input' input'' : InputInfo} {ids ids' : List Int}
    {ts us : List Task} {rt rt' rt'' : Runtime} (h : Started input input' ids ts rt rt')
    (h' : Started input' input'' ids' us rt' rt'') :
    Started input input'' (ids ++ ids') (ts ++ us) rt rt'' := by
  have hrx : input'.packetTx = input.packetTx := by rw [h.frame]
  refine ⟨?_, h.launches.trans h'.launches, ?_, ?_, ?_⟩
  · rw [h'.frame, h.frame]
  · rw [List.map_append, List.map_append]
    exact h.ids.append h'.ids
  · intro t ht
    rcases List.mem_append.mp ht with ht | ht
    · exact h.packetRx t ht
    · rw [h'.packetRx t ht, hrx]
  · intro k o ho
    rcases h'.handle k o ho with ho | ⟨ha, t, ht, hh⟩
    · rcases h.handle k o ho with ho | ⟨ha, t, ht, hh⟩
      · exact .inl ho
      · exact .inr ⟨ha, t, List.mem_append_left _ ht, hh⟩
    · exact .inr ⟨ha, t, List.mem_append_right _ ht, hh⟩

theorem Launch.started {input : InputInfo} {inputId outputId : Int} {rt rt' : Runtime}
    {spec : TaskSpec} {output : OutputInfo}
    (h : Launch input inputId outputId rt spec output rt') :
    Started input { input with outputTasks := input.outputTasks.insert outputId output }
      [outputId] [rt.newTask spec] rt rt' := by
  refine ⟨rfl, h.launches, ?_, ?_, ?_⟩
  · show [spec.owner.outputId].Sublist [some outputId]
    rw [h.owner]
    exact .refl _
  · intro t ht
    obtain rfl := List.mem_singleton.mp ht
    exact h.packetRx
  · intro k o ho
    rcases HashMap.lookup_insert_eq_some.mp ho with ⟨_, rfl⟩ | ⟨_, ho⟩
    · exact .inr ⟨h.active, _, List.mem_singleton_self _, h.handle⟩
    · exact .inl ho

theorem startOutputInternal_started {env : Env} {input input' : InputInfo} {outputId : Int}
    {config : CreateOutputRequest} {rt rt' : Runtime}
    (h : startOutputInternal env input outputId config rt = .ok (input', rt')) :
    ∃ t, Started input input' [outputId] [t] rt rt' := by
  obtain ⟨spec, output, hl, rfl⟩ := startOutputInternal_ok h
  exact ⟨_, hl.started⟩

/-- What each started output keeps, they all keep. -/
theorem startOutputs_keeps {P : InputInfo → Runtime → Prop} {env : Env}
    {outputs : List (Int × CreateOutputRequest)} {input : InputInfo} {rt : Runtime}
    (hstart : ∀ k config input rt input' rt', (k, config) ∈ outputs → P input rt →
      startOutputInternal env input k config rt = .ok (input', rt') → P input' rt')
    (h : P input rt) :
    P (startOutputs env outputs input rt).1 (startOutputs env outputs input rt).2 := by
  induction outputs generalizing input rt with
  | nil => exact h
  | cons o outputs ih =>
    obtain ⟨outputId, config⟩ := o
    have hrest : ∀ k config input rt input' rt', (k, config) ∈ outputs → P input rt →
        startOutputInternal env input k config rt = .ok (input', rt') → P input' rt' :=
      fun k config input rt input' rt' hmem =>
        hstart k config input rt input' rt' (List.mem_cons_of_mem _ hmem)
    simp only [startOutputs]
    split
    · rename_i input' rt' hr
      exact ih hrest (hstart outputId config input rt input' rt' List.mem_cons_self h hr)
    · exact ih hrest h

theorem startOutputs_started (env : Env) (outputs : List (Int × CreateOutputRequest))
    (input : InputInfo) (rt : Runtime) :
    ∃ tasks, Started input (startOutputs env outputs input rt).1 (outputs.map Prod.fst) tasks rt
      (startOutputs env outputs input rt).2 := by
  induction outputs generalizing input rt with
  | nil => exact ⟨[], .refl input [] rt⟩
  | cons o outputs ih =>
    obtain ⟨outputId, config⟩ := o
    simp only [startOutputs]
    split
    · rename_i input' rt' h
      obtain ⟨t, ht⟩ := startOutputInternal_started h
      obtain ⟨tasks, hts⟩ := ih input' rt'
      exact ⟨t :: tasks, ht.trans hts⟩
    · obtain ⟨tasks, hts⟩ := ih input rt
      exact ⟨tasks, hts.skip outputId⟩

theorem restartStopped_started (env : Env) (input : InputInfo) (rt : Runtime) :
    ∃ tasks, Started { input with stoppedOutputs := ∅ } (restartStopped env input rt).1
      (input.stoppedOutputs.toPairs.map Prod.fst) tasks rt (restartStopped env input rt).2 :=
  startOutputs_started env input.stoppedOutputs.toPairs { input with stoppedOutputs := ∅ } rt

/-- The input keeps everything but its running and its stopped outputs. -/
theorem restartStopped_frame (env : Env) (input : InputInfo) (rt : Runtime) :
    (restartStopped env input rt).1 =
      { input with
        stoppedOutputs := ∅
        outputTasks := (restartStopped env input rt).1.outputTasks } := by
  obtain ⟨_, h⟩ := restartStopped_started env input rt
  exact h.frame

@[simp] theorem restartStopped_id (env : Env) (input : InputInfo) (rt : Runtime) :
    (restartStopped env input rt).1.id = input.id := by
  rw [restartStopped_frame]

@[simp] theorem restartStopped_pausedAnalysis (env : Env) (input : InputInfo) (rt : Runtime) :
    (restartStopped env input rt).1.pausedAnalysis = input.pausedAnalysis := by
  rw [restartStopped_frame]

@[simp] theorem restartStopped_stoppedOutputs (env : Env) (input : InputInfo) (rt : Runtime) :
    (restartStopped env input rt).1.stoppedOutputs = ∅ := by
  rw [restartStopped_frame]

@[simp] theorem recreateTask_id (plan : StartPlan) (input : InputInfo) (rt : Runtime) :
    (recreateTask plan input rt).1.id = input.id := by
  unfold recreateTask
  split <;> rfl

@[simp] theorem recreateTask_pausedAnalysis (plan : StartPlan) (input : InputInfo)
    (rt : Runtime) :
    (recreateTask plan input rt).1.pausedAnalysis = input.pausedAnalysis := by
  unfold recreateTask
  split <;> rfl

/-! ## Ports and conflicts -/

/-- A refusal has the status of an error, and otherwise the request stays as it is or gets a
port. -/
structure PortAssigned {ρ : Type} (req : ρ) (withPort : UInt16 → ρ)
    (r : Except Response (ρ × Option UInt16)) : Prop where
  refused : ∀ e, r = .error e → 400 ≤ e.status
  request : ∀ stored assignedPort, r = .ok (stored, assignedPort) →
    stored = req ∨ ∃ port, stored = withPort port

section Assigned

variable {ρ : Type} {req : ρ} {withPort : UInt16 → ρ}

theorem PortAssigned.none : PortAssigned req withPort (.ok (req, none)) := by
  refine ⟨fun _ h => absurd h (by simp), fun stored assignedPort h => ?_⟩
  exact .inl (Prod.mk.inj (Except.ok.inj h)).1.symm

theorem PortAssigned.some (port : UInt16) :
    PortAssigned req withPort (.ok (withPort port, .some port)) := by
  refine ⟨fun _ h => absurd h (by simp), fun stored assignedPort h => ?_⟩
  exact .inr ⟨port, (Prod.mk.inj (Except.ok.inj h)).1.symm⟩

theorem PortAssigned.error (message : String) :
    PortAssigned req withPort (.error (Response.internalServerError message)) := by
  refine ⟨fun e h => ?_, fun _ _ h => absurd h (by simp)⟩
  rw [← Except.error.inj h]
  simp [Response.internalServerError]

end Assigned

theorem reads_assignInputPort (env : Env) (req : CreateInputRequest) :
    Prog.Reads (assignInputPort env req) (PortAssigned req req.withAssignedPort) := by
  unfold assignInputPort
  split
  · refine (reads_findAvailablePort env).andThen fun r => ?_
    cases r with
    | ok port => exact .ret (.some port)
    | error e => exact .ret (.error _)
  · exact .ret .none

theorem reads_assignOutputPort (env : Env) (req : CreateOutputRequest) :
    Prog.Reads (assignOutputPort env req) (PortAssigned req req.withAssignedPort) := by
  unfold assignOutputPort
  split
  · refine (reads_findAvailablePort env).andThen fun r => ?_
    cases r with
    | ok port => exact .ret (.some port)
    | error e => exact .ret (.error _)
  · exact .ret .none

theorem reads_checkConflicts (env : Env) (inputId : Int) (destinationAddr : String)
    (listenPort : Option UInt16) :
    Prog.Reads (checkConflicts env inputId destinationAddr listenPort)
      fun r => ∀ e, r = .error e → 400 ≤ e.status := by
  have hok : ∀ e : Response, (.ok () : Except Response Unit) = .error e → 400 ≤ e.status :=
    fun _ h => absurd h (by simp)
  have herror : ∀ {e : Response}, 400 ≤ e.status →
      ∀ e', (.error e : Except Response Unit) = .error e' → 400 ≤ e'.status :=
    fun he _ h => Except.error.inj h ▸ he
  refine (Prog.Reads.atomic (select_world env _ _)).andThen fun r => ?_
  rcases r with e | _ | _
  · exact .ret (herror (by simp [databaseError, Response.internalServerError]))
  · cases listenPort with
    | none => exact .ret hok
    | some port =>
      refine (Prog.Reads.atomic (select_world env _ _)).andThen fun r => ?_
      rcases r with e | _ | _
      · exact .ret (herror (by simp [databaseError, Response.internalServerError]))
      · exact .ret hok
      · exact .ret (herror (by simp [Response.conflict]))
  · exact .ret (herror (by simp [Response.conflict]))

end StreamGateway
