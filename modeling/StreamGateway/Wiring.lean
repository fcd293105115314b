import StreamGateway.Growth
import StreamGateway.OutputSenders

/-!
# How the streams are wired

A task broadcasts on a channel of the input that it works for, and receives from the channel that
its source has when it is spawned. Starting an input opens a new channel and the old one stays
with the input, so a channel never carries packets of two inputs. What a call does to an input is
seen in its entry and in the tasks that work for it, and not in those of any other input.
-/
namespace StreamGateway

/-- The input whose packets the task receives. -/
def TaskSpec.source : TaskSpec → Option Int
  | .udpInput .. => none
  | .srtInput .. => none
  | .sptsInput _ _ sourceInputId .. => some sourceInputId
  | .udpOutput inputId .. => some inputId
  | .srtOutput inputId .. => some inputId
  | .analysis inputId .. => some inputId

theorem TaskSpec.source_of_output {spec : TaskSpec} {inputId outputId : Int}
    (h : spec.owner = .output inputId outputId) : spec.source = some inputId := by
  cases spec <;> simp_all [TaskSpec.owner, TaskSpec.source]

/-- The channel is open, and only tasks of the input broadcast on it. -/
def Runtime.Feeds (rt : Runtime) (i : Int) (c : ChannelId) : Prop :=
  c < rt.nextChannel ∧ ∀ t ∈ rt.spawned, t.spec.packetTx = some c → t.spec.owner = .input i

/-- The task receives from a channel of its source. -/
def Runtime.Subscribes (rt : Runtime) (spec : TaskSpec) : Prop :=
  ∀ i c, spec.source = some i → spec.packetRx = some c → rt.Feeds i c

/-- The tasks are numbered, and each receives from a channel of its source. -/
structure Runtime.Wired (rt : Runtime) : Prop where
  numbered : rt.Numbered
  subscribes : ∀ t ∈ rt.spawned, rt.Subscribes t.spec

/-- The channel of the entry is one of its input, and so are the tasks that it holds. -/
structure InputInfo.Wired (rt : Runtime) (i : Int) (info : InputInfo) : Prop where
  id : info.id = i
  feeds : rt.Feeds i info.packetTx
  held : ∀ t, info.Holds t → t.spec.owner.inputId = i

structure World.Wired (w : World) : Prop where
  runtime : w.rt.Wired
  entries : w.Each (InputInfo.Wired w.rt)

/-! ## The runtime -/

section Runtime

variable {K : Int → Prop} {rt rt' rt'' : Runtime} {i : Int} {c : ChannelId} {spec : TaskSpec}

theorem RuntimeStep.feeds (hs : RuntimeStep rt rt') (h : rt.Feeds i c) : rt'.Feeds i c := by
  cases hs with
  | openChannel => exact ⟨Nat.lt_succ_of_lt h.1, h.2⟩
  | spawn hnone =>
    refine ⟨h.1, fun t ht hc => ?_⟩
    rcases List.mem_append.mp ht with ht | ht
    · exact h.2 t ht hc
    · obtain rfl := List.mem_singleton.mp ht
      exact absurd (hnone.symm.trans hc) (by simp)
  | spawnInput hsome =>
    refine ⟨Nat.lt_succ_of_lt h.1, fun t ht hc => ?_⟩
    rcases List.mem_append.mp ht with ht | ht
    · exact h.2 t ht hc
    · obtain rfl := List.mem_singleton.mp ht
      have hnew : rt.nextChannel = c := Option.some.inj (hsome.symm.trans hc)
      exact absurd h.1 (hnew ▸ Nat.lt_irrefl _)
  | keep hc hs _ =>
    refine ⟨?_, ?_⟩
    · rw [hc]
      exact h.1
    · rw [hs]
      exact h.2

/-- A channel stays with its input. -/
theorem Grows.feeds (hg : Grows rt rt') (h : rt.Feeds i c) : rt'.Feeds i c := by
  induction hg with
  | refl => exact h
  | tail _ hs ih => exact hs.feeds ih

theorem Runtime.Subscribes.grows (h : rt.Subscribes spec) (hg : Grows rt rt') :
    rt'.Subscribes spec :=
  fun i c hi hc => hg.feeds (h i c hi hc)

/-- A new channel is one of the input whose task is spawned with it. -/
theorem Runtime.Numbered.feeds_spawnInput (h : rt.Numbered) (howner : spec.owner = .input i) :
    (rt.openChannel.spawn spec).Feeds i rt.nextChannel := by
  refine ⟨Nat.lt_succ_self _, fun t ht hc => ?_⟩
  rcases List.mem_append.mp ht with ht | ht
  · exact absurd (h.opened t _ ht hc) (Nat.lt_irrefl _)
  · obtain rfl := List.mem_singleton.mp ht
    exact howner

/-- A new channel without a task may become that of any input. -/
theorem Runtime.Numbered.feeds_openChannel (h : rt.Numbered) (i : Int) :
    rt.openChannel.Feeds i rt.nextChannel :=
  ⟨Nat.lt_succ_self _, fun t ht hc => absurd (h.opened t _ ht hc) (Nat.lt_irrefl _)⟩

/-- Tasks are spawned and aborted for inputs in `K` only, and those that are spawned receive from
their sources. -/
structure Runtime.Advances (K : Int → Prop) (rt rt' : Runtime) : Prop where
  grows : Grows rt rt'
  spawned : ∃ ts, rt'.spawned = rt.spawned ++ ts ∧ ∀ t ∈ ts, K t.spec.owner.inputId ∧
    rt'.Subscribes t.spec
  aborted : ∃ ts, rt'.aborted = rt.aborted ++ ts ∧ ∀ t ∈ ts, K t.spec.owner.inputId

namespace Runtime.Advances

theorem of_eq (hg : Grows rt rt') (hs : rt'.spawned = rt.spawned)
    (ha : rt'.aborted = rt.aborted) : rt.Advances K rt' :=
  ⟨hg, ⟨[], by rw [hs, List.append_nil], fun _ ht => absurd ht List.not_mem_nil⟩,
    [], by rw [ha, List.append_nil], fun _ ht => absurd ht List.not_mem_nil⟩

theorem refl (rt : Runtime) : rt.Advances K rt := of_eq (.refl rt) rfl rfl

theorem trans (h : rt.Advances K rt') (h' : rt'.Advances K rt'') : rt.Advances K rt'' := by
  obtain ⟨ts, hts, hfor⟩ := h.spawned
  obtain ⟨ts', hts', hfor'⟩ := h'.spawned
  obtain ⟨us, hus, husfor⟩ := h.aborted
  obtain ⟨us', hus', husfor'⟩ := h'.aborted
  refine ⟨h.grows.trans h'.grows, ⟨ts ++ ts', ?_, fun t ht => ?_⟩, us ++ us', ?_, fun t ht => ?_⟩
  · rw [hts', hts, List.append_assoc]
  · rcases List.mem_append.mp ht with ht | ht
    · exact ⟨(hfor t ht).1, (hfor t ht).2.grows h'.grows⟩
    · exact hfor' t ht
  · rw [hus', hus, List.append_assoc]
  · exact (List.mem_append.mp ht).elim (husfor t) (husfor' t)

theorem wired (h : rt.Advances K rt') (hw : rt.Wired) : rt'.Wired := by
  obtain ⟨ts, hts, hfor⟩ := h.spawned
  refine ⟨hw.numbered.grows h.grows, fun t ht => ?_⟩
  rw [hts] at ht
  rcases List.mem_append.mp ht with ht | ht
  · exact (hw.subscribes t ht).grows h.grows
  · exact (hfor t ht).2

theorem record (rt : Runtime) (metric : Metric) : rt.Advances K (rt.record metric) :=
  of_eq (.record rt metric) rfl rfl

theorem openChannel (rt : Runtime) : rt.Advances K rt.openChannel :=
  of_eq (.openChannel rt) rfl rfl

/-- An output or an analysis is spawned. -/
theorem spawn (hK : K spec.owner.inputId) (htx : spec.packetTx = none)
    (hrx : rt.Subscribes spec) : rt.Advances K (rt.spawn spec) := by
  have hg : Grows rt (rt.spawn spec) := .spawn htx
  refine ⟨hg, ⟨[rt.newTask spec], rfl, fun t ht => ?_⟩, [], (List.append_nil _).symm,
    fun _ ht => absurd ht List.not_mem_nil⟩
  obtain rfl := List.mem_singleton.mp ht
  exact ⟨hK, hrx.grows hg⟩

/-- An input is spawned, with its channel. -/
theorem spawnInput (hK : K spec.owner.inputId) (htx : spec.packetTx = some rt.nextChannel)
    (hrx : rt.Subscribes spec) :
    rt.Advances K ((rt.openChannel.spawn spec).record .incrementActiveInputs) := by
  have hg : Grows rt (rt.openChannel.spawn spec) := .spawnInput htx
  refine trans ⟨hg, ⟨[rt.newTask spec], rfl, fun t ht => ?_⟩, [], (List.append_nil _).symm,
    fun _ ht => absurd ht List.not_mem_nil⟩ (record _ _)
  obtain rfl := List.mem_singleton.mp ht
  exact ⟨hK, hrx.grows hg⟩

theorem launch {info : InputInfo} {k : Int} {output : OutputInfo} (hK : K i)
    (hc : rt.Feeds i info.packetTx) (h : Launch info i k rt spec output rt') :
    rt.Advances K rt' := by
  rw [h.runtime]
  refine (spawn ?_ (TaskSpec.packetTx_of_output h.owner) fun j c hj hc' => ?_).trans (record _ _)
  · rw [h.owner]
    exact hK
  · obtain rfl := Option.some.inj ((TaskSpec.source_of_output h.owner).symm.trans hj)
    obtain rfl := Option.some.inj (h.packetRx.symm.trans hc')
    exact hc

/-- Tasks of inputs in `K` are aborted. -/
theorem aborts {ts : List Task} (hg : Grows rt rt') (h : Aborts ts rt rt')
    (hK : ∀ t ∈ ts, K t.spec.owner.inputId) : rt.Advances K rt' :=
  ⟨hg, ⟨[], by rw [h.spawned, List.append_nil], fun _ ht => absurd ht List.not_mem_nil⟩,
    ts, h.aborted, hK⟩

theorem abortHandle {handle : Option Task}
    (hK : ∀ t, handle = some t → K t.spec.owner.inputId) :
    rt.Advances K (rt.abortHandle handle) :=
  aborts (.abortHandle rt handle) (aborts_abortHandle rt handle)
    fun t ht => hK t (Option.mem_toList.mp ht)

theorem records {α : Type} (l : List α) (metric : Metric) (rt : Runtime) :
    rt.Advances K (l.foldl (fun rt _ => rt.record metric) rt) := by
  induction l generalizing rt with
  | nil => exact refl rt
  | cons _ l ih => exact (record rt metric).trans (ih _)

end Runtime.Advances

end Runtime

/-! ## Entries -/

section Entries

variable {K : Int → Prop} {rt rt' : Runtime} {i : Int} {info info' : InputInfo}

theorem InputInfo.Wired.grows (h : info.Wired rt i) (hg : Grows rt rt') : info.Wired rt' i :=
  ⟨h.id, hg.feeds h.feeds, h.held⟩

theorem InputInfo.Wired.subscribes (h : info.Wired rt i) {spec : TaskSpec}
    (hsource : spec.source = some info.id) (hrx : spec.packetRx = some info.packetTx) :
    rt.Subscribes spec := by
  intro j c hj hc
  obtain rfl := Option.some.inj (hsource.symm.trans hj)
  obtain rfl := Option.some.inj (hrx.symm.trans hc)
  rw [h.id]
  exact h.feeds

/-- The entry holds no more tasks than before. -/
theorem InputInfo.Wired.of_maps (h : info.Wired rt i) (hid : info'.id = info.id)
    (htx : info'.packetTx = info.packetTx)
    (hhandle : ∀ t, info'.taskHandle = some t → info.taskHandle = some t)
    (houts : ∀ k o, info'.outputTasks.lookup k = some o → info.outputTasks.lookup k = some o)
    (hanalyses : ∀ k a, info'.analysisTasks.lookup k = some a →
      info.analysisTasks.lookup k = some a) : info'.Wired rt i := by
  refine ⟨hid.trans h.id, ?_, fun t ht => ?_⟩
  · rw [htx]
    exact h.feeds
  · cases ht with
    | input hh => exact h.held t (.input (hhandle t hh))
    | output k o ho hh => exact h.held t (.output k o (houts k o ho) hh)
    | analysis k a ha hh => exact h.held t (.analysis k a (hanalyses k a ha) hh)

theorem InputInfo.Wired.insertOutput (h : info.Wired rt i) {k : Int} {o : OutputInfo}
    (ho : ∀ t, o.abortHandle = some t → t.spec.owner.inputId = i) :
    InputInfo.Wired rt i { info with outputTasks := info.outputTasks.insert k o } := by
  refine ⟨h.id, h.feeds, fun t ht => ?_⟩
  cases ht with
  | input hh => exact h.held t (.input hh)
  | output k' o' ho' hh =>
    rcases HashMap.lookup_insert_eq_some.mp ho' with ⟨rfl, rfl⟩ | ⟨_, ho'⟩
    · exact ho t hh
    · exact h.held t (.output k' o' ho' hh)
  | analysis k' a ha hh => exact h.held t (.analysis k' a ha hh)

theorem InputInfo.Wired.insertAnalysis (h : info.Wired rt i) {k : ℕ} {a : AnalysisInfo}
    (ha : a.taskHandle.spec.owner.inputId = i) :
    InputInfo.Wired rt i { info with analysisTasks := info.analysisTasks.insert k a } := by
  refine ⟨h.id, h.feeds, fun t ht => ?_⟩
  cases ht with
  | input hh => exact h.held t (.input hh)
  | output k' o ho hh => exact h.held t (.output k' o ho hh)
  | analysis k' a' ha' hh =>
    rcases HashMap.lookup_insert_eq_some.mp ha' with ⟨rfl, rfl⟩ | ⟨_, ha'⟩
    · rw [← hh]
      exact ha
    · exact h.held t (.analysis k' a' ha' hh)

/-- The entry gets a new task and a new channel. -/
theorem InputInfo.Wired.renew (h : info.Wired rt i) (hid : info'.id = info.id)
    (hfeeds : rt'.Feeds i info'.packetTx)
    (hhandle : ∀ t, info'.taskHandle = some t → t.spec.owner.inputId = i)
    (houts : info'.outputTasks = info.outputTasks)
    (hanalyses : info'.analysisTasks = info.analysisTasks) : info'.Wired rt' i := by
  refine ⟨hid.trans h.id, hfeeds, fun t ht => ?_⟩
  cases ht with
  | input hh => exact hhandle t hh
  | output k o ho hh => exact h.held t (.output k o (houts ▸ ho) hh)
  | analysis k a ha hh => exact h.held t (.analysis k a (hanalyses ▸ ha) hh)

/-- The entry holds the tasks that it held. -/
theorem InputInfo.Wired.of_same (h : info.Wired rt i) (hid : info'.id = info.id)
    (htx : info'.packetTx = info.packetTx) (hhandle : info'.taskHandle = info.taskHandle)
    (houts : info'.outputTasks = info.outputTasks)
    (hanalyses : info'.analysisTasks = info.analysisTasks) : info'.Wired rt i := by
  refine h.renew hid ?_ (fun t ht => h.held t (.input (hhandle ▸ ht))) houts hanalyses
  rw [htx]
  exact h.feeds

/-- An entry without outputs and analyses. -/
theorem InputInfo.Wired.fresh (hid : info.id = i) (hfeeds : rt.Feeds i info.packetTx)
    (hhandle : ∀ t, info.taskHandle = some t → t.spec.owner.inputId = i)
    (houts : info.outputTasks = ∅) (hanalyses : info.analysisTasks = ∅) : info.Wired rt i := by
  refine ⟨hid, hfeeds, fun t ht => ?_⟩
  cases ht with
  | input hh => exact hhandle t hh
  | output k o ho hh =>
    rw [houts] at ho
    exact absurd ho (by simp)
  | analysis k a ha hh =>
    rw [hanalyses] at ha
    exact absurd ha (by simp)

/-- An output is started for the entry. -/
theorem InputInfo.Wired.launch (h : info.Wired rt i) {k : Int} {spec : TaskSpec}
    {output : OutputInfo} (hK : K i) (hl : Launch info i k rt spec output rt') :
    rt.Advances K rt' ∧
      InputInfo.Wired rt' i { info with outputTasks := info.outputTasks.insert k output } := by
  have ha : rt.Advances K rt' := .launch hK h.feeds hl
  refine ⟨ha, (h.grows ha.grows).insertOutput fun t ht => ?_⟩
  obtain rfl := Option.some.inj (hl.handle.symm.trans ht)
  show spec.owner.inputId = i
  rw [hl.owner]
  rfl

theorem InputInfo.Wired.startOutputs (h : info.Wired rt i) {env : Env}
    {outputs : List (Int × CreateOutputRequest)} (hK : K i)
    (ho : ∀ k config, (k, config) ∈ outputs → config.inputId = i) :
    rt.Advances K (startOutputs env outputs info rt).2 ∧
      (startOutputs env outputs info rt).1.Wired (startOutputs env outputs info rt).2 i := by
  refine startOutputs_keeps (P := fun input rt' => rt.Advances K rt' ∧ input.Wired rt' i)
    (fun k config input rt₁ input' rt₂ hmem hinput hr => ?_) ⟨.refl rt, h⟩
  obtain ⟨spec, output, hl, rfl⟩ := startOutputInternal_ok hr
  have hrestart : restartInputId input config = i := by
    cases config with
    | udp => exact hinput.2.id
    | srt => exact ho k _ hmem
  rw [hrestart] at hl
  obtain ⟨ha, hw⟩ := hinput.2.launch hK hl
  exact ⟨hinput.1.trans ha, hw⟩

theorem InputInfo.Wired.restartStopped (h : info.Wired rt i) (env : Env) (hK : K i)
    (ho : ∀ k config, info.stoppedOutputs.lookup k = some config → config.inputId = i) :
    rt.Advances K (restartStopped env info rt).2 ∧
      (restartStopped env info rt).1.Wired (restartStopped env info rt).2 i := by
  have hdrained : InputInfo.Wired rt i { info with stoppedOutputs := ∅ } :=
    h.of_same rfl rfl rfl rfl rfl
  exact hdrained.startOutputs hK fun k config hm => ho k config (HashMap.mem_toPairs.mp hm)

theorem InputInfo.Wired.loadOutputs (h : info.Wired rt i) (env : Env)
    (outputs : List (Int × OutputRow)) (hK : K i) :
    rt.Advances K (loadOutputs env i outputs info rt).2.2 ∧
      (loadOutputs env i outputs info rt).2.1.Wired (loadOutputs env i outputs info rt).2.2 i := by
  refine loadOutputs_keeps (P := fun input rt' => rt.Advances K rt' ∧ input.Wired rt' i)
    (fun k row input rt₁ input' rt₂ _ hinput hload => ?_) ⟨.refl rt, h⟩
  cases hload with
  | skipped => exact hinput
  | stopped => exact ⟨hinput.1, hinput.2.of_same rfl rfl rfl rfl rfl⟩
  | running hr =>
    obtain ⟨j, spec, hl⟩ := recreateOutput_launch hr
    obtain rfl : j = i := hl.inputId_eq.symm.trans (recreateOutput_inputId hinput.2.id hr).1
    obtain ⟨ha, hw⟩ := hinput.2.launch hK hl
    exact ⟨hinput.1.trans ha, hw⟩

theorem InputInfo.Wired.recreateTask {plan : StartPlan} (h : info.Wired rt plan.inputId)
    (hrt : rt.Wired) (hK : K plan.inputId) : rt.Advances K (recreateTask plan info rt).2 ∧
      (recreateTask plan info rt).1.Wired (recreateTask plan info rt).2 plan.inputId := by
  have hhandle : ∀ {rt₁ : Runtime} {spec : TaskSpec}, spec.owner = .input plan.inputId →
      ∀ t, some (rt₁.newTask spec) = some t → t.spec.owner.inputId = plan.inputId := by
    intro rt₁ spec howner t ht
    obtain rfl := Option.some.inj ht
    show spec.owner.inputId = _
    rw [howner]
    rfl
  unfold StreamGateway.recreateTask
  split
  · exact ⟨.spawnInput hK rfl fun j _ hj => absurd hj (by simp [TaskSpec.source]),
      h.renew rfl (hrt.numbered.feeds_spawnInput rfl) (hhandle rfl) rfl rfl⟩
  · exact ⟨.spawnInput hK rfl fun j _ hj => absurd hj (by simp [TaskSpec.source]),
      h.renew rfl (hrt.numbered.feeds_spawnInput rfl) (hhandle rfl) rfl rfl⟩
  · exact ⟨.refl rt, h⟩

/-- What is aborted when an entry is taken down are tasks of its input. -/
theorem InputInfo.Wired.aborts (h : info.Wired rt i) (hK : K i) {t : Task} (ht : info.Holds t) :
    K t.spec.owner.inputId := by
  rw [h.held t ht]
  exact hK

theorem InputInfo.Wired.abortAnalyses (h : info.Wired rt i) (hK : K i) (rt' : Runtime) :
    rt'.Advances K (abortAnalyses info.analysisTasks.toPairs rt') :=
  .aborts (.abortAnalyses _ _) (aborts_abortAnalyses _ _)
    fun _ ht => h.aborts hK (holds_of_mem_analyses ht)

theorem InputInfo.Wired.abortOutputs (h : info.Wired rt i) (hK : K i) (rt' : Runtime) :
    rt'.Advances K (abortOutputs info.outputTasks.toPairs rt') :=
  .aborts (.abortOutputs _ _) (aborts_abortOutputs _ _)
    fun _ ht => h.aborts hK (holds_of_mem_outputs ht)

theorem InputInfo.Wired.stopOutputs (h : info.Wired rt i) (hK : K i) (rt' : Runtime) :
    rt'.Advances K (stopOutputs info.outputTasks.toPairs rt').2 := by
  refine .aborts (.stopOutputs _ _) (aborts_stopOutputs _ _) fun t ht => ?_
  refine h.aborts hK (holds_of_mem_outputs ?_)
  obtain ⟨o, ho, ht⟩ := List.mem_flatMap.mp ht
  exact List.mem_flatMap.mpr ⟨o, List.mem_of_mem_filter ho, ht⟩

end Entries

/-! ## Rows -/

/-- The outputs of an input, as the load reads them. -/
def Database.outputsOf (db : Database) (i : Int) : List (Int × OutputRow) :=
  db.outputs.rows.filter fun r => r.2.inputId = i

/-- The rows of the inputs outside `K`, and those of their outputs, stay as they are. -/
structure Database.KeepsTo (K : Int → Prop) (db db' : Database) : Prop where
  inputs : ∀ i, ¬ K i → db'.inputs.find i = db.inputs.find i
  outputs : ∀ i, ¬ K i → db'.outputsOf i = db.outputsOf i

section Rows

variable {K : Int → Prop} {db db' : Database} {i : Int}

theorem Database.KeepsTo.of_eq (h : db' = db) : db.KeepsTo K db' := by
  subst h
  exact ⟨fun _ _ => rfl, fun _ _ => rfl⟩

theorem Database.KeepsTo.trans {db'' : Database} (h : db.KeepsTo K db')
    (h' : db'.KeepsTo K db'') : db.KeepsTo K db'' :=
  ⟨fun i hi => (h'.inputs i hi).trans (h.inputs i hi),
    fun i hi => (h'.outputs i hi).trans (h.outputs i hi)⟩

theorem Database.KeepsTo.of_inputs (ho : db'.outputs = db.outputs)
    (hi : ∀ i, ¬ K i → db'.inputs.find i = db.inputs.find i) : db.KeepsTo K db' :=
  ⟨hi, fun i _ => by rw [outputsOf, ho, outputsOf]⟩

theorem Database.keepsTo_insertInput (row : InputRow) (hK : K (db.inputs.lastId + 1)) :
    db.KeepsTo K { db with inputs := db.inputs.insert row } := by
  refine .of_inputs rfl fun i hi => ?_
  have hne : i ≠ db.inputs.lastId + 1 := fun heq => hi (heq ▸ hK)
  rw [Table.find_insert, if_neg hne]

theorem Database.keepsTo_updateInput (f : InputRow → InputRow) (hK : K i) :
    db.KeepsTo K { db with inputs := db.inputs.update i f } := by
  refine .of_inputs rfl fun j hj => ?_
  have hne : j ≠ i := fun heq => hj (heq ▸ hK)
  rw [Table.find_update, if_neg hne]

theorem Database.keepsTo_insertOutput {row : OutputRow} (hK : K row.inputId) :
    db.KeepsTo K { db with outputs := db.outputs.insert row } := by
  refine ⟨fun _ _ => rfl, fun j hj => ?_⟩
  have hne : row.inputId ≠ j := fun heq => hj (heq ▸ hK)
  simp [outputsOf, Table.insert, List.filter_append, hne]

/-- The rows that are deleted are outputs of inputs in `K`. -/
theorem Database.keepsTo_deleteOutputs {p : Int → OutputRow → Bool}
    (hp : ∀ k row, (k, row) ∈ db.outputs.rows → p k row = true → K row.inputId) :
    db.KeepsTo K { db with outputs := db.outputs.delete p } := by
  refine ⟨fun _ _ => rfl, fun j hj => ?_⟩
  rw [outputsOf, outputsOf, Table.delete, List.filter_filter]
  refine List.filter_congr fun r hr => ?_
  by_cases hinput : r.2.inputId = j
  · have hkept : p r.1 r.2 = false :=
      Bool.eq_false_iff.mpr fun hdel => hj (hinput ▸ hp r.1 r.2 hr hdel)
    simp [hinput, hkept]
  · simp [hinput]

/-- The row that is written is an output of an input in `K`, and stays one of it. -/
theorem Database.keepsTo_updateOutput {k : Int} {f : OutputRow → OutputRow}
    (hf : ∀ row, (f row).inputId = row.inputId)
    (hK : ∀ row, (k, row) ∈ db.outputs.rows → K row.inputId) :
    db.KeepsTo K { db with outputs := db.outputs.update k f } := by
  refine ⟨fun _ _ => rfl, fun j hj => ?_⟩
  have hrows : ∀ l : List (Int × OutputRow), l ⊆ db.outputs.rows →
      (l.map fun r => if r.1 = k then (r.1, f r.2) else r).filter (·.2.inputId = j) =
        l.filter (·.2.inputId = j) := by
    intro l hl
    induction l with
    | nil => rfl
    | cons r l ih =>
      have ih := ih fun x hx => hl (List.mem_cons_of_mem _ hx)
      rw [List.map_cons, List.filter_cons, List.filter_cons, ih]
      by_cases hk : r.1 = k
      · have hne : r.2.inputId ≠ j := fun heq =>
          hj (heq ▸ hK r.2 (hk ▸ hl List.mem_cons_self))
        simp [hk, hf, hne]
      · simp [hk]
  exact hrows _ (List.Subset.refl _)

end Rows

/-! ## Steps -/

/-- The step keeps to the inputs in `K`: the entries and the rows of the others stay as they are,
and no task is spawned or aborted for them. -/
structure KeepsTo (K : Int → Prop) (w w' : World) : Prop where
  runtime : w.rt.Advances K w'.rt
  entries : ∀ i, ¬ K i → w'.streams.lookup i = w.streams.lookup i
  rows : w.db.KeepsTo K w'.db
  wired : w'.Wired

section Steps

variable {K : Int → Prop} {own : Int → Int} {w w' : World} {i : Int}

/-- The entries and the database stay as they are. -/
theorem KeepsTo.of_runtime (h : w.Wired) (hs : w'.streams = w.streams) (hdb : w'.db = w.db)
    (ha : w.rt.Advances K w'.rt) : KeepsTo K w w' := by
  refine ⟨ha, fun j _ => by rw [hs], .of_eq hdb, ha.wired h.runtime, fun j info hj => ?_⟩
  rw [hs] at hj
  exact (h.entries j info hj).grows ha.grows

/-- The rows change alone. -/
theorem KeepsTo.of_rows (h : w.Wired) (hs : w'.streams = w.streams) (hrt : w'.rt = w.rt)
    (hrows : w.db.KeepsTo K w'.db) : KeepsTo K w w' := by
  refine ⟨?_, fun j _ => by rw [hs], hrows, ?_, fun j info hj => ?_⟩
  · rw [hrt]
    exact .refl w.rt
  · rw [hrt]
    exact h.runtime
  · rw [hs] at hj
    rw [hrt]
    exact h.entries j info hj

theorem KeepsTo.refl (h : w.Wired) : KeepsTo K w w := .of_rows h rfl rfl (.of_eq rfl)

theorem KeepsTo.insert (h : w.Wired) (hK : K i) {info' : InputInfo}
    (hs : w'.streams = w.streams.insert i info') (hdb : w'.db = w.db)
    (ha : w.rt.Advances K w'.rt) (hinfo : info'.Wired w'.rt i) : KeepsTo K w w' := by
  have hentries : w.Each (InputInfo.Wired w'.rt) :=
    fun j info hj => (h.entries j info hj).grows ha.grows
  refine ⟨ha, fun j hj => ?_, .of_eq hdb, ha.wired h.runtime, hentries.insert hs hinfo⟩
  rw [hs]
  exact AList.lookup_insert_ne fun heq => hj (heq ▸ hK)

/-- The entry is edited. -/
theorem KeepsTo.edit (h : w.Wired) (hK : K i) {info info' : InputInfo}
    (hi : w.streams.lookup i = some info) (hs : w'.streams = w.streams.insert i info')
    (hdb : w'.db = w.db) (ha : w.rt.Advances K w'.rt) (hid : info'.id = info.id)
    (htx : info'.packetTx = info.packetTx)
    (hhandle : ∀ t, info'.taskHandle = some t → info.taskHandle = some t)
    (houts : ∀ k o, info'.outputTasks.lookup k = some o → info.outputTasks.lookup k = some o)
    (hanalyses : ∀ k a, info'.analysisTasks.lookup k = some a →
      info.analysisTasks.lookup k = some a) : KeepsTo K w w' :=
  .insert h hK hs hdb ha
    (((h.entries i info hi).grows ha.grows).of_maps hid htx hhandle houts hanalyses)

/-- Stopped outputs are started again for the entry. -/
theorem KeepsTo.restarted (h : w.Wired) (hown : w.Each (InputInfo.OwnsOutputs own)) (env : Env)
    (hK : K i) {info info' info'' : InputInfo} {rt : Runtime}
    (hi : w.streams.lookup i = some info) (ha : w.rt.Advances K rt) (hinfo : info'.Wired rt i)
    (hstopped : info'.stoppedOutputs = info.stoppedOutputs)
    (hs : w'.streams = w.streams.insert i info'') (hdb : w'.db = w.db)
    (hrt : w'.rt = (restartStopped env info' rt).2)
    (hpaused : info'' = { (restartStopped env info' rt).1 with pausedAnalysis := [] }) :
    KeepsTo K w w' := by
  obtain ⟨ha', hinfo'⟩ := hinfo.restartStopped env hK fun k config hc =>
    ((hown i info hi).stopped k config (hstopped ▸ hc)).2
  refine .insert h hK hs hdb ?_ ?_
  · rw [hrt]
    exact ha.trans ha'
  · rw [hrt, hpaused]
    exact hinfo'.of_same rfl rfl rfl rfl rfl

theorem keepsTo_restartSection (h : w.Wired) (hown : w.Each (InputInfo.OwnsOutputs own))
    (env : Env) {plan : StartPlan} (hK : K plan.inputId) :
    KeepsTo K w (restartSection env plan w).2 := by
  unfold restartSection
  split
  · exact .refl h
  · rename_i info hi
    obtain ⟨ha, hinfo⟩ := (h.entries _ info hi).recreateTask h.runtime hK
    refine .restarted h hown env hK hi ha hinfo ?_ rfl rfl rfl rfl
    unfold recreateTask
    split <;> rfl

theorem keepsTo_sptsInstallSection (h : w.Wired) (hown : w.Each (InputInfo.OwnsOutputs own))
    (env : Env) (hK : K i) {new : InputInfo} (hnew : new.Wired w.rt i) :
    KeepsTo K w (sptsInstallSection env i new w).2 := by
  unfold sptsInstallSection
  split
  · exact .refl h
  · rename_i info hi
    have hrenewed : InputInfo.Wired w.rt i { info with
        taskHandle := new.taskHandle
        packetTx := new.packetTx
        status := .listening
        startedAt := some w.rt.clock } :=
      (h.entries i info hi).renew rfl hnew.feeds (fun t ht => hnew.held t (.input ht)) rfl rfl
    exact .restarted h hown env hK hi (.refl w.rt) hrenewed rfl rfl rfl rfl rfl

theorem keepsTo_startOutputSection (h : w.Wired) (hown : w.Each (InputInfo.OwnsOutputs own))
    (env : Env) (hK : K i) (k : Int) : KeepsTo K w (startOutputSection env i k w).2 := by
  unfold startOutputSection
  split
  · exact .refl h
  rename_i info hi
  split
  · exact .refl h
  split
  · rename_i config hc
    have herased : InputInfo.Wired w.rt i { info with
        stoppedOutputs := info.stoppedOutputs.erase k } :=
      (h.entries i info hi).of_same rfl rfl rfl rfl rfl
    dsimp only
    split
    · rename_i info' rt' hstart
      obtain ⟨spec, output, hl, rfl⟩ := ((hown i info hi).eraseStopped k).launch
        ((hown i info hi).stopped k config hc).2 hstart
      obtain ⟨ha, hinfo⟩ := herased.launch hK hl
      exact .insert h hK rfl rfl ha hinfo
    · exact .insert h hK rfl rfl (.refl w.rt) herased
  · split <;> exact .refl h

theorem keepsTo_installOutputSection (h : w.Wired) (env : Env) (req : CreateOutputRequest)
    (hK : K i) (k : Int) (destination : String) :
    KeepsTo K w (installOutputSection env req i k destination w).2 := by
  unfold installOutputSection
  split
  · exact .refl h
  rename_i input hinput
  split
  · exact .refl h
  rename_i output rt' hspawn
  have hinfo := h.entries i input hinput
  obtain ⟨j, spec, hj, hl⟩ := spawnOutput_launch hspawn
  obtain rfl : j = i := hj.elim id fun hj => hj.trans hinfo.id
  obtain ⟨ha, hinfo'⟩ := hinfo.launch hK hl
  rw [hl.inputId_eq, hinput, hl.outputId_eq]
  exact .insert h hK rfl rfl ha hinfo'

theorem keepsTo_loadGroupSection (h : w.Wired) (env : Env) (hK : K i)
    (outputs : List (Int × OutputRow)) : KeepsTo K w (loadGroupSection env i outputs w).2 := by
  unfold loadGroupSection
  split
  · exact .refl h
  · rename_i info hi
    obtain ⟨ha, hinfo⟩ := (h.entries i info hi).loadOutputs env outputs hK
    exact .insert h hK rfl rfl ha hinfo

theorem keepsTo_stopInputSection (h : w.Wired) (hK : K i) :
    KeepsTo K w (stopInputSection i w).2 := by
  unfold stopInputSection
  split
  · exact .refl h
  rename_i info hi
  split
  · exact .refl h
  have hinfo := h.entries i info hi
  have ha : w.rt.Advances K (stopInputInfo info w.rt).2 :=
    (Runtime.Advances.abortHandle fun t ht => hinfo.aborts hK (.input ht)).trans
      ((hinfo.stopOutputs hK _).trans (hinfo.abortAnalyses hK _))
  exact .insert h hK rfl rfl ha ((hinfo.grows ha.grows).of_maps rfl rfl
    (fun _ hh => absurd hh (by simp [stopInputInfo]))
    (fun _ _ ho => absurd ho (by simp [stopInputInfo]))
    fun _ _ ha => absurd ha (by simp [stopInputInfo]))

theorem keepsTo_stopOutputSection (h : w.Wired) (hK : K i) (k : Int) :
    KeepsTo K w (stopOutputSection i k w).2 := by
  unfold stopOutputSection
  split
  · exact .refl h
  rename_i info hi
  have hinfo := h.entries i info hi
  split
  · rename_i output ho
    have ha : w.rt.Advances K (w.rt.abortHandle output.abortHandle) :=
      .abortHandle fun t ht => hinfo.aborts hK (.output k output ho ht)
    exact .insert h hK rfl rfl ha ((hinfo.grows ha.grows).of_maps rfl rfl (fun _ hh => hh)
      (fun _ _ ho => (HashMap.lookup_erase_eq_some.mp ho).2) fun _ _ ha => ha)
  · split <;> exact .refl h

theorem keepsTo_removeOutputSection (h : w.Wired) (hK : K i) (k : Int) :
    KeepsTo K w (removeOutputSection i k w).2 := by
  unfold removeOutputSection
  split
  · exact .refl h
  rename_i info hi
  have hinfo := h.entries i info hi
  split
  · rename_i output ho
    have ha : w.rt.Advances K ((w.rt.abortHandle output.abortHandle).record
        .decrementActiveOutputs) :=
      (Runtime.Advances.abortHandle fun t ht => hinfo.aborts hK (.output k output ho ht)).trans
        (.record _ _)
    exact .insert h hK rfl rfl ha ((hinfo.grows ha.grows).of_maps rfl rfl (fun _ hh => hh)
      (fun _ _ ho => (HashMap.lookup_erase_eq_some.mp ho).2) fun _ _ ha => ha)
  · split
    · exact .insert h hK rfl rfl (.refl w.rt) (hinfo.of_same rfl rfl rfl rfl rfl)
    · exact .refl h

theorem keepsTo_removeInputSection (h : w.Wired) (hK : K i) :
    KeepsTo K w (removeInputSection i w).2 := by
  unfold removeInputSection
  split
  · exact .refl h
  rename_i info hi
  have hinfo := h.entries i info hi
  have hinput : w.rt.Advances K ((w.rt.abortHandle info.taskHandle).record
      .decrementActiveInputs) :=
    (Runtime.Advances.abortHandle fun t ht => hinfo.aborts hK (.input ht)).trans (.record _ _)
  have ha := ((hinput.trans (hinfo.abortOutputs hK _)).trans
    (.records info.outputTasks.toPairs .decrementActiveOutputs _)).trans (hinfo.abortAnalyses hK _)
  refine ⟨ha, fun j hj => ?_, .of_eq rfl, ha.wired h.runtime, fun j info' hj => ?_⟩
  · exact AList.lookup_erase_ne fun heq => hj (heq ▸ hK)
  · exact (h.entries j info' (HashMap.lookup_erase_eq_some.mp hj).2).grows ha.grows

/-! ### Entries that are edited -/

theorem keepsTo_pauseAgain (h : w.Wired) (hK : K i) (analysisType : AnalysisType) :
    KeepsTo K w (pauseAgain i analysisType w).2 := by
  unfold pauseAgain
  split
  · exact .refl h
  · rename_i info hi
    exact .insert h hK rfl rfl (.refl w.rt) ((h.entries i info hi).of_same rfl rfl rfl rfl rfl)

theorem keepsTo_setConfig (h : w.Wired) (hK : K i) (config : CreateInputRequest) :
    KeepsTo K w (setConfig i config w).2 := by
  unfold setConfig
  split
  · exact .refl h
  · rename_i info hi
    exact .insert h hK rfl rfl (.refl w.rt) ((h.entries i info hi).of_same rfl rfl rfl rfl rfl)

theorem keepsTo_setStoppedConfig (h : w.Wired) (hK : K i) (k : Int)
    (config : CreateOutputRequest) : KeepsTo K w (setStoppedConfig i k config w).2 := by
  unfold setStoppedConfig
  split
  · exact .refl h
  · rename_i info hi
    exact .insert h hK rfl rfl (.refl w.rt) ((h.entries i info hi).of_same rfl rfl rfl rfl rfl)

theorem keepsTo_stopAnalysisSection (h : w.Wired) (hK : K i) (analysisType : AnalysisType) :
    KeepsTo K w (stopAnalysisSection i analysisType w).2 := by
  rcases stopAnalysisSection_ok i analysisType w with hw | ⟨info, k, a, hi, ha, hw⟩
  · rw [hw]
    exact .refl h
  · rw [hw]
    refine .edit h hK hi rfl rfl (.aborts (.abort _ _) (aborts_abort _ _) fun t ht => ?_) rfl rfl
      (fun _ hh => hh) (fun _ _ ho => ho) fun _ _ ha => (HashMap.lookup_erase_eq_some.mp ha).2
    obtain rfl := List.mem_singleton.mp ht
    exact (h.entries i info hi).aborts hK (.analysis k a ha rfl)

theorem keepsTo_stopAllAnalysisSection (h : w.Wired) (hK : K i) :
    KeepsTo K w (stopAllAnalysisSection i w).2 := by
  rcases stopAllAnalysisSection_ok i w with hw | ⟨info, hi, hw⟩
  · rw [hw]
    exact .refl h
  · rw [hw]
    exact .edit h hK hi rfl rfl ((h.entries i info hi).abortAnalyses hK w.rt) rfl rfl
      (fun _ hh => hh) (fun _ _ ho => ho) fun _ _ ha => absurd ha (by simp)

/-! ### Analyses -/

theorem keepsTo_newAnalysisId (h : w.Wired) : KeepsTo K w (newAnalysisId w).2 :=
  .of_runtime h rfl rfl (.of_eq (grows_newAnalysisId w) rfl rfl)

theorem keepsTo_launchAnalysis (h : w.Wired) (hK : K i) {rx : ChannelId}
    (hrx : w.rt.Feeds i rx) (analysisId : ℕ) (analysisType : AnalysisType)
    (timeoutMinutes : Option UInt64) (timeout : Option (ℕ × ℕ)) :
    KeepsTo K w (launchAnalysis i analysisId analysisType timeoutMinutes timeout rx w).2 := by
  refine .of_runtime h rfl rfl (.spawn hK rfl fun j c hj hc => ?_)
  obtain rfl := Option.some.inj hj
  obtain rfl := Option.some.inj hc
  exact hrx

theorem keepsTo_spawnAnalysis (h : w.Wired) (env : Env) (hK : K i) {rx : ChannelId}
    (hrx : w.rt.Feeds i rx) (analysisId : ℕ) (analysisType : AnalysisType)
    (timeoutMinutes : Option UInt64) :
    KeepsTo K w (spawnAnalysis env i analysisId analysisType timeoutMinutes rx w).2 := by
  rcases spawnAnalysis_ok env i analysisId analysisType timeoutMinutes rx w with
    ⟨_, _, hw⟩ | ⟨timeout, _, hw⟩
  · rw [hw]
    exact .refl h
  · rw [hw]
    exact keepsTo_launchAnalysis h hK hrx analysisId analysisType timeoutMinutes timeout

theorem keepsTo_insertAnalysis (h : w.Wired) (hK : K i) {a : AnalysisInfo}
    (ha : a.taskHandle.spec.owner.inputId = i) : KeepsTo K w (insertAnalysis i a w).2 := by
  rcases insertAnalysis_ok i a w with hw | ⟨info, hi, hw⟩
  · rw [hw]
    exact .refl h
  · rw [hw]
    exact .insert h hK rfl rfl (.refl w.rt) ((h.entries i info hi).insertAnalysis ha)

/-! ### Entries that are made -/

theorem keepsTo_openChannel (h : w.Wired) :
    KeepsTo K w { w with rt := w.rt.openChannel } :=
  .of_runtime h rfl rfl (.openChannel w.rt)

theorem wired_idleInput (h : w.Wired) (id : Int) (name : Option String) (status : StreamStatus)
    (config : CreateInputRequest) (stateTx : Option StateChangeSender)
    (errorMessage : Option String) :
    (idleInput id name status w.rt.nextChannel config stateTx errorMessage).Wired
      w.rt.openChannel id :=
  .fresh rfl (h.runtime.numbered.feeds_openChannel id) (fun _ hh => absurd hh (by simp [idleInput]))
    rfl rfl

/-- The task of an input is spawned, and its entry is still to come. -/
theorem keepsTo_spawn (h : w.Wired) (hK : K i) {spec : TaskSpec} (howner : spec.owner = .input i)
    (htx : spec.packetTx = some w.rt.nextChannel) (hrx : w.rt.Subscribes spec) :
    KeepsTo K w { w with
      rt := (w.rt.openChannel.spawn spec).record .incrementActiveInputs } := by
  refine .of_runtime h rfl rfl (.spawnInput ?_ htx hrx)
  rw [howner]
  exact hK

theorem wired_spawned (h : w.Wired) {spec : TaskSpec} (howner : spec.owner = .input i)
    {info : InputInfo} (hid : info.id = i) (htx : info.packetTx = w.rt.nextChannel)
    (hhandle : info.taskHandle = some (w.rt.newTask spec)) (houts : info.outputTasks = ∅)
    (hanalyses : info.analysisTasks = ∅) :
    info.Wired ((w.rt.openChannel.spawn spec).record .incrementActiveInputs) i := by
  refine .fresh hid ?_ (fun t ht => ?_) houts hanalyses
  · rw [htx]
    exact h.runtime.numbered.feeds_spawnInput howner
  · obtain rfl := Option.some.inj (hhandle.symm.trans ht)
    show spec.owner.inputId = i
    rw [howner]
    rfl

theorem subscribes_of_source_none {spec : TaskSpec} (h : spec.source = none) :
    w.rt.Subscribes spec :=
  fun _ _ hj => absurd (h.symm.trans hj) (by simp)

theorem keepsTo_spawnUdpSection (h : w.Wired) (hK : K i) (listenPort : UInt16)
    (bindHost multicastGroup sourceSpecificMulticast name : Option String) :
    KeepsTo K w (spawnUdpSection listenPort bindHost multicastGroup sourceSpecificMulticast i name
        w).2 ∧
      (spawnUdpSection listenPort bindHost multicastGroup sourceSpecificMulticast i name w).1.Wired
        (spawnUdpSection listenPort bindHost multicastGroup sourceSpecificMulticast i name
          w).2.rt i :=
  ⟨keepsTo_spawn h hK rfl rfl (subscribes_of_source_none rfl),
    wired_spawned h rfl rfl rfl rfl rfl rfl⟩

theorem keepsTo_spawnSrtSection (h : w.Wired) (hK : K i) (req : CreateInputRequest)
    (config : SrtInputConfig) (name : Option String) :
    KeepsTo K w (spawnSrtSection req config i name w).2 ∧
      (spawnSrtSection req config i name w).1.Wired (spawnSrtSection req config i name w).2.rt i :=
  ⟨keepsTo_spawn h hK rfl rfl (subscribes_of_source_none rfl),
    wired_spawned h rfl rfl rfl rfl rfl rfl⟩

/-- A program filter reads from the channel of the entry that it is spawned with. -/
theorem keepsTo_spawnSptsInput (h : w.Wired) (hK : K i) {j : Int} {source : InputInfo}
    (hj : w.streams.lookup j = some source) (programNumber : UInt16) (fillWithNulls : Bool)
    (name : Option String) (stateTx : Option StateChangeSender) :
    KeepsTo K w { w with
      rt := (spawnSptsInput source i programNumber fillWithNulls name stateTx w.rt).2 } ∧
    (spawnSptsInput source i programNumber fillWithNulls name stateTx w.rt).1.Wired
      (spawnSptsInput source i programNumber fillWithNulls name stateTx w.rt).2 i :=
  ⟨keepsTo_spawn h hK rfl rfl ((h.entries j source hj).subscribes rfl rfl),
    wired_spawned h rfl rfl rfl rfl rfl rfl⟩

theorem keepsTo_sptsSpawnSection (h : w.Wired) {plan : StartPlan} (hK : K plan.inputId)
    (sourceInputId : Int) (programNumber : UInt16) (fillWithNulls : Option Bool) :
    KeepsTo K w (sptsSpawnSection plan sourceInputId programNumber fillWithNulls w).2 ∧
      ∀ new, (sptsSpawnSection plan sourceInputId programNumber fillWithNulls w).1 = .ok new →
        new.Wired (sptsSpawnSection plan sourceInputId programNumber fillWithNulls w).2.rt
          plan.inputId := by
  unfold sptsSpawnSection
  split
  · exact ⟨.refl h, fun _ hr => absurd hr (by simp)⟩
  · rename_i source hj
    obtain ⟨hkeeps, hinfo⟩ := keepsTo_spawnSptsInput h hK hj programNumber
      (fillWithNulls.getD false) plan.name plan.stateTx
    refine ⟨hkeeps, fun new hr => ?_⟩
    obtain rfl := Except.ok.inj hr
    exact hinfo

theorem keepsTo_spawnSptsSection (h : w.Wired) (hK : K i) (sourceInputId : Int)
    (programNumber : UInt16) (fillWithNulls : Option Bool) (name : Option String) :
    KeepsTo K w (spawnSptsSection i sourceInputId programNumber fillWithNulls name w).2 ∧
      ∀ info, (spawnSptsSection i sourceInputId programNumber fillWithNulls name w).1 = .ok info →
        info.Wired (spawnSptsSection i sourceInputId programNumber fillWithNulls name w).2.rt
          i := by
  unfold spawnSptsSection
  split
  · exact ⟨.refl h, fun _ hr => absurd hr (by simp)⟩
  · rename_i source hj
    obtain ⟨hkeeps, hinfo⟩ := keepsTo_spawnSptsInput h hK hj programNumber
      (fillWithNulls.getD false) name w.rt.stateChangeTx
    refine ⟨hkeeps, fun info hr => ?_⟩
    obtain rfl := Except.ok.inj hr
    exact hinfo

theorem keepsTo_insertInput (h : w.Wired) {info : InputInfo} (hinfo : info.Wired w.rt i)
    (hK : K i) : KeepsTo K w (insertInput info w).2 := by
  obtain rfl := hinfo.id
  exact .insert h hK rfl rfl (.refl w.rt) hinfo

theorem keepsTo_insertInputs (h : w.Wired) {loaded : HashMap Int InputInfo}
    (hloaded : ∀ i info, loaded.lookup i = some info → info.Wired w.rt i) (hK : ∀ i, K i) :
    KeepsTo K w (insertInputs loaded w).2 :=
  ⟨.refl w.rt, fun i hi => absurd (hK i) hi, .of_eq rfl, h.runtime, h.entries.extend rfl hloaded⟩

/-! ### Messages -/

theorem keepsTo_receive (h : w.Wired) : KeepsTo K w (receive w).2 := by
  refine .of_runtime h (receive_streams w) (receive_db w) (.of_eq (grows_receive w) ?_ ?_)
  · unfold receive
    split <;> rfl
  · unfold receive
    split <;> rfl

theorem keepsTo_recordTransition (h : w.Wired) (change : StateChange) (t : Transition) :
    KeepsTo K w (recordTransition change t w).2 :=
  .of_runtime h rfl rfl (.of_eq (grows_recordTransition change t w) rfl rfl)

/-- A message leaves the tasks as they are, and the handles in all entries. -/
theorem World.Wired.applyProcessing (h : w.Wired) : (applyProcessing w).2.Wired := by
  have hg := grows_applyProcessing w
  refine ⟨⟨h.runtime.numbered.grows hg, fun t ht => ?_⟩, ?_⟩
  · rw [show (StreamGateway.applyProcessing w).2.rt.spawned = w.rt.spawned by
      unfold StreamGateway.applyProcessing
      split <;> rfl] at ht
    exact (h.runtime.subscribes t ht).grows hg
  · have hentries : w.Each (InputInfo.Wired (StreamGateway.applyProcessing w).2.rt) :=
      fun i info hi => (h.entries i info hi).grows hg
    refine hentries.apply (fun i info _ _ _ hinfo => hinfo.of_same rfl rfl rfl rfl rfl)
      fun i info k output _ _ _ hinfo ho => ?_
    exact hinfo.insertOutput fun t ht => hinfo.held t (.output k output ho ht)

theorem TaskStep.wired (ho : TaskStep w w') (h : w.Wired) : w'.Wired := by
  have hspawned : w'.rt.spawned = w.rt.spawned := by cases ho <;> rfl
  refine ⟨⟨h.runtime.numbered.grows ho.grows, fun t ht => ?_⟩, fun i info hi => ?_⟩
  · rw [hspawned] at ht
    exact (h.runtime.subscribes t ht).grows ho.grows
  · rw [ho.streams] at hi
    exact (h.entries i info hi).grows ho.grows

end Steps

end StreamGateway
