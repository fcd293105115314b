import StreamGateway.Deeds
import StreamGateway.InputIds
import StreamGateway.KeptStanding

/-!
# The deeds of requests

Each request to create, start, stop or delete a stream comes to one deed, which can be told from
the state that the request finds. What else it does are writes to the database, and analyses that
are started again.
-/
namespace StreamGateway

open Prog

section Inputs

variable {env : Env} {w w' : World} {held : Bool}

/-! ## Starting an input -/

/-- A start does not refuse the configuration. -/
def CreateInputRequest.mayStart (config : CreateInputRequest) (w : World) : Bool :=
  match config with
  | .spts sourceInputId .. => (w.streams.lookup sourceInputId).any fun src => src.status.isActive
  | _ => true

def World.startDeed (i : Int) (w : World) : Deed :=
  match w.streams.lookup i with
  | some info =>
    if info.status.isActive then .nothing
    else if info.config.mayStart w then .startInput i
    else .nothing
  | none => .nothing

/-- Nothing changes in the entry but its analyses, and only analyses are spawned. -/
def AnalysesChange (i : Int) (info : InputInfo) (w w' : World) : Prop :=
  ∃ analyses ts, Touches i (some info) (some { info with analysisTasks := analyses }) [] ts w w' ∧
    ∀ t ∈ ts, t.input = none

theorem AnalysesChange.of_eq {i : Int} {info : InputInfo} (hi : w.streams.lookup i = some info)
    (hs : w'.streams = w.streams) (hm : w'.rt.metrics = w.rt.metrics)
    (ht : w'.rt.spawned = w.rt.spawned) : AnalysesChange i info w w' :=
  ⟨info.analysisTasks, [], touches_same hi hs (.of_eq hm ht), fun _ h => absurd h List.not_mem_nil⟩

theorem analysesChange_startAnalysis {env : Env} {i : Int} {info : InputInfo}
    {analysisType : AnalysisType} {timeoutMinutes : Option UInt64} {r : Except String ℕ}
    (hi : w.streams.lookup i = some info)
    (h : (startAnalysis env i analysisType timeoutMinutes).alone false w = some (r, held, w')) :
    held = false ∧ AnalysesChange i info w w' := by
  rcases alone_startAnalysis env i analysisType timeoutMinutes w with
    ⟨⟨e, ha⟩, _⟩ | ⟨info', timeout, a, w₁, hi', _, _, hlaunch, hs, ha⟩
  · obtain ⟨_, rfl, rfl⟩ : .error e = r ∧ false = held ∧ (newAnalysisId w).2 = w' := by
      simpa [ha] using h
    exact ⟨rfl, .of_eq hi rfl rfl rfl⟩
  · obtain rfl := Option.some.inj (hi.symm.trans hi')
    obtain ⟨_, rfl, rfl⟩ : .ok a.id = r ∧ false = held ∧ (insertAnalysis i a w₁).2 = w' := by
      simpa [ha] using h
    rw [insertAnalysis_found (hs ▸ hi)]
    obtain ⟨rfl, rfl⟩ := Prod.mk.inj hlaunch
    refine ⟨rfl, _, [_], touches_insert hi rfl ⟨(List.append_nil _).symm, rfl⟩, fun t ht => ?_⟩
    obtain rfl := List.mem_singleton.mp ht
    rfl

theorem analysesChange_restartPaused {env : Env} {i : Int} {info : InputInfo}
    {paused : List AnalysisType} (hi : w.streams.lookup i = some info)
    (h : (restartPaused env i paused).alone false w = some ((), held, w')) :
    AnalysesChange i info w w' := by
  induction paused generalizing w info with
  | nil =>
    obtain ⟨_, _, rfl⟩ := alone_ret_eq_some.mp h
    exact .of_eq hi rfl rfl rfl
  | cons analysisType rest ih =>
    obtain ⟨_, _, w₁, hstart, hrest⟩ := alone_bind_eq_some.mp h
    obtain ⟨rfl, analyses, ts, hts, hnone⟩ := analysesChange_startAnalysis hi hstart
    obtain ⟨analyses', ts', hts', hnone'⟩ := ih hts.after hrest
    refine ⟨analyses', ts ++ ts', hts.trans hts', fun t ht => ?_⟩
    exact (List.mem_append.mp ht).elim (hnone t) (hnone' t)

/-- The input has a new task of its own. -/
theorem recreateTask_adds {plan : StartPlan} (h : plan.config.isSpts = false) (info : InputInfo)
    (rt : Runtime) : ∃ t, (recreateTask plan info rt).1.taskHandle = some t ∧
      t.input = some plan.inputId ∧ (recreateTask plan info rt).1.status.isConnected = false ∧
      Adds [.incrementActiveInputs] [t] rt (recreateTask plan info rt).2 := by
  unfold recreateTask
  cases hc : plan.config with
  | udp => exact ⟨_, rfl, rfl, rfl, adds_input rt _⟩
  | srt name config => exact ⟨_, rfl, rfl, by cases config <;> rfl, adds_input rt _⟩
  | spts =>
    rw [hc] at h
    exact absurd h (by simp [CreateInputRequest.isSpts])

theorem spawnSptsInput_adds (source : InputInfo) (id : Int) (programNumber : UInt16)
    (fillWithNulls : Bool) (name : Option String) (stateTx : Option StateChangeSender)
    (rt : Runtime) :
    ∃ t, (spawnSptsInput source id programNumber fillWithNulls name stateTx rt).1.taskHandle =
        some t ∧ t.input = some id ∧
      (spawnSptsInput source id programNumber fillWithNulls name stateTx rt).1.status.isConnected =
        false ∧
      Adds [.incrementActiveInputs] [t] rt
        (spawnSptsInput source id programNumber fillWithNulls name stateTx rt).2 :=
  ⟨_, rfl, rfl, rfl, adds_input rt _⟩

/-- The entry has got a new task, its stopped outputs are started, and then analyses are. -/
theorem does_restart (env : Env) {i : Int} {info : InputInfo} (info₁ : InputInfo) (rt₁ : Runtime)
    {t : Task} (hi : w.streams.lookup i = some info) (hactive : info.status.isActive = false)
    (houts : info₁.outputTasks = info.outputTasks ∧ info₁.stoppedOutputs = info.stoppedOutputs)
    (hhandle : info₁.taskHandle = some t) (hinput : t.input = some i)
    (hidle : info₁.status.isConnected = false)
    (hadds : Adds [.incrementActiveInputs] [t] w.rt rt₁)
    (hlater : ∀ info', (takePaused w i (restartStopped env info₁ rt₁).1
        (restartStopped env info₁ rt₁).2).2.streams.lookup i = some info' →
      AnalysesChange i info' (takePaused w i (restartStopped env info₁ rt₁).1
        (restartStopped env info₁ rt₁).2).2 w') :
    (Deed.startInput i).Does w w' := by
  obtain ⟨n, ts, hstarted, hnone, hcount⟩ := restartStopped_adds env info₁ rt₁
  have hrestarted : Touches i (some info)
      (some { (restartStopped env info₁ rt₁).1 with pausedAnalysis := [] })
      (.incrementActiveInputs :: List.replicate n .incrementActiveOutputs) (t :: ts) w
      (takePaused w i (restartStopped env info₁ rt₁).1 (restartStopped env info₁ rt₁).2).2 :=
    touches_insert hi rfl (hadds.trans hstarted)
  obtain ⟨analyses, ts', hlater, hnone'⟩ := hlater _ hrestarted.after
  have hts : ∀ t ∈ ts ++ ts', t.input = none := fun t ht =>
    (List.mem_append.mp ht).elim (hnone t) (hnone' t)
  have htouches := hrestarted.trans hlater
  rw [List.append_nil] at htouches
  refine ⟨i, _, _, _, _, htouches, .startInput hactive ?_ hinput ?_ ?_ ?_ hts ?_⟩
  · show (restartStopped env info₁ rt₁).1.taskHandle = some t
    rw [restartStopped_frame]
    exact hhandle
  · show (restartStopped env info₁ rt₁).1.status.isConnected = false
    rw [restartStopped_frame]
    exact hidle
  · exact restartStopped_stoppedOutputs env info₁ rt₁
  · intro k hk
    have hhas : info₁.HasOutput k := hasOutput_restartStopped env (.inl hk)
    rwa [InputInfo.HasOutput, houts.1, houts.2] at hhas
  · intro hapart
    have happly : info₁.KeysApart := by
      unfold InputInfo.KeysApart
      rwa [houts.1, houts.2]
    refine (hcount happly).trans ?_
    rw [InputInfo.outputCount, houts.1, InputInfo.outputCount]

theorem does_startBase (plan : StartPlan) {info : InputInfo} {r : Except String Unit}
    (hi : w.streams.lookup plan.inputId = some info) (hactive : info.status.isActive = false)
    (hspts : plan.config.isSpts = false)
    (h : (startBase env plan).alone false w = some (r, held, w')) :
    (Deed.startInput plan.inputId).Does w w' := by
  obtain ⟨t, hhandle, hinput, hidle, hadds⟩ := recreateTask_adds hspts info w.rt
  rw [alone_startBase] at h
  unfold restartSection at h
  rw [hi] at h
  dsimp only at h
  split at h
  · obtain ⟨_, _, rfl⟩ : _ ∧ _ ∧ _ = w' := by simpa using h
    exact does_restart env _ _ hi hactive (recreateTask_outputs plan info w.rt) hhandle hinput hidle
      hadds fun info' hi' => .of_eq hi' rfl rfl rfl
  · exact absurd h (by simp)

/-- A program filter whose source is not active is not started. -/
theorem alone_startSpts_refused (plan : StartPlan) {info : InputInfo} {sourceInputId : Int}
    {programNumber : UInt16} {fillWithNulls : Option Bool}
    (hi : w.streams.lookup plan.inputId = some info)
    (hsource : (w.streams.lookup sourceInputId).any (fun src => src.status.isActive) = false) :
    ∃ e, (startSpts env plan sourceInputId programNumber fillWithNulls).alone false w =
      some (.error e, false, w) := by
  unfold startSpts
  rw [alone_locked_bind]
  simp only [sptsEntrySection, hi]
  rw [alone_locked_bind]
  simp only [sptsSourceSection, hsource, Bool.false_eq_true, if_false]
  exact ⟨_, rfl⟩

/-- A program filter whose source is active gets the new task, and its paused analyses are
then restarted. -/
theorem alone_startSpts_active (plan : StartPlan) {info info₁ source new : InputInfo}
    {sourceInputId : Int} {programNumber : UInt16} {fillWithNulls : Option Bool}
    {r : Except String Unit} {rt₁ : Runtime} (hi : w.streams.lookup plan.inputId = some info)
    (hsrc : w.streams.lookup sourceInputId = some source)
    (hactive : source.status.isActive = true)
    (hspawn : spawnSptsInput source plan.inputId programNumber (fillWithNulls.getD false)
      plan.name plan.stateTx w.rt = (new, rt₁))
    (hinstalled : { info with
      taskHandle := new.taskHandle
      packetTx := new.packetTx
      status := .listening
      startedAt := some rt₁.clock } = info₁)
    (h : (startSpts env plan sourceInputId programNumber fillWithNulls).alone false w =
      some (r, held, w')) :
    r = .ok () ∧ ∃ held',
      (restartPaused env plan.inputId (restartStopped env info₁ rt₁).1.pausedAnalysis).alone false
        (takePaused w plan.inputId (restartStopped env info₁ rt₁).1
          (restartStopped env info₁ rt₁).2).2 = some ((), held', w') := by
  have hany : (w.streams.lookup sourceInputId).any (fun src => src.status.isActive) = true := by
    rw [hsrc]
    exact hactive
  unfold startSpts at h
  rw [alone_locked_bind] at h
  simp only [sptsEntrySection, hi] at h
  rw [alone_locked_bind] at h
  simp only [sptsSourceSection, hany, if_true] at h
  rw [alone_locked_bind] at h
  simp only [sptsSpawnSection, hsrc, hspawn] at h
  rw [alone_locked_bind] at h
  simp only [sptsInstallSection, hi] at h
  obtain ⟨_, held', w₂, hpaused, h⟩ := alone_bind_eq_some.mp h
  obtain ⟨rfl, _, rfl⟩ := alone_ret_eq_some.mp h
  subst hinstalled
  exact ⟨rfl, held', hpaused⟩

theorem does_startSpts (plan : StartPlan) {info : InputInfo} {sourceInputId : Int}
    {programNumber : UInt16} {fillWithNulls : Option Bool} {r : Except String Unit}
    (hi : w.streams.lookup plan.inputId = some info) (hactive : info.status.isActive = false)
    (hsource : (w.streams.lookup sourceInputId).any (fun src => src.status.isActive) = true)
    (h : (startSpts env plan sourceInputId programNumber fillWithNulls).alone false w =
      some (r, held, w')) : (Deed.startInput plan.inputId).Does w w' := by
  obtain ⟨source, hsrc, hsource⟩ := (Option.any_eq_true _ _).mp hsource
  obtain ⟨t, hhandle, hinput, _, hadds⟩ := spawnSptsInput_adds source plan.inputId programNumber
    (fillWithNulls.getD false) plan.name plan.stateTx w.rt
  rcases hspawn : spawnSptsInput source plan.inputId programNumber (fillWithNulls.getD false)
    plan.name plan.stateTx w.rt with ⟨new, rt₁⟩
  rw [hspawn] at hhandle hadds
  obtain ⟨_, _, hpaused⟩ := alone_startSpts_active plan hi hsrc hsource hspawn rfl h
  exact does_restart env { info with
      taskHandle := new.taskHandle
      packetTx := new.packetTx
      status := .listening
      startedAt := some rt₁.clock } rt₁ hi hactive ⟨rfl, rfl⟩ hhandle hinput rfl hadds
    fun info' hi' => analysesChange_restartPaused hi' hpaused

theorem does_startInput {i : Int} {r : Except String Unit} (hids : w.IdsMatch)
    (h : (startInput env i).alone false w = some (r, held, w')) : (w.startDeed i).Does w w' := by
  unfold World.startDeed
  rcases alone_startInput env i w with ⟨e, ha, hactive⟩ | ⟨info, stateTx, hi, hactive, ha⟩
  · rw [ha] at h
    obtain ⟨_, _, rfl⟩ : _ ∧ _ ∧ w = w' := by simpa using h
    cases hi : w.streams.lookup i with
    | none => exact .refl rfl w
    | some info =>
      simp only [hactive info hi, if_true]
      exact .refl rfl w
  rw [ha] at h
  obtain rfl : info.id = i := hids i info hi
  simp only [hi, hactive, Bool.false_eq_true, if_false]
  cases hc : info.config with
  | udp =>
    rw [hc] at h
    exact does_startBase ⟨_, info.id, info.name, stateTx⟩ hi hactive rfl h
  | srt =>
    rw [hc] at h
    exact does_startBase ⟨_, info.id, info.name, stateTx⟩ hi hactive rfl h
  | spts sourceInputId programNumber fillWithNulls name =>
    rw [hc] at h
    dsimp only at h
    by_cases hsource : (w.streams.lookup sourceInputId).any fun src => src.status.isActive
    · simp only [CreateInputRequest.mayStart, hsource, if_true]
      exact does_startSpts ⟨_, info.id, info.name, stateTx⟩ hi hactive hsource h
    · rw [Bool.not_eq_true] at hsource
      simp only [CreateInputRequest.mayStart, hsource, Bool.false_eq_true, if_false]
      obtain ⟨e, hrefused⟩ := alone_startSpts_refused ⟨_, info.id, info.name, stateTx⟩
        hi hsource
      rw [hrefused] at h
      obtain ⟨_, _, rfl⟩ : _ ∧ _ ∧ w = w' := by simpa using h
      exact .refl rfl w

/-! ## Creating an input -/

/-- A spawn gives an entry with a task of its own, or changes nothing. -/
theorem spawnInput_opens {req : CreateInputRequest} {id : Int} {name : Option String}
    {r : Except HttpError InputInfo}
    (h : (spawnInput req id name).alone false w = some (r, held, w')) :
    (∃ info, r = .ok info ∧ Opens id info w.rt w'.rt ∧ info.status.isConnected = false) ∨
      (∃ e, r = .error e) ∧ w'.rt = w.rt := by
  cases req with
  | udp =>
    obtain ⟨rfl, _, rfl⟩ := alone_ret_eq_some.mp h
    exact .inl ⟨_, rfl, .running _ rfl rfl (adds_input w.rt _), rfl⟩
  | srt reqName config =>
    obtain ⟨rfl, _, rfl⟩ := alone_ret_eq_some.mp h
    exact .inl ⟨_, rfl, .running _ rfl rfl (adds_input w.rt _), by cases config <;> rfl⟩
  | spts sourceInputId programNumber fillWithNulls reqName =>
    obtain ⟨rfl, _, rfl⟩ : (spawnSptsSection id sourceInputId programNumber fillWithNulls name
      w).1 = r ∧ _ ∧ (spawnSptsSection id sourceInputId programNumber fillWithNulls name w).2 =
        w' := by simpa [spawnInput] using h
    unfold spawnSptsSection
    split
    · exact .inr ⟨⟨_, rfl⟩, rfl⟩
    · rename_i source _
      obtain ⟨t, hhandle, hinput, hidle, hadds⟩ := spawnSptsInput_adds source id programNumber
        (fillWithNulls.getD false) name w.rt.stateChangeTx w.rt
      exact .inl ⟨_, rfl, .running t hhandle hinput hadds, hidle⟩

theorem does_createInput {req : CreateInputRequest} {r : Response} (hgiven : w.IdsGiven)
    (h : (createInput env req).alone false w = some (r, held, w')) : Deed.openInput.Does w w' := by
  unfold createInput at h
  split at h
  · obtain ⟨_, _, rfl⟩ := alone_ret_eq_some.mp h
    exact .refl rfl w
  obtain ⟨r, _, _, hassign, h⟩ := alone_bind_eq_some.mp h
  obtain ⟨rfl, hw, _⟩ := (reads_assignInputPort env req).eq hassign
  rw [hw] at h
  rcases r with r | ⟨stored, assignedPort⟩
  · obtain ⟨_, _, rfl⟩ := alone_ret_eq_some.mp h
    exact .refl rfl w
  dsimp only at h
  rw [alone_atomic_bind] at h
  split at h
  · obtain ⟨_, _, rfl⟩ := alone_ret_eq_some.mp h
    exact .of_quiet rfl (query_streams env _ _ w) (query_rt env _ _ w)
  rename_i id hid
  obtain ⟨rfl, hw₁⟩ := saveInputToDb_ok hid
  rw [hw₁] at h
  have hnew : w.streams.lookup (w.db.inputs.lastId + 1) = none := by
    refine AList.lookup_eq_none.mpr fun hmem => ?_
    have hle := hgiven.entries _ hmem
    omega
  obtain ⟨r, _, w₂, hspawn, h⟩ := alone_bind_eq_some.mp h
  obtain ⟨rfl, _, hstreams, hstarted⟩ := (spawnInput_started stored _ _ _).eq hspawn
  rcases spawnInput_opens hspawn with ⟨info, rfl, hopens, hidle⟩ | ⟨⟨e, rfl⟩, hrt⟩
  · obtain ⟨hid, hbare, _⟩ := hstarted info rfl
    obtain ⟨_, _, rfl⟩ := alone_ret_eq_some.mp h
    have hs : w₂.streams.insert info.id info =
        w.streams.insert (w.db.inputs.lastId + 1) info := by rw [hid, hstreams]
    exact does_openInput info hopens (fun _ _ => touches_insert hnew hs) hbare hidle
  · obtain ⟨_, _, rfl⟩ := alone_ret_eq_some.mp h
    refine Deed.Does.query ?_ env .updateInputStatus fun _ => rfl
    have hadds : Adds [] [] w.rt w₂.rt := .of_eq (by rw [hrt]) (by rw [hrt])
    have hs : ∀ info : InputInfo, w₂.streams.insert (w.db.inputs.lastId + 1) info =
        w.streams.insert (w.db.inputs.lastId + 1) info := fun info => by rw [hstreams]
    exact does_openInput (failedInput (w.db.inputs.lastId + 1) (inputName req) stored
      w₂.rt.stateChangeTx e.message w₂).1 (.idle rfl ⟨hadds.metrics, hadds.spawned⟩)
      (fun _ _ => touches_insert hnew (hs _)) ⟨rfl, rfl⟩ rfl

end Inputs

section Outputs

variable {env : Env} {w w' : World} {held : Bool}

/-! ## Creating an output -/

theorem does_installOutputSection {req : CreateOutputRequest} {i k : Int} {destination : String}
    (hids : w.IdsMatch) (hs : w'.streams = w.streams) (hrt : w'.rt = w.rt)
    (hk : w.db.outputs.lastId < k) (hk' : k ≤ w'.db.outputs.lastId) :
    Deed.openOutput.Does w (installOutputSection env req i k destination w').2 := by
  unfold installOutputSection
  rw [hs]
  cases hi : w.streams.lookup i with
  | none => exact .of_quiet rfl hs hrt
  | some input =>
  dsimp only
  cases hspawn : spawnOutput env req input i k destination w'.rt with
  | error e => exact .of_quiet rfl hs hrt
  | ok r =>
  obtain ⟨output, rt⟩ := r
  obtain ⟨j, spec, hj, hl⟩ := spawnOutput_launch hspawn
  have hid : output.inputId = i := by
    rw [hids i input hi, or_self] at hj
    rw [hl.inputId_eq, hj]
  have hadds := hl.adds
  dsimp only
  rw [hid, hi, hl.outputId_eq]
  rw [hrt] at hadds
  exact ⟨i, _, _, _, _, touches_insert hi rfl hadds, .openOutput ⟨hk, hk'⟩ hl.input⟩

theorem saveOutputToDb_same (env : Env) (name : Option String) (inputId : Int)
    (kind destination : String) (configJson : Option Json) (listenPort : Option UInt16)
    (w : World) :
    (saveOutputToDb env name inputId kind destination configJson listenPort w).2.streams =
        w.streams ∧
      (saveOutputToDb env name inputId kind destination configJson listenPort w).2.rt = w.rt := by
  unfold saveOutputToDb
  split
  · exact ⟨rfl, rfl⟩
  · exact ⟨query_streams env _ _ w, query_rt env _ _ w⟩

theorem does_createOutputHeld {req : CreateOutputRequest} {r : Response} (hids : w.IdsMatch)
    (h : (createOutputHeld env req).alone true w = some (r, held, w')) :
    Deed.openOutput.Does w w' := by
  obtain ⟨r, _, _, hassign, h⟩ := alone_bind_eq_some.mp h
  obtain ⟨rfl, hw, _⟩ := (reads_assignOutputPort env req).eq hassign
  rw [hw] at h
  rcases r with r | ⟨stored, assignedPort⟩
  · obtain ⟨_, _, rfl⟩ := alone_ret_eq_some.mp h
    exact .refl rfl w
  obtain ⟨r, _, _, hconflicts, h⟩ := alone_bind_eq_some.mp h
  obtain ⟨rfl, hw, _⟩ := (reads_checkConflicts env _ _ _).eq hconflicts
  rw [hw] at h
  cases r with
  | error r =>
    obtain ⟨_, _, rfl⟩ := alone_ret_eq_some.mp h
    exact .refl rfl w
  | ok _ =>
  dsimp only at h
  rw [alone_atomic_bind] at h
  have hsame := saveOutputToDb_same env (outputRowName stored (outputDestination stored).1)
    req.inputId (outputRowKind stored) (outputDestination stored).1 (some (.obj stored.toFields))
    (outputDestination stored).2 w
  split at h
  · obtain ⟨_, _, rfl⟩ := alone_ret_eq_some.mp h
    exact .of_quiet rfl hsame.1 hsame.2
  rename_i k hk
  obtain ⟨rfl, _, hw₁⟩ := saveOutputToDb_ok hk
  have hlast : w.db.outputs.lastId + 1 ≤ (saveOutputToDb env
      (outputRowName stored (outputDestination stored).1) req.inputId (outputRowKind stored)
      (outputDestination stored).1 (some (.obj stored.toFields))
      (outputDestination stored).2 w).2.db.outputs.lastId :=
    Int.le_of_eq (congrArg (fun w => w.db.outputs.lastId) hw₁).symm
  have hinstalled := @does_installOutputSection env w _ stored req.inputId _
    (outputDestination stored).1 hids hsame.1 hsame.2 (Int.lt_succ _) hlast
  rw [alone_atomic_bind] at h
  split at h
  · obtain ⟨_, _, rfl⟩ := alone_ret_eq_some.mp h
    exact hinstalled
  · obtain ⟨_, _, rfl⟩ := alone_ret_eq_some.mp h
    exact hinstalled

theorem does_createOutput {req : CreateOutputRequest} {r : Response} (hids : w.IdsMatch)
    (h : (createOutput env req).alone false w = some (r, held, w')) :
    Deed.openOutput.Does w w' := by
  unfold createOutput at h
  split at h
  · obtain ⟨_, _, rfl⟩ := alone_ret_eq_some.mp h
    exact .refl rfl w
  rw [alone_acquire] at h
  obtain ⟨r, _, w₁, hguarded, hret⟩ := alone_bind_eq_some.mp h
  obtain ⟨_, _, rfl⟩ := alone_ret_eq_some.mp hret
  unfold createOutputGuarded at hguarded
  rw [alone_atomic_bind] at hguarded
  split at hguarded
  · exact does_createOutputHeld hids hguarded
  · obtain ⟨_, _, rfl⟩ := alone_ret_eq_some.mp hguarded
    exact .refl rfl w

end Outputs

/-! ## All requests -/

/-- The operations that create, start, stop and delete inputs and outputs. -/
def Operation.isLifecycle : Operation → Bool
  | createInput .. | startInput .. | stopInput .. | deleteInput .. | createOutput ..
  | startOutput .. | stopOutput .. | deleteOutput .. | startInputEndpoint .. | stopInputEndpoint ..
  | startOutputEndpoint .. | stopOutputEndpoint .. => true
  | _ => false

/-- The deed of a request that names an output only. -/
def World.outputDeed (env : Env) (k : Int) (deed : Int → Int → World → Deed) (w : World) : Deed :=
  match (getInputIdForOutput env k w).1 with
  | .ok i => deed i k w
  | .error _ => .nothing

/-- The deed that an operation comes to if it is carried out alone. -/
def Operation.deed (env : Env) (w : World) : Operation → Deed
  | createInput _ => .openInput
  | startInput inputId | startInputEndpoint inputId => w.startDeed inputId
  | stopInput inputId | stopInputEndpoint inputId => w.stopDeed inputId
  | deleteInput inputId => w.closeDeed inputId
  | createOutput _ => .openOutput
  | startOutput inputId outputId => w.startOutputDeed inputId outputId
  | stopOutput inputId outputId => w.stopOutputDeed inputId outputId
  | deleteOutput inputId outputId => w.closeOutputDeed inputId outputId
  | startOutputEndpoint outputId => w.outputDeed env outputId World.startOutputDeed
  | stopOutputEndpoint outputId => w.outputDeed env outputId World.stopOutputDeed
  | _ => .nothing

section Operations

variable {env : Env} {w w' : World} {held : Bool} {r : Response}

theorem does_deleteInput {i : Int} (h : (deleteInput env i).alone false w = some (r, held, w')) :
    (w.closeDeed i).Does w w' := by
  have hremoved := does_removeInputSection i w
  unfold deleteInput at h
  rw [alone_acquire, alone_atomic_bind] at h
  split at h
  · rw [alone_atomic_bind] at h
    obtain ⟨_, _, rfl⟩ := alone_ret_eq_some.mp h
    have hrows := hremoved.query env .deleteOutputsOfInput (f := fun db =>
      ((), { db with outputs := db.outputs.delete fun _ row => row.inputId = i })) fun _ => rfl
    unfold deleteInputFromDb
    split
    · rename_i e w₁ hquery
      rwa [hquery] at hrows
    · rename_i w₁ hquery
      rw [hquery] at hrows
      exact hrows.query env _ fun _ => rfl
  · obtain ⟨_, _, rfl⟩ := alone_ret_eq_some.mp h
    exact hremoved

theorem does_deleteOutput {i k : Int}
    (h : (deleteOutput env i k).alone false w = some (r, held, w')) :
    (w.closeOutputDeed i k).Does w w' := by
  have hremoved := does_removeOutputSection i k w
  unfold deleteOutput at h
  rw [alone_acquire, alone_atomic_bind] at h
  split at h
  · obtain ⟨_, _, rfl⟩ := alone_ret_eq_some.mp h
    exact hremoved
  · rw [alone_atomic_bind] at h
    obtain ⟨_, _, rfl⟩ := alone_ret_eq_some.mp h
    exact hremoved.query env _ fun _ => rfl

theorem does_startInputEndpoint {i : Int} (hids : w.IdsMatch)
    (h : (startInputEndpoint env i).alone false w = some (r, held, w')) :
    (w.startDeed i).Does w w' := by
  unfold startInputEndpoint at h
  obtain ⟨r, _, w₁, hstart, h⟩ := alone_bind_eq_some.mp h
  have hstarted := does_startInput hids hstart
  obtain rfl := alone_startInput_held hstart
  cases r with
  | error e =>
    obtain ⟨_, _, rfl⟩ := alone_ret_eq_some.mp h
    exact hstarted
  | ok _ =>
    dsimp only at h
    rw [alone_locked_bind, alone_atomic_bind] at h
    obtain ⟨_, _, rfl⟩ := alone_ret_eq_some.mp h
    exact hstarted.query env _ fun _ => rfl

theorem does_stopInputEndpoint {i : Int}
    (h : (stopInputEndpoint env i).alone false w = some (r, held, w')) :
    (w.stopDeed i).Does w w' := by
  have hstopped := does_stopInputSection i w
  unfold stopInputEndpoint stopInput at h
  rw [alone_locked_bind] at h
  split at h
  · obtain ⟨_, _, rfl⟩ := alone_ret_eq_some.mp h
    exact hstopped
  · rw [alone_atomic_bind] at h
    obtain ⟨_, _, rfl⟩ := alone_ret_eq_some.mp h
    exact hstopped.query env _ fun _ => rfl

theorem getInputIdForOutput_world (env : Env) (k : Int) (w : World) :
    (getInputIdForOutput env k w).2 = w := by
  have h := select_world env .getInputIdForOutput (fun db => db.outputs.find k) w
  unfold getInputIdForOutput
  split <;> simp_all

/-- A request that names an output only looks up its input first. -/
theorem does_outputDeed {k : Int} {deed : Int → Int → World → Deed}
    {body : Except String Int → Prog World Response}
    (h : (atomic (getInputIdForOutput env k) >>= body).alone false w = some (r, held, w'))
    (herror : ∀ e, (body (.error e)).alone false w = some (r, held, w') → w' = w)
    (hok : ∀ i, (body (.ok i)).alone false w = some (r, held, w') → (deed i k w).Does w w') :
    (w.outputDeed env k deed).Does w w' := by
  rw [alone_atomic_bind, getInputIdForOutput_world] at h
  unfold World.outputDeed
  cases hfind : (getInputIdForOutput env k w).1 with
  | error e =>
    rw [hfind] at h
    rw [herror e h]
    exact .refl rfl w
  | ok i =>
    rw [hfind] at h
    exact hok i h

theorem does_startOutputEndpoint {k : Int}
    (h : (startOutputEndpoint env k).alone false w = some (r, held, w')) :
    (w.outputDeed env k World.startOutputDeed).Does w w' := by
  refine does_outputDeed h (fun e h => (alone_ret_eq_some.mp h).2.2.symm) fun i h => ?_
  have hstarted := does_startOutputSection env i k w
  dsimp only at h
  rw [startOutput, alone_locked_bind] at h
  split at h
  · obtain ⟨_, _, rfl⟩ := alone_ret_eq_some.mp h
    exact hstarted
  · rw [alone_locked_bind, alone_atomic_bind] at h
    obtain ⟨_, _, rfl⟩ := alone_ret_eq_some.mp h
    exact hstarted.query env _ fun _ => rfl

theorem does_stopOutputEndpoint {k : Int}
    (h : (stopOutputEndpoint env k).alone false w = some (r, held, w')) :
    (w.outputDeed env k World.stopOutputDeed).Does w w' := by
  refine does_outputDeed h (fun e h => (alone_ret_eq_some.mp h).2.2.symm) fun i h => ?_
  have hstopped := does_stopOutputSection i k w
  dsimp only at h
  rw [stopOutput, alone_locked_bind] at h
  split at h
  · obtain ⟨_, _, rfl⟩ := alone_ret_eq_some.mp h
    exact hstopped
  · rw [alone_atomic_bind] at h
    obtain ⟨_, _, rfl⟩ := alone_ret_eq_some.mp h
    exact hstopped.query env _ fun _ => rfl

/-- An operation that is carried out alone does its deed, and nothing else to the streams. -/
theorem Operation.does {op : Operation} (hop : op.isLifecycle = true) (hids : w.IdsMatch)
    (hgiven : w.IdsGiven) (h : (op.prog env).alone false w = some ((), held, w')) :
    (op.deed env w).Does w w' := by
  cases op with
  | createInput req =>
    obtain ⟨r, h⟩ := alone_of_ignore h
    exact does_createInput hgiven h
  | startInput inputId =>
    obtain ⟨r, h⟩ := alone_of_ignore h
    exact does_startInput hids h
  | startInputEndpoint inputId =>
    obtain ⟨r, h⟩ := alone_of_ignore h
    exact does_startInputEndpoint hids h
  | stopInput inputId =>
    obtain ⟨_, _, rfl⟩ := alone_ret_eq_some.mp h
    exact does_stopInputSection inputId w
  | stopInputEndpoint inputId =>
    obtain ⟨r, h⟩ := alone_of_ignore h
    exact does_stopInputEndpoint h
  | deleteInput inputId =>
    obtain ⟨r, h⟩ := alone_of_ignore h
    exact does_deleteInput h
  | createOutput req =>
    obtain ⟨r, h⟩ := alone_of_ignore h
    exact does_createOutput hids h
  | startOutput inputId outputId =>
    obtain ⟨_, _, rfl⟩ := alone_ret_eq_some.mp h
    exact does_startOutputSection env inputId outputId w
  | startOutputEndpoint outputId =>
    obtain ⟨r, h⟩ := alone_of_ignore h
    exact does_startOutputEndpoint h
  | stopOutput inputId outputId =>
    obtain ⟨_, _, rfl⟩ := alone_ret_eq_some.mp h
    exact does_stopOutputSection inputId outputId w
  | stopOutputEndpoint outputId =>
    obtain ⟨r, h⟩ := alone_of_ignore h
    exact does_stopOutputEndpoint h
  | deleteOutput inputId outputId =>
    obtain ⟨r, h⟩ := alone_of_ignore h
    exact does_deleteOutput h
  | _ => exact absurd hop (by simp [Operation.isLifecycle])

end Operations

end StreamGateway
